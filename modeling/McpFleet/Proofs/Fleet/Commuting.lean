/-
  File:      McpFleet/Proofs/Fleet/Commuting.lean
  Subject:   Requests to two instances may be served in either order.

  A request changes nothing of other instances (`SameBut`) and depends on its
  own instance only (`SameFor`). So the first of two requests leaves the second
  one's instance as it is, and the second one does what it would have done
  without the first.

  * `SameBut.sameFor`: the one relation from the other.
  * `World.eq_of_same`: a state is fixed by its records, its containers and all
    that belongs to no instance.
  * **`independent_requests_commute`**: the same replies, and the same state in
    the end.
-/
import McpFleet.Proofs.Fleet.Locality

namespace McpFleet.Fleet

variable {allowed : Config → Prop} {calm fresh : Prop} {used : List Uuid} {a b id : Uuid}
  {cfg cfg' : Config} {w w' u u' : World} {s t : Instance} {q q' : Request}

/-! ## 1. What other instances see -/

/-- States that differ in one instance only are the same for every other. -/
theorem SameBut.sameFor (h : SameBut a w w') (ne : id ≠ a) (exact : w.registry.Exact)
    (exact' : w'.registry.Exact) : SameFor id w w' where
  exact := exact
  exact' := exact'
  record := h.records id ne
  cluster := ⟨fun n owns => h.cluster.containers n (owns.foreign ne), h.cluster.failing⟩
  surroundings := h.surroundings

/-- **A state is fixed** by its records, its containers and all that belongs to
    no instance. -/
theorem World.eq_of_same (exact : u.registry.Exact) (exact' : u'.registry.Exact)
    (records : ∀ id, u'.registry.find? id = u.registry.find? id)
    (cluster : u.cluster.SameOn (fun _ => True) u'.cluster)
    (surroundings : u'.surroundings = u.surroundings) : u' = u := by
  have registry : u'.registry = u.registry := exact'.eq_of_instances exact (Dict.ext_get? records)
  have containers : u'.cluster.containers = u.cluster.containers :=
    Dict.ext_get? fun n => cluster.containers n trivial
  have failing := cluster.failing
  obtain ⟨r, f, ⟨c, g⟩, d, p, now⟩ := u
  obtain ⟨r', f', ⟨c', g'⟩, d', p', now'⟩ := u'
  cases registry
  cases containers
  cases failing
  cases surroundings
  rfl

/-! ## 2. Two requests -/

/-- A request behind one to another instance: the reply is the one that it
    would have got before, and so is what it leaves of its instance. -/
theorem Filed.agrees_behind (h : Filed (fun _ => True) False False used w)
    (stored : w.registry.find? s.id = some s) (keeps : q.KeepsName s)
    (other : q'.subject? = some b) (ne : s.id ≠ b) :
    (q.task cfg).Agrees s.id w (w.serve cfg' q').2 := by
  have behind := h.anyhow (.event (.request cfg' q'))
  have same := (h.served_sameBut cfg' other).sameFor ne h.exact behind.exact
  exact keeps.agrees same stored fun k hk => h.owns stored hk

/-- **Two requests to different instances lead to the same state** in either
    order. -/
theorem Filed.commutes (h : Filed (fun _ => True) False False used w)
    (stored : w.registry.find? s.id = some s) (stored' : w.registry.find? t.id = some t)
    (ne : s.id ≠ t.id) (keeps : q.KeepsName s) (keeps' : q'.KeepsName t) :
    ((w.serve cfg q).2.serve cfg' q').2 = ((w.serve cfg' q').2.serve cfg q).2 := by
  have filed {used : List Uuid} {w : World} (h : Filed (fun _ => True) False False used w)
      (cfg : Config) (q : Request) :
      Filed (fun _ => True) False False (used ++ q.drawn?.toList) (w.serve cfg q).2 :=
    h.anyhow (.event (.request cfg q))
  have first := filed h cfg q
  have second := filed h cfg' q'
  have firstSecond := filed first cfg' q'
  have secondFirst := filed second cfg q
  -- what each request leaves alone, served first or second
  have frame := h.served_sameBut cfg keeps.subject?
  have frame' := h.served_sameBut cfg' keeps'.subject?
  have frameSecond := first.served_sameBut cfg' keeps'.subject?
  have frameFirst := second.served_sameBut cfg keeps.subject?
  have forFirst : SameFor s.id ((w.serve cfg' q').2.serve cfg q).2
      ((w.serve cfg q).2.serve cfg' q').2 :=
    ((h.agrees_behind stored keeps keeps'.subject? ne).after.symm).trans
      (frameSecond.sameFor ne first.exact firstSecond.exact)
  have forSecond : SameFor t.id ((w.serve cfg' q').2.serve cfg q).2
      ((w.serve cfg q).2.serve cfg' q').2 :=
    (frameFirst.sameFor (Ne.symm ne) second.exact secondFirst.exact).symm.trans
      (h.agrees_behind stored' keeps' keeps.subject? (Ne.symm ne)).after
  refine World.eq_of_same secondFirst.exact firstSecond.exact (fun id => ?_)
    ⟨fun n _ => ?_, forFirst.cluster.failing⟩ forFirst.surroundings
  · by_cases mine : id = s.id
    · exact mine ▸ forFirst.record
    by_cases mine' : id = t.id
    · exact mine' ▸ forSecond.record
    rw [frameSecond.records id mine', frame.records id mine, frameFirst.records id mine,
      frame'.records id mine']
  · by_cases mine : Owns s.id n
    · exact forFirst.cluster.containers n mine
    by_cases mine' : Owns t.id n
    · exact forSecond.cluster.containers n mine'
    rw [frameSecond.cluster.containers n mine', frame.cluster.containers n mine,
      frameFirst.cluster.containers n mine, frame'.cluster.containers n mine']

/-- **Independent requests commute.** In every state that a run reaches,
    whatever was made to fail, take two requests to different stored instances,
    each of them a restart, a disabling, an enabling, a deletion, a status
    request or an edit that keeps the stored name. Served in either order, each
    of the two gets the same reply, be it a refusal, and the same state is left
    in the end: the registry, the cluster, and all the rest. -/
theorem independent_requests_commute {clock : Instant} {probe : String → ProbeOutcome}
    {xs : List Incident} {cfg cfg' : Config} {a b : Uuid} {s t : Instance} {q q' : Request} :
    let w := (World.empty clock probe).course xs
    w.registry.find? a = some s → w.registry.find? b = some t → a ≠ b →
    q.KeepsName s → q'.KeepsName t →
    ((w.serve cfg' q').2.serve cfg q).1 = (w.serve cfg q).1 ∧
    ((w.serve cfg q).2.serve cfg' q').1 = (w.serve cfg' q').1 ∧
    ((w.serve cfg q).2.serve cfg' q').2 = ((w.serve cfg' q').2.serve cfg q).2 := by
  intro w stored stored' ne keeps keeps'
  have filed : Filed (fun _ => True) False False (drawnBy xs) w := filed_course clock probe xs
  obtain rfl : s.id = a := filed.exact.key stored
  obtain rfl : t.id = b := filed.exact.key stored'
  exact ⟨(filed.agrees_behind stored keeps keeps'.subject? ne).result,
    (filed.agrees_behind stored' keeps' keeps.subject? (Ne.symm ne)).result,
    filed.commutes stored stored' ne keeps keeps'⟩

/-- One instance is deployed anew, and another one is deleted. -/
theorem independent_requests_commute_sampleIncidents :
    ∃ s t, (sampleStart.course sampleIncidents).registry.find? ⟨7⟩ = some s ∧
      (sampleStart.course sampleIncidents).registry.find? ⟨8⟩ = some t ∧
      (Request.edit s.id none (sampleDefinition s.name.text)).KeepsName s ∧
      (Request.delete t.id).KeepsName t ∧
      let w := sampleStart.course sampleIncidents
      let q := Request.edit s.id none (sampleDefinition s.name.text)
      let q' := Request.delete t.id
      ((w.serve .default q').2.serve .default q).1 = (w.serve .default q).1 ∧
      ((w.serve .default q).2.serve .default q').1 = (w.serve .default q').1 ∧
      ((w.serve .default q).2.serve .default q').2 =
        ((w.serve .default q').2.serve .default q).2 := by
  have there : ((sampleStart.course sampleIncidents).registry.find? ⟨7⟩).any
      (fun s => Text.trim s.name.text = s.name.text) := by decide +kernel
  have there' : ((sampleStart.course sampleIncidents).registry.find? ⟨8⟩).isSome := by
    decide +kernel
  obtain ⟨s, stored, trimmed⟩ := (Option.any_eq_true _ _).mp there
  obtain ⟨t, stored'⟩ := Option.isSome_iff_exists.mp there'
  have keeps : (Request.edit s.id none (sampleDefinition s.name.text)).KeepsName s :=
    .edit none _ (of_decide_eq_true trimmed)
  exact ⟨s, t, stored, stored', keeps, .delete,
    independent_requests_commute stored stored' (by decide) keeps .delete⟩

end McpFleet.Fleet
