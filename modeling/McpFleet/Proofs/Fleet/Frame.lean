/-
  File:      McpFleet/Proofs/Fleet/Frame.lean
  Subject:   What a request leaves alone: everything of the instances that it
             does not name.

  * `Owns`: the names of an instance's containers, in any generation.
  * `SameBut`: two states that differ in what belongs to one instance only.
  * `Effect.sameBut`, `Unsaved.sameBut`: each thing that a request can do is of
    this kind, whether its record was saved or not.
  * `Filed.createdFor_owned`: what was created for an instance has one of its
    names.
  * **`others_untouched`**: whatever is asked of an instance and however it
    ends, no other instance is touched.
-/
import McpFleet.Proofs.Fleet.Ledger

namespace McpFleet

/-! ## 1. Containers of some names -/

namespace Cluster

/-- Clusters that have the same containers of some names, and fail alike. -/
structure SameOn (on : String → Prop) (c c' : Cluster) : Prop where
  containers : ∀ n, on n → c'.containers.get? n = c.containers.get? n
  failing : c'.failing = c.failing

variable {on : String → Prop} {c c' c'' : Cluster} {d : Deployment} {i : Instance}
  {k : Hosting.Container}

theorem sameOn_refl (on : String → Prop) (c : Cluster) : c.SameOn on c := ⟨fun _ _ => rfl, rfl⟩

theorem SameOn.trans (h : c.SameOn on c') (h' : c'.SameOn on c'') : c.SameOn on c'' where
  containers n hn := (h'.containers n hn).trans (h.containers n hn)
  failing := h'.failing.trans h.failing

theorem sameOn_put {name : String} (other : ¬ on name) (c : Cluster) (rc : RunningContainer) :
    c.SameOn on (c.put name rc) where
  containers n hn := by
    unfold put
    rw [Dict.get?_insert, if_neg]
    rintro rfl
    exact other hn
  failing := rfl

theorem sameOn_create (made : c.create d = .ok c') (other : ¬ on d.container) :
    c.SameOn on c' := by
  obtain ⟨-, -, rfl⟩ := create_eq_ok.mp made
  exact sameOn_put other c _

theorem sameOn_restart {m : String} (done : c.restart i = .ok (m, c'))
    (hk : i.container = some k) (other : ¬ on k.name) : c.SameOn on c' := by
  obtain ⟨l, rc, hl, -, -, -, rfl⟩ := restart_eq_ok.mp done
  obtain rfl : k = l := Option.some.inj (hk.symm.trans hl)
  exact sameOn_put other c _

theorem sameOn_delete (done : c.delete i = .ok c') (hk : i.container = some k)
    (other : ¬ on k.name) : c.SameOn on c' := by
  obtain ⟨l, hl, -, rfl⟩ := delete_eq_ok.mp done
  obtain rfl : k = l := Option.some.inj (hk.symm.trans hl)
  refine ⟨fun n hn => ?_, rfl⟩
  rw [Dict.get?_erase, if_neg]
  rintro rfl
  exact other hn

end Cluster

namespace Fleet

/-! ## 2. States that differ in one instance -/

/-- The name is one of the instance's container names. -/
def Owns (id : Uuid) (n : String) : Prop := ∃ g, n = Deployment.containerName id g

/-- No two instances own one name. -/
theorem Owns.eq {a b : Uuid} {n : String} (h : Owns a n) (h' : Owns b n) : a = b := by
  obtain ⟨g, rfl⟩ := h
  obtain ⟨g', e⟩ := h'
  exact (Deployment.containerName_inj.mp e).1

/-- The name is none of them. -/
def Foreign (id : Uuid) (n : String) : Prop := ¬ Owns id n

theorem Owns.not_foreign {id : Uuid} {n : String} (h : Owns id n) : ¬ Foreign id n :=
  fun foreign => foreign h

/-- A name of another instance is foreign. -/
theorem Owns.foreign {a id : Uuid} {n : String} (h : Owns a n) (ne : a ≠ id) : Foreign id n :=
  fun h' => ne (h.eq h')

/-- Everything but the registry and the cluster. -/
def World.surroundings (w : World) : World := { w with registry := .empty, cluster := .empty }

/-- **States that differ in what belongs to one instance only**: in its record,
    in the names that the index has for it, and in its containers. -/
structure SameBut (id : Uuid) (w w' : World) : Prop where
  records : ∀ a, a ≠ id → w'.registry.find? a = w.registry.find? a
  names : ∀ a, a ≠ id → ∀ n,
    w'.registry.names.get? n = some a ↔ w.registry.names.get? n = some a
  cluster : w.cluster.SameOn (Foreign id) w'.cluster
  surroundings : w'.surroundings = w.surroundings

variable {allowed : Config → Prop} {calm fresh : Prop} {used : List Uuid} {cfg : Config}
  {w w' : World} {c : Cluster} {id a : Uuid} {i s : Instance} {k : Hosting.Container}
  {d : Definition} {v : Revision} {q : Request} {xs : List Exchange} {r : Registry}

-- The checks of a name stay closed: no argument here looks into them.
attribute [local irreducible] Text.trim

theorem sameBut_refl (id : Uuid) (w : World) : SameBut id w w :=
  ⟨fun _ _ => rfl, fun _ _ _ => .rfl, Cluster.sameOn_refl _ _, rfl⟩

/-- A change of the records under one identifier and of containers with its
    names. The index follows the records. -/
theorem sameBut_of_exact (exact : w.registry.Exact) (exact' : r.Exact)
    (records : ∀ a, a ≠ id → r.find? a = w.registry.find? a)
    (cluster : w.cluster.SameOn (Foreign id) c) :
    SameBut id w { w with registry := r, cluster := c } where
  records := records
  names a ne n := by
    show r.names.get? n = some a ↔ _
    rw [exact'.name, exact.name, records a ne]
  cluster := cluster
  surroundings := rfl

theorem sameBut_put (exact : w.registry.Exact) (puts : w.registry.Puts i r)
    (cluster : w.cluster.SameOn (Foreign i.id) c) :
    SameBut i.id w { w with registry := r, cluster := c } :=
  sameBut_of_exact exact puts.exact
    (fun a ne => by rw [puts.find?, if_neg (Ne.symm ne)]) cluster

theorem sameBut_drop (exact : w.registry.Exact) (drops : w.registry.Drops id r)
    (cluster : w.cluster.SameOn (Foreign id) c) :
    SameBut id w { w with registry := r, cluster := c } :=
  sameBut_of_exact exact drops.exact
    (fun a ne => by rw [drops.find?, if_neg (Ne.symm ne)]) cluster

theorem sameBut_recluster (cluster : w.cluster.SameOn (Foreign id) c) :
    SameBut id w { w with cluster := c } where
  records _ _ := rfl
  names _ _ _ := .rfl
  cluster := cluster
  surroundings := rfl

/-! ## 3. One request -/

/-- The container of a stored record has one of its instance's names. -/
theorem Filed.owns (h : Filed allowed calm fresh used w) (stored : w.registry.find? id = some s)
    (hk : s.container = some k) : Owns id k.name := ⟨_, (h.named stored hk).1⟩

theorem Planned.sameOn {generation : UInt32} {access : Access}
    (h : Planned cfg w id d generation access v c) : w.cluster.SameOn (Foreign id) c := by
  cases h with
  | passthrough own judged => exact Cluster.sameOn_refl _ _
  | hosted prepared made =>
    obtain ⟨-, named⟩ := prepared_of_runs prepared
    exact Cluster.sameOn_create made (Owns.not_foreign ⟨generation, named⟩)

/-- Removing a record's container, whether that can be done or not. -/
theorem sameOn_discard (hk : s.container = some k) (mine : Owns id k.name) (c : Cluster) :
    c.SameOn (Foreign id) (discard c s) := by
  unfold discard
  cases removal : c.delete s with
  | ok c' => exact Cluster.sameOn_delete removal hk mine.not_foreign
  | error e => exact Cluster.sameOn_refl _ _

theorem Replaced.sameOn {ys : List Exchange} {w₁ : World} (h : Replaced cfg w s d v ys w₁)
    (filed : Filed allowed calm fresh used w) (stored : w.registry.find? s.id = some s) :
    w.cluster.SameOn (Foreign s.id) w₁.cluster := by
  cases h with
  | passthrough own judged => exact Cluster.sameOn_refl _ _
  | hosted own prepared made =>
    obtain ⟨-, named⟩ := prepared_of_runs prepared
    obtain ⟨k, hk⟩ := Option.isSome_iff_exists.mp ((filed.container_isSome stored).mpr own)
    exact (Cluster.sameOn_create made (Owns.not_foreign ⟨_, named⟩)).trans
      (sameOn_discard hk (filed.owns stored hk) _)

theorem Filed.sameOn_restart (h : Filed allowed calm fresh used w)
    (stored : w.registry.find? id = some s) {m : String}
    (done : w.cluster.restart s = .ok (m, c)) : w.cluster.SameOn (Foreign id) c := by
  obtain ⟨k, _, hk, -⟩ := Cluster.restart_eq_ok.mp done
  exact Cluster.sameOn_restart done hk (h.owns stored hk).not_foreign

theorem Filed.sameOn_removed (h : Filed allowed calm fresh used w)
    (stored : w.registry.find? id = some s)
    (removed : if s.access = .hosting then w.cluster.delete s = .ok c else c = w.cluster) :
    w.cluster.SameOn (Foreign id) c := by
  split at removed
  · obtain ⟨k, hk, -⟩ := Cluster.delete_eq_ok.mp removed
    exact Cluster.sameOn_delete removed hk (h.owns stored hk).not_foreign
  · rw [removed]
    exact Cluster.sameOn_refl _ _

/-- **Every effect of a request** stays with the instance that it names. -/
theorem Effect.sameBut {reply : Reply} (e : Effect cfg w xs q reply w')
    (h : Filed allowed calm fresh used w) (named : q.subject? = some id) : SameBut id w w' := by
  have kept {a : Uuid} {s i : Instance} {r : Registry} {c : Cluster}
      (stored : w.registry.find? a = some s) (kept : s.Kept i) (puts : w.registry.Puts i r)
      (cluster : w.cluster.SameOn (Foreign a) c) :
      SameBut a w { w with registry := r, cluster := c } := by
    obtain rfl : i.id = a := kept.id.trans (h.exact.key stored)
    exact sameBut_put h.exact puts cluster
  cases e with
  | unchanged => exact sameBut_refl id w
  | created fresh planned puts =>
    obtain rfl := Option.some.inj named
    exact sameBut_put h.exact puts planned.sameOn
  | @edited id _ _ s v _ _ _ stored replaced made puts =>
    obtain rfl := Option.some.inj named
    obtain rfl : s.id = id := h.exact.key stored
    exact sameBut_put (i := s.revise v w.clock) h.exact puts (replaced.sameOn h stored)
  | restarted stored own done marked puts =>
    obtain rfl := Option.some.inj named
    exact kept stored (Instance.kept_markRestarting marked) puts
      (h.sameOn_restart stored done)
  | @switched a q s i status r asked stored changed puts =>
    have e : q.subject? = some a := by rcases asked with ⟨rfl, -⟩ | ⟨rfl, -⟩ <;> rfl
    obtain rfl := Option.some.inj (e.symm.trans named)
    exact kept stored (Instance.kept_withStatus? changed) puts (Cluster.sameOn_refl _ _)
  | refreshed stored own asked changed puts =>
    obtain rfl := Option.some.inj named
    exact kept stored (Instance.kept_withReport? changed) puts (Cluster.sameOn_refl _ _)
  | deleted stored removed drops =>
    obtain rfl := Option.some.inj named
    exact sameBut_drop h.exact drops (h.sameOn_removed stored removed)

/-- **What a request leaves behind whose record was not saved** stays with the
    instance as well. -/
theorem Unsaved.sameBut (u : Unsaved cfg w q w') (h : Filed allowed calm fresh used w)
    (named : q.subject? = some id) : SameBut id w w' := by
  cases u with
  | created refused planned =>
    obtain rfl := Option.some.inj named
    exact sameBut_recluster planned.sameOn
  | @edited id _ _ s _ _ _ failing stored replaced =>
    obtain rfl := Option.some.inj named
    obtain rfl : s.id = id := h.exact.key stored
    rw [replaced.frame]
    exact sameBut_recluster (replaced.sameOn h stored)
  | restarted failing stored done =>
    obtain rfl := Option.some.inj named
    exact sameBut_recluster (h.sameOn_restart stored done)
  | deleted failing stored removed =>
    obtain rfl := Option.some.inj named
    exact sameBut_recluster (h.sameOn_removed stored removed)

/-- **Serving a request** changes nothing beyond the instance that it names,
    whether it succeeds or not. -/
theorem Filed.served_sameBut (h : Filed allowed calm fresh used w) (cfg : Config)
    (named : q.subject? = some id) : SameBut id w (w.serve cfg q).2 := by
  rcases closes_request h.exact (Task.runs_self (q.task cfg) w) with
    (⟨-, same⟩ | ⟨b, -, effect⟩) | ⟨-, unsaved⟩
  · have same : (w.serve cfg q).2 = w := same
    rw [same]
    exact sameBut_refl id w
  · exact effect.sameBut h named
  · exact unsaved.sameBut h named

/-! ## 4. Containers that were created for an instance -/

/-- What a request creates has one of the names of the instance that it
    names. -/
theorem Filed.created_owned (h : Filed allowed calm fresh used w) {n : String}
    (created : .created n ∈ notices (Program.exchanges (q.task cfg) w)) :
    ∃ a, q.subject? = some a ∧ Owns a n := by
  have runs := Task.runs_self (q.task cfg) w
  cases q with
  | create id access d =>
    obtain ⟨r, runs, -⟩ := Task.runs_map.mp runs
    refine ⟨id, rfl, 0, ?_⟩
    rcases (runs_create runs).notices runs with
      ⟨-, uncreated⟩ | ⟨zs, same, v, c, answer, -, -, -, noted⟩
    · exact absurd created (uncreated n)
    · rw [same, noted] at created
      split at created
      · exact Notice.created.inj (List.mem_singleton.mp created)
      · cases created
  | edit id stated d =>
    obtain ⟨r, runs, -⟩ := Task.runs_map.mp runs
    rcases (runs_edit runs).notices runs with
      ⟨-, uncreated⟩ | ⟨zs, same, s, v, us, w₁, answer, stored, e, -⟩
    · exact absurd created (uncreated n)
    · obtain rfl : s.id = id := h.exact.key stored
      refine ⟨s.id, rfl, nextGeneration s, ?_⟩
      rw [same, e.exchanges, notices_append] at created
      cases e.replaced with
      | passthrough other judged => cases created
      | hosted own prepared made =>
        obtain ⟨-, named⟩ := prepared_of_runs prepared
        obtain ⟨k, hk⟩ := Option.isSome_iff_exists.mp ((h.container_isSome stored).mpr own)
        rw [notices_replaced hk, named] at created
        rcases List.mem_append.mp created with here | later
        · rcases List.mem_cons.mp here with e | kept
          · exact Notice.created.inj e
          · split at kept
            · cases kept
            · cases List.mem_singleton.mp kept
        · cases later
  | _ => exact absurd created ((createsNone_request rfl).uncreated w n)

/-- **What was created for an instance in a run** has one of its names. -/
theorem Filed.createdFor_owned {xs : List Incident} {n : String}
    (h : Filed (fun _ => True) False False used w)
    (created : n ∈ createdFor a (w.ledger xs)) : Owns a n := by
  induction xs generalizing used w with
  | nil => cases created
  | cons x xs ih =>
    have next := h.anyhow x
    rw [World.ledger, createdFor_append] at created
    rcases List.mem_append.mp created with here | later
    · obtain ⟨e, he, hn⟩ := List.mem_filterMap.mp here
      obtain ⟨noted, asked⟩ := List.mem_filter.mp he
      obtain ⟨q, notice⟩ := e
      cases notice with
      | kept n => cases hn
      | created m =>
        obtain rfl : m = n := Option.some.inj hn
        cases x with
        | storeOutage operation failing => cases noted
        | event e =>
          cases e with
          | request cfg q' =>
            obtain ⟨notice, there, e⟩ := List.mem_map.mp noted
            obtain ⟨rfl, rfl⟩ := Prod.mk.inj e
            obtain ⟨b, named, owns⟩ := h.created_owned there
            have asked : q'.subject? = some a := of_decide_eq_true asked
            exact Option.some.inj (named.symm.trans asked) ▸ owns
          | _ => cases noted
    · exact ih next later

/-! ## 5. Other instances -/

/-- **Other instances are left alone.** In every state that a run reaches,
    whatever failed in it, and whatever is asked of an instance: whether that
    succeeds or not, the record of any other instance, what the name index has
    for it, and every container that was created for it, with what it was
    created from, its report and its log, are behind the request what they were
    before it. -/
theorem others_untouched {clock : Instant} {probe : String → ProbeOutcome} {xs : List Incident}
    {cfg : Config} {q : Request} {id : Uuid} :
    let start := World.empty clock probe
    let w := start.course xs
    let w' := (w.serve cfg q).2
    q.subject? = some id → ∀ a, a ≠ id →
      w'.registry.find? a = w.registry.find? a ∧
      (∀ n, w'.registry.names.get? n = some a ↔ w.registry.names.get? n = some a) ∧
      ∀ n ∈ createdFor a (start.ledger xs),
        w'.cluster.containers.get? n = w.cluster.containers.get? n := by
  intro start w w' named a ne
  have empty : Filed (fun _ => True) False False [] start := filed_empty _ _ _ clock probe
  have filed : Filed (fun _ => True) False False (drawnBy xs) w := filed_course clock probe xs
  have same : SameBut id w w' := filed.served_sameBut cfg named
  refine ⟨same.records a ne, same.names a ne, fun n created => ?_⟩
  exact same.cluster.containers n ((empty.createdFor_owned created).foreign ne)

/-- Two containers were created for the instance that the request does not
    name: one of them is there, and the other is removed already. -/
theorem others_untouched_sampleIncidents :
    createdFor ⟨7⟩ (sampleStart.ledger sampleIncidents) =
      ["mcp-00000000000000000000000000000007", "mcp-00000000000000000000000000000007-1"] ∧
    ((sampleStart.course sampleIncidents).registry.find? ⟨7⟩).isSome ∧
    let w := sampleStart.course sampleIncidents
    let w' := (w.serve .default (.edit ⟨8⟩ none (sampleDefinition "files-2"))).2
    w'.registry.find? ⟨7⟩ = w.registry.find? ⟨7⟩ ∧
      (∀ n, w'.registry.names.get? n = some ⟨7⟩ ↔ w.registry.names.get? n = some ⟨7⟩) ∧
      ∀ n ∈ createdFor ⟨7⟩ (sampleStart.ledger sampleIncidents),
        w'.cluster.containers.get? n = w.cluster.containers.get? n := by
  refine ⟨by decide +kernel, by decide +kernel, ?_⟩
  exact others_untouched rfl ⟨7⟩ (by decide)

end Fleet

end McpFleet
