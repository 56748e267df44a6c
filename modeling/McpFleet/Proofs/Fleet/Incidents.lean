/-
  File:      McpFleet/Proofs/Fleet/Incidents.lean
  Subject:   Runs in which the store fails as well, and in which an identifier
             may be drawn twice.

  * `Incident`: an event, or an operation of the store that fails from now on.
  * `Filed`: every record is in place; while the store has answered all the
    time, records and containers agree as well.
  * `Filed.effect`, `Filed.unsaved`, **`Filed.course`**: what is left of one
    request, and a whole run.

  A container can be relied on (`Sure`) when the store answers all the time.
  Otherwise a container may be gone while its record is still there, and the
  next one of the same name is made for something else. There are two ways to
  come by the same name: an identifier that is drawn again, and the last
  generation, which is its own successor.
-/
import McpFleet.Proofs.Fleet.Placement

namespace McpFleet.Fleet

/-! ## 1. Incidents -/

inductive Incident where
  | event (e : Event)
  /-- An operation of the store fails from now on, or no longer does. -/
  | storeOutage (operation : StoreOperation) (failing : Bool)

/-- The state behind an incident. -/
def World.behind (w : World) : Incident → World
  | .event e => w.after e
  | .storeOutage operation failing => w.setStoreFailing operation failing

/-- The state behind one incident after the other. -/
def World.course (w : World) (xs : List Incident) : World := xs.foldl World.behind w

def Incident.drawn? : Incident → Option Uuid
  | event e => e.drawn?
  | storeOutage _ _ => none

def drawnBy (xs : List Incident) : List Uuid := xs.filterMap Incident.drawn?

/-- No identifier is drawn for two new instances. -/
def NewIds (xs : List Incident) : Prop := (drawnBy xs).Nodup

instance (xs : List Incident) : Decidable (NewIds xs) := by unfold NewIds; infer_instance

/-- The store answers all the time. -/
def Calm (xs : List Incident) : Prop :=
  ∀ operation failing, Incident.storeOutage operation failing ∉ xs

theorem calm_events (es : List Event) : Calm (es.map .event) := by
  intro operation failing h
  obtain ⟨e, -, e'⟩ := List.mem_map.mp h
  cases e'

/-- Every request is served under allowed settings. -/
def Under (allowed : Config → Prop) (xs : List Incident) : Prop :=
  ∀ cfg q, Incident.event (.request cfg q) ∈ xs → allowed cfg

/-! ## 2. The invariant -/

/-- The generation that is its own successor. -/
def lastGeneration : UInt32 := 0xFFFFFFFF

section Generations

variable {s : Instance} {k : Hosting.Container}

theorem toNat_nextGeneration (hk : s.container = some k) :
    (nextGeneration s).toNat = min (k.generation.toNat + 1) lastGeneration.toNat := by
  have bound := k.generation.toNat_lt
  have last : lastGeneration.toNat = 4294967295 := rfl
  unfold nextGeneration Hosting.Container.nextGeneration
  rw [hk]
  simp only
  split
  · rename_i e
    have e : k.generation.toNat = 4294967295 := congrArg UInt32.toNat e
    omega
  · rename_i inner
    have below : k.generation.toNat ≠ 4294967295 := fun e => inner (UInt32.toNat_inj.mp e)
    rw [UInt32.toNat_add]
    simp only [UInt32.toNat_one]
    omega

theorem le_nextGeneration (hk : s.container = some k) : k.generation ≤ nextGeneration s := by
  have next := toNat_nextGeneration hk
  have bound := k.generation.toNat_lt
  have last : lastGeneration.toNat = 4294967295 := rfl
  rw [UInt32.le_iff_toNat_le]
  omega

/-- Every generation but the last has a successor of its own. -/
theorem lt_nextGeneration_iff (hk : s.container = some k) :
    k.generation < nextGeneration s ↔ k.generation < lastGeneration := by
  have next := toNat_nextGeneration hk
  have last : lastGeneration.toNat = 4294967295 := rfl
  rw [UInt32.lt_iff_toNat_lt, UInt32.lt_iff_toNat_lt]
  omega

theorem le_lastGeneration (g : UInt32) : g ≤ lastGeneration := by
  have bound := g.toNat_lt
  have last : lastGeneration.toNat = 4294967295 := rfl
  rw [UInt32.le_iff_toNat_le]
  omega

end Generations

/-- A container of this generation is the one that its record means, if it is
    there. -/
def Sure (calm fresh : Prop) (generation : UInt32) : Prop :=
  calm ∨ (fresh ∧ generation ≠ lastGeneration)

structure Filed (allowed : Config → Prop) (calm fresh : Prop) (used : List Uuid) (w : World) :
    Prop where
  exact : w.registry.Exact
  drawn : ∀ {id i}, w.registry.find? id = some i → id ∈ used
  inPlace : ∀ {id i}, w.registry.find? id = some i →
    InPlace allowed (Sure calm fresh) w.cluster i
  sound : calm → Sound used w

theorem filed_empty (allowed : Config → Prop) (calm fresh : Prop) (clock : Instant)
    (probe : String → ProbeOutcome) : Filed allowed calm fresh [] (World.empty clock probe) where
  exact := Registry.exact_empty
  drawn h := nomatch h
  inPlace h := nomatch h
  sound _ := sound_empty clock probe

variable {allowed : Config → Prop} {calm fresh : Prop} {used used' : List Uuid} {cfg : Config}
  {w w' : World} {c : Cluster} {id : Uuid} {i s : Instance} {xs : List Exchange} {q : Request}
  {a : Reply}

/-- **Putting a record in** that is in place, and giving no container of
    another record another source. -/
theorem Filed.put (h : Filed allowed calm fresh used w) {r : Registry}
    (puts : w.registry.Puts i r) (more : used ⊆ used') (drawn : i.id ∈ used')
    (own : InPlace allowed (Sure calm fresh) c i)
    (others : ∀ {j : Instance} {n : String} {o : Deployment} {g : UInt32}, j.id ≠ i.id →
      n = Deployment.containerName j.id g → c.source? n = some o → w.cluster.source? n = some o)
    (sound : calm → Sound used' { w with registry := r, cluster := c }) :
    Filed allowed calm fresh used' { w with registry := r, cluster := c } where
  exact := puts.exact
  drawn {id j} hj := by
    rw [puts.find?] at hj
    split at hj
    · rename_i e
      exact e ▸ drawn
    · exact more (h.drawn hj)
  inPlace {id j} hj := by
    rw [puts.find?] at hj
    split at hj
    · exact Option.some.inj hj ▸ own
    · rename_i ne
      obtain rfl : j.id = id := h.exact.key hj
      exact (h.inPlace hj).frame fun k o _ name _ there => others (Ne.symm ne) name there
  sound := sound

/-- A cluster that gives no container of a record another source. -/
theorem Filed.recluster (h : Filed allowed calm fresh used w) (more : used ⊆ used')
    (same : ∀ {j : Instance} {k : Hosting.Container} {o : Deployment},
      w.registry.find? j.id = some j → j.container = some k →
      k.name = Deployment.containerName j.id k.generation → Sure calm fresh k.generation →
      c.source? k.name = some o → w.cluster.source? k.name = some o)
    (sound : calm → Sound used' { w with cluster := c }) :
    Filed allowed calm fresh used' { w with cluster := c } where
  exact := h.exact
  drawn hj := more (h.drawn hj)
  inPlace {id j} hj := by
    obtain rfl : j.id = id := h.exact.key hj
    exact (h.inPlace hj).frame fun k o hk name sure there => same hj hk name sure there
  sound := sound

theorem containerName_ne {j : Instance} {g g' : UInt32} (ne : j.id ≠ id) :
    Deployment.containerName id g ≠ Deployment.containerName j.id g' :=
  fun e => ne (Deployment.containerName_inj.mp e).1.symm

/-! ## 3. One request -/

theorem Filed.kept (h : Filed allowed calm fresh used w) {r : Registry} (more : used ⊆ used')
    (stored : w.registry.find? id = some s) (kept : s.Kept i) (told : s.SameDocuments i)
    (same : ∀ n, c.source? n = w.cluster.source? n) (puts : w.registry.Puts i r)
    (sound : calm → Sound used' { w with registry := r, cluster := c }) :
    Filed allowed calm fresh used' { w with registry := r, cluster := c } := by
  obtain rfl : s.id = id := h.exact.key stored
  have old : InPlace allowed (Sure calm fresh) c s :=
    (h.inPlace stored).frame fun k o _ _ _ there => (same k.name).symm.trans there
  exact h.put puts more (more (kept.id ▸ h.drawn stored)) (old.kept kept told)
    (fun {_ n _ _} _ _ there => (same n).symm.trans there) sound

/-- **Every effect of a request leaves every record in place.** -/
theorem Filed.effect (h : Filed allowed calm fresh used w) (settings : allowed cfg)
    (e : Effect cfg w xs q a w') : Filed allowed calm fresh (used ++ q.drawn?.toList) w' := by
  have sound (quiet : calm) : Sound (used ++ q.drawn?.toList) w' := (h.sound quiet).effect e
  have more : used ⊆ used ++ q.drawn?.toList := List.subset_append_left _ _
  cases e with
  | unchanged => exact ⟨h.exact, fun hj => more (h.drawn hj), h.inPlace, sound⟩
  | created _ planned puts =>
    exact h.put puts more
      (List.mem_append_right _ (List.mem_singleton_self _)) (planned.inPlace settings)
      (fun {_ _ _ _} ne name there => planned.source? (name ▸ containerName_ne ne) there) sound
  | @edited id _ _ s _ _ _ _ stored replaced made puts =>
    obtain rfl : s.id = id := h.exact.key stored
    refine h.put puts more (more (h.drawn stored)) (replaced.inPlace settings) ?_ sound
    exact fun {_ _ _ _} ne name there => replaced.source? (name ▸ containerName_ne ne) there
  | restarted stored own done marked puts =>
    exact h.kept more stored (Instance.kept_markRestarting marked)
      (Instance.sameDocuments_markRestarting marked) (Cluster.source?_restart done) puts sound
  | switched asked stored changed puts =>
    exact h.kept more stored (Instance.kept_withStatus? changed)
      (Instance.sameDocuments_withStatus? changed) (fun _ => rfl) puts sound
  | refreshed stored own asked changed puts =>
    exact h.kept more stored (Instance.kept_withReport? changed)
      (Instance.sameDocuments_withReport? changed) (fun _ => rfl) puts sound
  | @deleted id s c r stored removed drops =>
    obtain rfl : s.id = id := h.exact.key stored
    refine ⟨drops.exact, fun left => more (h.drawn (drops.before left)), fun left => ?_, sound⟩
    exact (h.inPlace (drops.before left)).frame fun _ _ _ _ _ there =>
      source?_of_removed removed there

/-- Where the store answers, a record that is not saved is one under an
    identifier in use, and its container displaces no other. -/
theorem Sound.unsaved (h : Sound used w) (u : Unsaved cfg w q w') :
    Sound (used ++ q.drawn?.toList) w' := by
  have answers (operation : StoreOperation) : w.storeFailing operation ≠ true :=
    Bool.eq_false_iff.mp (h.answers operation)
  cases u with
  | created refused planned =>
    refine ⟨⟨h.reliable, h.exact⟩, fun hj => List.mem_append_left _ (h.drawn hj), fun hj => ?_⟩
    refine (h.inOrder hj).frame fun k hk => ?_
    obtain ⟨dep, there, -, -⟩ := ((h.inOrder hj).serves hk).created
    cases planned with
    | passthrough => rfl
    | hosted prepared made => rw [(source?_create_of_some made there).2, there]
  | edited failing => exact absurd failing (answers _)
  | restarted failing => exact absurd failing (answers _)
  | deleted failing => exact absurd failing (answers _)

/-- **What is left of a request that was not saved leaves every record in
    place.** -/
theorem Filed.unsaved (h : Filed allowed calm fresh used w)
    (new : fresh → ∀ id, q.drawn? = some id → id ∉ used) (u : Unsaved cfg w q w') :
    Filed allowed calm fresh (used ++ q.drawn?.toList) w' := by
  have sound (quiet : calm) : Sound (used ++ q.drawn?.toList) w' := (h.sound quiet).unsaved u
  have more : used ⊆ used ++ q.drawn?.toList := List.subset_append_left _ _
  -- in a calm run the container of a record is there, and stays
  have there {j : Instance} {k : Hosting.Container} (quiet : calm)
      (hj : w.registry.find? j.id = some j) (hk : j.container = some k) :
      ∃ dep, w.cluster.source? k.name = some dep := by
    obtain ⟨dep, created, -, -⟩ := (((h.sound quiet).inOrder hj).serves hk).created
    exact ⟨dep, created⟩
  cases u with
  | @created id _ _ _ _ refused planned =>
    refine h.recluster more (fun {j k o} hj hk name sure found => ?_) sound
    rcases sure with quiet | ⟨drawnOnce, -⟩
    · obtain ⟨dep, before⟩ := there quiet hj hk
      cases planned with
      | passthrough => exact found
      | hosted prepared made =>
        have after := (source?_create_of_some made before).2
        rw [after] at found
        exact before.trans found
    · have ne : j.id ≠ id := fun e => new drawnOnce id rfl (e ▸ h.drawn hj)
      exact planned.source? (name ▸ containerName_ne ne) found
  | @edited id _ _ s _ _ _ failing stored replaced =>
    obtain rfl : s.id = id := h.exact.key stored
    rw [replaced.frame] at sound ⊢
    refine h.recluster more (fun {j k o} hj hk name sure found => ?_) sound
    rcases sure with quiet | ⟨-, inner⟩
    · rw [(h.sound quiet).answers] at failing
      cases failing
    · refine replaced.source? (fun e => ?_) found
      rw [name, Deployment.containerName_inj] at e
      obtain ⟨same, next⟩ := e
      rw [← same, stored] at hj
      obtain rfl := Option.some.inj hj
      have below := UInt32.lt_of_le_of_ne (le_lastGeneration k.generation) inner
      exact UInt32.ne_of_lt ((lt_nextGeneration_iff hk).mpr below) next.symm
  | restarted failing stored done =>
    refine h.recluster more (fun {_ k _} _ _ _ _ found => ?_) sound
    rw [Cluster.source?_restart done] at found
    exact found
  | deleted failing stored removed =>
    exact h.recluster more (fun {_ _ _} _ _ _ _ found => source?_of_removed removed found) sound

/-! ## 4. Whole runs -/

/-- **Every incident leaves every record in place.** -/
theorem Filed.behind (h : Filed allowed calm fresh used w) (x : Incident)
    (settings : ∀ cfg q, x = .event (.request cfg q) → allowed cfg)
    (quiet : calm → ∀ operation failing, x ≠ .storeOutage operation failing)
    (new : fresh → ∀ id, x.drawn? = some id → id ∉ used) :
    Filed allowed calm fresh (used ++ x.drawn?.toList) (w.behind x) := by
  have more : used ⊆ used ++ x.drawn?.toList := List.subset_append_left _ _
  cases x with
  | storeOutage operation failing =>
    exact ⟨h.exact, fun hj => more (h.drawn hj), h.inPlace,
      fun still => absurd rfl (quiet still operation failing)⟩
  | event e =>
    cases served : e.isRequest with
    | false =>
      obtain ⟨hr, hf, hs⟩ := after_around w served
      show Filed _ _ _ _ (w.after e)
      refine ⟨hr ▸ h.exact, fun hj => more (h.drawn (hr ▸ hj)), fun hj => ?_,
        fun still => ((h.sound still).around hr hf hs).widen more⟩
      rw [hr] at hj
      exact (h.inPlace hj).frame fun k o _ _ _ found => (hs k.name).symm.trans found
    | true =>
      obtain ⟨cfg, q, rfl⟩ := e.eq_request served
      have allow := settings cfg q rfl
      have closes := closes_request h.exact (Task.runs_self (q.task cfg) w)
      show Filed _ _ _ (used ++ q.drawn?.toList) (w.serve cfg q).2
      rcases closes with (⟨-, same⟩ | ⟨b, -, effect⟩) | ⟨-, unsaved⟩
      · have unchanged : Effect cfg w (Program.exchanges (q.task cfg) w) q .removed w :=
          .unchanged q .removed
        have same : (w.serve cfg q).2 = w := same
        rw [same]
        exact h.effect allow unchanged
      · exact h.effect allow effect
      · exact h.unsaved new unsaved

theorem drawnBy_cons (x : Incident) (xs : List Incident) :
    drawnBy (x :: xs) = x.drawn?.toList ++ drawnBy xs := by
  unfold drawnBy
  rw [List.filterMap_cons]
  cases x.drawn? <;> rfl

/-- **Every run leaves every record in place.** -/
theorem Filed.course (xs : List Incident) (h : Filed allowed calm fresh used w)
    (settings : Under allowed xs) (quiet : calm → Calm xs)
    (new : fresh → (used ++ drawnBy xs).Nodup) :
    Filed allowed calm fresh (used ++ drawnBy xs) (w.course xs) := by
  induction xs generalizing used w with
  | nil => exact (List.append_nil used).symm ▸ h
  | cons x xs ih =>
    rw [drawnBy_cons, ← List.append_assoc] at new ⊢
    have here : fresh → ∀ id, x.drawn? = some id → id ∉ used := by
      intro drawnOnce id hid before
      have apart := (List.nodup_append.mp (List.nodup_append.mp (new drawnOnce)).1).2.2
      exact apart id before id (by rw [hid]; exact List.mem_singleton_self id) rfl
    have next := h.behind x (fun cfg q e => settings cfg q (e ▸ List.mem_cons_self))
      (fun still operation failing e => quiet still operation failing (e ▸ List.mem_cons_self)) here
    exact ih next (fun cfg q hm => settings cfg q (List.mem_cons_of_mem x hm))
      (fun still operation failing hm => quiet still operation failing (List.mem_cons_of_mem x hm))
      new

/-- Whatever fails, and whatever identifiers are drawn. -/
theorem Filed.anyhow (h : Filed (fun _ => True) False False used w) (x : Incident) :
    Filed (fun _ => True) False False (used ++ x.drawn?.toList) (w.behind x) :=
  h.behind x (fun _ _ _ => trivial) False.elim False.elim

theorem filed_course (clock : Instant) (probe : String → ProbeOutcome) (xs : List Incident) :
    Filed (fun _ => True) False False (drawnBy xs) ((World.empty clock probe).course xs) :=
  (filed_empty _ _ _ clock probe).course xs (fun _ _ _ => trivial) False.elim False.elim

/-- An operation of the store answers when none was ever made to fail, or when
    it does not fail now. -/
theorem course_answers {clock : Instant} {probe : String → ProbeOutcome} {xs : List Incident}
    {operation : StoreOperation}
    (h : Calm xs ∨ ((World.empty clock probe).course xs).storeFailing operation = false) :
    ((World.empty clock probe).course xs).storeFailing operation = false := by
  rcases h with still | answers
  · have filed := (filed_empty (fun _ => True) (Calm xs) False clock probe).course xs
      (fun _ _ _ => trivial) (fun still => still) False.elim
    exact (filed.sound still).answers operation
  · exact answers

/-! ## 5. A run -/

/-- The sample run, in which the store answers all the time. -/
def sampleIncidents : List Incident := sampleRun.map .event

theorem calm_sampleIncidents : Calm sampleIncidents := calm_events sampleRun

/-- The run goes on with a store that refuses to write records back, so that an
    edit leaves a record whose container is removed. -/
def sampleOutages : List Incident :=
  sampleIncidents ++ [.storeOutage .update true,
    .event (.request .default (.edit ⟨7⟩ none (sampleDefinition "search-3")))]

end McpFleet.Fleet
