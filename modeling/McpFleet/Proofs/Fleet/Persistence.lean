/-
  File:      McpFleet/Proofs/Fleet/Persistence.lean
  Subject:   Records and their rows: what the fleet writes is valid, what it
             reads need not be.

  * `Proper`: a name that a text gives, and settings that are accepted.
  * `Effect.proper`, `proper_course`: every record of every run is proper.
  * **`rows_valid_unless_foreign`**: so its row is read back as the record,
    with settings that are accepted. Rows that the fleet did not write are
    read with any settings.
  * `foreign_row_not_valid`: one with settings that every check refuses.
-/
import McpFleet.Proofs.Fleet.Identity
import McpFleet.Proofs.Hosting.Settings
import McpFleet.Proofs.Row.Reading

namespace McpFleet.Fleet

/-- A name that a text gives, and settings of the container, if there is one,
    that are accepted. -/
structure Proper (name : InstanceName) (container : Option Hosting.Container) : Prop where
  name : name.IsNormal
  settings : ∀ k, container = some k → k.spec.toSettings.Admissible

variable {cfg : Config} {w w' : World} {id : Uuid} {d : Definition} {v : Revision}
  {xs : List Exchange} {s i : Instance} {r r' : Registry}

/-! ## 1. Plans -/

theorem proper_of_passthrough {g : Gateway} {access : Access}
    (judged : passthroughRevision g access id d = .ok v) : Proper v.name v.container := by
  obtain ⟨named, none⟩ := passthroughRevision_spec judged
  refine ⟨InstanceName.isNormal_iff_accepted.mpr ⟨d.name, named⟩, fun k hk => ?_⟩
  rw [none] at hk
  cases hk

/-- The settings of a planned container were accepted. -/
theorem proper_of_prepared {generation : UInt32} {p : HostingPlan}
    (prepared : (prepareHosting cfg id d generation).Runs w xs (.ok p) w') :
    Proper p.revision.name p.revision.container := by
  obtain ⟨⟨named, judged, -, -, -, planned⟩, -⟩ := yields_prepareHosting.mp
    (Task.yields_iff_runs.mpr ⟨xs, prepared⟩)
  obtain ⟨settings, -, accepted, -, -⟩ := hostedSpec_eq_ok.mp judged
  obtain ⟨name, plan⟩ := hostingPlan_spec planned
  refine ⟨?_, fun k hk => ?_⟩
  · rw [name]
    exact InstanceName.isNormal_iff_accepted.mpr ⟨d.name, named⟩
  · obtain rfl := Option.some.inj (plan.container.symm.trans hk)
    exact Hosting.Spec.admissible_toSettings accepted

theorem Planned.proper {generation : UInt32} {access : Access} {c : Cluster}
    (h : Planned cfg w id d generation access v c) : Proper v.name v.container := by
  cases h with
  | passthrough own judged => exact proper_of_passthrough judged
  | hosted prepared made => exact proper_of_prepared prepared

theorem Replaced.proper (h : Replaced cfg w s d v xs w') : Proper v.name v.container := by
  cases h with
  | passthrough own judged => exact proper_of_passthrough judged
  | hosted own prepared made => exact proper_of_prepared prepared

/-- Restarting, switching and reporting do not touch what was proper. -/
theorem Proper.kept (h : Proper s.name s.container) (kept : s.Kept i) :
    Proper i.name i.container := by
  refine ⟨?_, fun k hk => ?_⟩
  · rw [kept.name]
    exact h.name
  · cases before : s.container with
    | none =>
      rw [kept.container_none before] at hk
      cases hk
    | some l =>
      obtain ⟨k', hk', spec, -⟩ := kept.container_eq before
      obtain rfl := Option.some.inj (hk'.symm.trans hk)
      rw [spec]
      exact h.settings l before

/-! ## 2. Every run -/

/-- Every record of a registry is proper. -/
def AllProper (r : Registry) : Prop := ∀ id i, r.find? id = some i → Proper i.name i.container

theorem AllProper.put (h : AllProper r) (puts : r.Puts i r') (own : Proper i.name i.container) :
    AllProper r' := by
  intro id j stored
  rw [puts.find?] at stored
  split at stored
  · obtain rfl := Option.some.inj stored
    exact own
  · exact h id j stored

/-- **Every effect of a request** leaves proper records. -/
theorem Effect.proper {q : Request} {a : Reply} (e : Effect cfg w xs q a w')
    (h : AllProper w.registry) : AllProper w'.registry := by
  cases e with
  | unchanged => exact h
  | created fresh planned puts => exact h.put puts planned.proper
  | edited stored replaced made puts => exact h.put puts replaced.proper
  | restarted stored own done marked puts =>
    exact h.put puts ((h _ _ stored).kept (Instance.kept_markRestarting marked))
  | switched asked stored changed puts =>
    exact h.put puts ((h _ _ stored).kept (Instance.kept_withStatus? changed))
  | refreshed stored own asked changed puts =>
    exact h.put puts ((h _ _ stored).kept (Instance.kept_withReport? changed))
  | deleted stored removed drops => exact fun id i left => h id i (drops.before left)

theorem AllProper.behind (h : AllProper w.registry) (exact : w.registry.Exact) (x : Incident) :
    AllProper (w.behind x).registry := by
  cases x with
  | storeOutage operation failing => exact h
  | event e =>
    cases served : e.isRequest with
    | false =>
      have same : (w.behind (.event e)).registry = w.registry := (after_around w served).1
      rw [same]
      exact h
    | true =>
      obtain ⟨cfg, q, rfl⟩ := e.eq_request served
      show AllProper (w.serve cfg q).2.registry
      rcases closes_request exact (Task.runs_self (q.task cfg) w) with
        (⟨-, same⟩ | ⟨b, -, effect⟩) | ⟨-, unsaved⟩
      · rw [show (w.serve cfg q).2.registry = w.registry from congrArg World.registry same]
        exact h
      · exact effect.proper h
      · rw [show (w.serve cfg q).2.registry = w.registry from unsaved.registry]
        exact h

/-- **Every record of every run is proper**, whatever fails in the run. -/
theorem proper_course (clock : Instant) (probe : String → ProbeOutcome) (xs : List Incident) :
    AllProper ((World.empty clock probe).course xs).registry := by
  have carried (w : World) (used : List Uuid) (filed : Filed (fun _ => True) False False used w)
      (h : AllProper w.registry) : AllProper (w.course xs).registry := by
    induction xs generalizing used w with
    | nil => exact h
    | cons x xs ih => exact ih _ _ (filed.anyhow x) (h.behind filed.exact x)
  refine carried _ [] (filed_empty _ _ _ clock probe) fun id i stored => ?_
  cases stored

/-! ## 3. Rows -/

/-- **Rows come back valid unless they are foreign.** When a row can be read
    and is that of a record, in any state of any run that starts empty, then
    it is read as the record, and the settings of its container are such as
    would be accepted. But nothing judges the settings in a row: any container
    can stand in its place, and is read from it. -/
theorem rows_valid_unless_foreign {r : Row} {i : Instance} (read : r.toInstance = .ok i) :
    (∀ clock probe xs id j, ((World.empty clock probe).course xs).registry.find? id = some j →
      r = Row.ofInstance j → i = j ∧ ∀ k, i.container = some k → k.spec.toSettings.Admissible) ∧
    (∀ k : Hosting.Container, { r with hosting := some (.ofJson k.toJson) }.toInstance =
      .ok { i with container := some k }) := by
  refine ⟨fun clock probe xs id j stored own => ?_, Row.toInstance_withContainer read⟩
  have proper : Proper j.name j.container := proper_course clock probe xs id j stored
  subst own
  obtain rfl := Except.ok.inj (read.symm.trans (Row.toInstance_ofInstance proper.name))
  exact ⟨rfl, proper.settings⟩

/-- The row of the sample run's record, whose container is replaced. -/
theorem rows_valid_unless_foreign_sampleOutages :
    ∃ i k, (sampleStart.course sampleOutages).registry.find? ⟨7⟩ = some i ∧
      i.container = some k ∧ (Row.ofInstance i).toInstance = .ok i ∧
      k.spec.toSettings.Admissible := by
  have found : ((sampleStart.course sampleOutages).registry.find? ⟨7⟩).map (fun i =>
      (i.container.isSome, decide i.name.IsNormal)) = some (true, true) := by decide +kernel
  obtain ⟨i, stored, e⟩ := Option.map_eq_some_iff.mp found
  obtain ⟨hosted, normal⟩ := Prod.mk.inj e
  obtain ⟨k, hk⟩ := Option.isSome_iff_exists.mp hosted
  have read : (Row.ofInstance i).toInstance = .ok i :=
    Row.toInstance_ofInstance (of_decide_eq_true normal)
  obtain ⟨-, settings⟩ := (rows_valid_unless_foreign read).1 _ _ sampleOutages ⟨7⟩ i stored rfl
  exact ⟨i, k, stored, hk, read, settings k hk⟩

/-- A container whose settings every check refuses. -/
def foreignContainer : Hosting.Container where
  spec :=
    { environmentId := ⟨-1⟩, packageId := none, port := 0, command := none, initScript := none
      image := " ", env := .empty, mounts := [⟨"a", " ", false⟩], timeouts := ⟨5, 1⟩, tokens := [] }
  name := "c"
  service := "s"
  status := .running
  ready := true
  generation := 0

/-- **A row can come back with settings that are not valid.** -/
theorem foreign_row_not_valid :
    ¬ ∀ (r : Row) (i : Instance) (k : Hosting.Container), r.toInstance = .ok i →
      i.container = some k → k.spec.toSettings.Admissible := by
  intro valid
  have others : Row.lenientRow.toInstance.toBool = true := by decide +kernel
  obtain ⟨i, accepted⟩ := exists_ok_of_toBool others
  have read := Row.toInstance_withContainer accepted foreignContainer
  exact (valid _ _ foreignContainer read rfl).port rfl

end McpFleet.Fleet
