/-
  File:      McpFleet/Proofs/Fleet/Acceptance.lean
  Subject:   Which definitions are accepted: the valid ones, and no others.

  * `NameFits`, `Acceptable`: what a definition has to meet.
  * `accepts_create`, `accepts_edit`: in a state whose store answers, a request
    is accepted exactly when its definition meets that, and the name of the
    container that it needs is free.
  * `Numbered`: no container is ahead of its instance's generation, so that
    name is free. `Numbered.history` says so of every run.
  * **`valid_requests_accepted`**: creating and editing in every state of
    every run.
-/
import McpFleet.Proofs.Fleet.Incidents
import McpFleet.Proofs.Hosting.Settings

namespace McpFleet.Fleet

/-! ## 1. Valid definitions -/

/-- A name of 1 to 100 characters between the blanks at its ends, which no
    instance has but the owner. -/
structure NameFits (w : World) (d : Definition) (owner : Option Uuid) : Prop where
  long : 1 ≤ (Text.trim d.name).length
  short : (Text.trim d.name).length ≤ 100
  free : ∀ id i, w.registry.find? id = some i → i.name.text = Text.trim d.name → owner = some id

/-- What a definition needs for hosting: settings that are accepted, and an
    environment that can run its container. A server document, if there is one,
    has to be accepted with the declared protocol; a local process needs one,
    and an image that can bridge it. -/
structure Hostable (cfg : Config) (directory : Directory) (d : Definition)
    (settings : Hosting.Settings) (spec : Hosting.Spec) (e : Environment) : Prop where
  asked : d.hosting = some settings
  accepted : Hosting.Spec.ofSettings settings = .ok spec
  image : d.protocol = .stdio → ∃ start ∈ cfg.runtimeImages, start.toList <+: spec.image.toList
  process : d.protocol = .stdio → d.payload? ≠ none
  declares : d.payload? ≠ none → ∃ s, d.Declares s
  available : directory.available = true
  known : directory.environments.get? spec.environmentId = some e
  kind : e.kind = .kubernetes

/-- **What a definition needs**, for each kind of access. A direct or proxy
    instance needs a server document that is accepted, with a url and the
    declared protocol. A hosted instance needs to be one that can be hosted,
    and a cluster that creates its container. -/
inductive Acceptable (cfg : Config) (w : World) (d : Definition) : Access → Prop where
  | passthrough {access : Access} {s : Server} (own : access ≠ .hosting) (declares : d.Declares s)
    (url : s.url? ≠ none) : Acceptable cfg w d access
  | hosting {settings : Hosting.Settings} {spec : Hosting.Spec} {e : Environment}
    (fits : Hostable cfg w.directory d settings spec e)
    (working : w.cluster.failing .create = false) : Acceptable cfg w d .hosting

/-- A request that is not refused. -/
def World.Accepts (w : World) (cfg : Config) (q : Request) : Prop :=
  ∃ reply, (w.serve cfg q).1 = .ok reply

variable {cfg : Config} {w w' : World} {d : Definition} {id : Uuid} {access : Access}
  {generation : UInt32} {s : Instance}

theorem accepts_iff {α : Type} {t : Task α} {f : α → Reply} {q : Request}
    (h : q.task cfg = f <$> t) : w.Accepts cfg q ↔ t.Succeeds w := by
  unfold World.Accepts World.serve
  rw [h, ← Task.succeeds_iff, Task.succeeds_map]

/-- The check of a name, said of the text itself. -/
theorem nameFits_iff (exact : w.registry.Exact) {owner : Option Uuid} :
    NameFits w d owner ↔ ∃ name, InstanceName.ofText d.name = .ok name ∧
      ∀ i, w.registry.findByName? name = some i → owner = some i.id := by
  constructor
  · intro fits
    refine ⟨⟨Text.trim d.name⟩,
      InstanceName.ofText_eq_ok.mpr ⟨rfl, fits.long, fits.short⟩, fun i found => ?_⟩
    obtain ⟨stored, named⟩ := exact.findByName?_eq_some.mp found
    exact fits.free i.id i stored (by rw [named])
  · intro parts
    obtain ⟨name, read, free⟩ := parts
    obtain ⟨text, long, short⟩ := InstanceName.ofText_eq_ok.mp read
    refine ⟨text ▸ long, text ▸ short, fun id i stored named => ?_⟩
    obtain rfl : i.id = id := exact.key stored
    have same : i.name = name := by
      cases e : i.name
      cases name
      rw [e] at named
      exact congrArg InstanceName.mk (named.trans text.symm)
    exact free i (exact.findByName?_eq_some.mpr ⟨stored, same⟩)

/-! ## 2. Plans that can be made -/

theorem directory_find_iff {directory : Directory} {id : EnvironmentId} {e : Environment} :
    directory.find id = .ok (some e) ↔
      directory.available = true ∧ directory.environments.get? id = some e := by
  unfold Directory.find
  cases directory.available <;> simp

/-- A server of a local process has a command to start it. -/
theorem launch?_of_process {d : Document} {s : Server} (accepts : Server.Accepts d s)
    (process : s.protocol = .stdio) : ∃ l, s.launch? = some l := by
  have none := accepts.network.mpr process
  unfold Server.url? at none
  unfold Server.launch?
  cases e : s.endpoint with
  | launch l => exact ⟨l, rfl⟩
  | remote r =>
    rw [e] at none
    cases none

/-- **The parts that are judged suffice**: behind them no plan fails. -/
theorem exists_hostingPlan {g : Gateway} {name : InstanceName} {spec : Hosting.Spec}
    {builtin : Bool} {server : Option Server} {nameSpace : String}
    (able : d.protocol = .stdio → builtin = true) (served : hostedServer? d = .ok server) :
    ∃ p, hostingPlan g id generation name d.protocol spec builtin server nameSpace = .ok p := by
  have command : d.protocol = .stdio → spec.command.or
      ((server.bind Server.launch?).map Launch.commandLine) ≠ none := by
    intro process none
    obtain ⟨-, unlaunched⟩ := Option.or_eq_none_iff.mp none
    rcases hostedServer?_eq_ok.mp served with ⟨-, -, network⟩ | ⟨s, rfl, declares⟩
    · exact network process
    · obtain ⟨payload, -, read⟩ := declares.read
      obtain ⟨l, launched⟩ := launch?_of_process
        (Server.accepts_of_ofDocument (Server.ofDocument_of_ofText read))
        (declares.protocol.trans process)
      have unlaunched := Option.map_eq_none_iff.mp unlaunched
      rw [Option.bind_some, launched] at unlaunched
      cases unlaunched
  exact ⟨_, hostingPlan_eq_ok.mpr ⟨_, _, Deployment.ofRequest_eq_ok.mpr ⟨command, rfl⟩,
    Gateway.hostingRoutes_eq_ok.mpr ⟨able, rfl⟩, rfl⟩⟩

/-- **Exactly the hostable definitions are prepared.** -/
theorem exists_prepared_iff {directory : Directory} {name : InstanceName}
    (named : InstanceName.ofText d.name = .ok name) :
    (∃ p, Prepared cfg directory id d generation p) ↔
      ∃ settings spec e, Hostable cfg directory d settings spec e := by
  constructor
  · intro parts
    obtain ⟨p, -, judged, known, kind, served, -⟩ := parts
    obtain ⟨settings, asked, accepted, rfl, able⟩ := hostedSpec_eq_ok.mp judged
    obtain ⟨available, there⟩ := directory_find_iff.mp known
    refine ⟨settings, _, _, asked, accepted, fun process => Hosting.Spec.usesImage_iff.mp (able process),
      fun process absent => ?_, fun given => ?_, available, there, kind⟩
    · rcases hostedServer?_eq_ok.mp served with ⟨-, -, network⟩ | ⟨s, -, declares⟩
      · exact network process
      · obtain ⟨payload, given, -⟩ := declares.read
        rw [absent] at given
        cases given
    · rcases hostedServer?_eq_ok.mp served with ⟨-, absent, -⟩ | ⟨s, -, declares⟩
      · exact absurd absent given
      · exact ⟨s, declares⟩
  · intro parts
    obtain ⟨settings, spec, e, fits⟩ := parts
    have able : d.protocol = .stdio → spec.usesImage cfg.runtimeImages = true :=
      fun process => Hosting.Spec.usesImage_iff.mpr (fits.image process)
    have judged : hostedSpec cfg d = .ok (spec, spec.usesImage cfg.runtimeImages) :=
      hostedSpec_eq_ok.mpr ⟨settings, fits.asked, fits.accepted, rfl, able⟩
    have served : ∃ server, hostedServer? d = .ok server := by
      by_cases absent : d.payload? = none
      · exact ⟨none, hostedServer?_eq_ok.mpr
          (.inl ⟨rfl, absent, fun process => fits.process process absent⟩)⟩
      · obtain ⟨s, declares⟩ := fits.declares absent
        exact ⟨some s, hostedServer?_eq_ok.mpr (.inr ⟨s, rfl, declares⟩)⟩
    obtain ⟨server, served⟩ := served
    obtain ⟨p, planned⟩ : ∃ p, hostingPlan cfg.gateway id generation name d.protocol spec
        (spec.usesImage cfg.runtimeImages) server e.nameSpace = .ok p :=
      exists_hostingPlan able served
    exact ⟨p, .parts named judged (directory_find_iff.mpr ⟨fits.available, fits.known⟩) fits.kind
      served planned⟩

/-- **A plan can be made for the acceptable definitions**, as long as the name
    of the container is free. -/
theorem exists_planned_iff {name : InstanceName} (named : InstanceName.ofText d.name = .ok name) :
    (∃ v c, Planned cfg w id d generation access v c) ↔
      Acceptable cfg w d access ∧ (access = .hosting →
        w.cluster.source? (Deployment.containerName id generation) = none) := by
  constructor
  · intro parts
    obtain ⟨v, c, planned⟩ := parts
    cases planned with
    | passthrough own judged =>
      obtain ⟨_, s, _, -, declares, url, -, -⟩ := passthroughRevision_eq_ok.mp judged
      exact ⟨.passthrough own declares url, fun hosted => absurd hosted own⟩
    | hosted prepared made =>
      obtain ⟨parts, place⟩ := prepared_of_runs prepared
      obtain ⟨settings, spec, e, fits⟩ := (exists_prepared_iff named).mp ⟨_, parts⟩
      obtain ⟨working, free, -⟩ := Cluster.create_eq_ok.mp made
      refine ⟨.hosting fits working, fun _ => ?_⟩
      unfold Cluster.source?
      rw [← place, free]
      rfl
  · intro parts
    obtain ⟨acceptable, free⟩ := parts
    cases acceptable with
    | @passthrough _ s own declares url =>
      have routed : ∃ routes,
          cfg.gateway.routes id access d.protocol (some s) none = .ok routes := by
        cases access with
        | direct | proxy => exact ⟨_, rfl⟩
        | hosting => exact absurd rfl own
      obtain ⟨routes, routed⟩ := routed
      exact ⟨_, _, .passthrough own (passthroughRevision_eq_ok.mpr
        ⟨name, s, routes, named, declares, url, routed, rfl⟩)⟩
    | hosting fits working =>
      obtain ⟨p, parts⟩ : ∃ p, Prepared cfg w.directory id d generation p :=
        (exists_prepared_iff named).mpr ⟨_, _, _, fits⟩
      obtain ⟨xs, prepared⟩ := Task.yields_iff_runs.mp (yields_prepareHosting.mpr ⟨parts, rfl⟩)
      obtain ⟨-, place⟩ := prepared_of_runs prepared
      have absent : w.cluster.containers.get? p.deployment.container = none :=
        Option.map_eq_none_iff.mp (place ▸ free rfl)
      exact ⟨_, _, .hosted prepared (Cluster.create_eq_ok.mpr ⟨working, absent, rfl⟩)⟩

/-! ## 3. Requests -/

theorem yields_ensureNameFree {name : InstanceName} {owner : Option Uuid} :
    (ensureNameFree name owner).Yields w () w' ↔
      w.storeFailing .findByName = false ∧
      (∀ i, w.registry.findByName? name = some i → owner = some i.id) ∧ w' = w := by
  unfold ensureNameFree
  rw [Task.yields_bind]
  constructor
  · intro parts
    obtain ⟨found, w₁, asked, h⟩ := parts
    obtain ⟨answers, rfl, rfl⟩ := Task.yields_findRecordByName.mp asked
    refine ⟨answers, ?_⟩
    cases e : w₁.registry.findByName? name with
    | none =>
      rw [e] at h
      exact ⟨fun i hi => (nomatch hi), (Task.yields_pure.mp h).2⟩
    | some i =>
      rw [e] at h
      simp only at h
      split at h
      · rename_i same
        exact ⟨fun j hj => Option.some.inj hj ▸ same, (Task.yields_pure.mp h).2⟩
      · exact absurd h Task.not_yields_throw
  · intro parts
    obtain ⟨answers, free, rfl⟩ := parts
    refine ⟨_, w', Task.yields_findRecordByName.mpr ⟨answers, rfl, rfl⟩, ?_⟩
    cases e : w'.registry.findByName? name with
    | none => exact Task.yields_pure.mpr ⟨rfl, rfl⟩
    | some i =>
      simp only [if_pos (free i e)]
      exact Task.yields_pure.mpr ⟨rfl, rfl⟩

theorem yields_get {i : Instance} :
    (get id).Yields w i w' ↔
      w.storeFailing .findById = false ∧ w.registry.find? id = some i ∧ w' = w := by
  unfold get
  rw [Task.yields_bind]
  constructor
  · intro parts
    obtain ⟨found, w₁, asked, h⟩ := parts
    obtain ⟨answers, e, rfl⟩ := Task.yields_findRecord.mp asked
    cases found with
    | none => exact absurd h Task.not_yields_throw
    | some j =>
      obtain ⟨rfl, rfl⟩ := Task.yields_pure.mp h
      exact ⟨answers, e, rfl⟩
  · intro parts
    obtain ⟨answers, e, rfl⟩ := parts
    exact ⟨some i, w', Task.yields_findRecord.mpr ⟨answers, e, rfl⟩,
      Task.yields_pure.mpr ⟨rfl, rfl⟩⟩

theorem yields_ensureAccess {stated : Option Access} {own : Access} :
    (ensureAccess stated own).Yields w () w' ↔ (stated = none ∨ stated = some own) ∧ w' = w := by
  unfold ensureAccess
  cases stated with
  | none => simp [Task.yields_pure]
  | some requested =>
    by_cases other : requested = own
    · simp [other, Task.yields_pure]
    · simp [other, Task.not_yields_throw]

/-- A plan that is made gives a revision. -/
theorem yields_plan {v : Revision} :
    (plan cfg id access d).Yields w v w' ↔
      ∃ c, w' = { w with cluster := c } ∧ Planned cfg w id d 0 access v c := by
  constructor
  · intro h
    obtain ⟨xs, runs⟩ := Task.yields_iff_runs.mp h
    obtain ⟨_, v', made, c, hw, planned⟩ := (runs_plan runs).of_ok
    obtain rfl := Except.ok.inj made
    exact ⟨c, hw, planned⟩
  · intro parts
    obtain ⟨c, rfl, planned⟩ := parts
    cases planned with
    | passthrough own judged =>
      have done : (Task.ofExcept (passthroughRevision cfg.gateway access id d)
          fun e => e).Yields w v w := Task.yields_ofExcept.mpr ⟨judged, rfl⟩
      cases access with
      | direct | proxy => exact done
      | hosting => exact absurd rfl own
    | @hosted p ys _ prepared made =>
      refine Task.yields_bind.mpr ⟨p, w, Task.yields_iff_runs.mpr ⟨ys, prepared⟩, ?_⟩
      exact Task.yields_bind.mpr ⟨(), _, Task.yields_createContainer.mpr ⟨c, made, rfl⟩,
        Task.yields_pure.mpr ⟨rfl, rfl⟩⟩

/-- A replacement succeeds exactly when a plan can be made for the next
    generation: that the replaced container cannot be removed is passed over. -/
theorem succeeds_revise :
    (revise cfg s d).Succeeds w ↔
      ∃ v c, Planned cfg w s.id d (nextGeneration s) s.access v c := by
  constructor
  · intro parts
    obtain ⟨v, w', h⟩ := parts
    obtain ⟨xs, runs⟩ := Task.yields_iff_runs.mp h
    obtain ⟨_, v', -, replaced⟩ := (runs_revise runs).of_ok
    cases replaced with
    | passthrough own judged => exact ⟨v', _, .passthrough own judged⟩
    | hosted own prepared made => exact own ▸ ⟨_, _, .hosted prepared made⟩
  · intro parts
    obtain ⟨v, c, planned⟩ := parts
    unfold revise
    generalize own : s.access = access at planned
    cases planned with
    | passthrough other judged =>
      have done : (Task.ofExcept (passthroughRevision cfg.gateway access s.id d)
          fun e => e).Succeeds w := ⟨v, w, Task.yields_ofExcept.mpr ⟨judged, rfl⟩⟩
      cases access with
      | direct | proxy => exact done
      | hosting => exact absurd rfl other
    | @hosted p ys _ prepared made =>
      refine Task.succeeds_bind.mpr ⟨p, w, Task.yields_iff_runs.mpr ⟨ys, prepared⟩, ?_⟩
      refine Task.succeeds_bind.mpr ⟨(), _, Task.yields_createContainer.mpr ⟨c, made, rfl⟩, ?_⟩
      exact Task.succeeds_bind.mpr ⟨_, _, Task.yields_attempt.mpr rfl, Task.succeeds_pure _ _⟩

/-- **Creating succeeds** exactly when the name is fit and free and a plan can
    be made; the record is then stored. -/
theorem succeeds_create (hw : Steady w) (fresh : w.registry.find? id = none) :
    (create cfg id access d).Succeeds w ↔ ∃ name, InstanceName.ofText d.name = .ok name ∧
      (∀ i, w.registry.findByName? name = some i → none = some i.id) ∧
      ∃ v c, Planned cfg w id d 0 access v c := by
  unfold create
  constructor
  · intro h
    obtain ⟨name, w₁, judged, h₁⟩ := Task.succeeds_bind.mp h
    obtain ⟨named, rfl⟩ := Task.yields_ofExcept.mp judged
    obtain ⟨_, w₂, checked, h₂⟩ := Task.succeeds_bind.mp h₁
    obtain ⟨-, free, rfl⟩ := yields_ensureNameFree.mp checked
    obtain ⟨v, w₃, made, -⟩ := Task.succeeds_bind.mp h₂
    obtain ⟨c, -, planned⟩ := yields_plan.mp made
    exact ⟨name, named, free, v, c, planned⟩
  · intro parts
    obtain ⟨name, named, free, v, c, planned⟩ := parts
    obtain rfl : name = v.name := Except.ok.inj (named.symm.trans planned.name)
    have unnamed : w.registry.names.get? v.name = none := by
      rw [← hw.exact.findByName?_eq_none]
      cases found : w.registry.findByName? v.name with
      | none => rfl
      | some i => cases free i found
    obtain ⟨r, stored, -, -⟩ := Registry.create_spec (i := .create id access v w.clock) hw.exact
      fresh unnamed
    refine Task.succeeds_bind.mpr ⟨v.name, w, Task.yields_ofExcept.mpr ⟨named, rfl⟩, ?_⟩
    refine Task.succeeds_bind.mpr ⟨(), w,
      yields_ensureNameFree.mpr ⟨hw.answers _, free, rfl⟩, ?_⟩
    refine Task.succeeds_bind.mpr ⟨v, _, yields_plan.mpr ⟨c, rfl, planned⟩, ?_⟩
    refine Task.succeeds_bind.mpr ⟨w.clock, _, Task.yields_readClock.mpr ⟨rfl, rfl⟩, ?_⟩
    exact Task.succeeds_bind.mpr ⟨(), _,
      Task.yields_createRecord.mpr ⟨hw.answers _, r, stored, rfl⟩, Task.succeeds_pure _ _⟩

/-- **Editing succeeds** exactly when the instance is stored, a stated access
    is its own, the name is fit and nobody else's, and a plan can be made for
    the next generation; the record is then written back. -/
theorem succeeds_edit (hw : Steady w) {stated : Option Access} :
    (edit cfg id stated d).Succeeds w ↔ ∃ s, w.registry.find? id = some s ∧
      (stated = none ∨ stated = some s.access) ∧
      ∃ name, InstanceName.ofText d.name = .ok name ∧
        (∀ i, w.registry.findByName? name = some i → some id = some i.id) ∧
        ∃ v c, Planned cfg w id d (nextGeneration s) s.access v c := by
  rw [edit_eq]
  constructor
  · intro h
    obtain ⟨s, w₁, found, h₁⟩ := Task.succeeds_bind.mp h
    obtain ⟨-, stored, rfl⟩ := yields_get.mp found
    obtain rfl : s.id = id := hw.exact.key stored
    obtain ⟨_, w₂, compared, h₂⟩ := Task.succeeds_bind.mp h₁
    obtain ⟨own, rfl⟩ := yields_ensureAccess.mp compared
    obtain ⟨name, w₃, judged, h₃⟩ := Task.succeeds_bind.mp h₂
    obtain ⟨named, rfl⟩ := Task.yields_ofExcept.mp judged
    obtain ⟨_, w₄, checked, h₄⟩ := Task.succeeds_bind.mp h₃
    obtain ⟨-, free, rfl⟩ := yields_ensureNameFree.mp checked
    obtain ⟨v, w₅, revised, -⟩ := Task.succeeds_bind.mp h₄
    exact ⟨s, stored, own, name, named, free, succeeds_revise.mp ⟨v, w₅, revised⟩⟩
  · intro parts
    obtain ⟨s, stored, own, name, named, free, planned⟩ := parts
    obtain rfl : s.id = id := hw.exact.key stored
    obtain ⟨v, w₁, revised⟩ := succeeds_revise.mpr planned
    obtain ⟨xs, runs⟩ := Task.yields_iff_runs.mp revised
    obtain ⟨ys, v', made, replaced⟩ := (runs_revise runs).of_ok
    obtain rfl := Except.ok.inj made
    obtain rfl : name = v.name := Except.ok.inj (named.symm.trans replaced.name)
    have frame := replaced.frame
    have unnamed : ∀ id, w.registry.names.get? v.name = some id → id = s.id := by
      intro id hid
      obtain ⟨j, hj, same⟩ := hw.exact.name.mp hid
      have found := hw.exact.findByName?_eq_some.mpr ⟨hw.exact.key hj ▸ hj, same⟩
      rw [Option.some.inj (free j found), hw.exact.key hj]
    obtain ⟨r, written, -, -⟩ := Registry.update_spec (i := s.revise v w.clock) hw.exact stored
      unnamed
    refine Task.succeeds_bind.mpr ⟨s, w, yields_get.mpr ⟨hw.answers _, stored, rfl⟩, ?_⟩
    refine Task.succeeds_bind.mpr ⟨(), w, yields_ensureAccess.mpr ⟨own, rfl⟩, ?_⟩
    refine Task.succeeds_bind.mpr ⟨v.name, w, Task.yields_ofExcept.mpr ⟨named, rfl⟩, ?_⟩
    refine Task.succeeds_bind.mpr ⟨(), w,
      yields_ensureNameFree.mpr ⟨hw.answers _, free, rfl⟩, ?_⟩
    refine Task.succeeds_bind.mpr ⟨v, w₁, revised, ?_⟩
    refine Task.succeeds_bind.mpr ⟨w₁.clock, w₁, Task.yields_readClock.mpr ⟨rfl, rfl⟩, ?_⟩
    refine Task.succeeds_bind.mpr ⟨(), _, Task.yields_updateRecord.mpr ⟨?_, r, ?_, rfl⟩,
      Task.succeeds_pure _ _⟩
    · rw [frame]
      exact hw.answers _
    · rw [frame]
      exact written

theorem accepts_create (hw : Steady w) (fresh : w.registry.find? id = none) :
    w.Accepts cfg (.create id access d) ↔ NameFits w d none ∧ Acceptable cfg w d access ∧
      (access = .hosting → w.cluster.source? (Deployment.containerName id 0) = none) := by
  rw [accepts_iff (f := .stored) rfl, succeeds_create hw fresh, nameFits_iff hw.exact]
  constructor
  · intro parts
    obtain ⟨name, named, free, planned⟩ := parts
    exact ⟨⟨name, named, free⟩, (exists_planned_iff named).mp planned⟩
  · intro parts
    obtain ⟨⟨name, named, free⟩, planned⟩ := parts
    exact ⟨name, named, free, (exists_planned_iff named).mpr planned⟩

theorem accepts_edit (hw : Steady w) {stated : Option Access} :
    w.Accepts cfg (.edit id stated d) ↔ ∃ s, w.registry.find? id = some s ∧
      (stated = none ∨ stated = some s.access) ∧ NameFits w d (some id) ∧
      Acceptable cfg w d s.access ∧ (s.access = .hosting →
        w.cluster.source? (Deployment.containerName id (nextGeneration s)) = none) := by
  rw [accepts_iff (f := .stored) rfl, succeeds_edit hw, nameFits_iff hw.exact]
  constructor
  · intro parts
    obtain ⟨s, stored, own, name, named, free, planned⟩ := parts
    exact ⟨s, stored, own, ⟨name, named, free⟩, (exists_planned_iff named).mp planned⟩
  · intro parts
    obtain ⟨s, stored, own, ⟨name, named, free⟩, planned⟩ := parts
    exact ⟨s, stored, own, name, named, free, (exists_planned_iff named).mpr planned⟩

/-! ## 4. Generations -/

/-- The container of an instance, if it has one, is of this generation or a
    later one. -/
def Reaches (i : Instance) (g : UInt32) : Prop := ∀ k, i.container = some k → g ≤ k.generation

/-- **Containers are numbered**: each one belongs to an instance that was
    drawn, and to a generation that the instance has reached. -/
def Numbered (used : List Uuid) (w : World) : Prop :=
  ∀ n dep, w.cluster.source? n = some dep →
    ∃ id g, n = Deployment.containerName id g ∧ id ∈ used ∧
      ∀ i, w.registry.find? id = some i → Reaches i g

variable {used used' : List Uuid} {c : Cluster} {i : Instance} {xs : List Exchange} {q : Request}
  {a : Reply}

theorem numbered_empty (clock : Instant) (probe : String → ProbeOutcome) :
    Numbered [] (World.empty clock probe) := fun _ _ h => nomatch h

/-- **Putting a record in** keeps containers numbered, when each was there
    before or is one that the record has reached, and the record reaches what
    the one in its place does. -/
theorem Numbered.put (h : Numbered used w) {r : Registry} (puts : w.registry.Puts i r)
    (more : used ⊆ used') (drawn : i.id ∈ used')
    (reached : ∀ n dep, c.source? n = some dep → w.cluster.source? n = some dep ∨
      ∃ k, i.container = some k ∧ n = Deployment.containerName i.id k.generation)
    (onward : i.id ∈ used →
      ∃ s, w.registry.find? i.id = some s ∧ ∀ g, Reaches s g → Reaches i g) :
    Numbered used' { w with registry := r, cluster := c } := by
  intro n dep there
  rcases reached n dep there with before | ⟨k, hk, rfl⟩
  · obtain ⟨id, g, rfl, old, bound⟩ := h n dep before
    refine ⟨id, g, rfl, more old, fun j hj => ?_⟩
    have hj : r.find? id = some j := hj
    rw [puts.find?] at hj
    split at hj
    · rename_i same
      obtain rfl := Option.some.inj hj
      subst same
      obtain ⟨s, stored, onward⟩ := onward old
      exact onward g (bound s stored)
    · exact bound j hj
  · refine ⟨i.id, k.generation, rfl, drawn, fun j hj l hl => ?_⟩
    have hj : r.find? i.id = some j := hj
    rw [puts.find?, if_pos rfl] at hj
    obtain rfl := Option.some.inj hj
    rw [hk] at hl
    exact Option.some.inj hl ▸ UInt32.le_refl _

/-- With fewer records and fewer containers, containers stay numbered. -/
theorem Numbered.shrink (h : Numbered used w) (more : used ⊆ used')
    (records : ∀ {id i}, w'.registry.find? id = some i → w.registry.find? id = some i)
    (containers : ∀ {n dep}, w'.cluster.source? n = some dep → w.cluster.source? n = some dep) :
    Numbered used' w' := by
  intro n dep there
  obtain ⟨id, g, name, drawn, bound⟩ := h n dep (containers there)
  exact ⟨id, g, name, more drawn, fun i hi => bound i (records hi)⟩

theorem Numbered.kept (h : Numbered used w) (sound : Sound used w) {r : Registry}
    (more : used ⊆ used') (stored : w.registry.find? id = some s) (kept : s.Kept i)
    (same : ∀ n, c.source? n = w.cluster.source? n) (puts : w.registry.Puts i r) :
    Numbered used' { w with registry := r, cluster := c } := by
  obtain rfl : s.id = id := sound.exact.key stored
  refine h.put puts more (more (kept.id ▸ sound.drawn stored))
    (fun n dep there => .inl ((same n).symm.trans there)) fun _ => ?_
  refine ⟨s, kept.id ▸ stored, fun g reaches l hl => ?_⟩
  cases hk : s.container with
  | none =>
    rw [kept.container_none hk] at hl
    cases hl
  | some k =>
    obtain ⟨l', hl', -, -, -, generation⟩ := kept.container_eq hk
    obtain rfl := Option.some.inj (hl'.symm.trans hl)
    exact generation ▸ reaches k hk

/-- A plan adds no container but the one that its revision has. -/
theorem Planned.reached {v : Revision} (h : Planned cfg w id d generation access v c) {n : String}
    {dep : Deployment} (there : c.source? n = some dep) :
    w.cluster.source? n = some dep ∨
      ∃ k, v.container = some k ∧ n = Deployment.containerName id k.generation := by
  cases h with
  | passthrough => exact .inl there
  | @hosted p _ _ prepared made =>
    obtain ⟨named, k, hk, generation, -, -⟩ := prepared_serves prepared made
    by_cases e : p.deployment.container = n
    · exact .inr ⟨k, hk, by rw [generation, ← named, e]⟩
    · exact .inl (source?_of_create made there e)

/-- A replacement adds no container but the one that its revision has. -/
theorem Replaced.reached {v : Revision} {ys : List Exchange} {w₁ : World}
    (h : Replaced cfg w s d v ys w₁) {n : String} {dep : Deployment}
    (there : w₁.cluster.source? n = some dep) :
    w.cluster.source? n = some dep ∨
      ∃ k, v.container = some k ∧ n = Deployment.containerName s.id k.generation := by
  cases h with
  | passthrough => exact .inl there
  | @hosted p _ c own prepared made =>
    have planned : Planned cfg w s.id d (nextGeneration s) .hosting p.revision c :=
      .hosted prepared made
    exact planned.reached (source?_of_discard there)

/-- An edited record reaches what it reached before. -/
theorem Replaced.onward {v : Revision} {ys : List Exchange} {w₁ : World} {now : Instant}
    (h : Replaced cfg w s d v ys w₁) (old : InOrder w.cluster s) {g : UInt32}
    (reaches : Reaches s g) : Reaches (s.revise v now) g := by
  intro l hl
  have hl : v.container = some l := hl
  cases h with
  | passthrough own judged =>
    rw [(passthroughRevision_spec judged).2] at hl
    cases hl
  | hosted own prepared made =>
    obtain ⟨k, hk, -⟩ := old.hosted own
    obtain ⟨-, l', hl', generation, -, -⟩ := prepared_serves prepared made
    obtain rfl := Option.some.inj (hl'.symm.trans hl)
    rw [generation]
    exact UInt32.le_trans (reaches k hk) (le_nextGeneration hk)

/-- **Every effect of a request keeps containers numbered.** -/
theorem Numbered.effect (h : Numbered used w) (sound : Sound used w)
    (fresh : ∀ id, q.drawn? = some id → id ∉ used) (e : Effect cfg w xs q a w') :
    Numbered (used ++ q.drawn?.toList) w' := by
  have more : used ⊆ used ++ q.drawn?.toList := List.subset_append_left _ _
  cases e with
  | unchanged => exact h.shrink more id id
  | @created id _ _ _ _ _ _ planned puts =>
    exact h.put puts more (List.mem_append_right _ (List.mem_singleton_self id))
      (fun n dep there => planned.reached there) fun old => absurd old (fresh id rfl)
  | @edited id _ _ s _ _ _ _ stored replaced made puts =>
    obtain rfl : s.id = id := sound.exact.key stored
    exact h.put puts more (more (sound.drawn stored)) (fun n dep there => replaced.reached there)
      fun _ => ⟨s, stored, fun g => replaced.onward (sound.inOrder stored)⟩
  | restarted stored own done marked puts =>
    exact h.kept sound more stored (Instance.kept_markRestarting marked)
      (Cluster.source?_restart done) puts
  | switched asked stored changed puts =>
    exact h.kept sound more stored (Instance.kept_withStatus? changed) (fun _ => rfl) puts
  | refreshed stored own asked changed puts =>
    exact h.kept sound more stored (Instance.kept_withReport? changed) (fun _ => rfl) puts
  | @deleted id s c r stored removed drops =>
    exact h.shrink more (fun left => drops.before left)
      fun there => source?_of_removed removed there

/-- **Every event keeps containers numbered.** -/
theorem Numbered.after (h : Numbered used w) (sound : Sound used w) (e : Event)
    (fresh : ∀ id, e.drawn? = some id → id ∉ used) :
    Numbered (used ++ e.drawn?.toList) (w.after e) := by
  have more : used ⊆ used ++ e.drawn?.toList := List.subset_append_left _ _
  cases served : e.isRequest with
  | false =>
    obtain ⟨hr, -, hs⟩ := after_around w served
    exact h.shrink more (fun hj => hr ▸ hj) fun {n _} there => (hs n).symm.trans there
  | true =>
    obtain ⟨cfg, q, rfl⟩ := e.eq_request served
    rcases sound.served fresh with ⟨-, same⟩ | ⟨b, -, effect⟩
    · show Numbered _ (w.serve cfg q).2
      rw [same]
      exact h.shrink more id id
    · exact h.effect sound fresh effect

/-- **Every run keeps containers numbered.** -/
theorem Numbered.history (es : List Event) (h : Numbered used w) (sound : Sound used w)
    (fresh : (used ++ drawnIds es).Nodup) : Numbered (used ++ drawnIds es) (w.history es) := by
  induction es generalizing used w with
  | nil => exact (List.append_nil used).symm ▸ h
  | cons e es ih =>
    rw [drawnIds_cons, ← List.append_assoc] at fresh ⊢
    have here := fresh_head fresh
    exact ih (h.after sound e here) (sound.after e here) fresh

/-! ## 5. Requests in a run -/

/-- **The name of the next container is free**, unless the present one is of
    the last generation and has it itself. -/
theorem Numbered.free_next (h : Numbered used w) (sound : Sound used w)
    (stored : w.registry.find? id = some s) :
    (s.access = .hosting →
        w.cluster.source? (Deployment.containerName id (nextGeneration s)) = none) ↔
      ∀ k, s.container = some k → k.generation < lastGeneration := by
  obtain rfl : s.id = id := sound.exact.key stored
  have order := sound.inOrder stored
  constructor
  · intro free k hk
    have free := free (order.access hk)
    obtain ⟨name, -, dep, there, -, -⟩ := order.serves hk
    have onward : k.generation ≠ nextGeneration s := by
      intro same
      rw [← same, ← name, there] at free
      cases free
    exact (lt_nextGeneration_iff hk).mp (UInt32.lt_of_le_of_ne (le_nextGeneration hk) onward)
  · intro below own
    obtain ⟨k, hk, -⟩ := order.hosted own
    have onward := (lt_nextGeneration_iff hk).mpr (below k hk)
    cases there : w.cluster.source? (Deployment.containerName s.id (nextGeneration s)) with
    | none => rfl
    | some dep =>
      obtain ⟨owner, g, name, -, reaches⟩ := h _ dep there
      obtain ⟨rfl, rfl⟩ := Deployment.containerName_inj.mp name
      exact absurd (reaches s stored k hk) (UInt32.not_le.mpr onward)

end McpFleet.Fleet
