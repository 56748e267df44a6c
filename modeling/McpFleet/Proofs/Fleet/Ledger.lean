/-
  File:      McpFleet/Proofs/Fleet/Ledger.lean
  Subject:   Which containers a run creates and which it fails to remove.

  * `World.generation?`, `World.Runs`: all that matters of the records and of
    the cluster here.
  * `notices`: what is to be remembered of the calls of a task. Only creating
    and editing an instance creates containers (`createsNone_request`), and
    both say what they note.
  * `World.ledger`: the containers that were created in a run, and those that
    the cluster refused to remove, with the request in either case.
-/
import McpFleet.Proofs.Fleet.Correspondence
import McpFleet.Proofs.Fleet.EditWindow
import McpFleet.Proofs.Fleet.Incidents

namespace McpFleet

/-! ## 1. Generations of records -/

/-- The generation of an instance's container, if it has one. -/
def Instance.generation? (i : Instance) : Option UInt32 := i.container.map (·.generation)

/-- A change of state leaves the generation alone. -/
theorem Instance.Kept.generation? {s i : Instance} (h : s.Kept i) :
    i.generation? = s.generation? := by
  have same := congrArg (Option.map (·.generation)) h.container
  rwa [Option.map_map, Option.map_map] at same

namespace Fleet

/-- The generation of the container that a stored record names. -/
def World.generation? (w : World) (id : Uuid) : Option UInt32 :=
  (w.registry.find? id).bind Instance.generation?

variable {allowed : Config → Prop} {calm fresh : Prop} {used : List Uuid} {cfg : Config}
  {w w' : World} {c : Cluster} {id a : Uuid} {i s : Instance} {k : Hosting.Container}
  {g : UInt32} {d : Definition} {q : Request} {xs : List Exchange} {α β : Type}

-- The checks of a name stay closed: no argument here looks into them.
attribute [local irreducible] Text.trim

theorem generation?_of_stored (stored : w.registry.find? id = some s) :
    w.generation? id = s.generation? := by
  unfold World.generation?
  rw [stored]
  rfl

theorem generation?_eq_some : w.generation? id = some g ↔
    ∃ s k, w.registry.find? id = some s ∧ s.container = some k ∧ k.generation = g := by
  unfold World.generation? Instance.generation?
  simp only [Option.bind_eq_some_iff, Option.map_eq_some_iff]
  constructor
  · intro parts
    obtain ⟨s, stored, k, hk, generation⟩ := parts
    exact ⟨s, k, stored, hk, generation⟩
  · intro parts
    obtain ⟨s, k, stored, hk, generation⟩ := parts
    exact ⟨s, stored, k, hk, generation⟩

/-- Putting a record in sets the generation under its identifier. -/
theorem generation?_puts {r : Registry} (puts : w.registry.Puts i r) (same : w'.registry = r) :
    w'.generation? a = if a = i.id then i.generation? else w.generation? a := by
  unfold World.generation?
  rw [same, puts.find?]
  by_cases e : i.id = a
  · rw [if_pos e, if_pos e.symm]
    rfl
  · rw [if_neg e, if_neg (Ne.symm e)]

theorem generation?_kept {r : Registry} (exact : w.registry.Exact)
    (stored : w.registry.find? id = some s) (kept : s.Kept i) (puts : w.registry.Puts i r)
    (same : w'.registry = r) : w'.generation? a = w.generation? a := by
  obtain rfl : s.id = id := exact.key stored
  rw [generation?_puts puts same, kept.id, kept.generation?]
  split
  · rename_i e
    rw [e, generation?_of_stored stored]
  · rfl

theorem generation?_drops {r : Registry} (drops : w.registry.Drops id r)
    (same : w'.registry = r) : w'.generation? a = if a = id then none else w.generation? a := by
  unfold World.generation?
  rw [same, drops.find?]
  by_cases e : id = a
  · rw [if_pos e, if_pos e.symm]
    rfl
  · rw [if_neg e, if_neg (Ne.symm e)]

/-- A record in place names its container by its identifier and generation,
    and is hosted if it has one. -/
theorem InPlace.named {sure : UInt32 → Prop} (h : InPlace allowed sure c i)
    (hk : i.container = some k) :
    k.name = Deployment.containerName i.id k.generation ∧ i.access = .hosting := by
  cases h with
  | passthrough settings own container =>
    rw [container] at hk
    cases hk
  | hosted settings own container name =>
    rw [container] at hk
    obtain rfl := Option.some.inj hk
    exact ⟨name, own⟩

theorem Filed.named (h : Filed allowed calm fresh used w) (stored : w.registry.find? id = some s)
    (hk : s.container = some k) :
    k.name = Deployment.containerName id k.generation ∧ s.access = .hosting := by
  obtain rfl : s.id = id := h.exact.key stored
  exact (h.inPlace stored).named hk

/-- A hosted record has a container, and no other record has one. -/
theorem Filed.container_isSome (h : Filed allowed calm fresh used w)
    (stored : w.registry.find? id = some s) : s.container.isSome ↔ s.access = .hosting := by
  cases h.inPlace stored with
  | passthrough settings own container => simp [container, own]
  | hosted settings own container => simp [container, own]

theorem Filed.absent (h : Filed allowed calm fresh used w) (new : id ∉ used) :
    w.registry.find? id = none := by
  cases stored : w.registry.find? id with
  | none => rfl
  | some i => exact absurd (h.drawn stored) new

theorem Filed.drawn_of_generation? (h : Filed allowed calm fresh used w)
    (had : w.generation? id = some g) : id ∈ used := by
  obtain ⟨s, k, stored, -⟩ := generation?_eq_some.mp had
  exact h.drawn stored

/-! ## 2. Containers that run -/

theorem runs_iff : w.Runs id g ↔ w.cluster.source? (Deployment.containerName id g) ≠ none :=
  Cluster.mem_names

theorem not_runs_iff : ¬ w.Runs id g ↔ w.cluster.source? (Deployment.containerName id g) = none := by
  rw [runs_iff, Classical.not_not]

theorem runs_congr (same : ∀ n, w'.cluster.source? n = w.cluster.source? n) :
    w'.Runs id g ↔ w.Runs id g := by
  rw [runs_iff, runs_iff, same]

theorem runs_created {dep : Deployment} (made : w.cluster.create dep = .ok c)
    (named : dep.container = Deployment.containerName id g) (same : w'.cluster = c) {b : Uuid}
    {h : UInt32} : w'.Runs b h ↔ w.Runs b h ∨ (b = id ∧ h = g) := by
  rw [runs_iff, runs_iff, same, Cluster.source?_create made, named]
  by_cases e : Deployment.containerName id g = Deployment.containerName b h
  · obtain ⟨rfl, rfl⟩ := Deployment.containerName_inj.mp e
    simp
  · have other : ¬ (b = id ∧ h = g) := by
      rintro ⟨rfl, rfl⟩
      exact e rfl
    rw [if_neg e, or_iff_left other]

/-- A container is created under a name that was free. -/
theorem not_runs_of_create {dep : Deployment} (made : w.cluster.create dep = .ok c)
    (named : dep.container = Deployment.containerName id g) : ¬ w.Runs id g := by
  obtain ⟨-, unused, -⟩ := Cluster.create_eq_ok.mp made
  rw [not_runs_iff, ← named, Cluster.source?, unused]
  rfl

theorem runs_removed (named : k.name = Deployment.containerName id k.generation)
    (hk : s.container = some k) (removed : w.cluster.delete s = .ok c) (same : w'.cluster = c)
    {b : Uuid} {h : UInt32} : w'.Runs b h ↔ w.Runs b h ∧ ¬ (b = id ∧ h = k.generation) := by
  rw [runs_iff, runs_iff, same, Cluster.source?_delete hk removed, named]
  by_cases e : Deployment.containerName id k.generation = Deployment.containerName b h
  · obtain ⟨rfl, rfl⟩ := Deployment.containerName_inj.mp e
    simp
  · have other : ¬ (b = id ∧ h = k.generation) := by
      rintro ⟨rfl, rfl⟩
      exact e rfl
    rw [if_neg e, and_iff_left other]

/-- A container that is to be removed is gone when it could be removed. -/
theorem runs_discarded (named : k.name = Deployment.containerName id k.generation)
    (hk : s.container = some k) (same : w'.cluster = discard w.cluster s) {b : Uuid}
    {h : UInt32} :
    w'.Runs b h ↔
      w.Runs b h ∧ ¬ ((w.cluster.delete s).toBool ∧ b = id ∧ h = k.generation) := by
  unfold discard at same
  cases removal : w.cluster.delete s with
  | ok c' =>
    rw [removal] at same
    rw [runs_removed named hk removal same]
    simp [Except.toBool]
  | error e =>
    rw [removal] at same
    have alike : w'.Runs b h ↔ w.Runs b h := runs_congr fun n => by rw [same]
    simp [alike, Except.toBool]

/-! ## 3. Notices -/

/-- What is to be remembered of a call. -/
inductive Notice where
  | created (container : String)
  /-- The cluster refused to remove a container. -/
  | kept (container : String)
deriving DecidableEq

def Notice.created? : Notice → Option String
  | created n => some n
  | kept _ => none

def Notice.kept? : Notice → Option String
  | created _ => none
  | kept n => some n

def Exchange.notice? : Exchange → Option Notice
  | ⟨.createContainer d, .ok _, _⟩ => some (.created d.container)
  | ⟨.deleteContainer i, .error _, _⟩ => i.container.map fun k => .kept k.name
  | _ => none

def notices (xs : List Exchange) : List Notice := xs.filterMap Exchange.notice?

theorem notices_append (xs ys : List Exchange) : notices (xs ++ ys) = notices xs ++ notices ys :=
  List.filterMap_append

/-- Only a creation that succeeds is noted as one. -/
theorem notice?_eq_created {x : Exchange} {n : String} (h : x.notice? = some (.created n)) :
    ∃ dep after, x = ⟨.createContainer dep, .ok (), after⟩ ∧ dep.container = n := by
  obtain ⟨call, answer, after⟩ := x
  cases call with
  | createContainer dep =>
    cases answer with
    | ok _ => exact ⟨dep, after, rfl, Notice.created.inj (Option.some.inj h)⟩
    | error e => cases h
  | deleteContainer i =>
    cases answer with
    | ok _ => cases h
    | error e =>
      obtain ⟨k, -, other⟩ := Option.map_eq_some_iff.mp h
      cases other
  | _ => cases h

theorem Still.notices (h : Still w xs) : notices xs = [] := by
  refine List.filterMap_eq_nil_iff.mpr fun x hx => ?_
  obtain ⟨call, answer, after⟩ := x
  have lookup : call.isLookup = true := (h _ hx).1
  cases call with
  | createContainer dep => cases lookup
  | deleteContainer i => cases lookup
  | _ => rfl

/-- **Calls that leave the state alone create no container.** -/
theorem uncreated_of_unmoved (p : Program α) (unmoved : ∀ x ∈ p.exchanges w, x.after = w)
    (n : String) : .created n ∉ notices (p.exchanges w) := by
  induction p generalizing w with
  | done a => exact List.not_mem_nil
  | call c next ih =>
    have here : (w.answer c).2 = w := unmoved _ List.mem_cons_self
    intro noted
    obtain ⟨x, hx, created⟩ := List.mem_filterMap.mp noted
    rcases List.mem_cons.mp hx with rfl | later
    · obtain ⟨dep, after, e, rfl⟩ := notice?_eq_created created
      obtain ⟨rfl, answer, -⟩ := Exchange.mk.inj e
      have answer := eq_of_heq answer
      simp only [World.answer, World.withCluster] at answer here
      cases made : w.cluster.create dep with
      | error x =>
        rw [made] at answer
        cases answer
      | ok c =>
        rw [made] at here
        have same : c = w.cluster := congrArg World.cluster here
        obtain ⟨-, free, -⟩ := Cluster.create_eq_ok.mp made
        have there := Cluster.source?_create made dep.container
        rw [if_pos rfl, same, Cluster.source?, free] at there
        cases there
    · refine ih _ (fun y hy => ?_) (List.mem_filterMap.mpr ⟨x, later, created⟩)
      rw [unmoved y (List.mem_cons_of_mem _ hy)]
      exact here.symm

/-! ## 4. Tasks that create no container -/

def Call.isCreation : Call → Bool
  | createContainer _ => true
  | _ => false

/-- Programs that create no container, whatever the answers are. -/
def Program.CreatesNone : Program α → Prop
  | done _ => True
  | call c next => c.isCreation = false ∧ ∀ answer, (next answer).CreatesNone

theorem Program.ReadOnly.createsNone {p : Program α} (h : p.ReadOnly) : p.CreatesNone := by
  induction p with
  | done a => trivial
  | call c next ih =>
    refine ⟨?_, fun answer => ih answer (h.2 answer)⟩
    have lookup := h.1
    cases c with
    | createContainer dep => cases lookup
    | _ => rfl

theorem Program.CreatesNone.bind {p : Program α} {f : α → Program β} (hp : p.CreatesNone)
    (hf : ∀ a, (f a).CreatesNone) : (p.bind f).CreatesNone := by
  induction p with
  | done a => exact hf a
  | call c next ih => exact ⟨hp.1, fun answer => ih answer (hp.2 answer)⟩

theorem Program.CreatesNone.uncreated {p : Program α} (h : p.CreatesNone) (w : World)
    (n : String) : .created n ∉ notices (p.exchanges w) := by
  induction p generalizing w with
  | done a => exact List.not_mem_nil
  | call c next ih =>
    intro noted
    obtain ⟨x, hx, created⟩ := List.mem_filterMap.mp noted
    rcases List.mem_cons.mp hx with rfl | later
    · obtain ⟨dep, after, e, -⟩ := notice?_eq_created created
      obtain ⟨rfl, -⟩ := Exchange.mk.inj e
      cases h.1
    · exact ih _ (h.2 _) _ (List.mem_filterMap.mpr ⟨x, later, created⟩)

namespace Task

def CreatesNone (t : Task α) : Prop := Program.CreatesNone t

theorem ReadOnly.createsNone {t : Task α} (h : t.ReadOnly) : t.CreatesNone :=
  Program.ReadOnly.createsNone h

theorem CreatesNone.bind {t : Task α} {f : α → Task β} (ht : t.CreatesNone)
    (hf : ∀ a, (f a).CreatesNone) : (t >>= f).CreatesNone := by
  unfold CreatesNone
  rw [bind_eq]
  refine Program.CreatesNone.bind ht fun r => ?_
  cases r with
  | error e => exact trivial
  | ok a => exact hf a

theorem CreatesNone.map {t : Task α} (ht : t.CreatesNone) (f : α → β) : (f <$> t).CreatesNone := by
  rw [← bind_pure_comp]
  exact ht.bind fun a => (readOnly_pure (f a)).createsNone

theorem CreatesNone.attempt {t : Task α} (h : t.CreatesNone) : t.attempt.CreatesNone :=
  Program.CreatesNone.bind h fun _ => trivial

theorem createsNone_pure (a : α) : (pure a : Task α).CreatesNone := trivial

theorem createsNone_readClock : readClock.CreatesNone := ⟨rfl, fun _ => trivial⟩

theorem createsNone_updateRecord (i : Instance) : (updateRecord i).CreatesNone :=
  ⟨rfl, fun _ => trivial⟩

theorem createsNone_deleteRecord (id : Uuid) : (deleteRecord id).CreatesNone :=
  ⟨rfl, fun _ => trivial⟩

theorem createsNone_deleteContainer (i : Instance) : (deleteContainer i).CreatesNone :=
  ⟨rfl, fun _ => trivial⟩

theorem createsNone_restartContainer (i : Instance) : (restartContainer i).CreatesNone :=
  ⟨rfl, fun _ => trivial⟩

end Task

theorem createsNone_restart (id : Uuid) : (restart id).CreatesNone := by
  rw [restart_eq]
  refine .bind (readOnly_get id).createsNone fun s => ?_
  refine .bind (readOnly_ensureHosted s.access).createsNone fun _ => ?_
  refine .bind (Task.createsNone_restartContainer s) fun m => ?_
  refine .bind Task.createsNone_readClock fun now => ?_
  refine .bind (Task.readOnly_ofExcept _ _).createsNone fun i => ?_
  exact .bind (Task.createsNone_updateRecord i) fun _ => Task.createsNone_pure i

theorem createsNone_setStatus (id : Uuid) (status : InstanceStatus) :
    (setStatus id status).CreatesNone := by
  refine .bind (readOnly_get id).createsNone fun s => ?_
  refine .bind Task.createsNone_readClock fun now => ?_
  split
  · exact Task.createsNone_pure s
  · exact .bind (Task.createsNone_updateRecord _) fun _ => Task.createsNone_pure _

theorem createsNone_delete (id : Uuid) : (delete id).CreatesNone := by
  refine .bind (readOnly_get id).createsNone fun s => ?_
  by_cases own : s.access = .hosting
  · simp only [if_pos own]
    exact .bind (Task.createsNone_deleteContainer s) fun _ => Task.createsNone_deleteRecord id
  · simp only [if_neg own]
    exact Task.createsNone_deleteRecord id

theorem createsNone_status (cfg : Config) (id : Uuid) : (status cfg id).CreatesNone := by
  refine .bind (readOnly_get id).createsNone fun s => ?_
  refine .bind (readOnly_check cfg s).createsNone fun report => ?_
  cases report.evidence with
  | endpoint o => exact Task.createsNone_pure report
  | container r =>
    refine .bind Task.createsNone_readClock fun now => ?_
    split
    · exact Task.createsNone_pure report
    · exact .bind (Task.createsNone_updateRecord _).attempt fun _ => Task.createsNone_pure report

/-- Requests for which a container may be created. -/
def Request.isDefinition : Request → Bool
  | create _ _ _ => true
  | edit _ _ _ => true
  | _ => false

/-- **Only creating and editing an instance creates containers.** -/
theorem createsNone_request (other : q.isDefinition = false) : (q.task cfg).CreatesNone := by
  cases q with
  | create | edit => cases other
  | restart id => exact (createsNone_restart id).map _
  | disable id => exact (createsNone_setStatus id .inactive).map _
  | enable id => exact (createsNone_setStatus id .active).map _
  | delete id => exact (createsNone_delete id).map _
  | status id => exact (createsNone_status cfg id).map _
  | get id => exact (readOnly_get id).createsNone.map _
  | find name => exact (readOnly_findByName name).createsNone.map _
  | list => exact Task.readOnly_listRecords.createsNone.map _
  | describe id => exact (readOnly_describe id).createsNone.map _
  | logs id lines => exact (readOnly_logs cfg id lines).createsNone.map _

/-! ## 5. Notices of creating and editing -/

/-- Look-ups in front of a task are not noted. -/
theorem Task.ReadOnly.notices {t : Task α} {f : α → Task β} {r : Except Error β}
    {Q : List Notice → Prop} (ht : t.ReadOnly) (h : (t >>= f).Runs w xs r w') (none : Q [])
    (next : ∀ zs a, (f a).Runs w zs r w' → Q (notices zs)) : Q (notices xs) := by
  rcases Task.runs_bind.mp h with ⟨e, -, h'⟩ | ⟨ys, zs, a, w₁, rfl, ha, hf⟩
  · obtain ⟨-, still⟩ := ht.still h'
    rw [still.notices]
    exact none
  · obtain ⟨rfl, still⟩ := ht.still ha
    rw [notices_append, still.notices]
    exact next zs a hf

/-- A run that is refused at first creates nothing; of one that goes on only
    the rest is noted. -/
theorem RefusedOr.notices {t : Task α} {r : Except Error α} {Q : List Exchange → Prop}
    (runs : t.Runs w xs r w') (h : RefusedOr w xs r w' Q) :
    (w' = w ∧ ∀ n, .created n ∉ notices xs) ∨ ∃ zs, notices xs = notices zs ∧ Q zs := by
  rcases h with ⟨-, same, idle⟩ | ⟨ys, zs, rfl, still, reached⟩
  · obtain ⟨-, rfl⟩ := runs
    exact .inl ⟨same, uncreated_of_unmoved t fun x hx => (idle x hx).1⟩
  · refine .inr ⟨zs, ?_, reached⟩
    rw [notices_append, still.notices]
    rfl

/-- What a plan notes: the container that was created for it. -/
theorem runs_plan_notices {access : Access} {r : Except Error Revision}
    (h : (plan cfg id access d).Runs w xs r w') :
    RefusedOr w xs r w' fun zs => ∃ v, r = .ok v ∧ ∃ c, w' = { w with cluster := c } ∧
      Planned cfg w id d 0 access v c ∧
      notices zs = if access = .hosting then [.created (Deployment.containerName id 0)] else [] := by
  have passthrough (own : access ≠ .hosting)
      (h : (Task.ofExcept (passthroughRevision cfg.gateway access id d)
        fun e => e).Runs w xs r w') :
      RefusedOr w xs r w' fun zs => ∃ v, r = .ok v ∧ ∃ c, w' = { w with cluster := c } ∧
        Planned cfg w id d 0 access v c ∧
        notices zs =
          if access = .hosting then [.created (Deployment.containerName id 0)] else [] := by
    refine (refusedOr_ofExcept h).imp (fun e he => ⟨e, he⟩) ?_
    rintro zs ⟨rfl, rfl, v, judged, rfl⟩
    exact ⟨v, rfl, w'.cluster, rfl, .passthrough own judged, (if_neg own).symm⟩
  cases access with
  | direct | proxy => exact passthrough (by decide) h
  | hosting =>
    refine (readOnly_prepareHosting cfg id d 0).through h fun ys zs p hp h => ?_
    obtain ⟨s, hs, rfl⟩ := Task.runs_bind_pure.mp h
    obtain ⟨_, rfl, rfl, carried⟩ := Task.runs_createContainer hs
    cases carried with
    | done made =>
      obtain ⟨-, named⟩ := prepared_of_runs hp
      exact refusedOr_reached ⟨p.revision, rfl, _, rfl, .hosted hp made, by rw [← named]; rfl⟩
    | refused _ => exact refusedOr_refused rfl rfl (idle_single rfl)

/-- **A creation is refused and changes nothing, or goes on to create the
    container and to store the record.** -/
theorem runs_create {access : Access} {r : Except Error Instance}
    (h : (create cfg id access d).Runs w xs r w') :
    RefusedOr w xs r w' fun zs => ∃ v c answer, Planned cfg w id d 0 access v c ∧
      (∀ i, w.registry.findByName? v.name ≠ some i) ∧
      Written .create (·.create (.create id access v w.clock)) { w with cluster := c } answer w' ∧
      notices zs = if access = .hosting then [.created (Deployment.containerName id 0)] else [] := by
  refine (Task.readOnly_ofExcept _ _).through h fun _ _ name hname h => ?_
  refine (readOnly_ensureNameFree name none).through h fun _ _ _ hfree h => ?_
  refine .bind h (fun _ _ _ => runs_plan_notices) fun us zs v w₁ ⟨c, hw₁, planned, noted⟩ h => ?_
  subst hw₁
  obtain ⟨ys, rfl, hc⟩ := Task.runs_readClock_bind.mp h
  obtain ⟨s, hs, rfl⟩ := Task.runs_bind_pure.mp hc
  have e : name = v.name := Except.ok.inj ((mapError_eq_ok.mp
    (Task.runs_ofExcept.mp hname).2.1.symm).symm.trans planned.name)
  refine ⟨v, c, s, planned, fun i hi => ?_, Task.runs_createRecord hs, ?_⟩
  · rw [← e] at hi
    cases runs_ensureNameFree hfree hi
  · obtain ⟨rfl, -, -⟩ := Task.runs_ofCall.mp hs
    rw [notices_append, noted]
    exact List.append_nil _

/-- Nothing is noted, or a creation is. -/
def Begins (ns : List Notice) : Prop := ns = [] ∨ ∃ n, .created n ∈ ns

/-- Nothing is removed in an edit before a container is created. -/
theorem begins_revise {r : Except Error Revision} (h : (revise cfg s d).Runs w xs r w') :
    Begins (notices xs) := by
  unfold revise at h
  have passthrough {access : Access} (h : (Task.ofExcept
      (passthroughRevision cfg.gateway access s.id d) fun e => e).Runs w xs r w') :
      Begins (notices xs) := by
    obtain ⟨rfl, -, -⟩ := Task.runs_ofExcept.mp h
    exact .inl rfl
  cases own : s.access with
  | direct | proxy =>
    rw [own] at h
    exact passthrough h
  | hosting =>
    rw [own] at h
    refine (readOnly_prepareHosting cfg s.id d (nextGeneration s)).notices h (.inl rfl)
      fun zs p h => ?_
    rcases Task.runs_bind.mp h with ⟨e, -, hc⟩ | ⟨us, vs, _, w₂, rfl, hc, -⟩
    · obtain ⟨_, rfl, failed, carried⟩ := Task.runs_createContainer hc
      obtain ⟨-, _, rfl⟩ := carried.of_error failed
      exact .inl rfl
    · obtain ⟨_, rfl, granted, carried⟩ := Task.runs_createContainer hc
      obtain ⟨rfl, -⟩ := carried.of_ok granted
      exact .inr ⟨p.deployment.container, List.mem_cons_self⟩

theorem begins_edit {stated : Option Access} {r : Except Error Instance}
    (h : (edit cfg id stated d).Runs w xs r w') : Begins (notices xs) := by
  rw [edit_eq] at h
  refine (readOnly_get id).notices (Q := Begins) h (.inl rfl) fun _ s h => ?_
  refine (readOnly_ensureAccess stated s.access).notices (Q := Begins) h (.inl rfl) fun _ _ h => ?_
  refine (Task.readOnly_ofExcept _ _).notices (Q := Begins) h (.inl rfl) fun _ name h => ?_
  refine (readOnly_ensureNameFree name (some id)).notices (Q := Begins) h (.inl rfl)
    fun _ _ h => ?_
  rcases Task.runs_bind.mp h with ⟨e, -, hr⟩ | ⟨ys, zs, v, w₁, rfl, hr, hl⟩
  · exact begins_revise hr
  · obtain ⟨answer, rfl, -⟩ := runs_writeBack hl
    rw [notices_append]
    show Begins (notices ys ++ [])
    rw [List.append_nil]
    exact begins_revise hr

/-- What a replacement notes: the container that was created, and the replaced
    one if it could not be removed. -/
theorem notices_replaced (hk : s.container = some k) {dep : Deployment} {c : Cluster}
    {w₁ w₂ : World} :
    notices [⟨.createContainer dep, .ok (), w₁⟩,
      ⟨.deleteContainer s, (c.delete s).map fun _ => (), w₂⟩] =
    .created dep.container :: if (c.delete s).toBool then [] else [.kept k.name] := by
  cases c.delete s with
  | ok c' => rfl
  | error e =>
    have kept : Exchange.notice? ⟨.deleteContainer s, .error e, w₂⟩ = some (.kept k.name) := by
      show s.container.map _ = _
      rw [hk]
      rfl
    show notices ([⟨.createContainer dep, .ok (), w₁⟩] ++ [⟨.deleteContainer s, .error e, w₂⟩]) = _
    rw [notices_append, notices, notices, List.filterMap_cons_some kept]
    rfl

/-! ## 6. Ledgers -/

/-- What is noted when an incident happens. -/
def World.entries (w : World) : Incident → List (Request × Notice)
  | .event (.request cfg q) => (notices (Program.exchanges (q.task cfg) w)).map (q, ·)
  | _ => []

/-- **What is noted in a run**, in order. -/
def World.ledger (w : World) : List Incident → List (Request × Notice)
  | [] => []
  | x :: xs => w.entries x ++ (w.behind x).ledger xs

/-- The containers that were created. -/
def createdNames (l : List (Request × Notice)) : List String := l.filterMap (·.2.created?)

/-- The containers that were created for an instance. -/
def createdFor (id : Uuid) (l : List (Request × Notice)) : List String :=
  createdNames (l.filter (·.1.subject? = some id))

/-- The containers that edits of an instance failed to remove. -/
def leftBehind (id : Uuid) (l : List (Request × Notice)) : List String :=
  (l.filter fun e => e.1.isEdit ∧ e.1.subject? = some id).filterMap (·.2.kept?)

/-- Nothing was created, and no edit failed to remove anything. -/
structure Silent (l : List (Request × Notice)) : Prop where
  created : createdNames l = []
  left : ∀ id, leftBehind id l = []

theorem createdNames_append (l m : List (Request × Notice)) :
    createdNames (l ++ m) = createdNames l ++ createdNames m := List.filterMap_append

theorem createdFor_append (l m : List (Request × Notice)) :
    createdFor id (l ++ m) = createdFor id l ++ createdFor id m := by
  unfold createdFor
  rw [List.filter_append, createdNames_append]

theorem leftBehind_append (l m : List (Request × Notice)) :
    leftBehind id (l ++ m) = leftBehind id l ++ leftBehind id m := by
  unfold leftBehind
  rw [List.filter_append, List.filterMap_append]

theorem Silent.createdFor {l : List (Request × Notice)} (h : Silent l) : createdFor id l = [] := by
  refine List.filterMap_eq_nil_iff.mpr fun e he => ?_
  exact List.filterMap_eq_nil_iff.mp h.created e (List.mem_filter.mp he).1

theorem silent_nil : Silent [] := ⟨rfl, fun _ => rfl⟩

/-- A request that creates nothing is silent, unless it is an edit that notes
    something else. -/
theorem silent_map {ns : List Notice} (uncreated : ∀ n, .created n ∉ ns)
    (edits : q.isEdit → ns = []) : Silent (ns.map (q, ·)) where
  created := by
    refine List.filterMap_eq_nil_iff.mpr fun e he => ?_
    obtain ⟨n, hn, rfl⟩ := List.mem_map.mp he
    cases n with
    | created n => exact absurd hn (uncreated n)
    | kept n => rfl
  left id := by
    cases edit : q.isEdit with
    | true =>
      rw [edits edit]
      rfl
    | false =>
      refine List.filterMap_eq_nil_iff.mpr fun e he => ?_
      obtain ⟨there, asked⟩ := List.mem_filter.mp he
      obtain ⟨n, -, rfl⟩ := List.mem_map.mp there
      simp [edit] at asked

end Fleet

end McpFleet
