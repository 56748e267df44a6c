/-
  File:      McpFleet/Proofs/Fleet/Retry.lean
  Subject:   What an edit that was interrupted means for the next one.

  An edit creates the replacement before it writes the record back. If the
  record was not written, because the store refused it or because the edit was
  cut off before, the record still has the old generation. The same edit then
  plans the same container again, and the cluster refuses to create it: the
  replacement of the first attempt has the name (`retry_refused`). Nothing but
  this container is in the way (`retry_accepted`).
-/
import McpFleet.Proofs.Fleet.Acceptance
import McpFleet.Proofs.Fleet.Ledger

namespace McpFleet

/-- Nothing is created under a name in use. -/
theorem Cluster.create_taken {c : Cluster} {dep : Deployment} (working : c.failing .create = false)
    (there : c.source? dep.container ≠ none) :
    c.create dep = .error (.alreadyExists dep.container) := by
  have taken : c.containers.contains dep.container = true := by
    unfold Dict.contains
    cases found : c.containers.get? dep.container with
    | some rc => rfl
    | none =>
      unfold Cluster.source? at there
      rw [found] at there
      exact absurd rfl there
  unfold Cluster.create Cluster.check
  rw [working, taken]
  rfl

namespace Fleet

variable {cfg : Config} {w w' : World} {id : Uuid} {stated : Option Access} {d : Definition}
  {s : Instance} {k : Hosting.Container} {p : HostingPlan} {c : Cluster} {xs : List Exchange}

-- The checks of a name stay closed: no argument here looks into them.
attribute [local irreducible] Text.trim

/-! ## 1. The checks of an edit -/

/-- What an edit checks before it makes a plan; gives the stored instance. -/
def vet (id : Uuid) (stated : Option Access) (d : Definition) : Task Instance := do
  let stored ← get id
  ensureAccess stated stored.access
  let name ← Task.ofExcept (InstanceName.ofText d.name) .domain
  ensureNameFree name (some id)
  pure stored

/-- The instance is stored, a stated access is its own, and the name is fit and
    nobody else's. -/
structure Vetted (r : Registry) (id : Uuid) (stated : Option Access) (d : Definition)
    (s : Instance) : Prop where
  stored : r.find? id = some s
  own : stated = none ∨ stated = some s.access
  named : ∃ name, InstanceName.ofText d.name = .ok name ∧
    ∀ i, r.findByName? name = some i → some id = some i.id

theorem edit_eq_vet (cfg : Config) (id : Uuid) (stated : Option Access) (d : Definition) :
    edit cfg id stated d = (do
      let stored ← vet id stated d
      let revision ← revise cfg stored d
      let now ← Task.readClock
      Task.updateRecord (stored.revise revision now)
      pure (stored.revise revision now)) := by
  rw [edit_eq]
  unfold vet
  simp only [bind_assoc, pure_bind]

theorem readOnly_vet (id : Uuid) (stated : Option Access) (d : Definition) :
    (vet id stated d).ReadOnly := by
  refine .bind (readOnly_get id) fun s => ?_
  refine .bind (readOnly_ensureAccess stated s.access) fun _ => ?_
  refine .bind (Task.readOnly_ofExcept _ _) fun name => ?_
  exact .bind (readOnly_ensureNameFree name (some id)) fun _ => Task.readOnly_pure s

/-- **The checks pass** exactly for what is vetted, when the look-ups work. -/
theorem yields_vet : (vet id stated d).Yields w s w' ↔
    w.storeFailing .findById = false ∧ w.storeFailing .findByName = false ∧
      Vetted w.registry id stated d s ∧ w' = w := by
  unfold vet
  constructor
  · intro h
    obtain ⟨i, w₁, found, h₁⟩ := Task.yields_bind.mp h
    obtain ⟨answers, stored, rfl⟩ := yields_get.mp found
    obtain ⟨_, w₂, compared, h₂⟩ := Task.yields_bind.mp h₁
    obtain ⟨own, rfl⟩ := yields_ensureAccess.mp compared
    obtain ⟨name, w₃, judged, h₃⟩ := Task.yields_bind.mp h₂
    obtain ⟨named, rfl⟩ := Task.yields_ofExcept.mp judged
    obtain ⟨_, w₄, checked, h₄⟩ := Task.yields_bind.mp h₃
    obtain ⟨answers', free, rfl⟩ := yields_ensureNameFree.mp checked
    obtain ⟨rfl, rfl⟩ := Task.yields_pure.mp h₄
    exact ⟨answers, answers', ⟨stored, own, name, named, free⟩, rfl⟩
  · intro parts
    obtain ⟨answers, answers', ⟨stored, own, name, named, free⟩, rfl⟩ := parts
    refine Task.yields_bind.mpr ⟨s, w', yields_get.mpr ⟨answers, stored, rfl⟩, ?_⟩
    refine Task.yields_bind.mpr ⟨(), w', yields_ensureAccess.mpr ⟨own, rfl⟩, ?_⟩
    refine Task.yields_bind.mpr ⟨name, w', Task.yields_ofExcept.mpr ⟨named, rfl⟩, ?_⟩
    refine Task.yields_bind.mpr ⟨(), w', yields_ensureNameFree.mpr ⟨answers', free, rfl⟩, ?_⟩
    exact Task.yields_pure.mpr ⟨rfl, rfl⟩

/-- An edit that creates a container has passed its checks. -/
theorem vetted_of_created {r : Except Error Instance} {n : String}
    (h : (edit cfg id stated d).Runs w xs r w') (created : .created n ∈ notices xs) :
    ∃ s, Vetted w.registry id stated d s := by
  rw [edit_eq_vet] at h
  rcases Task.runs_bind.mp h with ⟨e, -, refused⟩ | ⟨ys, zs, s, w₁, -, passed, -⟩
  · obtain ⟨-, still⟩ := (readOnly_vet id stated d).still refused
    rw [still.notices] at created
    cases created
  · obtain ⟨-, -, vetted, -⟩ := yields_vet.mp (Task.yields_iff_runs.mpr ⟨ys, passed⟩)
    exact ⟨s, vetted⟩

/-! ## 2. Interrupted edits -/

/-- The calls of an edit up to some point: a container was created, and no
    record was written. -/
structure Interrupted (calls : List Exchange) : Prop where
  begun : ∃ n, .created n ∈ notices calls
  unrecorded : calls.any Exchange.recorded = false

/-- **What an interrupted edit leaves**: the replacement is there, the replaced
    container may be gone, and nothing else has changed. -/
structure Remains (cfg : Config) (w : World) (id : Uuid) (stated : Option Access) (d : Definition)
    (s : Instance) (p : HostingPlan) (left : World) : Prop where
  vetted : Vetted w.registry id stated d s
  prepared : Prepared cfg w.directory id d (nextGeneration s) p
  named : p.deployment.container = Deployment.containerName id (nextGeneration s)
  frame : left = { w with cluster := left.cluster }
  there : left.cluster.source? p.deployment.container ≠ none

/-- Behind any call of an edit that created a container and wrote no record. -/
theorem Interrupted.remains {allowed : Config → Prop} {calm fresh : Prop} {used : List Uuid}
    (h : Filed allowed calm fresh used w) (stored : w.registry.find? id = some s)
    (hk : s.container = some k) (inner : k.generation < lastGeneration)
    {r : Except Error Instance} (runs : (edit cfg id stated d).Runs w xs r w')
    {done rest : List Exchange} {x : Exchange} (cut : xs = done ++ x :: rest)
    (interrupted : Interrupted (done ++ [x])) : ∃ p, Remains cfg w id stated d s p x.after := by
  obtain ⟨n, created⟩ := interrupted.begun
  obtain rfl : s.id = id := h.exact.key stored
  obtain ⟨name, own⟩ := h.named stored hk
  have apart := UInt32.ne_of_lt ((lt_nextGeneration_iff hk).mpr inner)
  have whole : xs = (done ++ [x]) ++ rest := by rw [cut, List.append_assoc]; rfl
  have noted : .created n ∈ notices xs := by
    rw [whole, notices_append]
    exact List.mem_append_left _ created
  obtain ⟨s', vetted⟩ := vetted_of_created runs noted
  obtain rfl : s = s' := Option.some.inj (stored.symm.trans vetted.stored)
  rcases runs_edit runs with ⟨-, rfl, idle⟩ |
    ⟨ys, zs, parts, still, s', v, us, w₁, answer, stored', e, -⟩
  · obtain ⟨-, rfl⟩ := runs
    exact absurd noted (uncreated_of_unmoved _ (fun y hy => (idle y hy).1) n)
  · obtain rfl : s = s' := Option.some.inj (stored.symm.trans stored')
    rw [parts] at cut
    rcases cut_append cut with ⟨vs, rfl⟩ | ⟨vs, rfl, hzs⟩
    · -- cut off between the look-ups, where nothing is created
      have quiet : Still w (done ++ [x]) := fun y hy => still y (by
        rcases List.mem_append.mp hy with before | last
        · exact List.mem_append_left _ before
        · rw [List.mem_singleton.mp last]
          exact List.mem_append_right _ List.mem_cons_self)
      rw [quiet.notices] at created
      cases created
    · have written := e.written
      have replaced := e.replaced
      rw [e.exchanges] at hzs
      cases replaced with
      | passthrough other judged => exact absurd own other
      | @hosted p _ c _ prepared made =>
        obtain ⟨ready, named⟩ := prepared_of_runs prepared
        have there : c.source? p.deployment.container ≠ none := by
          rw [Cluster.source?_create made, if_pos rfl]
          exact Option.some_ne_none _
        have stays : (discard c s).source? p.deployment.container ≠ none := by
          rwa [source?_discard hk]
          rw [name, named]
          exact fun e => apart (Deployment.containerName_inj.mp e).2
        have remains {c' : Cluster} (there : c'.source? p.deployment.container ≠ none) :
            Remains cfg w s.id stated d s p { w with cluster := c' } :=
          ⟨vetted, ready, named, rfl, there⟩
        rcases cut_four hzs with ⟨rfl, rfl⟩ | ⟨rfl, rfl⟩ | ⟨rfl, rfl⟩ | ⟨rfl, rfl⟩
        · exact ⟨p, remains there⟩
        · exact ⟨p, remains stays⟩
        · exact ⟨p, remains stays⟩
        · cases answer with
          | error x =>
            cases written
            exact ⟨p, remains stays⟩
          | ok _ =>
            have recorded := interrupted.unrecorded
            simp [Exchange.recorded] at recorded

/-! ## 3. The next edit -/

/-- The same state with nothing made to fail. -/
def World.calmed (w : World) : World :=
  { w with
    storeFailing := fun _ => false
    cluster := { w.cluster with failing := fun _ => false } }

/-- The same state without a container. -/
def World.without (w : World) (n : String) : World :=
  { w with cluster := { w.cluster with containers := w.cluster.containers.erase n } }

/-- A container that the cluster does not create leaves the state alone. -/
theorem Task.runs_createContainer_of_error {dep : Deployment} {e : ClusterError}
    (refused : w.cluster.create dep = .error e) :
    ∃ us, (createContainer dep).Runs w us (.error (.cluster e)) w := by
  have answer : w.answer (.createContainer dep) = (.error e, w) := by
    show w.withCluster (fun c => (c.create dep).map ((), ·)) = _
    unfold World.withCluster
    dsimp only
    rw [refused]
    rfl
  refine ⟨_, runs_ofCall.mpr ⟨rfl, ?_, ?_⟩⟩
  · rw [Program.run_ask, answer]
    rfl
  · rw [Program.run_ask, answer]

/-- **The retry is refused**: it plans the container that is there. -/
theorem Remains.retry_refused {left : World} (h : Remains cfg w id stated d s p left)
    (own : s.access = .hosting) (hid : s.id = id) :
    left.calmed.serve cfg (.edit id stated d) =
      (.error (.cluster (.alreadyExists p.deployment.container)), left.calmed) := by
  have registry : left.calmed.registry = w.registry := by
    show left.registry = _
    rw [h.frame]
  have directory : left.calmed.directory = w.directory := by
    show left.directory = _
    rw [h.frame]
  obtain ⟨ys, checks⟩ := Task.yields_iff_runs.mp
    (yields_vet.mpr ⟨rfl, rfl, registry ▸ h.vetted, rfl⟩ :
      (vet id stated d).Yields left.calmed s left.calmed)
  obtain ⟨zs, plans⟩ := Task.yields_iff_runs.mp
    (yields_prepareHosting.mpr ⟨directory ▸ h.prepared, rfl⟩ :
      (prepareHosting cfg id d (nextGeneration s)).Yields left.calmed p left.calmed)
  have taken : left.calmed.cluster.create p.deployment =
      .error (.alreadyExists p.deployment.container) := Cluster.create_taken rfl h.there
  obtain ⟨us, creates⟩ := Task.runs_createContainer_of_error taken
  have refused : (revise cfg s d).Runs left.calmed (zs ++ us)
      (.error (.cluster (.alreadyExists p.deployment.container))) left.calmed := by
    unfold revise
    rw [own, hid]
    refine Task.runs_bind.mpr (.inr ⟨zs, us, p, _, rfl, plans, ?_⟩)
    exact Task.runs_bind.mpr (.inl ⟨_, rfl, creates⟩)
  have runs : (edit cfg id stated d).Runs left.calmed (ys ++ (zs ++ us))
      (.error (.cluster (.alreadyExists p.deployment.container))) left.calmed := by
    rw [edit_eq_vet]
    refine Task.runs_bind.mpr (.inr ⟨ys, zs ++ us, s, _, rfl, checks, ?_⟩)
    exact Task.runs_bind.mpr (.inl ⟨_, rfl, refused⟩)
  exact (Task.runs_map.mpr ⟨_, runs, rfl⟩).1

/-- **Nothing else is in its way**: without that container the same edit
    succeeds. -/
theorem Remains.retry_accepted {left : World} (h : Remains cfg w id stated d s p left)
    (exact : w.registry.Exact) (own : s.access = .hosting) :
    (left.calmed.without p.deployment.container).Accepts cfg (.edit id stated d) := by
  have registry : (left.calmed.without p.deployment.container).registry = w.registry := by
    show left.registry = _
    rw [h.frame]
  have directory : (left.calmed.without p.deployment.container).directory = w.directory := by
    show left.directory = _
    rw [h.frame]
  have steady : Steady (left.calmed.without p.deployment.container) := ⟨rfl, registry ▸ exact⟩
  have vetted : Vetted (left.calmed.without p.deployment.container).registry id stated d s :=
    registry ▸ h.vetted
  obtain ⟨stored, access, name, named, free⟩ := vetted
  obtain ⟨zs, plans⟩ := Task.yields_iff_runs.mp
    (yields_prepareHosting.mpr ⟨directory ▸ h.prepared, rfl⟩ :
      (prepareHosting cfg id d (nextGeneration s)).Yields
        (left.calmed.without p.deployment.container) p
        (left.calmed.without p.deployment.container))
  obtain ⟨c, made⟩ : ∃ c, (left.calmed.without p.deployment.container).cluster.create
      p.deployment = .ok c :=
    ⟨_, Cluster.create_eq_ok.mpr ⟨rfl, Dict.get?_erase_self _ _, rfl⟩⟩
  rw [accepts_iff (f := .stored) rfl, succeeds_edit steady]
  refine ⟨s, stored, access, name, named, free, p.revision, c, ?_⟩
  rw [own]
  exact .hosted plans made

/-- **An interrupted edit stands in the way of the next one.** In every state
    that a run reaches, whatever has failed in it, take an edit of a hosted
    instance whose container is not of the last generation, and cut it off
    behind any call, or let any call fail: if a container was created for it
    and the record was not written, then the record is the old one, the
    replacement is there, and the same edit made again, with nothing made to
    fail, is refused by the cluster and changes nothing. Without the
    replacement it succeeds. -/
theorem interrupted_edit_blocks_retry {clock : Instant} {probe : String → ProbeOutcome}
    {xs : List Incident} {cfg : Config} {id : Uuid} {stated : Option Access} {d : Definition}
    {s : Instance} {k : Hosting.Container} :
    let w := (World.empty clock probe).course xs
    w.registry.find? id = some s → s.container = some k → k.generation < lastGeneration →
    ∀ done x rest, Program.exchanges ((Request.edit id stated d).task cfg) w = done ++ x :: rest →
      Interrupted (done ++ [x]) →
      let left := x.after.calmed
      let name := Deployment.containerName id (nextGeneration s)
      left.registry.find? id = some s ∧ name ∈ left.cluster.names ∧
      left.serve cfg (.edit id stated d) = (.error (.cluster (.alreadyExists name)), left) ∧
      (left.without name).Accepts cfg (.edit id stated d) := by
  intro w stored hk inner done x rest cut interrupted left name
  have filed : Filed (fun _ => True) False False (drawnBy xs) w :=
    (filed_empty _ _ _ clock probe).course xs (fun _ _ _ => trivial) False.elim False.elim
  obtain ⟨-, own⟩ := filed.named stored hk
  have hid : s.id = id := filed.exact.key stored
  obtain ⟨r, runs, -⟩ := Task.runs_map.mp (Task.runs_self ((Request.edit id stated d).task cfg) w)
  obtain ⟨p, remains⟩ := interrupted.remains filed stored hk inner runs cut
  have named : p.deployment.container = name := remains.named
  refine ⟨?_, ?_, ?_, ?_⟩
  · show x.after.registry.find? id = some s
    rw [remains.frame]
    exact stored
  · rw [← named]
    exact Cluster.mem_names.mpr remains.there
  · rw [← named]
    exact remains.retry_refused own hid
  · rw [← named]
    exact remains.retry_accepted filed.exact own

/-- A hosted instance is stored, and the store refuses to write records. -/
def sampleUnsaved : List Incident := sampleHosted.map .event ++ [.storeOutage .update true]

/-- The calls of an edit there; the last one is refused. -/
def sampleCut : List Exchange :=
  Program.exchanges ((Request.edit ⟨7⟩ none (sampleDefinition "search-2")).task .default)
    (sampleStart.course sampleUnsaved)

theorem sampleCut_ne_nil : sampleCut ≠ [] := List.ne_nil_of_length_pos (by decide +kernel)

theorem sampleCut_eq : sampleCut = sampleCut.dropLast ++ sampleCut.getLast sampleCut_ne_nil :: [] :=
  (List.dropLast_concat_getLast sampleCut_ne_nil).symm

theorem sampleUnsaved_stored : ∃ s k,
    (sampleStart.course sampleUnsaved).registry.find? ⟨7⟩ = some s ∧ s.container = some k ∧
      k.generation = 0 :=
  generation?_eq_some.mp (by decide +kernel)

theorem interrupted_sampleCut :
    Interrupted (sampleCut.dropLast ++ [sampleCut.getLast sampleCut_ne_nil]) := by
  rw [List.dropLast_concat_getLast]
  exact ⟨⟨"mcp-00000000000000000000000000000007-1", by decide +kernel⟩, by decide +kernel⟩

/-- The first edit created the replacement and removed the replaced container,
    and the record could not be written. -/
theorem interrupted_edit_blocks_retry_sampleCut :
    Interrupted (sampleCut.dropLast ++ [sampleCut.getLast sampleCut_ne_nil]) ∧
    ∃ s, (sampleStart.course sampleUnsaved).registry.find? ⟨7⟩ = some s ∧
      let left := (sampleCut.getLast sampleCut_ne_nil).after.calmed
      let name := Deployment.containerName ⟨7⟩ (nextGeneration s)
      left.registry.find? ⟨7⟩ = some s ∧ name ∈ left.cluster.names ∧
      left.serve .default (.edit ⟨7⟩ none (sampleDefinition "search-2")) =
        (.error (.cluster (.alreadyExists name)), left) ∧
      (left.without name).Accepts .default (.edit ⟨7⟩ none (sampleDefinition "search-2")) := by
  obtain ⟨s, k, stored, hk, generation⟩ := sampleUnsaved_stored
  have inner : k.generation < lastGeneration := by
    rw [generation]
    decide
  exact ⟨interrupted_sampleCut, s, stored, interrupted_edit_blocks_retry stored hk inner _ _ _
    sampleCut_eq interrupted_sampleCut⟩

/-- **The next edit does not succeed**, though the first one did all its work
    in the cluster and nothing fails any more. -/
theorem interrupted_edit_not_retried :
    ¬ ∀ (xs : List Incident), NewIds xs → ∀ (cfg : Config) (id : Uuid) (stated : Option Access)
      (d : Definition) (s : Instance) (k : Hosting.Container),
      let w := sampleStart.course xs
      w.registry.find? id = some s → s.container = some k → k.generation.toNat < 2 ^ 32 - 2 →
      ∀ done x rest,
        Program.exchanges ((Request.edit id stated d).task cfg) w = done ++ x :: rest →
        (done ++ [x]).any Exchange.removed → (done ++ [x]).any Exchange.recorded = false →
        x.after.calmed.Accepts cfg (.edit id stated d) := by
  intro always
  obtain ⟨s, k, stored, hk, generation⟩ := sampleUnsaved_stored
  have low : k.generation.toNat < 2 ^ 32 - 2 := by
    rw [generation]
    decide
  have removed : (sampleCut.dropLast ++ [sampleCut.getLast sampleCut_ne_nil]).any
      Exchange.removed := by
    rw [List.dropLast_concat_getLast]
    decide +kernel
  obtain ⟨reply, ok⟩ := always sampleUnsaved (by decide +kernel) .default ⟨7⟩ none
    (sampleDefinition "search-2") s k stored hk low _ _ _ sampleCut_eq removed
    interrupted_sampleCut.unrecorded
  have refused : ((sampleCut.getLast sampleCut_ne_nil).after.calmed.serve .default
      (.edit ⟨7⟩ none (sampleDefinition "search-2"))).1.toBool = false := by decide +kernel
  rw [ok] at refused
  cases refused

end Fleet

end McpFleet
