/-
  File:      McpFleet/Proofs/Fleet/Calls.lean
  Subject:   Runs of tasks that make one call.

  Looking something up gives what is there, unless the store was made to fail.
  A change of the registry or of the cluster is made as a whole, or is refused
  and changes nothing; a refusal of the registry has its reason in the
  registry unless it was made to fail.

  The last part says of each call when it succeeds, and with what.
-/
import McpFleet.Proofs.Checks
import McpFleet.Proofs.Fleet.Exchange

namespace McpFleet.Fleet

/-! ## 1. Answers -/

namespace World

/-- Operations of the store that are made to fail are refused. -/
def injected (operation : StoreOperation) : StoreError :=
  .persistence ("injected " ++ operation.name ++ " failure")

theorem withRegistry_find {α : Type} (w : World) (operation : StoreOperation)
    (f : Registry → α) :
    w.withRegistry operation (fun r => .ok (f r, r)) =
      (if w.storeFailing operation then .error (injected operation)
        else .ok (f w.registry), w) := by
  unfold withRegistry
  split <;> rfl

end World

/-- A change of the registry is made, or is refused and changes nothing. -/
inductive Written (operation : StoreOperation) (change : Registry → Except StoreError Registry)
    (w : World) : Except Error Unit → World → Prop where
  | made {r : Registry} (h : change w.registry = .ok r) :
    Written operation change w (.ok ()) { w with registry := r }
  | refused {e : StoreError} (h : w.storeFailing operation = false → change w.registry = .error e) :
    Written operation change w (.error (.store e)) w

theorem written_withRegistry (w : World) (operation : StoreOperation)
    (change : Registry → Except StoreError Registry) :
    Written operation change w
      ((w.withRegistry operation fun r => (change r).map ((), ·)).1.mapError .store)
      (w.withRegistry operation fun r => (change r).map ((), ·)).2 := by
  unfold World.withRegistry
  split
  · rename_i failing
    exact .refused fun h => nomatch failing.symm.trans h
  · dsimp only
    cases h : change w.registry with
    | ok r => exact .made h
    | error e => exact .refused fun _ => h

/-- A look-up in the registry gives what is there, unless it is made to
    fail. -/
theorem lookedUp_withRegistry {α : Type} (w : World) (operation : StoreOperation)
    (f : Registry → α) :
    let r := (w.withRegistry operation fun r => .ok (f r, r)).1.mapError Error.store
    r = .ok (f w.registry) ∨ (w.storeFailing operation ∧ ∃ e, r = .error e) := by
  intro r
  simp only [r, World.withRegistry_find]
  cases w.storeFailing operation with
  | true => exact .inr ⟨rfl, _, rfl⟩
  | false => exact .inl rfl

/-- A change of the cluster is carried out, or is refused and changes
    nothing. -/
inductive CarriedOut (change : Cluster → Except ClusterError Cluster) (w : World) :
    Except ClusterError Unit → World → Prop where
  | done {c : Cluster} (h : change w.cluster = .ok c) :
    CarriedOut change w (.ok ()) { w with cluster := c }
  | refused {e : ClusterError} (h : change w.cluster = .error e) :
    CarriedOut change w (.error e) w

theorem carriedOut_withCluster (w : World) (change : Cluster → Except ClusterError Cluster) :
    CarriedOut change w (w.withCluster fun c => (change c).map ((), ·)).1
      (w.withCluster fun c => (change c).map ((), ·)).2 := by
  unfold World.withCluster
  dsimp only
  cases h : change w.cluster with
  | ok c => exact .done h
  | error e => exact .refused h

section Carried

variable {change : Cluster → Except ClusterError Cluster} {w w' : World}
  {answer : Except ClusterError Unit} {wrap : ClusterError → Error}

/-- What succeeded was carried out. -/
theorem CarriedOut.of_ok (h : CarriedOut change w answer w') {a : Unit}
    (e : .ok a = answer.mapError wrap) :
    answer = .ok () ∧ ∃ c, change w.cluster = .ok c ∧ w' = { w with cluster := c } := by
  cases h with
  | done made => exact ⟨rfl, _, made, rfl⟩
  | refused _ => cases e

/-- What failed changed nothing. -/
theorem CarriedOut.of_error (h : CarriedOut change w answer w') {x : Error}
    (e : .error x = answer.mapError wrap) : w' = w ∧ ∃ c, answer = .error c := by
  cases h with
  | done _ => cases e
  | refused _ => exact ⟨rfl, _, rfl⟩

end Carried

namespace Task

variable {α ε : Type} {w w' : World} {xs : List Exchange}

/-! ## 2. Tasks of one call -/

theorem runs_ofCall {p : Program (Except ε α)} {wrap : ε → Error} {r : Except Error α} :
    (ofCall p wrap).Runs w xs r w' ↔
      xs = p.exchanges w ∧ r = (p.run w).1.mapError wrap ∧ w' = (p.run w).2 := by
  have e : (ofCall p wrap : Task α) = Program.bind p fun a => .done (a.mapError wrap) := rfl
  unfold Runs runIn
  rw [e, Program.run_bind, Program.exchanges_bind]
  simp [Program.exchanges, Prod.ext_iff, eq_comm, and_comm]

theorem runs_ofExcept {e : Except ε α} {wrap : ε → Error} {r : Except Error α} :
    (ofExcept e wrap).Runs w xs r w' ↔ xs = [] ∧ r = e.mapError wrap ∧ w' = w := by
  constructor
  · intro parts
    obtain ⟨h, rfl⟩ := parts
    cases h
    exact ⟨rfl, rfl, rfl⟩
  · intro parts
    obtain ⟨rfl, rfl, rfl⟩ := parts
    exact ⟨rfl, rfl⟩

/-- An attempt makes the same calls and is never refused. -/
theorem runs_attempt {t : Task α} {r : Except Error (Except Error α)} :
    t.attempt.Runs w xs r w' ↔ ∃ s, r = .ok s ∧ t.Runs w xs s w' := by
  have e : (t.attempt : Task (Except Error α)) = Program.bind t fun s => .done (.ok s) := rfl
  unfold Runs runIn
  rw [e, Program.run_bind, Program.exchanges_bind]
  simp only [Program.run_done, Program.exchanges, List.append_nil, Prod.ext_iff]
  constructor
  · intro parts
    obtain ⟨⟨rfl, rfl⟩, rfl⟩ := parts
    exact ⟨_, rfl, ⟨rfl, rfl⟩, rfl⟩
  · intro parts
    obtain ⟨s, rfl, ⟨rfl, rfl⟩, rfl⟩ := parts
    exact ⟨⟨rfl, rfl⟩, rfl⟩

/-! ## 3. Looking things up -/

theorem runs_findRecord {id : Uuid} {r : Except Error (Option Instance)}
    (h : (findRecord id).Runs w xs r w') :
    r = .ok (w.registry.find? id) ∨ (w.storeFailing .findById ∧ ∃ e, r = .error e) := by
  obtain ⟨-, rfl, -⟩ := runs_ofCall.mp h
  exact lookedUp_withRegistry w .findById (·.find? id)

theorem runs_findRecordByName {name : InstanceName} {r : Except Error (Option Instance)}
    (h : (findRecordByName name).Runs w xs r w') :
    r = .ok (w.registry.findByName? name) ∨ (w.storeFailing .findByName ∧ ∃ e, r = .error e) := by
  obtain ⟨-, rfl, -⟩ := runs_ofCall.mp h
  exact lookedUp_withRegistry w .findByName (·.findByName? name)

theorem runs_containerStatus {i : Instance} {r : Except Error StatusReport}
    (h : (containerStatus i).Runs w xs r w') : r = (w.cluster.status i).mapError .cluster :=
  (runs_ofCall.mp h).2.1

theorem runs_readClock {r : Except Error Instant} :
    readClock.Runs w xs r w' ↔ xs = [⟨.readClock, w.clock, w⟩] ∧ r = .ok w.clock ∧ w' = w := by
  constructor
  · intro parts
    obtain ⟨h, rfl⟩ := parts
    cases h
    exact ⟨rfl, rfl, rfl⟩
  · intro parts
    obtain ⟨rfl, rfl, rfl⟩ := parts
    exact ⟨rfl, rfl⟩

theorem runs_readClock_bind {f : Instant → Task α} {r : Except Error α} :
    (readClock >>= f).Runs w xs r w' ↔
      ∃ zs, xs = ⟨.readClock, w.clock, w⟩ :: zs ∧ (f w.clock).Runs w zs r w' := by
  rw [runs_bind]
  constructor
  · intro ways
    rcases ways with ⟨e, -, h⟩ | ⟨ys, zs, a, w₁, rfl, h, hf⟩
    · cases (runs_readClock.mp h).2.1
    · obtain ⟨rfl, ha, rfl⟩ := runs_readClock.mp h
      cases ha
      exact ⟨zs, rfl, hf⟩
  · intro parts
    obtain ⟨zs, rfl, hf⟩ := parts
    exact .inr ⟨_, zs, _, _, rfl, runs_readClock.mpr ⟨rfl, rfl, rfl⟩, hf⟩

/-! ## 4. Changing the registry -/

theorem runs_createRecord {i : Instance} {r : Except Error Unit}
    (h : (createRecord i).Runs w xs r w') : Written .create (·.create i) w r w' := by
  obtain ⟨-, rfl, rfl⟩ := runs_ofCall.mp h
  exact written_withRegistry w .create (·.create i)

theorem runs_updateRecord {i : Instance} {r : Except Error Unit}
    (h : (updateRecord i).Runs w xs r w') :
    ∃ answer : Except StoreError Unit, xs = [⟨.updateRecord i, answer, w'⟩] ∧
      r = answer.mapError .store ∧ Written .update (·.update i) w r w' := by
  obtain ⟨rfl, rfl, rfl⟩ := runs_ofCall.mp h
  exact ⟨_, rfl, rfl, written_withRegistry w .update (·.update i)⟩

theorem runs_deleteRecord {id : Uuid} {r : Except Error Unit}
    (h : (deleteRecord id).Runs w xs r w') : Written .delete (·.delete id) w r w' := by
  obtain ⟨-, rfl, rfl⟩ := runs_ofCall.mp h
  exact written_withRegistry w .delete (·.delete id)

/-! ## 5. Changing the cluster -/

theorem runs_createContainer {d : Deployment} {r : Except Error Unit}
    (h : (createContainer d).Runs w xs r w') :
    ∃ answer : Except ClusterError Unit, xs = [⟨.createContainer d, answer, w'⟩] ∧
      r = answer.mapError .cluster ∧ CarriedOut (·.create d) w answer w' := by
  obtain ⟨rfl, rfl, rfl⟩ := runs_ofCall.mp h
  exact ⟨_, rfl, rfl, carriedOut_withCluster w (·.create d)⟩

theorem runs_deleteContainer {i : Instance} {r : Except Error Unit}
    (h : (deleteContainer i).Runs w xs r w') :
    ∃ answer : Except ClusterError Unit, xs = [⟨.deleteContainer i, answer, w'⟩] ∧
      r = answer.mapError .cluster ∧ CarriedOut (·.delete i) w answer w' := by
  obtain ⟨rfl, rfl, rfl⟩ := runs_ofCall.mp h
  exact ⟨_, rfl, rfl, carriedOut_withCluster w (·.delete i)⟩

theorem runs_restartContainer {i : Instance} {r : Except Error String}
    (h : (restartContainer i).Runs w xs r w') :
    (∃ m c, w.cluster.restart i = .ok (m, c) ∧ xs = [⟨.restartContainer i, .ok m, w'⟩] ∧
      r = .ok m ∧ w' = { w with cluster := c }) ∨
    (∃ e, w.cluster.restart i = .error e ∧ xs = [⟨.restartContainer i, .error e, w'⟩] ∧
      r = .error (.cluster e) ∧ w' = w) := by
  obtain ⟨rfl, rfl, rfl⟩ := runs_ofCall.mp h
  simp only [Program.exchanges, Program.ask, Program.run, World.answer, World.withCluster]
  cases w.cluster.restart i with
  | ok p => exact .inl ⟨p.1, p.2, rfl, rfl, rfl, rfl⟩
  | error e => exact .inr ⟨e, rfl, rfl, rfl, rfl⟩

/-! ## 6. Calls that succeed -/

theorem yields_ofExcept {e : Except ε α} {wrap : ε → Error} {a : α} :
    (ofExcept e wrap).Yields w a w' ↔ e = .ok a ∧ w' = w := by
  rw [yields_iff_runs]
  simp only [runs_ofExcept, exists_eq_left]
  rw [eq_comm, mapError_eq_ok]

theorem yields_ofCall {p : Program (Except ε α)} {wrap : ε → Error} {a : α} :
    (ofCall p wrap).Yields w a w' ↔ p.run w = (.ok a, w') := by
  rw [yields_iff_runs]
  simp only [runs_ofCall, exists_eq_left]
  rw [eq_comm, mapError_eq_ok, Prod.ext_iff, eq_comm (a := w')]

/-- Looking something up in the registry succeeds with what is there. -/
theorem yields_withRegistry_find (operation : StoreOperation) (f : Registry → α) {a : α} :
    w.withRegistry operation (fun r => .ok (f r, r)) = (.ok a, w') ↔
      w.storeFailing operation = false ∧ f w.registry = a ∧ w' = w := by
  rw [World.withRegistry_find]
  cases w.storeFailing operation <;> simp [eq_comm]

theorem yields_findRecord {id : Uuid} {found : Option Instance} :
    (findRecord id).Yields w found w' ↔
      w.storeFailing .findById = false ∧ w.registry.find? id = found ∧ w' = w := by
  unfold findRecord
  rw [yields_ofCall]
  exact yields_withRegistry_find .findById (·.find? id)

theorem yields_findRecordByName {name : InstanceName} {found : Option Instance} :
    (findRecordByName name).Yields w found w' ↔
      w.storeFailing .findByName = false ∧ w.registry.findByName? name = found ∧ w' = w := by
  unfold findRecordByName
  rw [yields_ofCall]
  exact yields_withRegistry_find .findByName (·.findByName? name)

theorem yields_listRecords {is : List Instance} :
    listRecords.Yields w is w' ↔
      w.storeFailing .listAll = false ∧ w.registry.list = is ∧ w' = w := by
  unfold listRecords
  rw [yields_ofCall]
  exact yields_withRegistry_find .listAll (·.list)

theorem yields_findEnvironment {id : EnvironmentId} {found : Option Environment} :
    (findEnvironment id).Yields w found w' ↔ w.directory.find id = .ok found ∧ w' = w := by
  unfold findEnvironment
  rw [yields_ofCall, Program.run_ask, World.answer, Prod.mk.injEq, eq_comm (a := w)]

theorem yields_readClock {now : Instant} :
    readClock.Yields w now w' ↔ now = w.clock ∧ w' = w := by
  rw [yields_iff_runs]
  simp [runs_readClock]

/-- A change of the registry succeeds when it is not made to fail and the
    registry takes it. -/
theorem yields_withRegistry (operation : StoreOperation)
    (change : Registry → Except StoreError Registry) :
    w.withRegistry operation (fun r => (change r).map ((), ·)) = (.ok (), w') ↔
      w.storeFailing operation = false ∧
        ∃ r, change w.registry = .ok r ∧ w' = { w with registry := r } := by
  unfold World.withRegistry
  cases w.storeFailing operation with
  | true => simp
  | false => cases h : change w.registry <;> simp [h, Except.map, eq_comm]

theorem yields_createRecord {i : Instance} :
    (createRecord i).Yields w () w' ↔ w.storeFailing .create = false ∧
      ∃ r, w.registry.create i = .ok r ∧ w' = { w with registry := r } := by
  unfold createRecord
  rw [yields_ofCall]
  exact yields_withRegistry .create (·.create i)

theorem yields_updateRecord {i : Instance} :
    (updateRecord i).Yields w () w' ↔ w.storeFailing .update = false ∧
      ∃ r, w.registry.update i = .ok r ∧ w' = { w with registry := r } := by
  unfold updateRecord
  rw [yields_ofCall]
  exact yields_withRegistry .update (·.update i)

theorem yields_createContainer {d : Deployment} :
    (createContainer d).Yields w () w' ↔
      ∃ c, w.cluster.create d = .ok c ∧ w' = { w with cluster := c } := by
  unfold createContainer
  rw [yields_ofCall, Program.run_ask]
  simp only [World.answer, World.withCluster]
  cases h : w.cluster.create d <;> simp [Except.map, eq_comm]

theorem yields_restartContainer {i : Instance} {m : String} :
    (restartContainer i).Yields w m w' ↔
      ∃ c, w.cluster.restart i = .ok (m, c) ∧ w' = { w with cluster := c } := by
  unfold restartContainer
  rw [yields_ofCall, Program.run_ask]
  simp only [World.answer, World.withCluster]
  cases h : w.cluster.restart i <;> simp [Prod.ext_iff, eq_comm, and_assoc]

theorem yields_containerStatus {i : Instance} {r : StatusReport} :
    (containerStatus i).Yields w r w' ↔ w.cluster.status i = .ok r ∧ w' = w := by
  unfold containerStatus
  rw [yields_ofCall, Program.run_ask, World.answer, Prod.mk.injEq, eq_comm (a := w)]

/-- An attempt to remove a container succeeds whether it can be removed or
    not. -/
theorem yields_attempt {t : Task α} {s : Except Error α} :
    t.attempt.Yields w s w' ↔ t.runIn w = (s, w') := by
  rw [yields_iff_runs]
  simp only [runs_attempt, Except.ok.injEq, exists_eq_left']
  exact ⟨fun parts => parts.elim fun _ h => h.1, fun h => ⟨_, h, rfl⟩⟩

end Task

end McpFleet.Fleet
