/-
  File:      McpFleet/Proofs/Fleet/Locality.lean
  Subject:   What a request depends on: the record and the containers of the
             instance that it names, and nothing of other instances.

  * `SameFor`: two states that are the same for one instance.
  * `Task.Agrees`: run in either of two states, a task gives the same result and
    leaves them the same for the instance; `Agrees.bind` puts two parts
    together.
  * Sections 3 and 4: the calls and the operations, each of which agrees with
    itself.
  * `Request.KeepsName`, **`Request.KeepsName.agrees`**: so does every request
    to a stored instance that leaves its name as it is. The one thing shared by
    all instances that a request looks into is the name index, and what it has
    under a stored name is fixed by the record.
-/
import McpFleet.Proofs.Fleet.Acceptance
import McpFleet.Proofs.Fleet.Frame
import McpFleet.Proofs.Row

namespace McpFleet

/-! ## 1. Clusters with the same containers -/

namespace Cluster

/-- Two answers of clusters: the same refusal, or the same result and clusters
    that have the same containers of some names. -/
inductive Alike {α : Type} (on : String → Prop) :
    Except ClusterError (α × Cluster) → Except ClusterError (α × Cluster) → Prop where
  | refused (e : ClusterError) : Alike on (.error e) (.error e)
  | done (a : α) {c c' : Cluster} (same : c.SameOn on c') : Alike on (.ok (a, c)) (.ok (a, c'))

variable {on : String → Prop} {c c' : Cluster} {d : Deployment} {i : Instance}

theorem SameOn.put (h : c.SameOn on c') (name : String) (rc : RunningContainer) :
    (c.put name rc).SameOn on (c'.put name rc) where
  containers n hn := by
    unfold Cluster.put
    rw [Dict.get?_insert, Dict.get?_insert, h.containers n hn]
  failing := h.failing

theorem SameOn.erase (h : c.SameOn on c') (name : String) :
    SameOn on { c with containers := c.containers.erase name }
      { c' with containers := c'.containers.erase name } where
  containers n hn := by
    rw [Dict.get?_erase, Dict.get?_erase, h.containers n hn]
  failing := h.failing

/-- A container of one of the names is created in both or in neither. -/
theorem SameOn.create (h : c.SameOn on c') (mine : on d.container) :
    Alike on ((c.create d).map ((), ·)) ((c'.create d).map ((), ·)) := by
  unfold Cluster.create Cluster.check Dict.contains
  rw [h.failing, h.containers _ mine]
  cases c.failing .create with
  | true => exact .refused _
  | false =>
    cases c.containers.get? d.container with
    | some rc => exact .refused _
    | none => exact .done () (h.put _ _)

theorem SameOn.restart (h : c.SameOn on c') (mine : ∀ k, i.container = some k → on k.name) :
    Alike on (c.restart i) (c'.restart i) := by
  unfold Cluster.restart Cluster.nameOf Cluster.check Cluster.find
  rw [h.failing]
  cases hk : i.container with
  | none => exact .refused _
  | some k =>
    simp only [bind, Except.bind, h.containers k.name (mine k hk)]
    cases c.failing .restart with
    | true => exact .refused _
    | false =>
      cases c.containers.get? k.name with
      | none => exact .refused _
      | some rc => exact .done _ (h.put _ _)

theorem SameOn.delete (h : c.SameOn on c') :
    Alike on ((c.delete i).map ((), ·)) ((c'.delete i).map ((), ·)) := by
  have alike : c'.failing .delete = c.failing .delete := congrFun h.failing .delete
  unfold Cluster.delete Cluster.nameOf Cluster.check
  rw [alike]
  cases i.container with
  | none => exact .refused _
  | some k =>
    cases c.failing .delete with
    | true => exact .refused _
    | false => exact .done () (h.erase _)

theorem SameOn.status (h : c.SameOn on c') (mine : ∀ k, i.container = some k → on k.name) :
    c'.status i = c.status i := by
  unfold Cluster.status Cluster.nameOf Cluster.check Cluster.find
  rw [h.failing]
  cases hk : i.container with
  | none => rfl
  | some k => simp only [bind, Except.bind, h.containers k.name (mine k hk)]

end Cluster

namespace Fleet

/-! ## 2. States that are the same for an instance -/

/-- **States that are the same for one instance**: in its record, its
    containers, and in all that belongs to no instance. -/
structure SameFor (id : Uuid) (w w' : World) : Prop where
  exact : w.registry.Exact
  exact' : w'.registry.Exact
  record : w'.registry.find? id = w.registry.find? id
  cluster : w.cluster.SameOn (Owns id) w'.cluster
  surroundings : w'.surroundings = w.surroundings

namespace SameFor

variable {id a : Uuid} {w w' w'' : World} {r r' : Registry} {i : Instance} {c c' : Cluster}

theorem symm (h : SameFor id w w') : SameFor id w' w where
  exact := h.exact'
  exact' := h.exact
  record := h.record.symm
  cluster := ⟨fun n hn => (h.cluster.containers n hn).symm, h.cluster.failing.symm⟩
  surroundings := h.surroundings.symm

theorem trans (h : SameFor id w w') (h' : SameFor id w' w'') : SameFor id w w'' where
  exact := h.exact
  exact' := h'.exact'
  record := h'.record.trans h.record
  cluster := h.cluster.trans h'.cluster
  surroundings := h'.surroundings.trans h.surroundings

theorem storeFailing (h : SameFor id w w') : w'.storeFailing = w.storeFailing := by
  have e := congrArg World.storeFailing h.surroundings
  exact e

theorem directory (h : SameFor id w w') : w'.directory = w.directory := by
  have e := congrArg World.directory h.surroundings
  exact e

theorem probe (h : SameFor id w w') : w'.probe = w.probe := by
  have e := congrArg World.probe h.surroundings
  exact e

theorem clock (h : SameFor id w w') : w'.clock = w.clock := by
  have e := congrArg World.clock h.surroundings
  exact e

theorem put (h : SameFor id w w') (puts : w.registry.Puts i r) (puts' : w'.registry.Puts i r') :
    SameFor id { w with registry := r } { w' with registry := r' } where
  exact := puts.exact
  exact' := puts'.exact
  record := by
    show r'.find? id = r.find? id
    rw [puts.find?, puts'.find?, h.record]
  cluster := h.cluster
  surroundings := h.surroundings

theorem drop (h : SameFor id w w') (drops : w.registry.Drops a r)
    (drops' : w'.registry.Drops a r') :
    SameFor id { w with registry := r } { w' with registry := r' } where
  exact := drops.exact
  exact' := drops'.exact
  record := by
    show r'.find? id = r.find? id
    rw [drops.find?, drops'.find?, h.record]
  cluster := h.cluster
  surroundings := h.surroundings

theorem recluster (h : SameFor id w w') (same : c.SameOn (Owns id) c') :
    SameFor id { w with cluster := c } { w' with cluster := c' } where
  exact := h.exact
  exact' := h.exact'
  record := h.record
  cluster := same
  surroundings := h.surroundings

end SameFor

/-! ## 3. Tasks that agree -/

namespace Task

variable {α β ε : Type} {id : Uuid} {w w' : World} {s i : Instance}

/-- **Run in either state, the task gives the same result**, and leaves the
    states the same for the instance. -/
structure Agrees (t : Task α) (id : Uuid) (w w' : World) : Prop where
  result : (t.runIn w').1 = (t.runIn w).1
  after : SameFor id (t.runIn w).2 (t.runIn w').2

/-- **Two parts agree** when the first does, and the second wherever the first
    leads. -/
theorem Agrees.bind {t : Task α} {f : α → Task β} (ht : t.Agrees id w w')
    (hf : ∀ a w₁ w₁', t.Yields w a w₁ → t.Yields w' a w₁' → SameFor id w₁ w₁' →
      (f a).Agrees id w₁ w₁') : (t >>= f).Agrees id w w' := by
  obtain ⟨result, after⟩ := ht
  unfold runIn at result after
  have parts (u : World) : (t >>= f).runIn u = match Program.run t u with
      | (.ok a, u₁) => (f a).runIn u₁
      | (.error e, u₁) => (.error e, u₁) := by
    rw [bind_eq]
    unfold runIn
    rw [Program.run_bind]
    obtain ⟨r, u₁⟩ := Program.run t u
    cases r <;> rfl
  cases run : Program.run t w with
  | mk r w₁ =>
    cases run' : Program.run t w' with
    | mk r' w₁' =>
      rw [run, run'] at result after
      have result : r' = r := result
      subst result
      cases r' with
      | error e =>
        refine ⟨?_, ?_⟩
        · rw [parts, parts, run, run']
        · rw [parts, parts, run, run']
          exact after
      | ok a =>
        have next := hf a w₁ w₁' run run' after
        refine ⟨?_, ?_⟩
        · rw [parts, parts, run, run']
          exact next.result
        · rw [parts, parts, run, run']
          exact next.after

/-- Behind a look-up the second part runs in the same states. -/
theorem Agrees.past {t : Task α} {f : α → Task β} (ht : t.Agrees id w w') (looks : t.ReadOnly)
    (next : ∀ a, t.Yields w a w → (f a).Agrees id w w') : (t >>= f).Agrees id w w' := by
  have still (u : World) : (t.runIn u).2 = u := Program.ReadOnly.run looks u
  refine ht.bind fun a w₁ w₁' yields yields' _ => ?_
  have e : w₁ = w := (congrArg Prod.snd yields).symm.trans (still w)
  have e' : w₁' = w' := (congrArg Prod.snd yields').symm.trans (still w')
  rw [e] at yields ⊢
  rw [e']
  exact next a yields

theorem agrees_pure (same : SameFor id w w') (a : α) : (pure a : Task α).Agrees id w w' :=
  ⟨rfl, same⟩

theorem agrees_throw (same : SameFor id w w') (e : Error) : (throw e : Task α).Agrees id w w' :=
  ⟨rfl, same⟩

theorem agrees_ofExcept (same : SameFor id w w') (e : Except ε α) (wrap : ε → Error) :
    (ofExcept e wrap).Agrees id w w' := ⟨rfl, same⟩

theorem Agrees.map {t : Task α} (h : t.Agrees id w w') (f : α → β) :
    (f <$> t).Agrees id w w' := by
  rw [← bind_pure_comp]
  exact h.bind fun a _ _ _ _ same => agrees_pure same (f a)

theorem Agrees.attempt {t : Task α} (h : t.Agrees id w w') : t.attempt.Agrees id w w' := by
  have e (u : World) : t.attempt.runIn u = (.ok (t.runIn u).1, (t.runIn u).2) := by
    have parts : (t.attempt : Task (Except Error α)) = Program.bind t fun s => .done (.ok s) := rfl
    unfold runIn
    rw [parts, Program.run_bind]
    rfl
  refine ⟨?_, ?_⟩
  · rw [e, e, h.result]
  · rw [e, e]
    exact h.after

/-- A call that is answered alike. -/
theorem agrees_ofCall {p : Program (Except ε α)} {wrap : ε → Error}
    (answered : (p.run w').1 = (p.run w).1 ∧ SameFor id (p.run w).2 (p.run w').2) :
    (ofCall p wrap).Agrees id w w' := by
  have e (u : World) : (ofCall p wrap).runIn u = ((p.run u).1.mapError wrap, (p.run u).2) := by
    show Program.run (Program.bind p fun a => .done (a.mapError wrap)) u = _
    rw [Program.run_bind]
    rfl
  refine ⟨?_, ?_⟩
  · rw [e, e, answered.1]
  · rw [e, e]
    exact answered.2

/-! ## 4. Calls -/

section Calls

variable (same : SameFor id w w')

include same

/-- Looking up what both registries have alike. -/
theorem answered_lookup {operation : StoreOperation} {f : Registry → α}
    (alike : f w'.registry = f w.registry) :
    let run (u : World) := u.withRegistry operation fun r => .ok (f r, r)
    (run w').1 = (run w).1 ∧ SameFor id (run w).2 (run w').2 := by
  intro run
  simp only [run, World.withRegistry_find]
  rw [same.storeFailing, alike]
  exact ⟨rfl, same⟩

theorem agrees_findRecord : (findRecord id).Agrees id w w' :=
  agrees_ofCall (answered_lookup same (f := (·.find? id)) same.record)

/-- Looking up the name of a stored record finds that record. -/
theorem agrees_findRecordByName (stored : w.registry.find? id = some s) :
    (findRecordByName s.name).Agrees id w w' := by
  obtain rfl : s.id = id := same.exact.key stored
  have found := same.exact.findByName?_eq_some.mpr ⟨stored, rfl⟩
  have found' := same.exact'.findByName?_eq_some.mpr ⟨same.record.trans stored, rfl⟩
  exact agrees_ofCall (answered_lookup same (f := (·.findByName? s.name))
    (found'.trans found.symm))

theorem agrees_findEnvironment (e : EnvironmentId) : (findEnvironment e).Agrees id w w' := by
  refine agrees_ofCall ⟨?_, same⟩
  show w'.directory.find e = w.directory.find e
  rw [same.directory]

theorem agrees_readClock : readClock.Agrees id w w' := by
  refine ⟨?_, same⟩
  show Except.ok w'.clock = Except.ok w.clock
  rw [same.clock]

theorem agrees_probe (url : String) (timeout : UInt64) :
    (Task.probe url timeout).Agrees id w w' := by
  refine ⟨?_, same⟩
  show Except.ok (w'.probe url) = Except.ok (w.probe url)
  rw [same.probe]

/-- A change that both registries take is made in both, or fails in both. -/
theorem answered_withRegistry {operation : StoreOperation}
    {change : Registry → Except StoreError Registry} {r r' : Registry}
    (made : change w.registry = .ok r) (made' : change w'.registry = .ok r')
    (after : SameFor id { w with registry := r } { w' with registry := r' }) :
    let run (u : World) := u.withRegistry operation fun r => (change r).map ((), ·)
    (run w').1 = (run w).1 ∧ SameFor id (run w).2 (run w').2 := by
  intro run
  have alike : w'.storeFailing operation = w.storeFailing operation :=
    congrFun same.storeFailing operation
  simp only [run, World.withRegistry]
  rw [alike, made, made']
  cases w.storeFailing operation with
  | true => exact ⟨rfl, same⟩
  | false => exact ⟨rfl, after⟩

/-- A record that keeps its name is written back in both states alike. -/
theorem agrees_updateRecord (stored : w.registry.find? id = some s) (mine : i.id = id)
    (named : i.name = s.name) : (updateRecord i).Agrees id w w' := by
  obtain rfl := mine
  obtain ⟨r, made, puts⟩ := same.exact.update_named stored named
  obtain ⟨r', made', puts'⟩ := same.exact'.update_named (same.record.trans stored) named
  exact agrees_ofCall (answered_withRegistry same made made' (same.put puts puts'))

theorem agrees_deleteRecord (stored : w.registry.find? id = some s) :
    (deleteRecord id).Agrees id w w' := by
  obtain ⟨r, made, instances, exact⟩ := Registry.delete_spec same.exact stored
  obtain ⟨r', made', instances', exact'⟩ :=
    Registry.delete_spec same.exact' (same.record.trans stored)
  exact agrees_ofCall (answered_withRegistry same made made'
    (same.drop ⟨instances, exact⟩ ⟨instances', exact'⟩))

theorem answered_withCluster {f : Cluster → Except ClusterError (α × Cluster)}
    (alike : Cluster.Alike (Owns id) (f w.cluster) (f w'.cluster)) :
    (w'.withCluster f).1 = (w.withCluster f).1 ∧
      SameFor id (w.withCluster f).2 (w'.withCluster f).2 := by
  unfold World.withCluster
  generalize f w.cluster = a at alike
  generalize f w'.cluster = a' at alike
  cases alike with
  | refused e => exact ⟨rfl, same⟩
  | done a cluster => exact ⟨rfl, same.recluster cluster⟩

theorem agrees_createContainer {d : Deployment} (mine : Owns id d.container) :
    (createContainer d).Agrees id w w' :=
  agrees_ofCall (answered_withCluster same (f := fun c => (c.create d).map ((), ·))
    (same.cluster.create mine))

theorem agrees_restartContainer (mine : ∀ k, s.container = some k → Owns id k.name) :
    (restartContainer s).Agrees id w w' :=
  agrees_ofCall (answered_withCluster same (f := fun c => c.restart s)
    (same.cluster.restart mine))

theorem agrees_deleteContainer : (deleteContainer s).Agrees id w w' :=
  agrees_ofCall (answered_withCluster same (f := fun c => (c.delete s).map ((), ·))
    same.cluster.delete)

theorem agrees_containerStatus (mine : ∀ k, s.container = some k → Owns id k.name) :
    (containerStatus s).Agrees id w w' :=
  agrees_ofCall ⟨same.cluster.status mine, same⟩

end Calls

end Task

/-! ## 5. Operations -/

section Operations

variable {cfg : Config} {id : Uuid} {w w' : World} {s : Instance} {d : Definition}

-- The checks of a name stay closed: no argument here looks into them.
attribute [local irreducible] Text.trim

theorem agrees_get (same : SameFor id w w') : (get id).Agrees id w w' := by
  refine (Task.agrees_findRecord same).past (Task.readOnly_findRecord id) fun found _ => ?_
  cases found with
  | none => exact Task.agrees_throw same _
  | some i => exact Task.agrees_pure same i

/-- What goes on behind the look-up of the record. -/
theorem agrees_get_bind {α : Type} {f : Instance → Task α} (same : SameFor id w w')
    (stored : w.registry.find? id = some s) (next : (f s).Agrees id w w') :
    (get id >>= f).Agrees id w w' := by
  refine (agrees_get same).past (readOnly_get id) fun i found => ?_
  obtain ⟨-, stored', -⟩ := yields_get.mp found
  obtain rfl : i = s := Option.some.inj (stored'.symm.trans stored)
  exact next

/-- What goes on behind a look at the clock. -/
theorem agrees_readClock_bind {α : Type} {f : Instant → Task α} (same : SameFor id w w')
    (next : (f w.clock).Agrees id w w') : (Task.readClock >>= f).Agrees id w w' := by
  refine (Task.agrees_readClock same).past ⟨rfl, fun _ => trivial⟩ fun now read => ?_
  obtain ⟨rfl, -⟩ := Task.yields_readClock.mp read
  exact next

/-- A record that keeps its name is written back, and given out. -/
theorem agrees_writeBack {i : Instance} (same : SameFor id w w')
    (stored : w.registry.find? id = some s) (mine : i.id = s.id) (named : i.name = s.name) :
    (Task.updateRecord i >>= fun _ => pure i).Agrees id w w' :=
  (Task.agrees_updateRecord same stored (mine.trans (same.exact.key stored)) named).bind
    fun _ _ _ _ _ same => Task.agrees_pure same i

theorem agrees_ensureNameFree (same : SameFor id w w') (stored : w.registry.find? id = some s)
    (owner : Option Uuid) : (ensureNameFree s.name owner).Agrees id w w' := by
  refine (Task.agrees_findRecordByName same stored).past (Task.readOnly_findRecordByName _)
    fun found _ => ?_
  cases found with
  | none => exact Task.agrees_pure same _
  | some i =>
    show Task.Agrees (if _ then _ else _) _ _ _
    split
    · exact Task.agrees_pure same _
    · exact Task.agrees_throw same _

theorem agrees_ensureAccess (same : SameFor id w w') (stated : Option Access) (own : Access) :
    (ensureAccess stated own).Agrees id w w' := by
  unfold ensureAccess
  split
  · exact Task.agrees_pure same _
  · split
    · exact Task.agrees_throw same _
    · exact Task.agrees_pure same _

theorem agrees_ensureHosted (same : SameFor id w w') (own : Access) :
    (ensureHosted own).Agrees id w w' := by
  unfold ensureHosted
  split
  · exact Task.agrees_throw same _
  · exact Task.agrees_pure same _

theorem agrees_setStatus (same : SameFor id w w') (stored : w.registry.find? id = some s)
    (status : InstanceStatus) : (setStatus id status).Agrees id w w' := by
  refine agrees_get_bind same stored (agrees_readClock_bind same ?_)
  cases changed : s.withStatus? status w.clock with
  | none => exact Task.agrees_pure same s
  | some i =>
    have kept := Instance.kept_withStatus? changed
    exact agrees_writeBack same stored kept.id kept.name

theorem agrees_restart (same : SameFor id w w') (stored : w.registry.find? id = some s)
    (mine : ∀ k, s.container = some k → Owns id k.name) : (restart id).Agrees id w w' := by
  rw [restart_eq]
  refine agrees_get_bind same stored ?_
  refine (agrees_ensureHosted same s.access).past (readOnly_ensureHosted _) fun _ _ => ?_
  refine (Task.agrees_restartContainer same mine).bind fun m w₁ w₁' done _ same₁ => ?_
  have stored₁ : w₁.registry.find? id = some s := by
    obtain ⟨xs, runs⟩ := Task.yields_iff_runs.mp done
    rcases Task.runs_restartContainer runs with ⟨_, _, -, -, -, rfl⟩ | ⟨_, -, -, -, rfl⟩
    · exact stored
    · exact stored
  refine agrees_readClock_bind same₁ ?_
  refine (Task.agrees_ofExcept same₁ _ _).past (Task.readOnly_ofExcept _ _) fun i judged => ?_
  have kept := Instance.kept_markRestarting (Task.yields_ofExcept.mp judged).1
  exact agrees_writeBack same₁ stored₁ kept.id kept.name

theorem agrees_delete (same : SameFor id w w') (stored : w.registry.find? id = some s) :
    (delete id).Agrees id w w' := by
  refine agrees_get_bind same stored ?_
  by_cases own : s.access = .hosting
  · simp only [if_pos own]
    refine (Task.agrees_deleteContainer same).bind fun _ w₁ w₁' removed _ same₁ => ?_
    refine Task.agrees_deleteRecord (s := s) same₁ ?_
    obtain ⟨xs, runs⟩ := Task.yields_iff_runs.mp removed
    obtain ⟨_, -, -, carried⟩ := Task.runs_deleteContainer runs
    cases carried <;> exact stored
  · simp only [if_neg own]
    exact Task.agrees_deleteRecord same stored

theorem agrees_check (same : SameFor id w w')
    (mine : ∀ k, s.container = some k → Owns id k.name) : (check cfg s).Agrees id w w' := by
  unfold check
  by_cases own : s.access = .hosting
  · simp only [if_pos own]
    exact (Task.agrees_containerStatus same mine).past (Task.readOnly_containerStatus s)
      fun _ _ => Task.agrees_pure same _
  · simp only [if_neg own]
    split
    · exact Task.agrees_pure same _
    · exact (Task.agrees_probe same _ _).past (Task.readOnly_probe _ _)
        fun _ _ => Task.agrees_pure same _

theorem agrees_status (same : SameFor id w w') (stored : w.registry.find? id = some s)
    (mine : ∀ k, s.container = some k → Owns id k.name) : (status cfg id).Agrees id w w' := by
  refine agrees_get_bind same stored ?_
  refine (agrees_check same mine).past (readOnly_check cfg s) fun health _ => ?_
  split
  · exact Task.agrees_pure same health
  · rename_i report said
    refine agrees_readClock_bind same ?_
    cases changed : s.withReport? report w.clock with
    | none => exact Task.agrees_pure same health
    | some i =>
      have kept := Instance.kept_withReport? changed
      have own : i.id = id := kept.id.trans (same.exact.key stored)
      exact (Task.agrees_updateRecord same stored own kept.name).attempt.bind
        fun _ _ _ _ _ same => Task.agrees_pure same health

theorem agrees_hostingEnvironment (same : SameFor id w w') (e : EnvironmentId) :
    (hostingEnvironment e).Agrees id w w' := by
  refine (Task.agrees_findEnvironment same e).past (Task.readOnly_findEnvironment e)
    fun found _ => ?_
  cases found with
  | none => exact Task.agrees_throw same _
  | some e =>
    show Task.Agrees (if _ then _ else _) _ _ _
    split
    · exact Task.agrees_pure same _
    · exact Task.agrees_throw same _

theorem agrees_prepareHosting (same : SameFor id w w') (generation : UInt32) :
    (prepareHosting cfg id d generation).Agrees id w w' := by
  refine (Task.agrees_ofExcept same _ _).past (Task.readOnly_ofExcept _ _) fun name _ => ?_
  refine (Task.agrees_ofExcept same _ _).past (Task.readOnly_ofExcept _ _) fun judged _ => ?_
  refine (agrees_hostingEnvironment same _).past (readOnly_hostingEnvironment _) fun e _ => ?_
  refine (Task.agrees_ofExcept same _ _).past (Task.readOnly_ofExcept _ _) fun server _ => ?_
  exact Task.agrees_ofExcept same _ _

/-- The container of the next generation is one of the instance's own. -/
theorem agrees_revise (same : SameFor s.id w w') : (revise cfg s d).Agrees s.id w w' := by
  unfold revise
  cases own : s.access with
  | direct | proxy => exact Task.agrees_ofExcept same _ _
  | hosting =>
    refine (agrees_prepareHosting same (nextGeneration s)).past (readOnly_prepareHosting _ _ _ _)
      fun p prepared => ?_
    obtain ⟨xs, runs⟩ := Task.yields_iff_runs.mp prepared
    have mine : Owns s.id p.deployment.container := ⟨_, (prepared_of_runs runs).2⟩
    refine (Task.agrees_createContainer same mine).bind fun _ _ _ _ _ same => ?_
    refine (Task.agrees_deleteContainer same).attempt.bind fun _ _ _ _ _ same => ?_
    exact Task.agrees_pure same _

/-- An edit that keeps the stored name. -/
theorem agrees_edit (same : SameFor id w w') (stored : w.registry.find? id = some s)
    (stated : Option Access) (named : Text.trim d.name = s.name.text) :
    (edit cfg id stated d).Agrees id w w' := by
  obtain rfl : s.id = id := same.exact.key stored
  have own {n : InstanceName} (accepted : InstanceName.ofText d.name = .ok n) : n = s.name :=
    InstanceName.ext_text ((InstanceName.ofText_eq_ok.mp accepted).1.trans named)
  rw [edit_eq]
  refine agrees_get_bind same stored ?_
  refine (agrees_ensureAccess same stated s.access).past (readOnly_ensureAccess _ _)
    fun _ _ => ?_
  refine (Task.agrees_ofExcept same _ _).past (Task.readOnly_ofExcept _ _) fun name judged => ?_
  obtain rfl := own (Task.yields_ofExcept.mp judged).1
  refine (agrees_ensureNameFree same stored _).past (readOnly_ensureNameFree _ _) fun _ _ => ?_
  refine (agrees_revise same).bind fun v w₁ w₁' revised _ same₁ => ?_
  obtain ⟨xs, runs⟩ := Task.yields_iff_runs.mp revised
  obtain ⟨zs, v', e, replaced⟩ := (runs_revise runs).of_ok
  obtain rfl := Except.ok.inj e
  have stored₁ : w₁.registry.find? s.id = some s := by
    rw [replaced.frame]
    exact stored
  refine agrees_readClock_bind same₁ ?_
  exact agrees_writeBack same₁ stored₁ rfl (own replaced.name)

/-! ## 6. Requests -/

/-- **A request to a stored instance that leaves its name as it is.** -/
inductive Request.KeepsName (s : Instance) : Request → Prop where
  | restart : KeepsName s (.restart s.id)
  | disable : KeepsName s (.disable s.id)
  | enable : KeepsName s (.enable s.id)
  | delete : KeepsName s (.delete s.id)
  | status : KeepsName s (.status s.id)
  | edit (stated : Option Access) (d : Definition) (named : Text.trim d.name = s.name.text) :
    KeepsName s (.edit s.id stated d)

theorem Request.KeepsName.subject? {q : Request} (h : q.KeepsName s) :
    q.subject? = some s.id := by
  cases h <;> rfl

/-- **Such a request depends on its instance only.** -/
theorem Request.KeepsName.agrees {q : Request} (h : q.KeepsName s) (same : SameFor s.id w w')
    (stored : w.registry.find? s.id = some s)
    (mine : ∀ k, s.container = some k → Owns s.id k.name) :
    (q.task cfg).Agrees s.id w w' := by
  cases h with
  | restart => exact (agrees_restart same stored mine).map _
  | disable => exact (agrees_setStatus same stored .inactive).map _
  | enable => exact (agrees_setStatus same stored .active).map _
  | delete => exact (agrees_delete same stored).map _
  | status => exact (agrees_status same stored mine).map _
  | edit stated d named => exact (agrees_edit same stored stated named).map _

end Operations

end Fleet

end McpFleet
