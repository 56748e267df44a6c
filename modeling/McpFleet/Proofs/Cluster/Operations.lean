/-
  File:      McpFleet/Proofs/Cluster/Operations.lean
  Subject:   When each operation of a cluster succeeds, and what it changes.

  A request is refused a deployment only for a local process without a
  command. Creating needs a free name; restarting, asking and reporting need
  the container to be there; deleting does not. An operation that is made to
  fail succeeds never. What a container was created from stays with it.
-/
import McpFleet.Cluster

namespace McpFleet

/-! ## 1. Deployments -/

namespace Deployment

variable {r : Request} {d : Deployment}

/-- A deployment is refused for nothing but a local process without a
    command. -/
theorem ofRequest_eq_ok :
    ofRequest r = .ok d ↔
      (r.protocol = .stdio → r.spec.command.or r.launchCommand ≠ none) ∧
      d = ⟨containerName r.id r.generation, serviceName r.id r.generation, r.nameSpace,
        r.spec.port, manifestOf r (r.spec.command.or r.launchCommand)⟩ := by
  unfold ofRequest
  by_cases bare : r.protocol = .stdio ∧ r.spec.command.or r.launchCommand = none
  · simp [bare]
  · have passed : r.protocol = .stdio → r.spec.command.or r.launchCommand ≠ none :=
      fun process none => bare ⟨process, none⟩
    simp only [if_neg bare, Except.ok.injEq, eq_comm (b := d)]
    exact ⟨fun e => ⟨passed, e⟩, fun parts => parts.2⟩

theorem ofRequest_spec (h : ofRequest r = .ok d) :
    d.container = containerName r.id r.generation ∧
    d.service = serviceName r.id r.generation ∧
    d.nameSpace = r.nameSpace ∧ d.port = r.spec.port := by
  obtain ⟨-, rfl⟩ := ofRequest_eq_ok.mp h
  exact ⟨rfl, rfl, rfl, rfl⟩

end Deployment

namespace Cluster

variable {c c' : Cluster} {d : Deployment} {i : Instance} {name : String}

/-! ## 2. Operations of the fleet -/

theorem create_eq_ok :
    c.create d = .ok c' ↔
      c.failing .create = false ∧ c.containers.get? d.container = none ∧
      c' = c.put d.container ⟨d, .pending, [createdLine d]⟩ := by
  unfold create check Dict.contains
  cases c.failing .create with
  | true => simp [bind, Except.bind]
  | false =>
    cases c.containers.get? d.container with
    | none => simp [bind, Except.bind, pure, Except.pure, eq_comm]
    | some rc => simp [bind, Except.bind, throw, throwThe, MonadExceptOf.throw]

theorem delete_eq_ok :
    c.delete i = .ok c' ↔
      ∃ k, i.container = some k ∧ c.failing .delete = false ∧
        c' = { c with containers := c.containers.erase k.name } := by
  unfold delete check nameOf
  cases i.container with
  | none => simp [bind, Except.bind]
  | some k => cases c.failing .delete <;> simp [bind, Except.bind, pure, Except.pure, eq_comm]

theorem restart_eq_ok {m : String} :
    c.restart i = .ok (m, c') ↔
      ∃ k rc, i.container = some k ∧ c.failing .restart = false ∧
        c.containers.get? k.name = some rc ∧ m = "restart requested for container " ++ k.name ∧
        c' = c.put k.name { rc with
          report := .pending
          logs := rc.logs ++ [restartedLine k.name] } := by
  unfold restart check nameOf find
  cases i.container with
  | none => simp [bind, Except.bind]
  | some k =>
    cases c.failing .restart with
    | true => simp [bind, Except.bind]
    | false =>
      cases h : c.containers.get? k.name <;>
        simp [h, bind, Except.bind, pure, Except.pure, eq_comm]

theorem status_eq_ok {r : StatusReport} :
    c.status i = .ok r ↔
      ∃ k rc, i.container = some k ∧ c.failing .status = false ∧
        c.containers.get? k.name = some rc ∧ rc.report = r := by
  unfold status check nameOf find
  cases i.container with
  | none => simp [bind, Except.bind]
  | some k =>
    cases c.failing .status with
    | true => simp [bind, Except.bind]
    | false =>
      cases h : c.containers.get? k.name <;> simp [h, bind, Except.bind, pure, Except.pure]

theorem logs_eq_ok {lines : Nat} {ls : List String} :
    c.logs i lines = .ok ls ↔
      ∃ k rc, i.container = some k ∧ c.failing .logs = false ∧
        c.containers.get? k.name = some rc ∧ ls = tail lines rc.logs := by
  unfold logs check nameOf find
  cases i.container with
  | none => simp [bind, Except.bind]
  | some k =>
    cases c.failing .logs with
    | true => simp [bind, Except.bind]
    | false =>
      cases h : c.containers.get? k.name <;>
        simp [h, bind, Except.bind, pure, Except.pure, eq_comm]

/-- The last `n` members, or all when there are fewer. -/
theorem tail_spec {α : Type} (n : Nat) (xs : List α) :
    ∃ front, xs = front ++ tail n xs ∧ (tail n xs).length = min n xs.length := by
  refine ⟨xs.take (xs.length - n), (List.take_append_drop _ _).symm, ?_⟩
  unfold tail
  rw [List.length_drop]
  omega

/-! ## 3. What happens to containers by themselves -/

theorem setStatus_eq_ok {r : StatusReport} :
    c.setStatus name r = .ok c' ↔
      ∃ rc, c.containers.get? name = some rc ∧ c' = c.put name { rc with report := r } := by
  unfold setStatus find
  cases c.containers.get? name <;> simp [bind, Except.bind, pure, Except.pure, eq_comm]

theorem appendLogs_eq_ok {lines : List String} :
    c.appendLogs name lines = .ok c' ↔
      ∃ rc, c.containers.get? name = some rc ∧
        c' = c.put name { rc with logs := rc.logs ++ lines } := by
  unfold appendLogs find
  cases c.containers.get? name <;> simp [bind, Except.bind, pure, Except.pure, eq_comm]

/-! ## 4. What containers were created from -/

/-- What the container of a name was created from. -/
def source? (c : Cluster) (name : String) : Option Deployment :=
  (c.containers.get? name).map (·.deployment)

theorem mem_names : name ∈ c.names ↔ c.source? name ≠ none := by
  unfold names Dict.keys source?
  rw [List.mem_map]
  constructor
  · intro parts
    obtain ⟨⟨n, rc⟩, he, rfl⟩ := parts
    rw [Dict.mem_entries.mp he]
    exact Option.some_ne_none _
  · intro h
    cases found : c.containers.get? name with
    | none =>
      rw [found] at h
      exact absurd rfl h
    | some rc => exact ⟨(name, rc), Dict.mem_entries.mpr found, rfl⟩

theorem source?_put (c : Cluster) (name n : String) (rc : RunningContainer) :
    (c.put name rc).source? n = if name = n then some rc.deployment else c.source? n := by
  unfold put source?
  rw [Dict.get?_insert]
  split <;> rfl

/-- A container that goes on keeps what it was created from. -/
theorem source?_put_of_some {rc rc' : RunningContainer} (h : c.containers.get? name = some rc)
    (same : rc'.deployment = rc.deployment) (n : String) :
    (c.put name rc').source? n = c.source? n := by
  rw [source?_put]
  split
  · rename_i e
    subst e
    unfold source?
    rw [h, same]
    rfl
  · rfl

theorem source?_create (h : c.create d = .ok c') (n : String) :
    c'.source? n = if d.container = n then some d else c.source? n := by
  obtain ⟨-, -, rfl⟩ := create_eq_ok.mp h
  exact c.source?_put _ _ _

theorem source?_restart {m : String} (h : c.restart i = .ok (m, c')) (n : String) :
    c'.source? n = c.source? n := by
  obtain ⟨k, rc, -, -, hrc, -, rfl⟩ := restart_eq_ok.mp h
  exact source?_put_of_some hrc (by rfl) n

theorem source?_setStatus {r : StatusReport} (h : c.setStatus name r = .ok c') (n : String) :
    c'.source? n = c.source? n := by
  obtain ⟨rc, hrc, rfl⟩ := setStatus_eq_ok.mp h
  exact source?_put_of_some hrc (by rfl) n

theorem source?_appendLogs {lines : List String} (h : c.appendLogs name lines = .ok c')
    (n : String) : c'.source? n = c.source? n := by
  obtain ⟨rc, hrc, rfl⟩ := appendLogs_eq_ok.mp h
  exact source?_put_of_some hrc (by rfl) n

theorem source?_delete {k : Hosting.Container} (hk : i.container = some k)
    (h : c.delete i = .ok c') (n : String) :
    c'.source? n = if k.name = n then none else c.source? n := by
  obtain ⟨k', hk', -, rfl⟩ := delete_eq_ok.mp h
  obtain rfl : k = k' := Option.some.inj (hk.symm.trans hk')
  unfold source?
  show ((c.containers.erase k.name).get? n).map _ = _
  rw [Dict.get?_erase]
  split <;> rfl

end Cluster

end McpFleet
