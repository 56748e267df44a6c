/-
  File:      McpFleet/Proofs/Cluster/History.lean
  Subject:   What stands in the log of a container, told from what was done in
             the cluster.

  A run is a list of acts, some of which fail; one that fails changes nothing.

  * `Act`, `through`, `done`: runs, and the acts of a run that were done.
  * `logBehind`: what one act that was done makes of the log of a container;
    `log?_perform` says that the cluster does that.
  * `WrittenSince`: what was written since a container was created last;
    `foldl_logBehind_eq_some` reads it off the acts one by one.
  * **`log?_through`**: that is the log, after every run.
-/
import McpFleet.Proofs.Cluster.Operations
import Mathlib.Data.List.Induction

namespace McpFleet.Cluster

/-! ## 1. Runs -/

/-- What a cluster is asked to change, and what happens to its containers by
    themselves. -/
inductive Act where
  | create (d : Deployment)
  | restart (i : Instance)
  | delete (i : Instance)
  /-- A container reports. -/
  | report (container : String) (r : StatusReport)
  /-- A container writes to its log. -/
  | output (container : String) (lines : List String)
  /-- An operation fails from now on, or no longer does. -/
  | outage (operation : ClusterOperation) (failing : Bool)

/-- The cluster behind an act that can be done. -/
def perform (c : Cluster) : Act → Except ClusterError Cluster
  | .create d => c.create d
  | .restart i => (c.restart i).map (·.2)
  | .delete i => c.delete i
  | .report container r => c.setStatus container r
  | .output container lines => c.appendLogs container lines
  | .outage operation failing => .ok (c.setFailing operation failing)

/-- The cluster behind an act; one that fails changes nothing. -/
def past (c : Cluster) (a : Act) : Cluster :=
  match c.perform a with
  | .ok c' => c'
  | .error _ => c

def through (c : Cluster) (acts : List Act) : Cluster := acts.foldl past c

/-- The acts of a run that were done. -/
def done (c : Cluster) : List Act → List Act
  | [] => []
  | a :: acts => if (c.perform a).toBool then a :: (c.past a).done acts else (c.past a).done acts

/-! ## 2. Logs -/

/-- The log of the container of a name. -/
def log? (c : Cluster) (name : String) : Option (List String) :=
  (c.containers.get? name).map (·.logs)

/-- Whether the container of an instance has a name. -/
def isNamed (i : Instance) (name : String) : Bool := i.container.any fun k => k.name = name

/-- The lines that an act writes into the log of a container. -/
def Act.lines (name : String) : Act → List String
  | restart i => if isNamed i name then [restartedLine name] else []
  | output container lines => if container = name then lines else []
  | _ => []

/-- Whether an act creates or removes the container of a name. -/
def Act.turns (name : String) : Act → Bool
  | create d => d.container = name
  | delete i => isNamed i name
  | _ => false

/-- The log of a container behind an act that was done. -/
def logBehind (name : String) (log : Option (List String)) : Act → Option (List String)
  | .create d => if d.container = name then some [createdLine d] else log
  | .delete i => if isNamed i name then none else log
  | a => log.map (· ++ a.lines name)

variable {c c' : Cluster} {a : Act} {name : String} {L : List String}

theorem log?_put (c : Cluster) (n : String) (rc : RunningContainer) (name : String) :
    (c.put n rc).log? name = if n = name then some rc.logs else c.log? name := by
  unfold put log?
  rw [Dict.get?_insert]
  split <;> rfl

/-- A container that goes on has its log, and what is added to it. -/
theorem log?_put_of_some {n : String} {rc rc' : RunningContainer} {added : List String}
    (there : c.containers.get? n = some rc) (logs : rc'.logs = rc.logs ++ added) (name : String) :
    (c.put n rc').log? name = (c.log? name).map (· ++ if n = name then added else []) := by
  rw [log?_put]
  split
  · rename_i same
    subst same
    unfold log?
    rw [there, logs]
    rfl
  · simp

/-- **What an act that is done makes of a log.** -/
theorem log?_perform (h : c.perform a = .ok c') (name : String) :
    c'.log? name = logBehind name (c.log? name) a := by
  cases a with
  | create d =>
    obtain ⟨-, -, rfl⟩ := create_eq_ok.mp h
    exact c.log?_put _ _ _
  | restart i =>
    obtain ⟨⟨m, c₁⟩, restarted, rfl⟩ : ∃ r, c.restart i = .ok r ∧ r.2 = c' := by
      cases e : c.restart i with
      | error x => rw [perform, e] at h; cases h
      | ok r => rw [perform, e] at h; exact ⟨r, rfl, Except.ok.inj h⟩
    obtain ⟨k, rc, hk, -, there, -, rfl⟩ := restart_eq_ok.mp restarted
    have named : isNamed i name = decide (k.name = name) := by simp [isNamed, hk]
    refine (log?_put_of_some there rfl name).trans ?_
    simp only [logBehind, Act.lines, named, decide_eq_true_eq]
    split
    · rename_i same
      rw [same]
    · rfl
  | delete i =>
    obtain ⟨k, hk, -, rfl⟩ := delete_eq_ok.mp h
    have named : isNamed i name = decide (k.name = name) := by simp [isNamed, hk]
    simp only [logBehind, named, decide_eq_true_eq]
    unfold log?
    rw [Dict.get?_erase]
    split <;> rfl
  | report n r =>
    obtain ⟨rc, there, rfl⟩ := setStatus_eq_ok.mp h
    have same : ({ rc with report := r } : RunningContainer).logs = rc.logs ++ [] :=
      (List.append_nil rc.logs).symm
    rw [log?_put_of_some there same]
    simp only [ite_self]
    rfl
  | output n lines =>
    obtain ⟨rc, there, rfl⟩ := appendLogs_eq_ok.mp h
    exact log?_put_of_some there rfl name
  | outage operation failing =>
    obtain rfl := Except.ok.inj h
    have same : (c.setFailing operation failing).log? name = c.log? name := rfl
    simp [logBehind, Act.lines, same]

/-! ## 3. Whole runs -/

theorem done_of_ok (performed : c.perform a = .ok c') (acts : List Act) :
    c.done (a :: acts) = a :: c'.done acts := by
  have past : c.past a = c' := by rw [Cluster.past, performed]
  have succeeds : (c.perform a).toBool = true := by rw [performed]; rfl
  rw [done, if_pos succeeds, past]

theorem done_of_error {e : ClusterError} (failed : c.perform a = .error e) (acts : List Act) :
    c.done (a :: acts) = c.done acts := by
  have past : c.past a = c := by rw [Cluster.past, failed]
  have fails : ¬ (c.perform a).toBool = true := by rw [failed]; exact nofun
  rw [done, if_neg fails, past]

theorem log?_foldl (acts : List Act) (c : Cluster) (name : String) :
    (c.through acts).log? name = (c.done acts).foldl (logBehind name) (c.log? name) := by
  induction acts generalizing c with
  | nil => rfl
  | cons a acts ih =>
    have rest : (c.through (a :: acts)).log? name =
        ((c.past a).done acts).foldl (logBehind name) ((c.past a).log? name) := ih _
    rw [rest]
    cases performed : c.perform a with
    | error e =>
      have unchanged : c.past a = c := by rw [past, performed]
      rw [unchanged, done_of_error performed]
    | ok c' =>
      have changed : c.past a = c' := by rw [past, performed]
      rw [changed, done_of_ok performed, List.foldl_cons, log?_perform performed]

/-- What was written to the log of a container since it was created last, if it
    was not removed since. -/
def WrittenSince (acts : List Act) (name : String) (L : List String) : Prop :=
  ∃ before d after, acts = before ++ .create d :: after ∧ d.container = name ∧
    (∀ a ∈ after, a.turns name = false) ∧ L = createdLine d :: after.flatMap (·.lines name)

theorem logBehind_of_quiet (quiet : a.turns name = false) (log : Option (List String)) :
    logBehind name log a = log.map (· ++ a.lines name) := by
  cases a with
  | create d =>
    have other : ¬ d.container = name := of_decide_eq_false quiet
    simp [logBehind, other, Act.lines]
  | delete i =>
    have other : ¬ isNamed i name = true := by
      intro own
      rw [show isNamed i name = false from quiet] at own
      cases own
    simp [logBehind, other, Act.lines]
  | restart | report | output | outage => rfl

/-- An act that neither creates nor removes the container adds its lines. -/
theorem writtenSince_of_quiet {acts : List Act} (quiet : a.turns name = false) :
    WrittenSince (acts ++ [a]) name L ↔
      ∃ L', WrittenSince acts name L' ∧ L = L' ++ a.lines name := by
  constructor
  · rintro ⟨before, d, after, split, named, still, rfl⟩
    rcases List.eq_nil_or_concat after with rfl | ⟨after, last, rfl⟩
    · obtain rfl : a = .create d := List.singleton_inj.mp (List.append_inj' split rfl).2
      exact absurd named (of_decide_eq_false quiet)
    · rw [List.concat_eq_append, ← List.cons_append, ← List.append_assoc] at split
      obtain ⟨rfl, same⟩ := List.append_inj' split rfl
      obtain rfl := List.singleton_inj.mp same
      rw [List.concat_eq_append] at still ⊢
      refine ⟨_, ⟨before, d, after, rfl, named, fun b hb => still b ?_, rfl⟩, ?_⟩
      · exact List.mem_append_left _ hb
      · simp
  · rintro ⟨_, ⟨before, d, after, rfl, named, still, rfl⟩, rfl⟩
    refine ⟨before, d, after ++ [a], by simp, named, fun b hb => ?_, by simp⟩
    rcases List.mem_append.mp hb with earlier | last
    · exact still b earlier
    · rw [List.mem_singleton.mp last]
      exact quiet

/-- Behind an act that creates or removes the container, what was written since
    begins anew. -/
theorem writtenSince_of_turn {acts : List Act} (turn : a.turns name = true) :
    WrittenSince (acts ++ [a]) name L ↔ ∃ d, a = .create d ∧ d.container = name ∧
      L = [createdLine d] := by
  constructor
  · rintro ⟨before, d, after, split, named, still, rfl⟩
    rcases List.eq_nil_or_concat after with rfl | ⟨after, last, rfl⟩
    · exact ⟨d, List.singleton_inj.mp (List.append_inj' split rfl).2, named, rfl⟩
    · rw [List.concat_eq_append, ← List.cons_append, ← List.append_assoc] at split
      obtain rfl := List.singleton_inj.mp (List.append_inj' split rfl).2
      rw [List.concat_eq_append] at still
      rw [still a (List.mem_append_right _ (List.mem_singleton_self a))] at turn
      cases turn
  · rintro ⟨d, rfl, named, rfl⟩
    exact ⟨acts, d, [], rfl, named, fun b hb => absurd hb List.not_mem_nil, by simp⟩

theorem logBehind_of_turn (turn : a.turns name = true) (log : Option (List String)) :
    logBehind name log a = some L ↔ ∃ d, a = .create d ∧ d.container = name ∧
      L = [createdLine d] := by
  cases a with
  | create d =>
    have named : d.container = name := of_decide_eq_true turn
    simp [logBehind, named, eq_comm]
  | delete i =>
    have named : isNamed i name = true := turn
    simp [logBehind, named]
  | restart | report | output | outage => cases turn

/-- **The log told from the acts one by one** is what was written since the
    container was created last. -/
theorem foldl_logBehind_eq_some (acts : List Act) (L : List String) :
    acts.foldl (logBehind name) none = some L ↔ WrittenSince acts name L := by
  induction acts using List.reverseRecOn generalizing L with
  | nil =>
    constructor
    · intro h
      cases h
    · rintro ⟨before, d, after, split, -⟩
      simp at split
  | append_singleton acts a ih =>
    rw [List.foldl_append, List.foldl_cons, List.foldl_nil]
    cases turn : a.turns name with
    | true => rw [logBehind_of_turn turn, writtenSince_of_turn turn]
    | false =>
      rw [logBehind_of_quiet turn, writtenSince_of_quiet turn, Option.map_eq_some_iff]
      simp only [ih, eq_comm]

/-- **The log of a container, after every run**: it is there when the container
    was created and not removed since, and then it is what was written since. -/
theorem log?_through (acts : List Act) (name : String) (L : List String) :
    (empty.through acts).log? name = some L ↔ WrittenSince (empty.done acts) name L := by
  rw [log?_foldl]
  exact foldl_logBehind_eq_some _ L

end McpFleet.Cluster
