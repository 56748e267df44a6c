/-
  File:      McpFleet/Proofs/Fleet/LogHistory.lean
  Subject:   The logs that the fleet shows are the ends of what was written.

  * `World.acts`, `World.actsOf`: what a run of the fleet does in its cluster,
    the calls of each request and what happens around it.
  * `cluster_course`: the cluster of every run of the fleet is that of a run of
    acts.
  * `serve_logs`: a request for the log of a hosted instance, as an equation.
  * **`logs_tell_history`**: what stands in a log, and which end of it is shown.
-/
import McpFleet.Proofs.Cluster.History
import McpFleet.Proofs.Fleet.Acceptance

namespace McpFleet

open Cluster (Act)

/-! ## 1. What a run does in the cluster -/

theorem Cluster.through_append (c : Cluster) (acts acts' : List Act) :
    c.through (acts ++ acts') = (c.through acts).through acts' := List.foldl_append

namespace Fleet

/-- What a call asks the cluster to change. -/
def Call.act? : Call → Option Act
  | createContainer d => some (.create d)
  | restartContainer i => some (.restart i)
  | deleteContainer i => some (.delete i)
  | _ => none

/-- What is done in the cluster at an incident. -/
def World.acts (w : World) : Incident → List Act
  | .event (.request cfg q) => (Program.trace (q.task cfg) w).filterMap Call.act?
  | .event (.outage operation failing) => [.outage operation failing]
  | .event (.report container r) => [.report container r]
  | .event (.output container lines) => [.output container lines]
  | _ => []

/-- What is done in the cluster in a run. -/
def World.actsOf (w : World) : List Incident → List Act
  | [] => []
  | x :: xs => w.acts x ++ (w.behind x).actsOf xs

variable {w w' : World} {cfg : Config} {id : Uuid} {i : Instance} {k : Hosting.Container}

theorem cluster_withCluster {α : Type} (w : World)
    (run : Cluster → Except ClusterError (α × Cluster)) :
    (w.withCluster run).2.cluster =
      match run w.cluster with
      | .ok r => r.2
      | .error _ => w.cluster := by
  unfold World.withCluster
  cases run w.cluster <;> rfl

theorem cluster_withRegistry {α : Type} (w : World) (operation : StoreOperation)
    (run : Registry → Except StoreError (α × Registry)) :
    (w.withRegistry operation run).2.cluster = w.cluster := by
  unfold World.withRegistry
  split
  · rfl
  · split <;> rfl

/-- **One call** changes the cluster by the act that it asks for. -/
theorem cluster_answer (w : World) (call : Call) :
    (w.answer call).2.cluster = w.cluster.through call.act?.toList := by
  cases call with
  | createRecord | updateRecord | deleteRecord | findRecord | findRecordByName | listRecords =>
    exact cluster_withRegistry w _ _
  | findEnvironment | containerStatus | containerLogs | probe | readClock => rfl
  | createContainer d =>
    refine (cluster_withCluster w _).trans ?_
    simp only [Call.act?, Option.toList, Cluster.through, List.foldl, Cluster.past, Cluster.perform]
    cases w.cluster.create d <;> rfl
  | restartContainer i =>
    refine (cluster_withCluster w _).trans ?_
    simp only [Call.act?, Option.toList, Cluster.through, List.foldl, Cluster.past, Cluster.perform]
    cases w.cluster.restart i <;> rfl
  | deleteContainer i =>
    refine (cluster_withCluster w _).trans ?_
    simp only [Call.act?, Option.toList, Cluster.through, List.foldl, Cluster.past, Cluster.perform]
    cases w.cluster.delete i <;> rfl

/-- **A program** changes the cluster by the acts that its calls ask for. -/
theorem cluster_run {α : Type} (p : Program α) (w : World) :
    (p.run w).2.cluster = w.cluster.through ((p.trace w).filterMap Call.act?) := by
  induction p generalizing w with
  | done a => rfl
  | call c next ih =>
    have rest := ih (w.answer c).1 (w.answer c).2
    have calls : ((Program.call c next).trace w).filterMap Call.act? =
        c.act?.toList ++ (((next (w.answer c).1).trace (w.answer c).2).filterMap Call.act?) := by
      rw [Program.trace, List.filterMap_cons]
      cases c.act? <;> rfl
    rw [calls, Cluster.through_append, ← cluster_answer]
    exact rest

theorem cluster_withOutcome (w : World) (o : Except ClusterError Cluster) :
    (w.withOutcome o).cluster =
      match o with
      | .ok c => c
      | .error _ => w.cluster := by
  cases o <;> rfl

theorem cluster_behind (w : World) (x : Incident) :
    (w.behind x).cluster = w.cluster.through (w.acts x) := by
  cases x with
  | storeOutage => rfl
  | event e =>
    cases e with
    | request cfg q => exact cluster_run (q.task cfg) w
    | outage | directory | clock | probe => rfl
    | report container r => exact cluster_withOutcome w _
    | output container lines => exact cluster_withOutcome w _

/-- **The cluster of a run** is that of the acts of the run. -/
theorem cluster_course (w : World) (xs : List Incident) :
    (w.course xs).cluster = w.cluster.through (w.actsOf xs) := by
  induction xs generalizing w with
  | nil => rfl
  | cons x xs ih =>
    have rest : (w.course (x :: xs)).cluster = _ := ih (w.behind x)
    rw [rest, cluster_behind, World.actsOf, Cluster.through_append]

/-! ## 2. Logs -/

/-- **The log of a hosted instance**: its last lines, and nothing when the
    cluster does not give it. -/
theorem serve_logs (answers : w.storeFailing .findById = false)
    (stored : w.registry.find? id = some i) (hk : i.container = some k) (lines : Option Nat) :
    w.serve cfg (.logs id lines) =
      (.ok (.logLines ((w.cluster.logs i (lines.getD cfg.logTailLines.toNat)).toOption.getD [])),
        w) := by
  have found : (get id).Yields w i w := yields_get.mpr ⟨answers, stored, rfl⟩
  have attempted : (Task.containerLogs i (lines.getD cfg.logTailLines.toNat)).attempt.Yields w
      ((w.cluster.logs i (lines.getD cfg.logTailLines.toNat)).mapError .cluster) w :=
    Task.yields_attempt.mpr rfl
  have shown : (logs cfg id lines).Yields w
      ((w.cluster.logs i (lines.getD cfg.logTailLines.toNat)).toOption.getD []) w := by
    refine Task.yields_bind.mpr ⟨i, w, found, ?_⟩
    rw [hk]
    refine Task.yields_bind.mpr ⟨_, w, attempted, ?_⟩
    cases w.cluster.logs i (lines.getD cfg.logTailLines.toNat) with
    | ok ls => exact Task.yields_pure.mpr ⟨rfl, rfl⟩
    | error e => exact Task.yields_pure.mpr ⟨rfl, rfl⟩
  exact Task.yields_map.mpr ⟨_, shown, rfl⟩

/-- **A log tells what was written since its container was created.** Whatever
    is done in a cluster and whatever fails in it, a container is there with a
    log exactly when it was created and not removed since, and the log is the
    line of its creation and what was written since: one line for each restart
    that was done, and all lines that it wrote itself. While the cluster gives
    logs, it gives the last lines of it, as many as are asked for or all when
    there are fewer; and so does a fleet over the cluster for a hosted instance
    that it knows, with the number of lines in its settings when none is asked
    for. The cluster of every run of the fleet is such a cluster. -/
theorem logs_tell_history :
    (∀ acts name L, (Cluster.empty.through acts).log? name = some L ↔
      Cluster.WrittenSince (Cluster.empty.done acts) name L) ∧
    (∀ acts (i : Instance) k L n, i.container = some k →
      Cluster.WrittenSince (Cluster.empty.done acts) k.name L →
      (Cluster.empty.through acts).failing .logs = false →
      ∃ front shown, L = front ++ shown ∧ shown.length = min n L.length ∧
        (Cluster.empty.through acts).logs i n = .ok shown) ∧
    (∀ (w : World) acts cfg id i k L lines, w.cluster = Cluster.empty.through acts →
      w.storeFailing .findById = false → w.registry.find? id = some i → i.container = some k →
      Cluster.WrittenSince (Cluster.empty.done acts) k.name L →
      w.cluster.failing .logs = false →
      ∃ front shown, L = front ++ shown ∧
        shown.length = min (lines.getD cfg.logTailLines.toNat) L.length ∧
        w.serve cfg (.logs id lines) = (.ok (.logLines shown), w)) ∧
    ∀ clock probe xs, ((World.empty clock probe).course xs).cluster =
      Cluster.empty.through ((World.empty clock probe).actsOf xs) := by
  have given : ∀ acts (i : Instance) k L n, i.container = some k →
      Cluster.WrittenSince (Cluster.empty.done acts) k.name L →
      (Cluster.empty.through acts).failing .logs = false →
      ∃ front shown, L = front ++ shown ∧ shown.length = min n L.length ∧
        (Cluster.empty.through acts).logs i n = .ok shown := by
    intro acts i k L n hk written answering
    obtain ⟨rc, there, rfl⟩ :=
      Option.map_eq_some_iff.mp ((Cluster.log?_through acts k.name L).mpr written)
    obtain ⟨front, split, length⟩ := Cluster.tail_spec n rc.logs
    exact ⟨front, _, split, length, Cluster.logs_eq_ok.mpr ⟨k, rc, hk, answering, there, rfl⟩⟩
  refine ⟨Cluster.log?_through, given, ?_, fun clock probe xs => cluster_course _ _⟩
  intro w acts cfg id i k L lines own answers stored hk written answering
  obtain ⟨front, shown, split, length, logs⟩ :=
    given acts i k L (lines.getD cfg.logTailLines.toNat) hk written (own ▸ answering)
  refine ⟨front, shown, split, length, ?_⟩
  rw [serve_logs answers stored hk, own, logs]
  rfl

/-- An instance is created, deleted, and created again under its old name; its
    container writes, cannot be restarted, and then can. -/
def sampleLogged : List Incident :=
  [Event.directory sampleDirectory,
    .request .default (.create ⟨7⟩ .hosting (sampleDefinition "search")),
    .output "mcp-00000000000000000000000000000007" ["of old"],
    .request .default (.delete ⟨7⟩),
    .request .default (.create ⟨7⟩ .hosting (sampleDefinition "search")),
    .output "mcp-00000000000000000000000000000007" ["listening", "ready"],
    .outage .restart true, .request .default (.restart ⟨7⟩),
    .outage .restart false, .request .default (.restart ⟨7⟩),
    .output "mcp-00000000000000000000000000000007" ["listening"]].map .event

theorem logs_tell_history_sampleLogged :
    let w := sampleStart.course sampleLogged
    Cluster.WrittenSince (Cluster.empty.done (sampleStart.actsOf sampleLogged))
      "mcp-00000000000000000000000000000007"
      ["created mcp-00000000000000000000000000000007 in namespace apps", "listening", "ready",
        "restarted mcp-00000000000000000000000000000007", "listening"] ∧
    w.serve .default (.logs ⟨7⟩ (some 2)) =
      (.ok (.logLines ["restarted mcp-00000000000000000000000000000007", "listening"]), w) := by
  intro w
  obtain ⟨told, -, shown, same⟩ := logs_tell_history
  have cluster : w.cluster = _ := same ⟨0, 0⟩ (fun _ => ⟨true, none⟩) sampleLogged
  have log : w.cluster.log? "mcp-00000000000000000000000000000007" =
      some ["created mcp-00000000000000000000000000000007 in namespace apps", "listening", "ready",
        "restarted mcp-00000000000000000000000000000007", "listening"] := by decide +kernel
  rw [cluster] at log
  have written := (told _ _ _).mp log
  have found : (w.registry.find? ⟨7⟩).bind (·.container.map (·.name)) =
      some "mcp-00000000000000000000000000000007" := by decide +kernel
  obtain ⟨i, stored, named⟩ := Option.bind_eq_some_iff.mp found
  obtain ⟨k, hk, name⟩ := Option.map_eq_some_iff.mp named
  obtain ⟨front, lines, split, length, served⟩ := shown w _ .default ⟨7⟩ i k _ (some 2) cluster
    (by decide +kernel) stored hk (name ▸ written) (by decide +kernel)
  have halves : ["created mcp-00000000000000000000000000000007 in namespace apps", "listening",
      "ready"] ++ ["restarted mcp-00000000000000000000000000000007", "listening"] =
      front ++ lines := split
  obtain ⟨-, rfl⟩ := List.append_inj' halves length.symm
  exact ⟨written, served⟩

end Fleet

end McpFleet
