/-
  File:      McpFleet/Fleet/World.lean
  Subject:   The collaborators of the fleet as one state, and running programs
             in it.

  * `World.answer`: what a call is answered with, and the state behind it.
  * `Program.run`: running to the end; `Program.trace` lists the calls.
  * `run_bind`: a program in two parts is run part by part.
  * `World.serve`: serving a request without a pause.
-/
import McpFleet.Fleet.Request
import McpFleet.Store.Registry

namespace McpFleet.Fleet

/-! ## 1. The state -/

/-- The state of all collaborators. -/
structure World where
  registry : Registry
  /-- Operations of the registry that fail. -/
  storeFailing : StoreOperation → Bool
  cluster : Cluster
  directory : Directory
  /-- What a probe of a url finds. -/
  probe : String → ProbeOutcome
  clock : Instant

namespace World

/-- Nothing stored, nothing running, nothing failing. -/
def empty (clock : Instant) (probe : String → ProbeOutcome) : World :=
  ⟨.empty, fun _ => false, .empty, .empty, probe, clock⟩

/-- The state in which an operation of the registry fails from now on, or no
    longer does. -/
def setStoreFailing (w : World) (operation : StoreOperation) (failing : Bool) : World :=
  { w with storeFailing := fun o => if o = operation then failing else w.storeFailing o }

/-! ## 2. Answers -/

/-- Runs an operation of the registry, unless it is made to fail. -/
def withRegistry {α : Type} (w : World) (operation : StoreOperation)
    (run : Registry → Except StoreError (α × Registry)) : Except StoreError α × World :=
  if w.storeFailing operation then
    (.error (.persistence ("injected " ++ operation.name ++ " failure")), w)
  else match run w.registry with
    | .ok (a, registry) => (.ok a, { w with registry })
    | .error e => (.error e, w)

/-- Runs an operation of the cluster. -/
def withCluster {α : Type} (w : World) (run : Cluster → Except ClusterError (α × Cluster)) :
    Except ClusterError α × World :=
  match run w.cluster with
  | .ok (a, cluster) => (.ok a, { w with cluster })
  | .error e => (.error e, w)

/-- The answer to a call, and the state behind it. -/
def answer (w : World) : (c : Call) → c.Answer × World
  | .createRecord i => w.withRegistry .create fun r => (r.create i).map ((), ·)
  | .updateRecord i => w.withRegistry .update fun r => (r.update i).map ((), ·)
  | .deleteRecord id => w.withRegistry .delete fun r => (r.delete id).map ((), ·)
  | .findRecord id => w.withRegistry .findById fun r => .ok (r.find? id, r)
  | .findRecordByName name => w.withRegistry .findByName fun r => .ok (r.findByName? name, r)
  | .listRecords => w.withRegistry .listAll fun r => .ok (r.list, r)
  | .findEnvironment id => (w.directory.find id, w)
  | .createContainer d => w.withCluster fun c => (c.create d).map ((), ·)
  | .restartContainer i => w.withCluster fun c => c.restart i
  | .deleteContainer i => w.withCluster fun c => (c.delete i).map ((), ·)
  | .containerStatus i => (w.cluster.status i, w)
  | .containerLogs i lines => (w.cluster.logs i lines, w)
  | .probe url _ => (w.probe url, w)
  | .readClock => (w.clock, w)

end World

/-! ## 3. Running -/

namespace Program

variable {α β : Type}

/-- The result of a program, and the state behind its last call. -/
def run : Program α → World → α × World
  | done a, w => (a, w)
  | call c next, w => (next (w.answer c).1).run (w.answer c).2

/-- The calls that a program makes, in order. -/
def trace : Program α → World → List Call
  | done _, _ => []
  | call c next, w => c :: (next (w.answer c).1).trace (w.answer c).2

@[simp] theorem run_done (a : α) (w : World) : (done a).run w = (a, w) := rfl

@[simp] theorem run_ask (c : Call) (w : World) : (ask c).run w = w.answer c := rfl

/-- **A program in two parts is run part by part.** -/
theorem run_bind (p : Program α) (f : α → Program β) (w : World) :
    (p.bind f).run w = (f (p.run w).1).run (p.run w).2 := by
  induction p generalizing w with
  | done a => rfl
  | call c next ih => exact ih _ _

end Program

/-- Runs a task. -/
def Task.runIn {α : Type} (t : Task α) (w : World) : Except Error α × World := Program.run t w

/-- Serves one request to its end. -/
def World.serve (w : World) (cfg : Config) (r : Request) : Except Error Reply × World :=
  (r.task cfg).runIn w

end McpFleet.Fleet
