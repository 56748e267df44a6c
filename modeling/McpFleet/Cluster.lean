/-
  File:      McpFleet/Cluster.lean
  Subject:   The cluster that runs containers: how containers are named and
             described, what a cluster can be asked, and the log of each
             container.

  The names of a container and of its service are made from the identifier of
  the instance and the generation, so that a replacement can run beside the
  container it replaces. Every operation can be made to fail; a failed
  operation changes nothing.
-/
import McpFleet.Hosting.Json
import McpFleet.Instance

namespace McpFleet

/-! ## 1. Deployments -/

/-- What a container is created from. -/
structure Deployment where
  container : String
  service : String
  nameSpace : String
  port : UInt16
  manifest : Document
deriving DecidableEq

/-- What can be made to fail in a cluster. -/
inductive ClusterOperation where
  | create
  | restart
  | delete
  | status
  | logs
deriving DecidableEq, Repr

/-- The operation as messages name it. -/
def ClusterOperation.title : ClusterOperation → String
  | create => "Create"
  | restart => "Restart"
  | delete => "Delete"
  | status => "Status"
  | logs => "Logs"

/-- Why a cluster refuses what it is asked. -/
inductive ClusterError where
  | notHosted (id : Uuid)
  | notFound (container : String)
  /-- A local process is to be bridged, and there is no command for it. -/
  | commandMissing
  | alreadyExists (container : String)
  | outage (operation : ClusterOperation)
deriving DecidableEq, Repr

/-- The wording of a refusal. -/
def ClusterError.message : ClusterError → String
  | notHosted id => "MCP instance " ++ id.text ++ " has no container"
  | notFound container => "container not found: " ++ container
  | commandMissing => "container runtime error: stdio containers need a command to bridge"
  | alreadyExists container =>
    "container runtime error: container " ++ container ++ " already exists"
  | outage operation => "container runtime error: injected " ++ operation.title ++ " failure"

namespace Deployment

/-- The end of both names: the identifier, and the generation unless it is the
    first. -/
def suffix (id : Uuid) (generation : UInt32) : String :=
  if generation = 0 then id.plainText
  else id.plainText ++ "-" ++ Text.ofNat generation.toNat

/-- The name of the container of one generation of an instance. -/
def containerName (id : Uuid) (generation : UInt32) : String := "mcp-" ++ suffix id generation

/-- The name of the service in front of that container. -/
def serviceName (id : Uuid) (generation : UInt32) : String := "mcp-svc-" ++ suffix id generation

/-- What a deployment is wanted for. -/
structure Request where
  id : Uuid
  protocol : Protocol
  spec : Hosting.Spec
  /-- The command line of a local process. -/
  launchCommand : Option String
  nameSpace : String
  generation : UInt32

/-- The settings that a container is started with, and its command. -/
def manifestOf (r : Request) (command : Option String) : Document :=
  .ofJson (.object [("command", Json.ofOption .text command),
    ("env", Json.ofTextDict r.spec.env), ("image", .text r.spec.image),
    ("initScript", Json.ofOption .text r.spec.initScript),
    ("packageId", Json.ofOption .text r.spec.packageId), ("port", .integer r.spec.port.toNat),
    ("protocol", r.protocol.toJson), ("runningTimeout", .integer r.spec.timeouts.running.toNat),
    ("volumeMounts", Hosting.ofMounts r.spec.mounts)])

/-- **The deployment for a request.** The spec's own command goes before the
    command line of the local process. -/
def ofRequest (r : Request) : Except ClusterError Deployment :=
  let command := r.spec.command.or r.launchCommand
  if r.protocol = .stdio ∧ command = none then .error .commandMissing
  else .ok {
    container := containerName r.id r.generation
    service := serviceName r.id r.generation
    nameSpace := r.nameSpace
    port := r.spec.port
    manifest := manifestOf r command }

end Deployment

/-! ## 2. Containers -/

/-- A container in the cluster. -/
structure RunningContainer where
  deployment : Deployment
  report : StatusReport
  logs : List String
deriving DecidableEq

/-- Containers by name, and the operations that are made to fail. -/
structure Cluster where
  containers : Dict String RunningContainer
  failing : ClusterOperation → Bool

namespace Cluster

/-- Nothing runs, and nothing fails. -/
def empty : Cluster := ⟨.empty, fun _ => false⟩

/-- The cluster in which an operation fails from now on, or no longer does. -/
def setFailing (c : Cluster) (operation : ClusterOperation) (failing : Bool) : Cluster :=
  { c with failing := fun o => if o = operation then failing else c.failing o }

/-- Refuses an operation that is made to fail. -/
def check (c : Cluster) (operation : ClusterOperation) : Except ClusterError Unit :=
  if c.failing operation then .error (.outage operation) else .ok ()

/-- The name of an instance's container. -/
def nameOf (i : Instance) : Except ClusterError String :=
  match i.container with
  | some container => .ok container.name
  | none => .error (.notHosted i.id)

/-- The container of a name, which has to be there. -/
def find (c : Cluster) (name : String) : Except ClusterError RunningContainer :=
  match c.containers.get? name with
  | some container => .ok container
  | none => .error (.notFound name)

/-- Puts a container under a name, in place of the one before. -/
def put (c : Cluster) (name : String) (container : RunningContainer) : Cluster :=
  { c with containers := c.containers.insert name container }

/-! ## 3. What a cluster is asked -/

/-- The first line of every log. -/
def createdLine (d : Deployment) : String :=
  "created " ++ d.container ++ " in namespace " ++ d.nameSpace

/-- What a restart adds to the log. -/
def restartedLine (name : String) : String := "restarted " ++ name

/-- Creates a pending container under a name that no other one has. -/
def create (c : Cluster) (d : Deployment) : Except ClusterError Cluster := do
  c.check .create
  if c.containers.contains d.container then throw (.alreadyExists d.container)
  return c.put d.container ⟨d, .pending, [createdLine d]⟩

/-- Starts a container again; gives a message about it. -/
def restart (c : Cluster) (i : Instance) : Except ClusterError (String × Cluster) := do
  let name ← nameOf i
  c.check .restart
  let container ← c.find name
  return ("restart requested for container " ++ name,
    c.put name { container with
      report := .pending
      logs := container.logs ++ [restartedLine name] })

/-- Removes a container; one that is gone already is no error. -/
def delete (c : Cluster) (i : Instance) : Except ClusterError Cluster := do
  let name ← nameOf i
  c.check .delete
  return { c with containers := c.containers.erase name }

/-- The last report of the container of an instance. -/
def status (c : Cluster) (i : Instance) : Except ClusterError StatusReport := do
  let name ← nameOf i
  c.check .status
  return (← c.find name).report

/-- The last lines of a list. -/
def tail {α : Type} (n : Nat) (xs : List α) : List α := xs.drop (xs.length - n)

/-- The last lines of the log of an instance, and no more than it has. -/
def logs (c : Cluster) (i : Instance) (lines : Nat) : Except ClusterError (List String) := do
  let name ← nameOf i
  c.check .logs
  return tail lines (← c.find name).logs

/-! ## 4. What happens to containers by themselves -/

/-- A container reports something else from now on. -/
def setStatus (c : Cluster) (name : String) (report : StatusReport) :
    Except ClusterError Cluster := do
  let container ← c.find name
  return c.put name { container with report }

/-- A container writes lines to its log. -/
def appendLogs (c : Cluster) (name : String) (lines : List String) :
    Except ClusterError Cluster := do
  let container ← c.find name
  return c.put name { container with logs := container.logs ++ lines }

/-- The names of all containers, in order. -/
def names (c : Cluster) : List String := c.containers.keys

end Cluster

end McpFleet
