/-
  File:      McpFleet/Hosting.lean
  Subject:   Settings for a container that the fleet runs, as they are asked
             for, and the spec that accepted settings become.

  Settings are judged in a fixed order: port, environment, image, startup
  timeout, running timeout, mounts. In a spec the texts are trimmed, blank
  ones are left out, and blank tokens are dropped.
-/
import McpFleet.Environment
import McpFleet.Status

namespace McpFleet.Hosting

/-! ## 1. Time limits -/

/-- Seconds that a container may take to start, and may run; 0 leaves the
    limit to the platform. -/
structure Timeouts where
  startup : UInt32
  running : UInt32
deriving DecidableEq, Repr

namespace Timeouts

/-- No limit at all, or half a minute to an hour. -/
def startupInRange (s : UInt32) : Bool := s = 0 || (30 ≤ s && s ≤ 3600)

/-- No limit at all, or a minute to a day. -/
def runningInRange (s : UInt32) : Bool := s = 0 || (60 ≤ s && s ≤ 86400)

/-- Judges the time to start before the time to run. -/
def ofSeconds (startup running : UInt32) : Except DomainError Timeouts :=
  if !startupInRange startup then .error (.startupTimeoutOutOfRange startup)
  else if !runningInRange running then .error (.runningTimeoutOutOfRange running)
  else .ok ⟨startup, running⟩

/-- Zero means that there is no limit. -/
def limit? (s : UInt32) : Option UInt32 := if s = 0 then none else some s

/-- How long a container may take to start, in seconds. -/
def startupLimit? (t : Timeouts) : Option UInt32 := limit? t.startup

/-- How long a container may run, in seconds. -/
def runningLimit? (t : Timeouts) : Option UInt32 := limit? t.running

end Timeouts

/-! ## 2. Settings and specs -/

/-- A volume that a container sees. -/
structure Mount where
  source : String
  path : String
  readOnly : Bool
deriving DecidableEq, Repr

/-- Settings as they are asked for. -/
structure Settings where
  environmentId : Int64
  packageId : Option String
  port : UInt16
  command : Option String
  initScript : Option String
  image : String
  env : Dict String String
  mounts : List Mount
  startupTimeout : UInt32
  runningTimeout : UInt32
  tokens : List String
deriving DecidableEq

/-- The settings of a document without fields. -/
def Settings.blank : Settings := ⟨0, none, 0, none, none, "", .empty, [], 0, 0, []⟩

/-- Settings that were accepted. -/
structure Spec where
  environmentId : EnvironmentId
  packageId : Option String
  port : UInt16
  command : Option String
  initScript : Option String
  image : String
  env : Dict String String
  mounts : List Mount
  timeouts : Timeouts
  tokens : List String
deriving DecidableEq

namespace Spec

/-- **Judges settings.** -/
def ofSettings (s : Settings) : Except DomainError Spec := do
  if s.port = 0 then throw .invalidPort
  let environmentId ← EnvironmentId.ofInt64 s.environmentId
  let some image := Text.trimmed? s.image | throw .emptyImage
  let timeouts ← Timeouts.ofSeconds s.startupTimeout s.runningTimeout
  if s.mounts.any (fun m => Text.isBlankText m.path) then throw .emptyMountPath
  return {
    environmentId, image, timeouts
    packageId := s.packageId.bind Text.trimmed?
    port := s.port
    command := s.command.bind Text.trimmed?
    initScript := s.initScript.bind Text.trimmed?
    env := s.env
    mounts := s.mounts
    tokens := s.tokens.filter (fun t => !Text.isBlankText t) }

/-- Whether the image is one of those that start with the given texts. -/
def usesImage (s : Spec) (starts : List String) : Bool := starts.any (Text.startsWith s.image)

/-- The settings that ask for exactly this spec. -/
def toSettings (s : Spec) : Settings where
  environmentId := s.environmentId.value
  packageId := s.packageId
  port := s.port
  command := s.command
  initScript := s.initScript
  image := s.image
  env := s.env
  mounts := s.mounts
  startupTimeout := s.timeouts.startup
  runningTimeout := s.timeouts.running
  tokens := s.tokens

end Spec

/-! ## 3. Containers of instances -/

/-- The container that an instance has, as its record keeps it. -/
structure Container where
  spec : Spec
  name : String
  service : String
  status : ContainerStatus
  ready : Bool
  /-- How often the container has been replaced. -/
  generation : UInt32
deriving DecidableEq

namespace Container

/-- A container that has just been asked for. -/
def pending (spec : Spec) (name service : String) (generation : UInt32) : Container :=
  ⟨spec, name, service, .pending, false, generation⟩

/-- The generation of the next replacement; the last one is its own successor. -/
def nextGeneration (c : Container) : UInt32 :=
  if c.generation = 0xFFFFFFFF then c.generation else c.generation + 1

/-- The container behind a restart, which has not reported yet. -/
def resetToPending (c : Container) : Container := { c with status := .pending, ready := false }

/-- The container behind a report; only the status and the readiness are kept
    of it. -/
def withReport (c : Container) (r : StatusReport) : Container :=
  { c with status := r.status, ready := r.ready }

end Container

end McpFleet.Hosting
