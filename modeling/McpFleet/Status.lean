/-
  File:      McpFleet/Status.lean
  Subject:   Whether an instance is in use, how its container does, and what a
             container reports about itself.
-/
import McpFleet.Access
import McpFleet.Json.Shape

namespace McpFleet

/-! ## 1. Instances -/

/-- Whether an instance is to be used. -/
inductive InstanceStatus where
  | active
  | inactive
deriving DecidableEq, Repr

namespace InstanceStatus

/-- The name in columns and documents. -/
def name : InstanceStatus → String
  | active => "active"
  | inactive => "inactive"

/-- What a text may say, in lower case. -/
def options : List (String × InstanceStatus) := [("active", active), ("inactive", inactive)]

/-- Reads a name in any case and with blanks around it. -/
def ofText (s : String) : Except UnknownName InstanceStatus :=
  readName "instance status" options s

/-- A status is written as its name. -/
def toJson (s : InstanceStatus) : Json := .text s.name

/-- Only the exact names are read from JSON. -/
def ofJson? (j : Json) : Option InstanceStatus := j.choice? options

end InstanceStatus

/-! ## 2. Containers -/

/-- What a container is doing. -/
inductive ContainerStatus where
  | pending
  | running
  | runningUnready
  | stopped
  | failed
deriving DecidableEq, Repr

namespace ContainerStatus

/-- The name in columns and documents. -/
def name : ContainerStatus → String
  | pending => "pending"
  | running => "running"
  | runningUnready => "running_unready"
  | stopped => "stopped"
  | failed => "failed"

/-- What a text may say, in lower case. -/
def options : List (String × ContainerStatus) :=
  [("pending", pending), ("running", running), ("running_unready", runningUnready),
    ("stopped", stopped), ("failed", failed)]

/-- Reads a name in any case and with blanks around it. -/
def ofText (s : String) : Except UnknownName ContainerStatus :=
  readName "container status" options s

/-- A status is written as its name. -/
def toJson (s : ContainerStatus) : Json := .text s.name

/-- Only the exact names are read from JSON. -/
def ofJson? (j : Json) : Option ContainerStatus := j.choice? options

end ContainerStatus

/-! ## 3. Reports -/

/-- What a container reports. -/
structure StatusReport where
  status : ContainerStatus
  ready : Bool
  message : Option String
deriving DecidableEq, Repr

namespace StatusReport

/-- The report of a container that has just been asked for. -/
def pending : StatusReport := ⟨.pending, false, none⟩

/-- The report with a message, unless the message is blank. -/
def withMessage (r : StatusReport) (message : String) : StatusReport :=
  match Text.trimmed? message with
  | some m => { r with message := some m }
  | none => r

/-- A report without a message says null in its place. -/
def toJson (r : StatusReport) : Json :=
  .object [("isReady", .bool r.ready), ("message", Json.ofOption .text r.message),
    ("status", r.status.toJson)]

/-- The fields in the order of the array form. -/
def fields : List String := ["status", "isReady", "message"]

/-- A reader passes over all other fields. -/
def shape : Json.Shape := .ofFields fields []

/-- The message may be missing or null, the others have to be there. -/
def ofJson? (j : Json) : Option StatusReport := do
  let r ← j.record? fields
  return ⟨← r.required "status" ContainerStatus.ofJson?, ← r.required "isReady" Json.bool?,
    ← r.optional "message" Json.text?⟩

end StatusReport

end McpFleet
