/-
  File:      McpFleet/Instance/Json.lean
  Subject:   The JSON form of an instance.

  The container and the message are left out when there is none. Reading
  checks shapes only: a name that is not normal, or settings that would not
  be accepted, are read as they stand.
-/
import McpFleet.Hosting.Json
import McpFleet.Instance
import McpFleet.Instant.Timestamp
import McpFleet.Json.Parser
import McpFleet.Json.Printer

namespace McpFleet.Instance

/-- A member that is left out when there is no value. -/
def memberOf {α : Type} (key : String) (write : α → Json) : Option α → List (String × Json)
  | none => []
  | some a => [(key, write a)]

/-- The members in key order. -/
def members (i : Instance) : List (String × Json) :=
  [("accessType", i.access.toJson), ("createdAt", i.createdAt.toJson)]
    ++ memberOf "hosting" Hosting.Container.toJson i.container
    ++ [("instanceId", i.id.toJson), ("mcpProtocol", i.protocol.toJson), ("name", i.name.toJson),
      ("publicProxyConfig", i.publicProxy.tree), ("sourceConfig", i.source.tree),
      ("status", i.status.toJson)]
    ++ memberOf "statusMessage" Json.text i.message
    ++ [("targetConfig", i.target.tree), ("updatedAt", i.updatedAt.toJson)]

/-- An instance is an object of its members. -/
def toJson (i : Instance) : Json := .object i.members

/-- The fields in the order of the array form. -/
def fields : List String :=
  ["instanceId", "name", "accessType", "mcpProtocol", "sourceConfig", "targetConfig",
    "publicProxyConfig", "status", "hosting", "statusMessage", "createdAt", "updatedAt"]

/-- A reader passes over all other fields, also of the container. -/
def shape : Json.Shape := .ofFields fields [("hosting", Hosting.Container.shape)]

/-- The container and the message may be missing; nothing is judged again. -/
def ofJson? (j : Json) : Option Instance := do
  let r ← j.record? fields
  return {
    id := ← r.required "instanceId" Uuid.ofJson?
    name := ← r.required "name" InstanceName.ofJson?
    access := ← r.required "accessType" Access.ofJson?
    protocol := ← r.required "mcpProtocol" Protocol.ofJson?
    source := ← r.required "sourceConfig" Json.document?
    target := ← r.required "targetConfig" Json.document?
    publicProxy := ← r.required "publicProxyConfig" Json.document?
    status := ← r.required "status" InstanceStatus.ofJson?
    container := ← r.withDefault "hosting" none (Json.nullable? Hosting.Container.ofJson?)
    message := ← r.withDefault "statusMessage" none (Json.nullable? Json.text?)
    createdAt := ← r.required "createdAt" Instant.ofJson?
    updatedAt := ← r.required "updatedAt" Instant.ofJson? }

/-- The compact text of the JSON form. -/
def text (i : Instance) : String := i.toJson.render

/-- The instance written by a text. -/
def ofText? (s : String) : Option Instance := (Json.parseAs? shape s).bind ofJson?

end McpFleet.Instance
