/-
  File:      McpFleet/Hosting/Json.lean
  Subject:   JSON forms of hosting settings, specs and containers.

  Reading checks shapes and number ranges only; what a spec promises about
  its values is not checked again.
-/
import McpFleet.Hosting

namespace McpFleet.Hosting

/-! ## 1. Parts -/

/-- Both limits in seconds, zero for none. -/
def Timeouts.toJson (t : Timeouts) : Json :=
  .object [("runningTimeout", .integer t.running.toNat),
    ("startupTimeout", .integer t.startup.toNat)]

/-- The fields in the order of the array form. -/
def Timeouts.fields : List String := ["startupTimeout", "runningTimeout"]

/-- A reader passes over all other fields. -/
def Timeouts.shape : Json.Shape := .ofFields fields []

/-- Both have to be there; neither is judged again. -/
def Timeouts.ofJson? (j : Json) : Option Timeouts := do
  let r ← j.record? fields
  return ⟨← r.required "startupTimeout" Json.uint32?, ← r.required "runningTimeout" Json.uint32?⟩

/-- What is mounted, where, and how. -/
def Mount.toJson (m : Mount) : Json :=
  .object [("mountPath", .text m.path), ("readOnly", .bool m.readOnly), ("source", .text m.source)]

/-- The fields in the order of the array form. -/
def Mount.fields : List String := ["source", "mountPath", "readOnly"]

/-- A reader passes over all other fields. -/
def Mount.shape : Json.Shape := .ofFields fields []

/-- A mount can be written to unless it says otherwise. -/
def Mount.ofJson? (j : Json) : Option Mount := do
  let r ← j.record? fields
  return ⟨← r.required "source" Json.text?, ← r.required "mountPath" Json.text?,
    ← r.withDefault "readOnly" false Json.bool?⟩

/-- Mounts in the order in which they are made. -/
def ofMounts (mounts : List Mount) : Json := .array (mounts.map Mount.toJson)

/-! ## 2. Settings and specs -/

/-- Settings as they were handed over, the limits side by side. -/
def Settings.toJson (s : Settings) : Json :=
  .object [("command", Json.ofOption .text s.command),
    ("environmentId", .integer s.environmentId.toInt),
    ("environmentVariables", Json.ofTextDict s.env), ("imageAddress", .text s.image),
    ("initScript", Json.ofOption .text s.initScript),
    ("packageId", Json.ofOption .text s.packageId), ("port", .integer s.port.toNat),
    ("runningTimeout", .integer s.runningTimeout.toNat),
    ("startupTimeout", .integer s.startupTimeout.toNat), ("tokens", Json.ofTexts s.tokens),
    ("volumeMounts", ofMounts s.mounts)]

/-- The fields in the order of the array form. -/
def Settings.fields : List String :=
  ["environmentId", "packageId", "port", "command", "initScript", "imageAddress",
    "environmentVariables", "volumeMounts", "startupTimeout", "runningTimeout", "tokens"]

/-- A reader passes over all other fields, also of the mounts. -/
def Settings.shape : Json.Shape := .ofFields fields [("volumeMounts", .list Mount.shape)]

/-- Every field of settings has a value for when it is missing. -/
def Settings.ofJson? (j : Json) : Option Settings := do
  let r ← j.record? fields
  return {
    environmentId := ← r.withDefault "environmentId" 0 Json.int64?
    packageId := ← r.withDefault "packageId" none (Json.nullable? Json.text?)
    port := ← r.withDefault "port" 0 Json.uint16?
    command := ← r.withDefault "command" none (Json.nullable? Json.text?)
    initScript := ← r.withDefault "initScript" none (Json.nullable? Json.text?)
    image := ← r.withDefault "imageAddress" "" Json.text?
    env := ← r.withDefault "environmentVariables" .empty Json.textDict?
    mounts := ← r.withDefault "volumeMounts" [] (Json.list? Mount.ofJson?)
    startupTimeout := ← r.withDefault "startupTimeout" 0 Json.uint32?
    runningTimeout := ← r.withDefault "runningTimeout" 0 Json.uint32?
    tokens := ← r.withDefault "tokens" [] (Json.list? Json.text?) }

/-- A spec has its limits in a record of their own. -/
def Spec.toJson (s : Spec) : Json :=
  .object [("command", Json.ofOption .text s.command), ("environmentId", s.environmentId.toJson),
    ("environmentVariables", Json.ofTextDict s.env), ("imageAddress", .text s.image),
    ("initScript", Json.ofOption .text s.initScript),
    ("packageId", Json.ofOption .text s.packageId), ("port", .integer s.port.toNat),
    ("timeouts", s.timeouts.toJson), ("tokens", Json.ofTexts s.tokens),
    ("volumeMounts", ofMounts s.mounts)]

/-- The fields in the order of the array form. -/
def Spec.fields : List String :=
  ["environmentId", "packageId", "port", "command", "initScript", "imageAddress",
    "environmentVariables", "volumeMounts", "timeouts", "tokens"]

/-- A reader passes over all other fields, also of what is inside. -/
def Spec.shape : Json.Shape :=
  .ofFields fields [("volumeMounts", .list Mount.shape), ("timeouts", Timeouts.shape)]

/-- The settings are not judged again: a port may be zero here. -/
def Spec.ofJson? (j : Json) : Option Spec := do
  let r ← j.record? fields
  return {
    environmentId := ← r.required "environmentId" EnvironmentId.ofJson?
    packageId := ← r.optional "packageId" Json.text?
    port := ← r.required "port" Json.uint16?
    command := ← r.optional "command" Json.text?
    initScript := ← r.optional "initScript" Json.text?
    image := ← r.required "imageAddress" Json.text?
    env := ← r.required "environmentVariables" Json.textDict?
    mounts := ← r.required "volumeMounts" (Json.list? Mount.ofJson?)
    timeouts := ← r.required "timeouts" Timeouts.ofJson?
    tokens := ← r.required "tokens" (Json.list? Json.text?) }

/-! ## 3. Containers -/

/-- The container with its spec inside. -/
def Container.toJson (c : Container) : Json :=
  .object [("containerIsReady", .bool c.ready), ("containerName", .text c.name),
    ("containerStatus", c.status.toJson), ("generation", .integer c.generation.toNat),
    ("serviceName", .text c.service), ("spec", c.spec.toJson)]

/-- The fields in the order of the array form. -/
def Container.fields : List String :=
  ["spec", "containerName", "serviceName", "containerStatus", "containerIsReady", "generation"]

/-- A reader passes over all other fields, also of the spec. -/
def Container.shape : Json.Shape := .ofFields fields [("spec", Spec.shape)]

/-- A container without a generation has the first one. -/
def Container.ofJson? (j : Json) : Option Container := do
  let r ← j.record? fields
  return {
    spec := ← r.required "spec" Spec.ofJson?
    name := ← r.required "containerName" Json.text?
    service := ← r.required "serviceName" Json.text?
    status := ← r.required "containerStatus" ContainerStatus.ofJson?
    ready := ← r.required "containerIsReady" Json.bool?
    generation := ← r.withDefault "generation" 0 Json.uint32? }

end McpFleet.Hosting
