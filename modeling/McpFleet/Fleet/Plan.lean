/-
  File:      McpFleet/Fleet/Plan.lean
  Subject:   From a definition to what an instance is to be: every check that
             a definition has to pass, in order, and what is derived from it.

  A passthrough instance is planned without a call. A hosted one looks its
  environment up; its container is created only when every check is passed.
-/
import McpFleet.Config
import McpFleet.Fleet.Program

namespace McpFleet.Fleet

/-! ## 1. Definitions -/

/-- What a caller says an instance is to be. -/
structure Definition where
  name : String
  protocol : Protocol
  /-- The text of a server document. -/
  servers : Option String
  hosting : Option Hosting.Settings
deriving DecidableEq

/-- The trimmed text of the server document, unless there is nothing in it. -/
def Definition.payload? (d : Definition) : Option String := d.servers.bind Text.trimmed?

/-- The declared protocol has to be the one that the document implies. -/
def ensureProtocol (declared : Protocol) (s : Server) : Except Error Unit :=
  if s.protocol = declared then .ok () else .error (.protocolMismatch declared s.protocol)

/-! ## 2. Passthrough -/

/-- What a direct or proxy instance is to be. -/
def passthroughRevision (g : Gateway) (access : Access) (id : Uuid) (d : Definition) :
    Except Error Revision := do
  let name ← (InstanceName.ofText d.name).mapError .domain
  let some payload := d.payload? | throw (.missingField .servers)
  let server ← (Server.ofText payload).mapError .server
  if server.url?.isNone then throw (.missingUrl access)
  ensureProtocol d.protocol server
  let routes ← (g.routes id access d.protocol (some server) none).mapError .route
  return ⟨name, d.protocol, server.document, routes, none⟩

/-! ## 3. Hosting -/

/-- The character that stands for a character in a service key. -/
def keyChar (c : Char) : Char := if Text.isWordChar c then c else '-'

/-- A service key made from a name: a digit in front is put behind `mcp-`. -/
def serviceKeyOf (name : InstanceName) : String :=
  match name.text.toList.map keyChar with
  | [] => ""
  | c :: cs =>
    if Text.isAsciiDigit c then "mcp-" ++ String.ofList (c :: cs) else String.ofList (c :: cs)

/-- The server document of a hosted instance, which network protocols can do
    without. -/
def hostedServer? (d : Definition) : Except Error (Option Server) :=
  match d.payload? with
  | none => if d.protocol = .stdio then .error (.missingField .servers) else .ok none
  | some payload => do
    let server ← (Server.ofText payload).mapError .server
    ensureProtocol d.protocol server
    return some server

/-- The spec of a hosted instance, and whether its image can bridge a local
    process; a local process needs an image that can. -/
def hostedSpec (cfg : Config) (d : Definition) : Except Error (Hosting.Spec × Bool) := do
  let some settings := d.hosting | throw (.missingField .hosting)
  let spec ← (Hosting.Spec.ofSettings settings).mapError .domain
  let builtin := spec.usesImage cfg.runtimeImages
  if d.protocol = .stdio ∧ !builtin then throw (.route .stdioNeedsRuntime)
  return (spec, builtin)

/-- The environment that a container is to run in. -/
def hostingEnvironment (id : EnvironmentId) : Task Environment := do
  match ← Task.findEnvironment id with
  | none => throw (.environmentNotFound id)
  | some e => if e.kind = .kubernetes then return e else throw (.unsupportedEnvironment id e.kind)

/-- What a hosted instance is to be, and the deployment of its container. -/
structure HostingPlan where
  revision : Revision
  deployment : Deployment

/-- The plan for a definition whose parts have been judged. -/
def hostingPlan (g : Gateway) (id : Uuid) (generation : UInt32) (name : InstanceName)
    (protocol : Protocol) (spec : Hosting.Spec) (builtin : Bool) (server : Option Server)
    (nameSpace : String) : Except Error HostingPlan := do
  let deployment ← (Deployment.ofRequest {
    id, protocol, spec, nameSpace, generation
    launchCommand := (server.bind Server.launch?).map Launch.commandLine }).mapError .cluster
  let target : HostingTarget := {
    key := match server with
      | some s => s.key
      | none => serviceKeyOf name
    service := deployment.service
    nameSpace := deployment.nameSpace
    port := deployment.port
    builtinRuntime := builtin
    token := spec.tokens.head? }
  let routes ← (g.routes id .hosting protocol none (some target)).mapError .route
  let source := match server with
    | some s => s.document
    | none => routes.target
  let container := Hosting.Container.pending spec deployment.container deployment.service generation
  return ⟨⟨name, protocol, source, routes, some container⟩, deployment⟩

/-- Judges a definition for hosting; nothing is created yet. -/
def prepareHosting (cfg : Config) (id : Uuid) (d : Definition) (generation : UInt32) :
    Task HostingPlan := do
  let name ← Task.ofExcept (InstanceName.ofText d.name) .domain
  let (spec, builtin) ← Task.ofExcept (hostedSpec cfg d) (fun e => e)
  let environment ← hostingEnvironment spec.environmentId
  let server ← Task.ofExcept (hostedServer? d) (fun e => e)
  Task.ofExcept (hostingPlan cfg.gateway id generation name d.protocol spec builtin server
    environment.nameSpace) (fun e => e)

/-! ## 4. Plans and revisions -/

/-- What a new instance is to be; its container is created. -/
def plan (cfg : Config) (id : Uuid) (access : Access) (d : Definition) : Task Revision := do
  match access with
  | .hosting =>
    let p ← prepareHosting cfg id d 0
    Task.createContainer p.deployment
    return p.revision
  | access => Task.ofExcept (passthroughRevision cfg.gateway access id d) (fun e => e)

/-- The generation of the container that is to replace an instance's own. -/
def nextGeneration (i : Instance) : UInt32 :=
  match i.container with
  | none => 0
  | some c => c.nextGeneration

/-- What an instance is to be after an edit. The replacement is created before
    the replaced container is removed, and a failure to remove it is passed
    over. -/
def revise (cfg : Config) (current : Instance) (d : Definition) : Task Revision := do
  match current.access with
  | .hosting =>
    let p ← prepareHosting cfg current.id d (nextGeneration current)
    Task.createContainer p.deployment
    let _ ← Task.attempt (Task.deleteContainer current)
    return p.revision
  | access => Task.ofExcept (passthroughRevision cfg.gateway access current.id d) (fun e => e)

end McpFleet.Fleet
