/-
  File:      McpFleet/Fleet/Error.lean
  Subject:   Why a request to the fleet is refused, and the four kinds of
             refusal.
-/
import McpFleet.Cluster
import McpFleet.Store

namespace McpFleet.Fleet

/-- A part of a definition that some instances cannot do without. -/
inductive RequiredField where
  | servers
  | hosting
deriving DecidableEq, Repr

/-- The field as messages name it. -/
def RequiredField.name : RequiredField → String
  | servers => "mcp_servers"
  | hosting => "hosting"

/-- Why a request is refused, or fails. -/
inductive Error where
  | domain (cause : DomainError)
  | server (cause : ServerError)
  | route (cause : RouteError)
  | store (cause : StoreError)
  | directory (cause : DirectoryError)
  | cluster (cause : ClusterError)
  | missingField (field : RequiredField)
  | missingUrl (access : Access)
  | protocolMismatch (declared inferred : Protocol)
  | environmentNotFound (id : EnvironmentId)
  | unsupportedEnvironment (id : EnvironmentId) (kind : EnvironmentKind)
  | accessImmutable (stored requested : Access)
  | restartNotSupported (access : Access)
  | notFound (id : Uuid)
deriving DecidableEq, Repr

/-- Who has to act on a refusal. -/
inductive ErrorKind where
  /-- The request is wrong in itself. -/
  | input
  /-- The request collides with what is stored. -/
  | conflict
  | notFound
  /-- A collaborator failed. -/
  | dependency
deriving DecidableEq, Repr

namespace Error

/-- The wording of a refusal or a failure. -/
def message : Error → String
  | domain cause => cause.message
  | server cause => cause.message
  | route cause => cause.message
  | store cause => cause.message
  | directory cause => cause.message
  | cluster cause => cause.message
  | missingField field => field.name ++ " is required"
  | missingUrl access => access.name ++ " instances require a url"
  | protocolMismatch declared inferred =>
    "declared protocol " ++ declared.name ++ " does not match configured protocol "
      ++ inferred.name
  | environmentNotFound id => "environment " ++ id.text ++ " not found"
  | unsupportedEnvironment id kind =>
    "environment " ++ id.text ++ " is of type " ++ kind.name ++ "; hosting requires kubernetes"
  | accessImmutable stored requested =>
    "access type of MCP instance is " ++ stored.name ++ " and cannot be changed to "
      ++ requested.name
  | restartNotSupported _ => "this service does not need to be restarted"
  | notFound id => "MCP instance " ++ id.text ++ " not found"

/-- What a caller makes of an error. -/
def kind : Error → ErrorKind
  | store (.duplicateInstance _) => .conflict
  | store (.duplicateName _) => .conflict
  | store (.notFound _) => .notFound
  | store _ => .dependency
  | cluster (.notFound _) => .notFound
  | cluster _ => .dependency
  | directory _ => .dependency
  | environmentNotFound _ => .notFound
  | notFound _ => .notFound
  | domain _ => .input
  | server _ => .input
  | route _ => .input
  | missingField _ => .input
  | missingUrl _ => .input
  | protocolMismatch _ _ => .input
  | unsupportedEnvironment _ _ => .input
  | accessImmutable _ _ => .input
  | restartNotSupported _ => .input

end Error

end McpFleet.Fleet
