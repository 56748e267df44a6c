/-
  File:      McpFleet/DomainError.lean
  Subject:   The rules about names, identifiers and hosting settings, by what
             breaks them, and the wording of each.
-/
import McpFleet.Text.Decimal
import McpFleet.Uuid

namespace McpFleet

/-- Why a name or settings are refused. -/
inductive DomainError where
  | emptyName
  | nameTooLong (name : String)
  | invalidPort
  | invalidEnvironmentId (given : Int64)
  | emptyImage
  | startupTimeoutOutOfRange (seconds : UInt32)
  | runningTimeoutOutOfRange (seconds : UInt32)
  | emptyMountPath
  | notHosted (id : Uuid)
deriving DecidableEq, Repr

/-- The wording of a refusal; a name is quoted as it was after trimming. -/
def DomainError.message : DomainError → String
  | emptyName => "instance name must not be empty"
  | nameTooLong name => "instance name exceeds 100 character limit: " ++ name
  | invalidPort => "port must be greater than zero"
  | invalidEnvironmentId given =>
    "environment id must be greater than zero (got " ++ Text.ofInt given.toInt ++ ")"
  | emptyImage => "image address must not be empty"
  | startupTimeoutOutOfRange seconds =>
    "startup timeout must be 0 or between 30 and 3600 seconds (got "
      ++ Text.ofNat seconds.toNat ++ ")"
  | runningTimeoutOutOfRange seconds =>
    "running timeout must be 0 or between 60 and 86400 seconds (got "
      ++ Text.ofNat seconds.toNat ++ ")"
  | emptyMountPath => "volume mount path must not be empty"
  | notHosted id => "MCP instance " ++ id.text ++ " is not a hosted instance"

end McpFleet
