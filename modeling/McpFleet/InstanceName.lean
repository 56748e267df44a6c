/-
  File:      McpFleet/InstanceName.lean
  Subject:   Names of instances: 1 to 100 characters without blanks at the
             ends.

  `ofText` trims and checks; a name that comes from stored data is taken as
  it is, and `IsNormal` says that it is one that `ofText` could have made.
-/
import McpFleet.DomainError
import McpFleet.Text.Blank

namespace McpFleet

/-- The name of an instance. -/
structure InstanceName where
  text : String
deriving DecidableEq, Repr

namespace InstanceName

instance : SortKey InstanceName :=
  SortKey.lift InstanceName.text fun a b h => by cases a; cases b; exact congrArg _ h

/-- The number of characters that a name may have. -/
def maxLength : Nat := 100

/-- The name that a text gives once it is trimmed. -/
def ofText (s : String) : Except DomainError InstanceName :=
  let name := Text.trim s
  if name.isEmpty then .error .emptyName
  else if maxLength < name.length then .error (.nameTooLong name)
  else .ok ⟨name⟩

/-- Not empty, not too long, and no blank at either end. -/
def IsNormal (n : InstanceName) : Prop :=
  n.text ≠ "" ∧ n.text.length ≤ maxLength ∧ Text.trim n.text = n.text

instance (n : InstanceName) : Decidable n.IsNormal := by unfold IsNormal; infer_instance

/-- A name is written as its text. -/
def toJson (n : InstanceName) : Json := .text n.text

/-- A name that was written is read as it stands, without another judgement.
    -/
def ofJson? (j : Json) : Option InstanceName := j.text?.map (⟨·⟩)

end InstanceName

end McpFleet
