/-
  File:      McpFleet/Row.lean
  Subject:   Instances as rows of columns, and reading a row back.

  Names of enumerations are columns of text, the container is one JSON column
  that may be empty. Reading judges the name and the texts again; the shape
  of the container is checked, its values are not.
-/
import McpFleet.Instance.Json

namespace McpFleet

/-- A row of the table of instances. -/
structure Row where
  id : Uuid
  name : String
  access : String
  protocol : String
  source : Document
  target : Document
  publicProxy : Document
  status : String
  hosting : Option Document
  message : Option String
  createdAt : Instant
  updatedAt : Instant
deriving DecidableEq

/-- Why a row is no instance. -/
inductive RowDefect where
  /-- The name is none that an instance may have. -/
  | name (cause : DomainError)
  /-- A kind of access, a protocol or a status has another name. -/
  | text (cause : UnknownName)
  /-- The hosting column is no container. -/
  | hosting
deriving DecidableEq, Repr

/-- The wording of a defect. What a reader of JSON says of a hosting column is
    left out. -/
def RowDefect.message : RowDefect → String
  | name cause => cause.message
  | text cause => cause.message
  | hosting => "unreadable hosting column"

namespace Row

/-- The row of an instance. -/
def ofInstance (i : Instance) : Row where
  id := i.id
  name := i.name.text
  access := i.access.name
  protocol := i.protocol.name
  source := i.source
  target := i.target
  publicProxy := i.publicProxy
  status := i.status.name
  hosting := i.container.map fun c => .ofJson c.toJson
  message := i.message
  createdAt := i.createdAt
  updatedAt := i.updatedAt

/-- The container in the hosting column. -/
def container? (r : Row) : Except RowDefect (Option Hosting.Container) :=
  match r.hosting with
  | none => .ok none
  | some d =>
    match Hosting.Container.ofJson? d.tree with
    | some c => .ok (some c)
    | none => .error .hosting

/-- **The instance of a row.** The columns are judged in this order. -/
def toInstance (r : Row) : Except RowDefect Instance := do
  let name ← (InstanceName.ofText r.name).mapError .name
  let access ← (Access.ofText r.access).mapError .text
  let protocol ← (Protocol.ofText r.protocol).mapError .text
  let status ← (InstanceStatus.ofText r.status).mapError .text
  let container ← r.container?
  return {
    id := r.id
    name, access, protocol, status, container
    source := r.source
    target := r.target
    publicProxy := r.publicProxy
    message := r.message
    createdAt := r.createdAt
    updatedAt := r.updatedAt }

/-- The row with its times on the grid of a table. -/
def cutTimes (r : Row) : Row :=
  { r with createdAt := r.createdAt.cutToMicros, updatedAt := r.updatedAt.cutToMicros }

end Row

end McpFleet
