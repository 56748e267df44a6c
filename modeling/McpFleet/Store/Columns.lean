/-
  File:      McpFleet/Store/Columns.lean
  Subject:   What the columns of a table take, and what they give back.

  A stand-in for a database keeps every value as its text. The columns of a
  database have types: texts and documents without U+0000, documents as JSONB,
  times not before the first one that can be kept. Values are judged before a
  statement runs, so one that cannot be taken is refused even where no row
  would be changed. Reading a row reads its documents from the text of their
  columns, which fails when there is a number beyond the largest one, or lists
  and objects are nested too deep.
-/
import McpFleet.Json.Jsonb
import McpFleet.Json.Parser
import McpFleet.Store

namespace McpFleet

/-! ## 1. Errors of a database -/

/-- An error that the database reports. -/
structure DatabaseError where
  /-- The five characters that classify the error. -/
  code : String
  constraint : Option String
  message : String
deriving DecidableEq, Repr

namespace DatabaseError

/-- The code of a unique violation. -/
def uniqueViolation : String := "23505"

/-- A text that is too wide for its column. -/
def valueTooLong (width : Nat) : DatabaseError :=
  ⟨"22001", none, "value too long for type character varying(" ++ Text.ofNat width ++ ")"⟩

/-- A key of an index that another row has. -/
def duplicateKey (constraint : String) : DatabaseError :=
  ⟨uniqueViolation, some constraint,
    "duplicate key value violates unique constraint \"" ++ constraint ++ "\""⟩

/-- A text with U+0000. -/
def zeroByte : DatabaseError :=
  ⟨"22021", none, "invalid byte sequence for encoding \"UTF8\": 0x00"⟩

/-- A document with U+0000 in a text or a key. -/
def zeroEscape : DatabaseError := ⟨"22P05", none, "unsupported Unicode escape sequence"⟩

/-- A time before the first one that can be kept. -/
def timeOutOfRange : DatabaseError := ⟨"22008", none, "timestamp out of range"⟩

end DatabaseError

/-! ## 2. Columns -/

/-- How the columns of a table keep values. -/
inductive Columns where
  /-- Each value as its text. -/
  | plain
  /-- By the types `VARCHAR` and `TEXT`, `JSONB` and `TIMESTAMPTZ`. -/
  | typed
deriving DecidableEq, Repr

/-- Whether U+0000 is in a text. -/
def Text.hasZero (s : String) : Bool := s.toList.contains '\x00'

namespace Columns

/-- The first microsecond since 2000 that can be kept, in the year 4713 BC. The
    last one is behind every time that an instance can have. -/
def firstMicro : Int := -211813488000000000

/-- Refuses U+0000 in a text. -/
def checkText (columns : Columns) (s : String) : Except DatabaseError Unit :=
  if columns = typed ∧ Text.hasZero s then .error .zeroByte else .ok ()

/-- Refuses U+0000 in the texts and keys of a document. -/
def checkDocument (columns : Columns) (d : Document) : Except DatabaseError Unit :=
  if columns = typed ∧ d.tree.anyText Text.hasZero then .error .zeroEscape else .ok ()

/-- Refuses a time before the first one that can be kept. -/
def checkTime (columns : Columns) (t : Instant) : Except DatabaseError Unit :=
  if columns = typed ∧ t.microsSince2000 < firstMicro then .error .timeOutOfRange else .ok ()

/-- Judges the values of a row, column by column. -/
def check (columns : Columns) (r : Row) : Except DatabaseError Unit := do
  columns.checkText r.name
  columns.checkText r.access
  columns.checkText r.protocol
  columns.checkDocument r.source
  columns.checkDocument r.target
  columns.checkDocument r.publicProxy
  columns.checkText r.status
  r.hosting.forM columns.checkDocument
  r.message.forM columns.checkText
  columns.checkTime r.createdAt
  columns.checkTime r.updatedAt

/-! ## 3. Reading -/

/-- The text in which a document comes back. -/
def documentText : Columns → Json → String
  | plain => Json.render
  | typed => Json.jsonbText

/-- A document whose text cannot be read. -/
def unreadable (column : String) : StoreError :=
  .persistence ("Error deserializing field '" ++ column ++ "': Invalid Json")

/-- The document of a value, unless there was none to read. -/
def orUnreadable (column : String) : Option Json → Except StoreError Document
  | some j => .ok (.ofJson j)
  | none => .error (unreadable column)

/-- A document as it is read from its column. -/
def readDocument (columns : Columns) (column : String) (d : Document) :
    Except StoreError Document :=
  orUnreadable column (Json.parse? (columns.documentText d.tree))

/-- A row as it is read from the table. -/
def readRow (columns : Columns) (r : Row) : Except StoreError Row := do
  let source ← columns.readDocument "source_config" r.source
  let target ← columns.readDocument "target_config" r.target
  let publicProxy ← columns.readDocument "public_proxy_config" r.publicProxy
  let hosting ← r.hosting.mapM (columns.readDocument "hosting")
  return { r with source, target, publicProxy, hosting }

end Columns

end McpFleet
