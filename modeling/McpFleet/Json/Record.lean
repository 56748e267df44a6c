/-
  File:      McpFleet/Json/Record.lean
  Subject:   Reading values of a type from trees: numbers in a range, texts,
             lists, choices, and records with named fields.

  A record is written as an object or as an array of its fields in order. A
  field that is written twice is refused, fields of other names are passed
  over. In an object a missing field may be optional; in an array only a
  field with a default may be missing, and no item may be left over.
-/
import McpFleet.Json

namespace McpFleet.Json

/-! ## 1. Plain values -/

/-- A whole number from `lo` to `hi`. -/
def intIn? (lo hi : Int) : Json → Option Int
  | .integer n => if lo ≤ n ∧ n ≤ hi then some n else none
  | _ => none

/-- A whole number of 16 bits without a sign. -/
def uint16? (j : Json) : Option UInt16 := (j.intIn? 0 0xFFFF).map (fun n => .ofNat n.toNat)

/-- A whole number of 32 bits without a sign. -/
def uint32? (j : Json) : Option UInt32 := (j.intIn? 0 0xFFFFFFFF).map (fun n => .ofNat n.toNat)

/-- A whole number of 64 bits without a sign. -/
def uint64? (j : Json) : Option UInt64 :=
  (j.intIn? 0 0xFFFFFFFFFFFFFFFF).map (fun n => .ofNat n.toNat)

/-- A whole number of 64 bits with a sign. -/
def int64? (j : Json) : Option Int64 :=
  (j.intIn? (-0x8000000000000000) 0x7FFFFFFFFFFFFFFF).map Int64.ofInt

/-- A truth value; no number or text counts as one. -/
def bool? : Json → Option Bool
  | .bool b => some b
  | _ => none

/-- A list whose items all read. -/
def list? {α : Type} (read : Json → Option α) : Json → Option (List α)
  | .array items => items.mapM read
  | _ => none

/-- `null` for nothing, or a value. -/
def nullable? {α : Type} (read : Json → Option α) (j : Json) : Option (Option α) :=
  if j.isNull then some none else (read j).map some

/-- An object whose members are all texts. -/
def textDict? : Json → Option (Dict String String)
  | .object members =>
    (members.mapM fun (m : String × Json) => m.2.text?.map (m.1, ·)).map Dict.ofList
  | _ => none

/-- Any value, as a document. -/
def document? (j : Json) : Option Document := some (.ofJson j)

/-- One of several names: as a text, or as the one key of an object that holds
    `null`. -/
def choice? {α : Type} (options : List (String × α)) : Json → Option α
  | .text name => options.lookup name
  | .object [(name, .null)] => options.lookup name
  | _ => none

/-! ## 2. Records -/

/-- The values found for the fields of a record. -/
structure Record where
  /-- Written as an array. -/
  positional : Bool
  slots : List (String × Json)

/-- Whether a name is the key of two members. -/
def repeats (members : List (String × Json)) (name : String) : Bool :=
  1 < (members.filter (fun m => m.1 == name)).length

/-- Finds the fields of a record. -/
def record? (fields : List String) : Json → Option Record
  | .array items =>
    if items.length ≤ fields.length then some ⟨true, fields.zip items⟩ else none
  | .object members =>
    if fields.any (repeats members) then none
    else some ⟨false, members.filter (fun m => fields.contains m.1)⟩
  | _ => none

/-- A record none of whose members has another name. -/
def closedRecord? (fields : List String) (j : Json) : Option Record :=
  match j with
  | .object members =>
    if members.all (fun m => fields.contains m.1) then j.record? fields else none
  | _ => j.record? fields

namespace Record

variable {α : Type}

/-- A field that must be there. -/
def required (r : Record) (name : String) (read : Json → Option α) : Option α :=
  (Entries.get? name r.slots).bind read

/-- A field that an object may leave out, and that may be `null`. -/
def optional (r : Record) (name : String) (read : Json → Option α) : Option (Option α) :=
  match Entries.get? name r.slots with
  | none => if r.positional then none else some none
  | some j => j.nullable? read

/-- A field with a value for when it is missing. -/
def withDefault (r : Record) (name : String) (default : α) (read : Json → Option α) : Option α :=
  match Entries.get? name r.slots with
  | none => some default
  | some j => read j

end Record

/-! ## 3. Writing -/

/-- What is not there is written as null. -/
def ofOption {α : Type} (write : α → Json) : Option α → Json
  | none => .null
  | some a => write a

/-- An object of texts. -/
def ofTextDict (d : Dict String String) : Json :=
  .object (d.entries.map fun e => (e.1, .text e.2))

/-- Texts as an array. -/
def ofTexts (texts : List String) : Json := .array (texts.map .text)

end McpFleet.Json
