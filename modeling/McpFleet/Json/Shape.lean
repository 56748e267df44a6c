/-
  File:      McpFleet/Json/Shape.lean
  Subject:   Which parts of a value are wanted from a text.

  Fields that a record does not name are passed over while the text is read:
  they have to be well-formed, but they need not stand for a value.
-/
import McpFleet.Json.Record

namespace McpFleet.Json

/-! ## 1. Shapes -/

/-- What a reader wants of a value. -/
inductive Shape where
  /-- All of the value. -/
  | whole
  /-- The fields of a record, in the order of its array form. -/
  | record (fields : List (String × Shape))
  /-- The items of a list. -/
  | list (item : Shape)
  /-- A tag and a content whose shape the tag selects. -/
  | tagged (tag content : String) (variants : List (String × Shape))

namespace Shape

/-- A record with these fields; those that are not nested are wanted whole. -/
def ofFields (names : List String) (nested : List (String × Shape)) : Shape :=
  .record (names.map fun name => (name, (nested.lookup name).getD .whole))

/-! ## 2. Parts -/

/-- The shape of a content behind its tag. A content that comes first is wanted
    whole, since nothing is known of it yet. -/
def ofTag (variants : List (String × Shape)) (tag : Option Json) : Shape :=
  (tag.bind (choice? variants)).getD .whole

/-- The shape of a member, behind other members; `none` when it is passed
    over. -/
def member? (key : String) (before : List (String × Json)) : Shape → Option Shape
  | .record fields => fields.lookup key
  | .tagged tag content variants =>
    if key = tag then some .whole
    else if key = content then some (ofTag variants (Entries.get? tag before))
    else none
  | .whole => some .whole
  | .list _ => some .whole

/-- The shape of an item of an array, behind other items, the last one
    first. -/
def item (before : List Json) : Shape → Shape
  | .record fields => ((fields[before.length]?).map Prod.snd).getD .whole
  | .tagged _ _ variants =>
    match before with
    | [tag] => ofTag variants (some tag)
    | _ => .whole
  | .whole => .whole
  | .list item => item

end Shape

end McpFleet.Json
