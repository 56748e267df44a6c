/-
  File:      McpFleet/Json/Jsonb.lean
  Subject:   The text in which a JSONB column gives a value back.

  The column keeps the value and not the text that was sent. Its numbers are
  decimal: every digit stays, also zeros at the end of a fraction, but each is
  written in its place. So there is no exponent, and no negative zero either.
  The column's own blanks and order of keys are left out; neither is part of a
  document that is read from the text.
-/
import McpFleet.Binary64.Shortest
import McpFleet.Json.Printer

namespace McpFleet

namespace Binary64

/-! ## 1. Numbers -/

/-- Where the point stands in the digits of the shortest decimal: behind so
    many of them, or so many zeros in front of them. -/
def pointPlace (x : Binary64) : Int := (Nat.toDigits 10 x.shortest.1).length + x.shortest.2

/-- The shortest decimal as a whole number, when nothing is behind its point. -/
def wholeDecimal (x : Binary64) : Int :=
  let n : Nat := x.shortest.1 * Text.tenTo x.shortest.2.toNat
  if x.negative then -n else n

/-- The digits of a number below one, with the zeros between the point and
    them. -/
def placedDecimal (x : Binary64) : List Char :=
  ['0', '.'] ++ List.replicate (-x.pointPlace).toNat '0' ++ Nat.toDigits 10 x.shortest.1

/-- The text of a number with every digit in its place. What is written without
    an exponent stays as it is. -/
def numericText (x : Binary64) : String :=
  if x.mantissa = 0 then "0.0"
  -- of 17 digits at most none is behind the point here
  else if 16 < x.pointPlace then Text.ofInt x.wholeDecimal
  else if x.pointPlace ≤ -5 then
    String.ofList (if x.negative then '-' :: x.placedDecimal else x.placedDecimal)
  else x.text

end Binary64

namespace Json

/-! ## 2. Values -/

/-- The text of a value in a JSONB column. -/
def jsonbText : Json → String := renderWith Binary64.numericText

mutual

/-- Whether a text or a key in the value has the property. -/
def anyText (p : String → Bool) : Json → Bool
  | .text s => p s
  | .array items => anyItemText p items
  | .object members => anyMemberText p members
  | _ => false

/-- Whether it is in one of the items. -/
def anyItemText (p : String → Bool) : List Json → Bool
  | [] => false
  | x :: xs => anyText p x || anyItemText p xs

/-- Whether it is in one of the members; the keys are texts as well. -/
def anyMemberText (p : String → Bool) : List (String × Json) → Bool
  | [] => false
  | (k, x) :: ms => p k || anyText p x || anyMemberText p ms

end

end Json

end McpFleet
