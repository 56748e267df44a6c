/-
  File:      McpFleet/Json/Printer.lean
  Subject:   The compact text of a JSON value.

  No blanks between tokens. In a text, `"` and the backslash are escaped,
  control characters have their short escape or four lower-case hexadecimal
  digits, and everything else stands for itself.
-/
import McpFleet.Binary64.Shortest
import McpFleet.Json
import McpFleet.Text.Ascii

namespace McpFleet.Json

/-! ## 1. Texts -/

/-- How one character is written inside a text. -/
def escapeChar (c : Char) : List Char :=
  if c = '"' then ['\\', '"']
  else if c = '\\' then ['\\', '\\']
  else if c.toNat = 0x08 then ['\\', 'b']
  else if c.toNat = 0x09 then ['\\', 't']
  else if c.toNat = 0x0A then ['\\', 'n']
  else if c.toNat = 0x0C then ['\\', 'f']
  else if c.toNat = 0x0D then ['\\', 'r']
  else if c.toNat < 0x20 then
    ['\\', 'u', '0', '0', Text.hexDigit (c.toNat / 16), Text.hexDigit (c.toNat % 16)]
  else [c]

/-- A text between quotation marks. -/
def quoted (s : String) : String :=
  String.ofList ('"' :: s.toList.flatMap escapeChar ++ ['"'])

/-! ## 2. Values -/

mutual

/-- The compact text of a value whose fractions are written by `real`. -/
def renderWith (real : Binary64 → String) : Json → String
  | .null => "null"
  | .bool true => "true"
  | .bool false => "false"
  | .integer n => Text.ofInt n
  | .real x => real x
  | .text s => quoted s
  | .array items => "[" ++ renderItems real items ++ "]"
  | .object members => "\x7b" ++ renderMembers real members ++ "\x7d"

/-- Items with a comma between neighbours. -/
def renderItems (real : Binary64 → String) : List Json → String
  | [] => ""
  | [x] => renderWith real x
  | x :: xs => renderWith real x ++ "," ++ renderItems real xs

/-- Members, each a key and a value, with a comma between neighbours. -/
def renderMembers (real : Binary64 → String) : List (String × Json) → String
  | [] => ""
  | [(k, x)] => quoted k ++ ":" ++ renderWith real x
  | (k, x) :: ms => quoted k ++ ":" ++ renderWith real x ++ "," ++ renderMembers real ms

end

/-- The compact text of a value, with the shortest text for each fraction. -/
def render : Json → String := renderWith Binary64.text

end McpFleet.Json
