/-
  File:      McpFleet/Text/CodeTable.lean
  Subject:   Tables of characters in a compact written form.

  A table is a text of words. Numbers are code points in hexadecimal.

  * `20` and `20-2f` list characters.
  * `c0=41.300` says that U+00C0 goes with two others; behind a comma stands
    what the next character goes with.
  * `20-2f=41` says that all of them go with the same one.
  * `41-5a>61` says that the characters go with those from U+0061 on, and
    `100~12e>101` says so of every second character.
-/
import McpFleet.Text.Ascii

namespace McpFleet.Text

/-! ## 1. Spans -/

/-- What the characters of a span go with. -/
inductive Images where
  | same (image : List Nat)
  | each (images : List (List Nat))
  | rising (step start : Nat)
deriving DecidableEq, Repr

/-- Code points side by side, and what they go with. -/
structure CodeSpan where
  first : Nat
  last : Nat
  images : Images
deriving DecidableEq, Repr

namespace CodeSpan

/-- What a code point goes with, if it belongs to the span. -/
def image? (s : CodeSpan) (n : Nat) : Option (List Nat) :=
  if s.first ≤ n ∧ n ≤ s.last then
    match s.images with
    | .same image => some image
    | .each images => images[n - s.first]?
    | .rising step start =>
      if (n - s.first) % step = 0 then some [start + (n - s.first)] else none
  else none

/-- The code points of a span with what each goes with. -/
def entries (s : CodeSpan) : List (Nat × List Nat) :=
  (List.range (s.last + 1 - s.first)).filterMap fun i =>
    (s.image? (s.first + i)).map (s.first + i, ·)

end CodeSpan

/-! ## 2. Written spans -/

/-- The number that hexadecimal digits write. -/
def hexNumber (cs : List Char) : Nat :=
  cs.foldl (fun n c => n * 16 + (hexValue? c).getD 0) 0

/-- The two sides of the first separator. -/
def cutAt? (sep : Char) (cs : List Char) : Option (List Char × List Char) :=
  match cs.dropWhile (· ≠ sep) with
  | [] => none
  | _ :: rest => some (cs.takeWhile (· ≠ sep), rest)

/-- Code points between points. -/
def hexNumbers (cs : List Char) : List Nat := (splitOn '.' cs).map hexNumber

/-- The first and the last code point of a range. -/
def codeRange (sep : Char) (cs : List Char) : Nat × Nat :=
  match cutAt? sep cs with
  | some (lo, hi) => (hexNumber lo, hexNumber hi)
  | none => (hexNumber cs, hexNumber cs)

/-- One word of a table: a range with images for all or for each behind `=`,
    with rising ones behind `>`, every other code point for `~`, or a range
    alone. -/
def CodeSpan.ofWord (word : List Char) : CodeSpan :=
  match cutAt? '=' word, cutAt? '>' word with
  | some (key, images), _ =>
    let range := codeRange '-' key
    if key.contains '-' then ⟨range.1, range.2, .same (hexNumbers images)⟩
    else
      let list := (splitOn ',' images).map hexNumbers
      ⟨range.1, range.1 + list.length - 1, .each list⟩
  | none, some (key, start) =>
    let step := if key.contains '~' then 2 else 1
    let range := codeRange (if step = 2 then '~' else '-') key
    ⟨range.1, range.2, .rising step (hexNumber start)⟩
  | none, none =>
    let range := codeRange '-' word
    ⟨range.1, range.2, .same []⟩

/-! ## 3. Tables -/

/-- Spans of code points; the first that has a character says what it goes
    with. -/
abbrev CodeTable := List CodeSpan

namespace CodeTable

/-- Reads the words of a table; lines may end between them. -/
def ofText (table : String) : CodeTable :=
  (splitOn ' ' (table.toList.map fun c => if c = '\n' then ' ' else c)).map CodeSpan.ofWord

/-- What a character goes with. -/
def image? (t : CodeTable) (c : Char) : Option (List Char) :=
  (t.findSome? (·.image? c.toNat)).map (·.map Char.ofNat)

/-- Whether one of the spans has the character. -/
def contains (t : CodeTable) (c : Char) : Bool :=
  t.any fun s => (s.image? c.toNat).isSome

end CodeTable

end McpFleet.Text
