/-
  File:      McpFleet/Json/Parser.lean
  Subject:   Reading JSON text.

  The tree that is read keeps the members of objects as they were written.
  Arrays and objects nest at most 127 deep. A part that the shape does not
  ask for is passed over: it has to be well-formed, but it may nest deeper,
  its numbers may be beyond the largest one, and its texts may hold half a
  pair. Behind the value only blanks may follow. The reader goes over the
  characters once; its fuel is twice their number, and no two steps in a row
  leave the same characters.
-/
import McpFleet.Json.Numeral
import McpFleet.Json.Shape

namespace McpFleet.Json

namespace Reader

/-! ## 1. Blanks and texts -/

/-- The four characters that may stand between tokens. -/
def isBlank (c : Char) : Bool := c == ' ' || c == '\t' || c == '\n' || c == '\r'

/-- Blanks between the parts of a value are passed over. -/
def skipBlanks (cs : List Char) : List Char := cs.dropWhile isBlank

/-- The number written by four hexadecimal digits. -/
def hex4? (a b c d : Char) : Option Nat := do
  let a ← Text.hexValue? a
  let b ← Text.hexValue? b
  let c ← Text.hexValue? c
  let d ← Text.hexValue? d
  return ((a * 16 + b) * 16 + c) * 16 + d

/-- The character a one-letter escape stands for. -/
def shortEscape? : Char → Option Char
  | '"' => some '"'
  | '\\' => some '\\'
  | '/' => some '/'
  | 'b' => some '\x08'
  | 'f' => some '\x0c'
  | 'n' => some '\n'
  | 'r' => some '\r'
  | 't' => some '\t'
  | _ => none

/-- Whether the number is the first half of a pair that makes one character. -/
def isHighHalf (n : Nat) : Bool := 0xD800 ≤ n && n ≤ 0xDBFF

/-- The second half of a character beyond U+FFFF. -/
def isLowHalf (n : Nat) : Bool := 0xDC00 ≤ n && n ≤ 0xDFFF

/-- Puts a character in front of a text that was read. -/
def consText (c : Char) : Option (List Char × List Char) → Option (List Char × List Char)
  | some (chars, rest) => some (c :: chars, rest)
  | none => none

/-- The characters of a text behind its opening quote, and what follows it. -/
def readText (cs : List Char) : Option (List Char × List Char) :=
  match cs with
  | [] => none
  | '"' :: rest => some ([], rest)
  | '\\' :: 'u' :: a :: b :: c :: d :: rest =>
    match hex4? a b c d with
    | none => none
    | some n =>
      if isHighHalf n then
        match rest with
        | '\\' :: 'u' :: e :: f :: g :: h :: rest' =>
          match hex4? e f g h with
          | none => none
          | some m =>
            if isLowHalf m then
              consText (Char.ofNat (0x10000 + (n - 0xD800) * 0x400 + (m - 0xDC00)))
                (readText rest')
            else none
        | _ => none
      else if isLowHalf n then none
      else consText (Char.ofNat n) (readText rest)
  | '\\' :: c :: rest =>
    match shortEscape? c with
    | none => none
    | some c => consText c (readText rest)
  | c :: rest => if c.toNat < 0x20 then none else consText c (readText rest)
termination_by cs.length

/-! ## 2. Passing over -/

/-- What follows a text, behind its opening quote. -/
def skipText (cs : List Char) : Option (List Char) :=
  match cs with
  | [] => none
  | '"' :: rest => some rest
  | '\\' :: 'u' :: a :: b :: c :: d :: rest =>
    if (hex4? a b c d).isSome then skipText rest else none
  | '\\' :: c :: rest => if (shortEscape? c).isSome then skipText rest else none
  | c :: rest => if c.toNat < 0x20 then none else skipText rest
termination_by cs.length

/-- What follows a key and its colon. -/
def skipKey (cs : List Char) : Option (List Char) :=
  match skipBlanks cs with
  | '"' :: rest =>
    match (skipText rest).map skipBlanks with
    | some (':' :: rest) => some rest
    | _ => none
  | _ => none

/-- What follows a value that is no array and no object. -/
def skipPlain (cs : List Char) : Option (List Char) :=
  match cs with
  | 'n' :: 'u' :: 'l' :: 'l' :: rest => some rest
  | 't' :: 'r' :: 'u' :: 'e' :: rest => some rest
  | 'f' :: 'a' :: 'l' :: 's' :: 'e' :: rest => some rest
  | '"' :: rest => skipText rest
  | cs => (Numeral.scan cs).map Prod.snd

/-- Where reading stands while a value is passed over. -/
inductive Skip where
  /-- In front of a value. -/
  | value
  /-- Behind a value. -/
  | rest

/-- What follows a value. The brackets and braces that are open are kept as
    what closes them, the inner ones first. -/
def skip : Nat → Skip → List Char → List Char → Option (List Char)
  | 0, _, _, _ => none
  | _ + 1, .rest, [], cs => some cs
  | fuel + 1, .rest, close :: outer, cs =>
    match skipBlanks cs with
    | ',' :: rest =>
      match if close = '\x7d' then skipKey rest else some rest with
      | some rest => skip fuel .value (close :: outer) rest
      | none => none
    | c :: rest => if c = close then skip fuel .rest outer rest else none
    | [] => none
  | fuel + 1, .value, outer, cs =>
    match skipBlanks cs with
    | '[' :: rest =>
      match skipBlanks rest with
      | ']' :: rest => skip fuel .rest outer rest
      | rest => skip fuel .value (']' :: outer) rest
    | '\x7b' :: rest =>
      match skipBlanks rest with
      | '\x7d' :: rest => skip fuel .rest outer rest
      | rest =>
        match skipKey rest with
        | some rest => skip fuel .value ('\x7d' :: outer) rest
        | none => none
    | rest =>
      match skipPlain rest with
      | some rest => skip fuel .rest outer rest
      | none => none

/-! ## 3. Values -/

mutual

/-- Reads one value; `depth` more levels may open. -/
def readValue : Nat → Nat → Shape → List Char → Option (Json × List Char)
  | 0, _, _, _ => none
  | fuel + 1, depth, shape, cs =>
    match skipBlanks cs with
    | 'n' :: 'u' :: 'l' :: 'l' :: rest => some (.null, rest)
    | 't' :: 'r' :: 'u' :: 'e' :: rest => some (.bool true, rest)
    | 'f' :: 'a' :: 'l' :: 's' :: 'e' :: rest => some (.bool false, rest)
    | '"' :: rest =>
      match readText rest with
      | some (chars, rest) => some (.text (String.ofList chars), rest)
      | none => none
    | '[' :: rest =>
      if depth ≤ 1 then none
      else match skipBlanks rest with
        | ']' :: rest => some (.array [], rest)
        | rest =>
          match readItems fuel (depth - 1) shape [] rest with
          | some (items, rest) => some (.array items, rest)
          | none => none
    | '\x7b' :: rest =>
      if depth ≤ 1 then none
      else match skipBlanks rest with
        | '\x7d' :: rest => some (.object [], rest)
        | rest =>
          match readMembers fuel (depth - 1) shape [] rest with
          | some (members, rest) => some (.object members, rest)
          | none => none
    | rest =>
      match Numeral.scan rest with
      | some (numeral, rest) =>
        match numeral.value? with
        | some value => some (value, rest)
        | none => none
      | none => none

/-- Reads the items of an array up to its bracket, behind other items, the
    last one first. -/
def readItems : Nat → Nat → Shape → List Json → List Char → Option (List Json × List Char)
  | 0, _, _, _, _ => none
  | fuel + 1, depth, shape, before, cs =>
    match readValue fuel depth (shape.item before) cs with
    | none => none
    | some (item, rest) =>
      match skipBlanks rest with
      | ']' :: rest => some ((item :: before).reverse, rest)
      | ',' :: rest => readItems fuel depth shape (item :: before) rest
      | _ => none

/-- Reads the members of an object up to its brace, behind other members, the
    last one first. -/
def readMembers :
    Nat → Nat → Shape → List (String × Json) → List Char →
      Option (List (String × Json) × List Char)
  | 0, _, _, _, _ => none
  | fuel + 1, depth, shape, before, cs =>
    match readMember fuel depth shape before cs with
    | none => none
    | some (before, rest) =>
      match skipBlanks rest with
      | '\x7d' :: rest => some (before.reverse, rest)
      | ',' :: rest => readMembers fuel depth shape before rest
      | _ => none

/-- Reads one member and puts it before the others, unless it is passed
    over. -/
def readMember :
    Nat → Nat → Shape → List (String × Json) → List Char →
      Option (List (String × Json) × List Char)
  | 0, _, _, _, _ => none
  | fuel + 1, depth, shape, before, cs =>
    match skipBlanks cs with
    | '"' :: rest =>
      match readText rest with
      | none => none
      | some (chars, rest) =>
        match skipBlanks rest with
        | ':' :: rest =>
          let key := String.ofList chars
          match shape.member? key before with
          | none => (skip fuel .value [] rest).map (before, ·)
          | some part =>
            match readValue fuel depth part rest with
            | some (value, rest) => some ((key, value) :: before, rest)
            | none => none
        | _ => none
    | _ => none

end

end Reader

/-- The tree of the wanted parts of a text; `none` when the text is not JSON. -/
def parseAs? (shape : Shape) (s : String) : Option Json :=
  let cs := s.toList
  match Reader.readValue (2 * cs.length + 2) 128 shape cs with
  | some (value, rest) => if (Reader.skipBlanks rest).isEmpty then some value else none
  | none => none

/-- The tree written by a text; `none` when the text is not JSON. -/
def parse? (s : String) : Option Json := parseAs? .whole s

end McpFleet.Json
