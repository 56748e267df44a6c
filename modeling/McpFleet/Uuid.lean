/-
  File:      McpFleet/Uuid.lean
  Subject:   128-bit identifiers: their texts, their order, and the form that
             random ones have.

  A text is read in four forms: hyphenated, hyphenated in braces, hyphenated
  behind `urn:uuid:`, and 32 digits alone; digits may have either case. It is
  written hyphenated in lower case.
-/
import McpFleet.Dict
import McpFleet.Json.Record
import McpFleet.Text.Ascii

namespace McpFleet

/-- An identifier of 128 bits. -/
structure Uuid where
  bits : BitVec 128
deriving DecidableEq, Repr

namespace Uuid

/-- Identifiers are ordered as numbers, which is the order of their bytes. -/
instance : SortKey Uuid :=
  SortKey.lift (fun u => u.bits.toNat) fun a b h => by
    cases a; cases b; exact congrArg Uuid.mk (BitVec.eq_of_toNat_eq h)

/-! ## 1. Writing -/

/-- The hexadecimal digit at a place, counted from the front. -/
def digit (u : Uuid) (place : Nat) : Char :=
  Text.hexDigit (u.bits.toNat >>> (4 * (31 - place)) % 16)

/-- All hexadecimal digits, the highest first. -/
def digits (u : Uuid) : List Char := (List.range 32).map u.digit

/-- Places of 32 digits behind which a hyphen stands. -/
def hyphenated (ds : List Char) : List Char :=
  ds.take 8 ++ '-' :: (ds.drop 8).take 4 ++ '-' :: (ds.drop 12).take 4
    ++ '-' :: (ds.drop 16).take 4 ++ '-' :: ds.drop 20

/-- The digits in lower case, in five groups. -/
def text (u : Uuid) : String := String.ofList (hyphenated u.digits)

/-- The 32 digits without hyphens. -/
def plainText (u : Uuid) : String := String.ofList u.digits

/-! ## 2. Reading -/

/-- The identifier written by 32 digits. -/
def ofDigits? (ds : List Char) : Option Uuid :=
  if ds.length = 32 then do
    let values ← ds.mapM Text.hexValue?
    return ⟨BitVec.ofNat 128 (values.foldl (fun n v => n * 16 + v) 0)⟩
  else none

/-- The identifier written by 32 digits in groups of 8, 4, 4, 4 and 12. -/
def ofHyphenated? (cs : List Char) : Option Uuid :=
  match Text.splitOn '-' cs with
  | [a, b, c, d, e] =>
    if a.length = 8 ∧ b.length = 4 ∧ c.length = 4 ∧ d.length = 4 ∧ e.length = 12 then
      ofDigits? (a ++ b ++ c ++ d ++ e)
    else none
  | _ => none

/-- The characters behind `urn:uuid:` in any case. -/
def behindUrn? (cs : List Char) : Option (List Char) :=
  let start := "urn:uuid:".toList
  if (cs.take start.length).map Text.lowerChar = start then some (cs.drop start.length) else none

/-- Reads the digits in any case, with or without hyphens, in braces or as a
    URN. -/
def ofText? (s : String) : Option Uuid :=
  let cs := s.toList
  match cs with
  | '\x7b' :: rest =>
    if rest.getLast? = some '\x7d' then ofHyphenated? rest.dropLast else none
  | _ =>
    if cs.length = 32 then ofDigits? cs
    else match behindUrn? cs with
      | some rest => ofHyphenated? rest
      | none => ofHyphenated? cs

/-! ## 3. Random identifiers -/

/-- The bits with version 4 and the variant `10` put in their places. -/
def random (u : Uuid) : Uuid :=
  let kept := u.bits &&& ~~~((0xF#128 <<< 76) ||| (0x3#128 <<< 62))
  ⟨kept ||| (0x4#128 <<< 76) ||| (0x2#128 <<< 62)⟩

/-! ## 4. JSON form -/

/-- An identifier is written as its text. -/
def toJson (u : Uuid) : Json := .text u.text

/-- Reads every form of a text. -/
def ofJson? : Json → Option Uuid
  | .text s => ofText? s
  | _ => none

end Uuid

end McpFleet
