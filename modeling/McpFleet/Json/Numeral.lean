/-
  File:      McpFleet/Json/Numeral.lean
  Subject:   Numbers in JSON text, and the value of each.

  A number without fraction and exponent is exact when it fits 64 bits, with
  sign or without; `-0` is the negative zero. Every other number is a
  floating-point number: its leading digits, as many as fit 64 bits, are
  rounded, and the result is multiplied with or divided by the rounded power
  of ten. A number beyond the largest one has no value.
-/
import McpFleet.Json
import McpFleet.Text.Ascii
import McpFleet.Text.Decimal

namespace McpFleet.Json

/-- The parts of a written number. -/
structure Numeral where
  negative : Bool
  whole : List Char
  fraction : Option (List Char)
  /-- The exponent's sign (negative or not) and digits. -/
  exponent : Option (Bool × List Char)
deriving DecidableEq, Repr

namespace Numeral

/-! ## 1. Shape -/

/-- The digits in front, and the rest. -/
def spanDigits (cs : List Char) : List Char × List Char :=
  (cs.takeWhile Text.isAsciiDigit, cs.dropWhile Text.isAsciiDigit)

/-- The whole part: a lone zero, or digits that begin with another one. -/
def scanWhole (cs : List Char) : Option (List Char × List Char) :=
  match spanDigits cs with
  | ([], _) => none
  | ('0' :: _ :: _, _) => none
  | span => some span

/-- A fraction is a point with at least one digit. -/
def scanFraction : List Char → Option (Option (List Char) × List Char)
  | '.' :: cs =>
    match spanDigits cs with
    | ([], _) => none
    | (digits, rest) => some (some digits, rest)
  | cs => some (none, cs)

/-- Whether the sign of an exponent is a minus, and what follows it. -/
def scanSign : List Char → Bool × List Char
  | '-' :: cs => (true, cs)
  | '+' :: cs => (false, cs)
  | cs => (false, cs)

/-- An exponent is `e` or `E`, a sign or none, and at least one digit. -/
def scanExponent : List Char → Option (Option (Bool × List Char) × List Char)
  | c :: cs =>
    if c = 'e' ∨ c = 'E' then
      let signed := scanSign cs
      match spanDigits signed.2 with
      | ([], _) => none
      | (digits, rest) => some (some (signed.1, digits), rest)
    else some (none, c :: cs)
  | [] => some (none, [])

/-- Reads a number from the front of the characters. -/
def scan (cs : List Char) : Option (Numeral × List Char) := do
  let (negative, cs) := match cs with
    | '-' :: cs => (true, cs)
    | cs => (false, cs)
  let (whole, cs) ← scanWhole cs
  let (fraction, cs) ← scanFraction cs
  let (exponent, cs) ← scanExponent cs
  return (⟨negative, whole, fraction, exponent⟩, cs)

/-! ## 2. Value -/

/-- The first digits that fit 64 bits behind `n`, and those left over. -/
def fill64 (n : Nat) : List Char → Nat × List Char
  | [] => (n, [])
  | c :: cs =>
    let m := n * 10 + (c.toNat - 0x30)
    if m ≤ 0xFFFFFFFFFFFFFFFF then fill64 m cs else (n, c :: cs)

/-- Multiplies with, or divides by, a power of ten that is rounded first; far
    below one the division is done in steps of 10^308. -/
def scaleByTen (x : Binary64) : Nat → Int → Option Binary64
  | steps, e =>
    if e.natAbs ≤ 308 then do
      let power ← Binary64.ofNat (Text.tenTo e.natAbs)
      if 0 ≤ e then x.mul power else x.div power
    else if x.mantissa = 0 then some x
    else if 0 ≤ e then none
    else match steps with
      | 0 => some Binary64.zero
      | steps + 1 => do
        let power ← Binary64.ofNat (Text.tenTo 308)
        let y ← x.div power
        scaleByTen y steps (e + 308)

/-- The floating-point number `± n · 10^e`. -/
def realValue? (negative : Bool) (n : Nat) (e : Int) : Option Json := do
  let x ← Binary64.ofNat n
  let y ← scaleByTen x 3 e
  return .real (y.withSign negative)

/-- The signed value of an exponent. -/
def exponentValue : Option (Bool × List Char) → Int
  | none => 0
  | some (negative, digits) =>
    if negative then -(Text.digitsValue digits : Int) else (Text.digitsValue digits : Int)

/-- The value of a number; `none` beyond the largest one. -/
def value? (t : Numeral) : Option Json :=
  let filled := fill64 0 t.whole
  match t.fraction, t.exponent with
  | none, none =>
    if filled.2.isEmpty then
      if !t.negative then some (.integer filled.1)
      else if filled.1 ≠ 0 ∧ filled.1 ≤ 0x8000000000000000 then some (.integer (-(filled.1 : Int)))
      else realValue? true filled.1 0
    else realValue? t.negative filled.1 filled.2.length
  | fraction, exponent =>
    let digits := fraction.getD []
    let all := fill64 filled.1 digits
    let taken := digits.length - all.2.length
    realValue? t.negative all.1
      ((filled.2.length : Int) - (taken : Int) + exponentValue exponent)

end Numeral

end McpFleet.Json
