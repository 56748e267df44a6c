/-
  File:      McpFleet/Binary64.lean
  Subject:   Finite binary floating-point numbers of 64 bits, as the whole
             numbers that make them up.

  A number is ± m · 2^e with m below 2^53 and e at least -1074; it is in
  normal form when m reaches 2^52 or e is -1074. `ofRatio` takes a quotient
  of naturals to the nearest such number, a tie to the even m, and `mul` and
  `div` are that rounding applied to the exact result.
-/

namespace McpFleet

/-- The finite number ± mantissa · 2^exponent. -/
structure Binary64 where
  negative : Bool
  mantissa : Nat
  exponent : Int
deriving DecidableEq, Repr

namespace Binary64

/-! ## 1. Range -/

/-- The exponent of the least positive number. -/
def minExponent : Int := -1074

/-- The exponent of the largest number. -/
def maxExponent : Int := 971

/-- The least mantissa with 53 binary digits. -/
def leastNormal : Nat := 0x10000000000000

/-- Zero without a sign. -/
def zero : Binary64 := ⟨false, 0, minExponent⟩

/-- The same magnitude with the sign asked for. -/
def withSign (negative : Bool) (x : Binary64) : Binary64 := { x with negative }

/-- The magnitude as a quotient of naturals. -/
def numerator (x : Binary64) : Nat := x.mantissa <<< x.exponent.toNat

/-- What the mantissa is divided by when the exponent is below zero. -/
def denominator (x : Binary64) : Nat := 1 <<< (-x.exponent).toNat

/-! ## 2. Rounding -/

/-- The nearest natural to a quotient; a half goes to the even neighbour. -/
def roundDiv (num den : Nat) : Nat :=
  let q := num / den
  let r := num % den
  if 2 * r < den then q
  else if den < 2 * r then q + 1
  else if q % 2 = 0 then q else q + 1

/-- The quotient `num / den / 2^e`, as a pair. -/
def scaled (num den : Nat) (e : Int) : Nat × Nat :=
  (num <<< (-e).toNat, den <<< e.toNat)

/-- The exponent at which the quotient has 53 binary digits before the point,
    or the least exponent. -/
def fittingExponent (num den : Nat) : Int :=
  let e := (num.log2 : Int) - (den.log2 : Int) - 52
  let s := scaled num den e
  max minExponent (if s.1 / s.2 < leastNormal then e - 1 else e)

/-- The nearest number to `num / den`; `none` beyond the largest one. -/
def ofRatio (num den : Nat) : Option Binary64 :=
  if num = 0 then some zero
  else
    let e := fittingExponent num den
    let s := scaled num den e
    let m := roundDiv s.1 s.2
    let x : Binary64 := if m = 2 * leastNormal then ⟨false, leastNormal, e + 1⟩ else ⟨false, m, e⟩
    if maxExponent < x.exponent then none else some x

/-- The nearest number to a whole number, unless that is too large. -/
def ofNat (n : Nat) : Option Binary64 := ofRatio n 1

/-- Product of two magnitudes. -/
def mul (x y : Binary64) : Option Binary64 :=
  ofRatio (x.numerator * y.numerator) (x.denominator * y.denominator)

/-- Quotient of two magnitudes; the divisor is not zero. -/
def div (x y : Binary64) : Option Binary64 :=
  ofRatio (x.numerator * y.denominator) (x.denominator * y.numerator)

end Binary64

end McpFleet
