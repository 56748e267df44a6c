/-
  File:      McpFleet/Binary64/Shortest.lean
  Subject:   The shortest decimal that reads back as a given number.

  The decimals that read back are those in the interval half-way to the two
  neighbours, ends included when the mantissa is even. On each decimal grid,
  from coarse to fine, the two grid points next to the number are tried; the
  first grid with a hit wins, of two hits the nearer one, of two equally near
  the even one.

  `text` writes the digits positionally when the first digit stands between
  10^-5 and 10^15, always with a point, and with an exponent otherwise.
-/
import McpFleet.Binary64
import McpFleet.Text.Decimal

namespace McpFleet.Binary64

/-! ## 1. The grid search -/

/-- The interval around a number, in quarters of its last binary place:
    lower end, the number, upper end, and whether the ends belong to it. -/
structure Neighbourhood where
  lower : Nat
  middle : Nat
  upper : Nat
  closed : Bool

/-- Half way to both neighbours; the one below a power of two is nearer than
    the one above. -/
def neighbourhood (x : Binary64) : Neighbourhood where
  lower := if x.mantissa = leastNormal ∧ minExponent < x.exponent then 4 * x.mantissa - 1
    else 4 * x.mantissa - 2
  middle := 4 * x.mantissa
  upper := 4 * x.mantissa + 2
  closed := x.mantissa % 2 = 0

/-- A point of the grid with step 10^k near the number, if it reads back. -/
def gridPoint? (x : Binary64) (k : Int) : Option Nat :=
  let n := x.neighbourhood
  let u := x.exponent - 2
  let step := Text.tenTo k.toNat <<< (-u).toNat
  let unit := Text.tenTo (-k).toNat <<< u.toNat
  let inside (d : Nat) : Bool :=
    if n.closed then n.lower * unit ≤ d * step && d * step ≤ n.upper * unit
    else n.lower * unit < d * step && d * step < n.upper * unit
  let below := n.middle * unit / step
  let above := below + 1
  match inside below, inside above with
  | false, false => none
  | true, false => some below
  | false, true => some above
  | true, true =>
    let toBelow := n.middle * unit - below * step
    let toAbove := above * step - n.middle * unit
    if toBelow < toAbove then some below
    else if toAbove < toBelow then some above
    else if below % 2 = 0 then some below else some above

/-- Searches `steps` grids downward from step 10^k. -/
def search (x : Binary64) : Nat → Int → Nat × Int
  | 0, k => (0, k)
  | steps + 1, k =>
    match x.gridPoint? k with
    | some d => (d, k)
    | none => search x steps (k - 1)

/-- Digits `d` and exponent `k` of the shortest decimal `d · 10^k`. -/
def shortest (x : Binary64) : Nat × Int :=
  let binary := (x.mantissa.log2 : Int) + x.exponent + 1
  search x 24 (binary * 30103 / 100000 + 2)

/-! ## 2. Its text -/

/-- Digits with the point after the first `whole` of them. -/
def pointed (digits : List Char) (whole : Nat) : List Char :=
  digits.take whole ++ '.' :: digits.drop whole

/-- The text of `d · 10^k`. -/
def decimalText (d : Nat) (k : Int) : List Char :=
  let digits := Nat.toDigits 10 d
  let n : Int := digits.length
  let whole := n + k
  if 0 ≤ k ∧ whole ≤ 16 then digits ++ List.replicate k.toNat '0' ++ ['.', '0']
  else if 0 < whole ∧ whole ≤ 16 then pointed digits whole.toNat
  else if -5 < whole ∧ whole ≤ 0 then
    ['0', '.'] ++ List.replicate (-whole).toNat '0' ++ digits
  else
    let exponent := (Text.ofInt (whole - 1)).toList
    if digits.length = 1 then digits ++ 'e' :: exponent
    else pointed digits 1 ++ 'e' :: exponent

/-- The shortest text that reads back as the number. -/
def text (x : Binary64) : String :=
  let magnitude :=
    if x.mantissa = 0 then ['0', '.', '0']
    else
      let s := x.shortest
      decimalText s.1 s.2
  String.ofList (if x.negative then '-' :: magnitude else magnitude)

end McpFleet.Binary64
