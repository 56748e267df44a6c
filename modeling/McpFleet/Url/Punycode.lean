/-
  File:      McpFleet/Url/Punycode.lean
  Subject:   Reading the label that an ASCII form stands for.

  Behind the last hyphen stand numbers of variable length; each one says how
  far to go on over places and code points to the next character. Numbers and
  the weights of their digits stay below 2^32.
-/
import McpFleet.Text.Ascii

namespace McpFleet.Url.Punycode

/-- The value of a digit: letters of either case first, then 0 to 9. -/
def digitValue? (c : Char) : Option Nat :=
  if 'a' ≤ c && c ≤ 'z' then some (c.toNat - 0x61)
  else if 'A' ≤ c && c ≤ 'Z' then some (c.toNat - 0x41)
  else if '0' ≤ c && c ≤ '9' then some (c.toNat - 0x30 + 26)
  else none

/-- Where a number may end at the digit with weight index `k`. -/
def threshold (k bias : Nat) : Nat :=
  if k ≤ bias then 1 else if bias + 26 ≤ k then 26 else k - bias

/-- The greatest number and the greatest weight. -/
def maxNumber : Nat := 0xFFFFFFFF

/-- Reads one number; gives the value and the characters behind it. -/
def number? (bias : Nat) : List Char → Nat → Nat → Nat → Option (Nat × List Char)
  | [], _, _, _ => none
  | c :: cs, k, weight, value =>
    match digitValue? c with
    | none => none
    | some d =>
      let t := threshold k bias
      if maxNumber < value + d * weight then none
      else if d < t then some (value + d * weight, cs)
      else if maxNumber < weight * (36 - t) then none
      else number? bias cs (k + 36) (weight * (36 - t)) (value + d * weight)

/-- Divides by 35 until at most 455 is left. -/
def shrink : Nat → Nat → Nat → Nat × Nat
  | 0, delta, k => (delta, k)
  | fuel + 1, delta, k => if 455 < delta then shrink fuel (delta / 35) (k + 36) else (delta, k)

/-- The bias for the next number. -/
def adapt (delta count : Nat) (first : Bool) : Nat :=
  let delta := if first then delta / 700 else delta / 2
  let s := shrink delta (delta + delta / count) 0
  s.2 + 36 * s.1 / (s.1 + 38)

/-- Puts characters in one after another; every step uses characters up. -/
def insertAll : Nat → List Char → Nat → Nat → Nat → List Char → Option (List Char)
  | _, out, _, _, _, [] => some out
  | 0, _, _, _, _, _ :: _ => none
  | fuel + 1, out, code, place, bias, c :: cs =>
    match number? bias (c :: cs) 36 1 place with
    | none => none
    | some (place', rest) =>
      let count := out.length + 1
      let code' := code + place' / count
      if h : code'.isValidChar then
        insertAll fuel (out.insertIdx (place' % count) (Char.ofNatAux code' h)) code'
          (place' % count + 1) (adapt (place' - place) count (place = 0)) rest
      else none

/-- The characters of a label whose ASCII form is `xn--` and these. A last
    hyphen has characters before it. -/
def decode? (cs : List Char) : Option (List Char) :=
  let digits := (cs.reverse.takeWhile (· ≠ '-')).reverse
  let basic := cs.take (cs.length - digits.length - 1)
  if cs.length = digits.length + 1 then none else insertAll digits.length basic 128 0 72 digits

end McpFleet.Url.Punycode
