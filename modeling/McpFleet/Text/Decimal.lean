/-
  File:      McpFleet/Text/Decimal.lean
  Subject:   Whole numbers in decimal, and reading digits back.

  * `ofNat`, `ofInt`: no leading zeros, `-` before a negative number.
  * `padded`: at least so many digits.
  * `digitsValue`: the number that digits write.
-/

namespace McpFleet.Text

/-- A natural number in decimal, without leading zeros. -/
def ofNat (n : Nat) : String := String.ofList (Nat.toDigits 10 n)

/-- A whole number in decimal. -/
def ofInt (n : Int) : String :=
  if n < 0 then "-" ++ ofNat n.natAbs else ofNat n.natAbs

/-- Decimal with zeros in front up to `width` digits. -/
def padded (width n : Nat) : String :=
  let digits := Nat.toDigits 10 n
  String.ofList (List.replicate (width - digits.length) '0' ++ digits)

/-- A power of ten. -/
def tenTo (n : Nat) : Nat := Nat.pow 10 n

/-- The value of decimal digits; other characters do not occur in the input. -/
def digitsValue (cs : List Char) : Nat :=
  cs.foldl (fun n c => n * 10 + (c.toNat - 0x30)) 0

end McpFleet.Text
