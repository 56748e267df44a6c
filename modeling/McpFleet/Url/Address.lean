/-
  File:      McpFleet/Url/Address.lean
  Subject:   IP addresses as hosts of a URL.

  An IPv4 address has one to four numbers, each decimal, octal behind `0` or
  hexadecimal behind `0x`; the last number fills the bytes that are left. An
  IPv6 address has eight pieces of up to four hexadecimal digits, one run of
  pieces may be left out, and the last two pieces may be an IPv4 address.
-/
import McpFleet.Text.Ascii
import McpFleet.Text.Decimal

namespace McpFleet.Url

/-! ## 1. IPv4 -/

/-- The value of digits of a base; `none` when one is no digit of it. -/
def radixValue? (base : Nat) (cs : List Char) : Option Nat :=
  cs.foldl (fun value c => do
    let n ← value
    let d ← Text.hexValue? c
    if d < base then return n * base + d else none) (some 0)

/-- A number of an IPv4 address. -/
def ipv4Number? (cs : List Char) : Option Nat :=
  match cs with
  | [] => none
  | '0' :: 'x' :: rest => radixValue? 16 rest
  | '0' :: 'X' :: rest => radixValue? 16 rest
  | '0' :: c :: rest => radixValue? 8 (c :: rest)
  | cs => radixValue? 10 cs

/-- Without the empty piece behind a dot at the end. -/
def dropFinalEmpty (parts : List (List Char)) : List (List Char) :=
  if 1 < parts.length ∧ parts.getLast? = some [] then parts.dropLast else parts

/-- Whether a domain has to be an IPv4 address: its last piece is a number. -/
def endsInNumber (domain : List Char) : Bool :=
  match (dropFinalEmpty (Text.splitOn '.' domain)).getLast? with
  | none => false
  | some last =>
    (!last.isEmpty && last.all Text.isAsciiDigit) || (ipv4Number? last).isSome

/-- The address written by a domain that ends in a number. -/
def ipv4? (domain : List Char) : Option UInt32 := do
  let parts := dropFinalEmpty (Text.splitOn '.' domain)
  let numbers ← parts.mapM ipv4Number?
  let last ← numbers.getLast?
  let front := numbers.dropLast
  let room := 8 * (4 - front.length)
  if numbers.length ≤ 4 ∧ front.all (· < 256) ∧ last < 1 <<< room then
    return .ofNat (front.foldl (fun n b => n * 256 + b) 0 <<< room + last)
  else none

/-! ## 2. IPv6 -/

/-- A hexadecimal digit in either case. -/
def isHexDigit (c : Char) : Bool := (Text.hexValue? c).isSome

/-- One decimal byte without leading zeros. -/
def byte? (cs : List Char) : Option Nat :=
  let n := Text.digitsValue cs
  if !cs.isEmpty && cs.all Text.isAsciiDigit && (cs.length = 1 || cs.head? ≠ some '0') && n < 256
  then some n else none

/-- The two pieces that four decimal bytes stand for. -/
def embeddedIpv4? (cs : List Char) : Option (List UInt16) :=
  match (Text.splitOn '.' cs).mapM byte? with
  | some [a, b, c, d] => some [.ofNat (a * 256 + b), .ofNat (c * 256 + d)]
  | _ => none

/-- Pieces that were read, and the place of the run that was left out; one
    piece of the run is among the pieces. -/
structure Ipv6Pieces where
  pieces : List UInt16
  gap : Option Nat

/-- Goes on reading pieces; every step uses a character up. -/
def readPieces : Nat → List Char → Ipv6Pieces → Option Ipv6Pieces
  | _, [], p => some p
  | 0, _ :: _, _ => none
  | fuel + 1, c :: cs, p =>
    if p.pieces.length = 8 then none
    else if c = ':' then
      if p.gap.isSome then none
      else readPieces fuel cs ⟨p.pieces ++ [0], some (p.pieces.length + 1)⟩
    else
      let digits := ((c :: cs).take 4).takeWhile isHexDigit
      let value : UInt16 := .ofNat ((radixValue? 16 digits).getD 0)
      match (c :: cs).drop digits.length with
      | [] => some { p with pieces := p.pieces ++ [value] }
      | '.' :: _ =>
        if digits.isEmpty ∨ 6 < p.pieces.length then none
        else (embeddedIpv4? (c :: cs)).map fun last => { p with pieces := p.pieces ++ last }
      | ':' :: rest =>
        if rest.isEmpty then none
        else readPieces fuel rest { p with pieces := p.pieces ++ [value] }
      | _ => none

/-- The eight pieces of an address, the run that was left out filled with
    zeros. -/
def Ipv6Pieces.fill? (p : Ipv6Pieces) : Option (List UInt16) :=
  match p.gap with
  | none => if p.pieces.length = 8 then some p.pieces else none
  | some gap =>
    some (p.pieces.take gap ++ List.replicate (8 - p.pieces.length) 0 ++ p.pieces.drop gap)

/-- The address written between brackets. -/
def ipv6? (cs : List Char) : Option (List UInt16) := do
  let start ← match cs with
    | ':' :: ':' :: rest => some (rest, Ipv6Pieces.mk [0] (some 1))
    | ':' :: _ => none
    | _ :: _ :: _ => some (cs, Ipv6Pieces.mk [] none)
    | _ => none
  let p ← readPieces cs.length start.1 start.2
  p.fill?

end McpFleet.Url
