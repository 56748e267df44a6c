/-
  File:      McpFleet/Url/Host.lean
  Subject:   Hosts of URLs: names, IPv4 and IPv6 addresses, and the reasons
             why a text is none of these.

  The host of a special scheme is percent-decoded and folded first; when its
  last piece is a number, it has to be an IPv4 address. The host of another
  scheme is taken as it is written.
-/
import McpFleet.Url.Address
import McpFleet.Url.Domain

namespace McpFleet.Url

/-! ## 1. Hosts and errors -/

/-- The host of a url. -/
inductive Host where
  | domain (name : String)
  | ipv4 (address : UInt32)
  | ipv6 (pieces : List UInt16)
deriving DecidableEq, Repr

/-- Why a text is no url. -/
inductive Error where
  | emptyHost
  | invalidDomain
  | invalidPort
  | invalidIpv4
  | invalidIpv6
  | invalidHostCharacter
  | noScheme
deriving DecidableEq, Repr

/-- The wording of an error. -/
def Error.message : Error → String
  | emptyHost => "empty host"
  | invalidDomain => "invalid international domain name"
  | invalidPort => "invalid port number"
  | invalidIpv4 => "invalid IPv4 address"
  | invalidIpv6 => "invalid IPv6 address"
  | invalidHostCharacter => "invalid domain character"
  | noScheme => "relative URL without a base"

/-! ## 2. Percent-decoding -/

/-- The bytes of the characters, `%` and two digits being one byte. -/
def percentDecode : List Char → List UInt8
  | '%' :: a :: b :: cs =>
    match Text.hexValue? a, Text.hexValue? b with
    | some x, some y => .ofNat (x * 16 + y) :: percentDecode cs
    | _, _ => '%'.toNat.toUInt8 :: percentDecode (a :: b :: cs)
  | c :: cs => String.utf8EncodeChar c ++ percentDecode cs
  | [] => []
termination_by cs => cs.length

/-- The characters that bytes stand for, if they are UTF-8. -/
def charsOfBytes? (bytes : List UInt8) : Option (List Char) :=
  (String.fromUTF8? ⟨bytes.toArray⟩).map String.toList

/-! ## 3. Reading a host -/

/-- The address between brackets, if the text begins with one. -/
def bracketed? : List Char → Option (Except Error Host)
  | '[' :: rest =>
    some (if rest.getLast? = some ']' then
      match ipv6? rest.dropLast with
      | some pieces => .ok (.ipv6 pieces)
      | none => .error .invalidIpv6
    else .error .invalidIpv6)
  | _ => none

/-- The host of a special scheme. -/
def specialHost (cs : List Char) : Except Error Host :=
  match bracketed? cs with
  | some result => result
  | none =>
    match (charsOfBytes? (percentDecode cs)).bind foldDomain? with
    | none => .error .invalidDomain
    | some domain =>
      if domain.isEmpty then .error .emptyHost
      else if endsInNumber domain then
        match ipv4? domain with
        | some address => .ok (.ipv4 address)
        | none => .error .invalidIpv4
      else .ok (.domain (String.ofList domain))

/-- Characters that the host of another scheme cannot hold. -/
def isForbiddenInHost (c : Char) : Bool :=
  c.toNat == 0 || "\t\n\r #/:<>?@[\\]^|".toList.contains c

/-- The host of another scheme; an empty one is none. -/
def opaqueHost? (cs : List Char) : Except Error (Option Host) :=
  match bracketed? cs with
  | some result => result.map some
  | none =>
    if cs.any isForbiddenInHost then .error .invalidHostCharacter
    else if cs.isEmpty then .ok none
    else .ok (some (.domain (String.ofList cs)))

end McpFleet.Url
