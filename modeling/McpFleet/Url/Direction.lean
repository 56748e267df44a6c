/-
  File:      McpFleet/Url/Direction.lean
  Subject:   Which way the characters of a label are written, and which labels
             keep their order on a line with others.

  A label begins with a letter and goes on in its direction: a label from
  left to right has no letters and numbers of the other direction, a label
  from right to left no letters from left to right, and not both kinds of
  digits. It ends with a letter or a digit, marks not counted. The tables
  may run on over characters that no label can hold.
-/
import McpFleet.Text.Mark

namespace McpFleet.Url

/-! ## 1. Directions -/

/-- Kinds of characters, as far as the direction of a label depends on them.
    -/
inductive Direction where
  | leftToRight
  | rightToLeft
  /-- European digits. -/
  | digit
  /-- Arabic digits. -/
  | arabicDigit
  /-- Signs that go with any direction. -/
  | neutral
  /-- Marks that go with the character before. -/
  | mark
deriving DecidableEq, Repr

/-- Letters that are written from right to left. -/
def rightToLeftTable : String :=
  "5be 5c0 5c3 5c6 5d0-5f4 608 60b 60d 61b-64a 66d-66f 671-6d5 6e5-6e6 6ee-6ef 6fa-710 712-72f
74d-7a5 7b1-7ea 7f4-7f5 7fa 7fe-815 81a 824 828 830-858 85e-88f 8a0-8c9 fbb2-fbc2 fe73 10800-1091b
10920-10a00 10a10-10a35 10a40-10ae4 10aeb-10b35 10b40-10d23 10d4a-10d4f 10d6f-10d8f 10e80-10ea9
10ead-10ec7 10f00-10f45 10f51-10f81 10f86-10ff6 1e800-1e8cf 1e922-1e943 1e94b-1ed3d"

/-- Digits that are written with these letters. -/
def arabicDigitTable : String := "660-669 66b-66c 10d30-10d49 10e60-10e7e"

/-- Digits beyond ASCII. -/
def digitTable : String := "6f0-6f9 102e1-102fb"

/-- Neutral signs beyond ASCII. -/
def neutralTable : String :=
  "a1-d7 f7 2b9-2ba 2c2-2cf 2d2-2ed 2ef-2ff 375 3f6 58a-58f 606-607 609-60a 60c 60e-60f 66a 6de 6e9
7f6-7f9 9f2-9f3 9fb af1 bf3-bfa c78-c7e e3f f3a-f3d 1390-1399 1400 169b-169c 17db 17f0-180a
1940-1945 19de-19ff 200c-20cf 2104-214d 218a-2335 237b-2394 2396-26ab 26ad-27ff 2900-2bff
2ce5-2cea 2cf9-2cff 2e00-3004 3008-3020 3030 3037 303d-303f 30a0 30fb 31c0-31e5 4dc0-4dff
a490-a4c6 a60d-a60f a673 a67e-a67f a700-a721 a788 a828-a82b a838-a839 a874-a877 ab6a-ab6b
fbc3-fdff fe45-fe46 10101 10140-1018c 10190-101a0 1091f 10b39-10b3f 10d6e 10ed0-10ed8 11052-11065
11660-1166c 11fd5-11ff1 16fe2 1cc00-1cef0 1d1e9-1d241 1d245 1d300-1d356 1e2ff 1eef0-1f12f
1f16d-1f16f 1f1ad 1f260-1fbfa"

/-- Nonspacing marks that are written from left to right. -/
def leftMarkTable : String := "cbf cc6 11a07-11a08 11c3f"

/-- The table of letters from right to left. -/
def rightToLeftChars : Text.CodeTable := .ofText rightToLeftTable

/-- The table of Arabic digits. -/
def arabicDigits : Text.CodeTable := .ofText arabicDigitTable

/-- The table of other digits. -/
def digits : Text.CodeTable := .ofText digitTable

/-- The table of neutral signs. -/
def neutrals : Text.CodeTable := .ofText neutralTable

/-- The table of marks from left to right. -/
def leftMarks : Text.CodeTable := .ofText leftMarkTable

/-- The kind of a character; one that is in no table is written from left to
    right. -/
def directionOf (c : Char) : Direction :=
  if c.toNat < 0x80 then
    if Text.isAsciiLetter c then .leftToRight
    else if Text.isAsciiDigit c then .digit
    else .neutral
  else if Text.isNonspacingMark c && !leftMarks.contains c then .mark
  else if rightToLeftChars.contains c then .rightToLeft
  else if arabicDigits.contains c then .arabicDigit
  else if digits.contains c then .digit
  else if neutrals.contains c then .neutral
  else .leftToRight

/-! ## 2. Labels -/

/-- A character that makes the direction of its whole domain name matter. -/
def turnsDomain (c : Char) : Bool :=
  directionOf c = .rightToLeft || directionOf c = .arabicDigit

/-- Whether a label, behind its first letter, goes on from left to right. -/
def goesOnLeftToRight (ds : List Direction) : Bool :=
  match ds.getLast? with
  | none => true
  | some last =>
    (last = .leftToRight || last = .digit) &&
      ds.all (fun d => d ≠ .rightToLeft && d ≠ .arabicDigit)

/-- Whether a label, behind its first letter, goes on from right to left. -/
def goesOnRightToLeft (ds : List Direction) : Bool :=
  match ds.getLast? with
  | none => true
  | some last =>
    (last = .rightToLeft || last = .digit || last = .arabicDigit) &&
      ds.all (· ≠ .leftToRight) && !(ds.contains .digit && ds.contains .arabicDigit)

/-- Whether a label of a domain name with characters from right to left keeps
    its order. An empty label does. -/
def keepsOrder (label : List Char) : Bool :=
  match label.map directionOf with
  | [] => true
  | first :: rest =>
    let ds := (rest.reverse.dropWhile (· = .mark)).reverse
    match first with
    | .leftToRight => goesOnLeftToRight ds
    | .rightToLeft => goesOnRightToLeft ds
    | _ => false

/-- Whether all labels of a domain name keep their order. Without a character
    from right to left there is nothing to keep. -/
def allKeepOrder (labels : List (List Char)) : Bool :=
  if labels.any (·.any turnsDomain) then labels.all keepsOrder else true

end McpFleet.Url
