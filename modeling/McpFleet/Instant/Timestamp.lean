/-
  File:      McpFleet/Instant/Timestamp.lean
  Subject:   The text of a moment: RFC 3339 in UTC.

  Written with 0, 3, 6 or 9 digits of fraction, the fewest that are exact,
  and with `Z`. A year beyond 9999 or before 0 has a sign.

  Read with any offset from UTC; blanks may stand between the parts, a blank
  or a `T` between date and time, and digits of the fraction beyond the ninth
  are passed over. The date has to be in the calendar, within the years
  -262143 to 262142; second 60 is a leap second.
-/
import McpFleet.Instant
import McpFleet.Instant.Calendar
import McpFleet.Json.Record
import McpFleet.Text.Ascii
import McpFleet.Text.Blank
import McpFleet.Text.Decimal

namespace McpFleet.Instant

/-! ## 1. Writing -/

/-- Four digits, or a sign and four digits or more. -/
def yearText (y : Int) : String :=
  if 0 ≤ y ∧ y ≤ 9999 then Text.padded 4 y.natAbs
  else (if y < 0 then "-" else "+") ++ Text.padded 4 y.natAbs

/-- Three, six or nine digits behind the point, or nothing. -/
def fractionText (nanos : Nat) : String :=
  if nanos = 0 then ""
  else if nanos % 1000000 = 0 then "." ++ Text.padded 3 (nanos / 1000000)
  else if nanos % 1000 = 0 then "." ++ Text.padded 6 (nanos / 1000)
  else "." ++ Text.padded 9 nanos

/-- The instant in UTC; a leap second is the second 60 of its minute. -/
def text (t : Instant) : String :=
  let date := Calendar.dateOf (t.seconds / 86400)
  let clock := (t.seconds % 86400).toNat
  let leap := nanosPerSecond ≤ t.nanos
  let second := clock % 60 + (if leap then 1 else 0)
  let nanos := if leap then t.nanos - nanosPerSecond else t.nanos
  yearText date.year ++ "-" ++ Text.padded 2 date.month ++ "-" ++ Text.padded 2 date.day
    ++ "T" ++ Text.padded 2 (clock / 3600) ++ ":" ++ Text.padded 2 (clock / 60 % 60)
    ++ ":" ++ Text.padded 2 second ++ fractionText nanos ++ "Z"

/-! ## 2. Reading -/

namespace Reader

/-- Blanks are passed over between the parts of a timestamp. -/
def skipBlanks (cs : List Char) : List Char := cs.dropWhile Text.isBlank

/-- A number of one to `width` digits, behind blanks. -/
def number? (width : Nat) (cs : List Char) : Option (Nat × List Char) :=
  let cs := skipBlanks cs
  let digits := (cs.take width).takeWhile Text.isAsciiDigit
  if digits.isEmpty then none else some (Text.digitsValue digits, cs.drop digits.length)

/-- A number of any length, with nothing in front. -/
def digits? (cs : List Char) : Option (Nat × List Char) :=
  let digits := cs.takeWhile Text.isAsciiDigit
  if digits.isEmpty then none else some (Text.digitsValue digits, cs.drop digits.length)

/-- A year: up to four digits, or a sign and any number of them. -/
def year? (cs : List Char) : Option (Int × List Char) :=
  match skipBlanks cs with
  | '-' :: cs => (digits? cs).map fun (n, cs) => (-(n : Int), cs)
  | '+' :: cs => (digits? cs).map fun (n, cs) => ((n : Int), cs)
  | cs => (number? 4 cs).map fun (n, cs) => ((n : Int), cs)

/-- A separator behind blanks. -/
def separator? (c : Char) (cs : List Char) : Option (List Char) :=
  match skipBlanks cs with
  | d :: cs => if d = c then some cs else none
  | [] => none

/-- What stands between date and time. -/
def timeMark? : List Char → Option (List Char)
  | c :: cs => if c = 'T' ∨ c = 't' ∨ c = ' ' then some cs else none
  | [] => none

/-- Nanoseconds behind a point; no point means none. -/
def fraction? : List Char → Option (Nat × List Char)
  | '.' :: cs =>
    let digits := cs.takeWhile Text.isAsciiDigit
    let kept := digits.take 9
    if digits.isEmpty then none
    else some (Text.digitsValue kept * Text.tenTo (9 - kept.length), cs.drop digits.length)
  | cs => some (0, cs)

/-- Hours and minutes of an offset, in seconds. -/
def offsetClock? (cs : List Char) : Option (Int × List Char) :=
  match cs with
  | h₁ :: h₂ :: cs =>
    match cs.dropWhile (fun c => c == ':' || Text.isBlank c) with
    | m₁ :: m₂ :: cs =>
      if [h₁, h₂, m₁, m₂].all Text.isAsciiDigit && m₁ ≤ '5' then
        some ((Text.digitsValue [h₁, h₂] * 3600 + Text.digitsValue [m₁, m₂] * 60 : Nat), cs)
      else none
    | _ => none
  | _ => none

/-- The offset from UTC in seconds: `Z`, `UTC`, or a sign with hours and
    minutes. -/
def offset? (cs : List Char) : Option (Int × List Char) :=
  if (cs.take 3).map Text.lowerChar = ['u', 't', 'c'] then some (0, cs.drop 3)
  else match cs with
    | c :: cs =>
      if c = 'Z' ∨ c = 'z' then some (0, cs)
      else if c = '+' then offsetClock? cs
      else if c = '-' ∨ c.toNat = 0x2212 then (offsetClock? cs).map fun (n, cs) => (-n, cs)
      else none
    | [] => none

end Reader

/-- The seconds of the years that a moment may lie in. -/
def isInRange (seconds : Int) : Bool :=
  Calendar.daysOf ⟨-262143, 1, 1⟩ * 86400 ≤ seconds
    && seconds < Calendar.daysOf ⟨262143, 1, 1⟩ * 86400

open Reader in
/-- The moment written by a text. -/
def ofText? (s : String) : Option Instant := do
  let (year, cs) ← year? s.toList
  let cs ← separator? '-' cs
  let (month, cs) ← number? 2 cs
  let cs ← separator? '-' cs
  let (day, cs) ← number? 2 cs
  let cs ← timeMark? cs
  let (hour, cs) ← number? 2 cs
  let cs ← separator? ':' cs
  let (minute, cs) ← number? 2 cs
  let cs ← separator? ':' cs
  let (second, cs) ← number? 2 cs
  let (nanos, cs) ← fraction? cs
  let (offset, cs) ← offset? (skipBlanks cs)
  let date : Calendar.Date := ⟨year, month, day⟩
  let leap := second = 60
  let dayStart := Calendar.daysOf date * 86400
  let clock := hour * 3600 + minute * 60 + (if leap then 59 else second)
  let seconds := dayStart + clock - offset
  if (skipBlanks cs).isEmpty && date.isValid && hour ≤ 23 && minute ≤ 59 && second ≤ 60
      && offset.natAbs < 86400 && isInRange dayStart && isInRange seconds then
    return ⟨seconds, nanos + (if leap then nanosPerSecond else 0)⟩
  else none

/-! ## 3. JSON form -/

/-- An instant is written as its timestamp. -/
def toJson (t : Instant) : Json := .text t.text

/-- Reads a timestamp of any offset. -/
def ofJson? : Json → Option Instant
  | .text s => ofText? s
  | _ => none

end McpFleet.Instant
