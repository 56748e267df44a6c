/-
  File:      McpFleet/Text/Canonical.lean
  Subject:   The composed form of a text: one form for all texts that differ
             only in how marks and syllables are put together.

  Characters come apart as far as they can, the marks behind a character are
  put in the order of their classes, and each mark that nothing keeps from
  its character is put together with it.
-/
import McpFleet.Text.Canonical.Table

namespace McpFleet.Text

namespace Canonical

/-! ## 1. Syllables of Hangul -/

/-- The first syllable. -/
def syllableBase : Nat := 0xAC00

/-- The first of 19 leads. -/
def leadBase : Nat := 0x1100

/-- The first of 21 vowels. -/
def vowelBase : Nat := 0x1161

/-- One below the first tail. -/
def tailBase : Nat := 0x11A7

/-- The tails, and none. -/
def tailCount : Nat := 28

/-- Vowels with each of the tails or none. -/
def leadWeight : Nat := 21 * tailCount

/-- Syllables stand side by side, ordered by lead, vowel and tail. -/
def isSyllable (n : Nat) : Bool := syllableBase ≤ n && n < syllableBase + 19 * leadWeight

/-- A syllable without a tail. -/
def isOpenSyllable (n : Nat) : Bool := isSyllable n && (n - syllableBase) % tailCount == 0

/-- The lead, the vowel and the tail, if there is one. -/
def syllableParts (n : Nat) : List Char :=
  let i := n - syllableBase
  let front := [Char.ofNat (leadBase + i / leadWeight),
    Char.ofNat (vowelBase + i % leadWeight / tailCount)]
  if i % tailCount = 0 then front else front ++ [Char.ofNat (tailBase + i % tailCount)]

/-- The syllable of a lead and a vowel, or of an open syllable and a tail. -/
def syllable? (a b : Nat) : Option Char :=
  if leadBase ≤ a ∧ a < leadBase + 19 ∧ vowelBase ≤ b ∧ b < vowelBase + 21 then
    some (Char.ofNat (syllableBase + (a - leadBase) * leadWeight + (b - vowelBase) * tailCount))
  else if isOpenSyllable a ∧ tailBase < b ∧ b < tailBase + tailCount then
    some (Char.ofNat (a + (b - tailBase)))
  else none

/-! ## 2. Coming apart -/

/-- What a character comes apart into, if it does. -/
def halves? (c : Char) : Option (List Char) :=
  if c.toNat < 0xC0 then none
  else if isSyllable c.toNat then some (syllableParts c.toNat)
  else (oneWay.image? c).or (pairs.image? c)

/-- The last parts of a character, which may come apart a few times over. -/
def parts : Nat → Char → List Char
  | 0, c => [c]
  | depth + 1, c =>
    match halves? c with
    | none => [c]
    | some cs => cs.flatMap (parts depth)

/-- A character with its combining class. -/
abbrev Classed := Char × Nat

/-- The class of a mark; zero for characters that stand alone. -/
def combiningClass (c : Char) : Nat :=
  if c.toNat < 0x300 then 0 else ((classes.image? c).bind List.head?).elim 0 Char.toNat

/-- Puts a mark behind the marks of lower classes. -/
def insertMark (c : Classed) : List Classed → List Classed
  | [] => [c]
  | d :: ds => if d.2 ≠ 0 ∧ d.2 < c.2 then d :: insertMark c ds else c :: d :: ds

/-- The parts of a text, marks ordered by class. -/
def decomposed (cs : List Char) : List Classed :=
  (cs.flatMap (parts 3)).foldr (fun c ds => insertMark (c, combiningClass c) ds) []

/-! ## 3. Putting together -/

/-- All pairs, the second part first. -/
def pairList : List (Char × Char × Char) :=
  (pairs.flatMap CodeSpan.entries).filterMap fun e =>
    match e.2 with
    | [a, b] => some (Char.ofNat b, Char.ofNat a, Char.ofNat e.1)
    | _ => none

/-- The character that two make. -/
def pair? (a b : Char) : Option Char :=
  if b.toNat < 0x300 then none
  else (syllable? a.toNat b.toNat).or
    ((pairList.find? fun p => p.1 == b && p.2.1 == a).map (·.2.2))

/-- Puts characters together with `starter`. Between them stand marks that
    were not, the last one first; `last` is the class of that one. -/
def composeFrom (starter : Char) (between : List Char) (last : Nat) : List Classed → List Char
  | [] => starter :: between.reverse
  | (c, k) :: cs =>
    match if between.isEmpty ∨ last < k then pair? starter c else none with
    | some pair => composeFrom pair between last cs
    | none =>
      if k = 0 then starter :: (between.reverse ++ composeFrom c [] 0 cs)
      else composeFrom starter (c :: between) k cs

/-- Marks without a character before them are left alone. -/
def compose : List Classed → List Char
  | [] => []
  | (c, k) :: cs => if k = 0 then composeFrom c [] 0 cs else c :: compose cs

end Canonical

/-- **The composed form of a text.** -/
def composed (cs : List Char) : List Char := Canonical.compose (Canonical.decomposed cs)

end McpFleet.Text
