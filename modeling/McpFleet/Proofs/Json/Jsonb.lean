/-
  File:      McpFleet/Proofs/Json/Jsonb.lean
  Subject:   What is read from the text of a JSONB column.

  * `settled`: the value as the column shows it. Numbers from 10^16 on are
    whole numbers, and there is no negative zero.
  * `read?_placed`: a small number is read from its placed digits as it
    is from its digits with an exponent.
  * **`parse?_jsonbText`**: what is read from the column is what the compact
    text of the settled value says, up to a nesting of 127.
  * `settled_of_plain`: a value without fractions stays as it is.
-/
import McpFleet.Json.Jsonb
import McpFleet.Proofs.Json.RoundTrip

namespace McpFleet

/-- A fraction in a JSONB column. -/
def Binary64.settled (x : Binary64) : Json :=
  if x.mantissa = 0 then .real .zero
  else if 16 < x.pointPlace then .integer x.wholeDecimal
  else .real x

namespace Json

/-- The value as a JSONB column shows it. -/
def settled : Json → Json := mapReal Binary64.settled

namespace Numeral

open Text (isAsciiDigit)

/-! ## 1. Digits, an exponent, and digits in their place -/

theorem digitsValue_toDigits (n : Nat) : Text.digitsValue (Nat.toDigits 10 n) = n := by
  have same : Text.digitsValue (Nat.toDigits 10 n) =
      Nat.ofDigitChars 10 (Nat.toDigits 10 n) 0 := by
    unfold Text.digitsValue Nat.ofDigitChars
    congr 1
    funext m c
    rw [Nat.mul_comm]
    rfl
  rw [same, Nat.ofDigitChars_ten_toDigits]

/-- A whole part of one digit. -/
theorem scanWhole_single {c : Char} {tail : List Char} (digit : isAsciiDigit c = true)
    (stop : ∀ d ∈ tail.head?, isAsciiDigit d = false) :
    scanWhole (c :: tail) = some ([c], tail) := by
  have single : ∀ d ∈ [c], isAsciiDigit d = true := List.forall_mem_singleton.mpr digit
  have span : spanDigits (c :: tail) = ([c], tail) := spanDigits_append single stop
  unfold scanWhole
  rw [span]
  by_cases zero : c = '0'
  · rw [zero]
    rfl
  · split
    · rename_i h
      cases h
    · rename_i h
      cases h
    · rfl

theorem scanFraction_digits {fs tail : List Char} (digits : ∀ c ∈ fs, isAsciiDigit c = true)
    (some' : fs ≠ []) (stop : ∀ d ∈ tail.head?, isAsciiDigit d = false) :
    scanFraction ('.' :: (fs ++ tail)) = some (some fs, tail) := by
  rw [scanFraction, spanDigits_append digits stop]
  cases fs with
  | nil => exact absurd rfl some'
  | cons c fs => rfl

/-- An exponent below zero. -/
theorem scanExponent_negative {e : Int} (negative : e < 0) :
    scanExponent ('e' :: (Text.ofInt e).toList) =
      some (some (true, Nat.toDigits 10 e.natAbs), []) := by
  have text : (Text.ofInt e).toList = '-' :: (Nat.toDigits 10 e.natAbs ++ []) := by
    unfold Text.ofInt Text.ofNat
    rw [if_pos negative, List.append_nil]
    simp
  have span : spanDigits (Nat.toDigits 10 e.natAbs ++ []) = (Nat.toDigits 10 e.natAbs, []) :=
    spanDigits_append (fun c h => isAsciiDigit_of_mem h) stop_nil
  unfold scanExponent
  dsimp only
  rw [if_pos (.inl rfl), text, scanSign, span]
  cases digits : Nat.toDigits 10 e.natAbs with
  | nil => exact absurd digits Nat.toDigits_ne_nil
  | cons c cs => rfl

/-- The digits that are left over are some of the last. -/
theorem length_fill64_le (cs : List Char) (n : Nat) : (fill64 n cs).2.length ≤ cs.length := by
  induction cs generalizing n with
  | nil => exact Nat.le_refl 0
  | cons c cs ih =>
    rw [fill64]
    split
    · exact Nat.le_succ_of_le (ih _)
    · exact Nat.le_refl _

theorem fill64_digit {c : Char} (digit : isAsciiDigit c = true) (cs : List Char) :
    fill64 0 (c :: cs) = fill64 (c.toNat - 0x30) cs := by
  unfold isAsciiDigit at digit
  rw [Bool.and_eq_true, decide_eq_true_eq, decide_eq_true_eq] at digit
  have small : c.toNat ≤ 0x39 := digit.2
  rw [fill64, if_pos (by omega), Nat.zero_mul, Nat.zero_add]

theorem fill64_zeros (n : Nat) (cs : List Char) :
    fill64 0 (List.replicate n '0' ++ cs) = fill64 0 cs := by
  induction n with
  | zero => rfl
  | succ n ih =>
    rw [List.replicate_succ, List.cons_append, fill64_digit (by rfl)]
    exact ih

/-- The characters of a number behind its sign. -/
def withSign (negative : Bool) (cs : List Char) : List Char :=
  if negative then '-' :: cs else cs

section Single

variable {negative : Bool} {c : Char} {fraction : Option (List Char)}
  {exponent : Option (Bool × List Char)}

/-- A number with one digit in front of the point, or of the exponent. -/
theorem scan_single {tail behind : List Char} (digit : isAsciiDigit c = true)
    (stop : ∀ d ∈ tail.head?, isAsciiDigit d = false)
    (first : scanFraction tail = some (fraction, behind))
    (then' : scanExponent behind = some (exponent, [])) :
    scan (withSign negative (c :: tail)) = some (⟨negative, [c], fraction, exponent⟩, []) := by
  have sign : signOf (withSign negative (c :: tail)) = (negative, c :: tail) := by
    cases negative with
    | true => rfl
    | false =>
      refine signOf_cons ?_ tail
      rintro rfl
      cases digit
  rw [scan_eq, sign]
  simp only [scanWhole_single digit stop, Option.bind_some, first, then']

/-- Its value: the digits that fit 64 bits, and the place of the last one. -/
theorem value?_single (digit : isAsciiDigit c = true)
    (point : fraction.isSome ∨ exponent.isSome) :
    value? ⟨negative, [c], fraction, exponent⟩ =
      realValue? negative (fill64 0 (c :: fraction.getD [])).1
        (((fill64 0 (c :: fraction.getD [])).2.length : Int) - (fraction.getD []).length +
          exponentValue exponent) := by
  have first : fill64 0 [c] = (c.toNat - 0x30, []) := by rw [fill64_digit digit, fill64]
  have unfolded : value? ⟨negative, [c], fraction, exponent⟩ =
      realValue? negative (fill64 (fill64 0 [c]).1 (fraction.getD [])).1
        (((fill64 0 [c]).2.length : Int) - ((fraction.getD []).length -
          (fill64 (fill64 0 [c]).1 (fraction.getD [])).2.length : Nat) +
          exponentValue exponent) := by
    cases fraction with
    | some fs => rfl
    | none =>
      cases exponent with
      | some e => rfl
      | none => simp at point
  have left := length_fill64_le (fraction.getD []) (c.toNat - 0x30)
  rw [unfolded, first, fill64_digit digit]
  congr 1
  simp only [List.length_nil]
  omega

/-- **A number below one is read from its placed digits as it is with an
    exponent.** -/
theorem read?_placed {cs : List Char} (n : Nat)
    (digits : ∀ d ∈ c :: cs, isAsciiDigit d = true) :
    read? (withSign negative ('0' :: '.' :: (List.replicate n '0' ++ c :: cs))) =
      read? (withSign negative (c :: ((if cs = [] then [] else '.' :: cs) ++
        'e' :: (Text.ofInt (-(n : Int) - 1)).toList))) := by
  obtain ⟨digit, others⟩ := List.forall_mem_cons.mp digits
  have zeros : ∀ d ∈ List.replicate n '0' ++ c :: cs, isAsciiDigit d = true := by
    refine List.forall_mem_append.mpr ⟨fun d hd => ?_, digits⟩
    rw [List.eq_of_mem_replicate hd]
    rfl
  have placed : scan (withSign negative ('0' :: '.' :: (List.replicate n '0' ++ c :: cs))) =
      some (⟨negative, ['0'], some (List.replicate n '0' ++ c :: cs), none⟩, []) := by
    have fraction := scanFraction_digits zeros (by simp) stop_nil
    rw [List.append_nil] at fraction
    exact scan_single rfl (fun d hd => by cases hd; rfl) fraction rfl
  have below : -(n : Int) - 1 < 0 := by omega
  have exponent := scanExponent_negative below
  have pointed : scan (withSign negative (c :: ((if cs = [] then [] else '.' :: cs) ++
        'e' :: (Text.ofInt (-(n : Int) - 1)).toList))) =
      some (⟨negative, [c], if cs = [] then none else some cs,
        some (true, Nat.toDigits 10 (-(n : Int) - 1).natAbs)⟩, []) := by
    by_cases single : cs = []
    · simp only [if_pos single, List.nil_append]
      exact scan_single digit (fun d hd => by cases hd; rfl) rfl exponent
    · simp only [if_neg single, List.cons_append]
      exact scan_single digit (fun d hd => by cases hd; rfl)
        (scanFraction_digits others single (fun d hd => by cases hd; rfl)) exponent
  -- both are one digit and a fraction; zeros in front do not fill the 64 bits,
  -- so the same digits fit, and the exponent makes up for the places
  unfold read?
  rw [placed, pointed]
  have same : (if cs = [] then none else some cs).getD [] = cs := by
    by_cases single : cs = []
    · rw [if_pos single, single]
      rfl
    · rw [if_neg single]
      rfl
  have lead : fill64 0 ('0' :: (List.replicate n '0' ++ c :: cs)) = fill64 0 (c :: cs) :=
    fill64_zeros (n + 1) (c :: cs)
  dsimp only
  rw [value?_single rfl (.inl rfl), value?_single digit (.inr rfl), same]
  simp only [Option.getD_some, lead, exponentValue, digitsValue_toDigits, List.length_append,
    List.length_replicate, List.length_cons, if_true]
  congr 1
  omega

end Single

end Numeral

/-! ## 2. Fractions in a column -/

/-- A number with an exponent below zero is one digit, the others behind the
    point, and the exponent. -/
theorem text_of_small {x : Binary64} (nonzero : x.mantissa ≠ 0) (small : x.pointPlace ≤ -5)
    {c : Char} {cs : List Char} (digits : Nat.toDigits 10 x.shortest.1 = c :: cs) :
    x.text.toList = Numeral.withSign x.negative (c :: ((if cs = [] then [] else '.' :: cs) ++
      'e' :: (Text.ofInt (-((-x.pointPlace).toNat : Int) - 1)).toList)) := by
  unfold Binary64.pointPlace at small ⊢
  have place : -((-((Nat.toDigits 10 x.shortest.1).length + x.shortest.2)).toNat : Int) - 1 =
      (Nat.toDigits 10 x.shortest.1).length + x.shortest.2 - 1 := by omega
  have text : Binary64.decimalText x.shortest.1 x.shortest.2 =
      c :: ((if cs = [] then [] else '.' :: cs) ++
        'e' :: (Text.ofInt ((Nat.toDigits 10 x.shortest.1).length + x.shortest.2 - 1)).toList) := by
    unfold Binary64.decimalText Binary64.pointed
    dsimp only
    rw [if_neg (by omega), if_neg (by omega), if_neg (by omega), digits]
    cases cs with
    | nil => rfl
    | cons d ds => rfl
  unfold Binary64.text
  rw [if_neg nonzero, String.toList_ofList, text, place]
  rfl

/-- The digits of a small number in their place have the form of a number. -/
theorem placedDecimal_parts (x : Binary64) : Numeral.Parts x.placedDecimal := by
  have zeros (n : Nat) : ∀ c ∈ List.replicate n '0', Text.isAsciiDigit c = true := by
    intro c hc
    rw [List.eq_of_mem_replicate hc]
    rfl
  refine ⟨['0'], _, by unfold Binary64.placedDecimal; rw [List.append_assoc]; rfl,
    List.cons_ne_nil _ _, zeros 1, .fraction (List.forall_mem_append.mpr ⟨zeros _, ?_⟩)⟩
  exact fun c h => isAsciiDigit_of_mem h

theorem written_numericText (x : Binary64) : Numeral.Written x.numericText.toList := by
  unfold Binary64.numericText
  split
  · exact Numeral.written_text .zero
  split
  · exact Numeral.written_ofInt _
  split
  · rw [String.toList_ofList]
    cases x.negative with
    | false => exact (placedDecimal_parts x).written
    | true => exact (placedDecimal_parts x).written_negative
  · exact Numeral.written_text x

/-- **What is read of a fraction in a column.** -/
theorem asRead?_settled (x : Binary64) :
    x.settled.asRead? = Numeral.read? x.numericText.toList := by
  unfold Binary64.settled Binary64.numericText
  split
  · rfl
  rename_i nonzero
  split
  · rfl
  split
  · rename_i small
    obtain ⟨c, cs, digits⟩ := List.exists_cons_of_ne_nil
      (Nat.toDigits_ne_nil : Nat.toDigits 10 x.shortest.1 ≠ [])
    have all : ∀ d ∈ c :: cs, Text.isAsciiDigit d = true := fun d hd =>
      isAsciiDigit_of_mem (digits ▸ hd : d ∈ Nat.toDigits 10 x.shortest.1)
    rw [asRead?, text_of_small nonzero small digits, String.toList_ofList,
      ← Numeral.read?_placed _ all]
    unfold Binary64.placedDecimal
    rw [digits]
    rfl
  · rfl

/-- Fractions as a JSONB column writes them. -/
def Spelling.numeric : Spelling where
  real := Binary64.numericText
  value := Binary64.settled
  written := written_numericText
  flat x := by
    unfold Binary64.settled
    split
    · rfl
    split <;> rfl
  said := asRead?_settled

/-! ## 3. Values in a column -/

/-- **What is read from a column** is what the settled value says, unless it is
    nested too deep. -/
theorem parse?_jsonbText (j : Json) :
    parse? (jsonbText j) = if j.nesting ≤ 127 then j.settled.asRead? else none :=
  parseAs?_renderWith .numeric (fits_whole j)

/-- The fraction 10^16 comes back as a whole number. -/
example : parse? (jsonbText (.real ⟨false, 5000000000000000, 1⟩)) =
    some (.integer 10000000000000000) := by decide +kernel

mutual

/-- A value without fractions has nothing to settle. -/
theorem settled_of_plain : {n : Nat} → (j : Json) → j.Plain n → j.settled = j
  | _, .null, _ | _, .bool _, _ | _, .integer _, _ | _, .text _, _ => rfl
  | _, .array xs, .array items => congrArg Json.array (settledItems_of_plain xs items)
  | _, .object ms, .object values => congrArg Json.object (settledMembers_of_plain ms values)

theorem settledItems_of_plain {n : Nat} : (xs : List Json) → (∀ x ∈ xs, x.Plain n) →
    mapRealItems Binary64.settled xs = xs
  | [], _ => rfl
  | x :: xs, h => by
    obtain ⟨first, others⟩ := List.forall_mem_cons.mp h
    rw [mapRealItems, settledItems_of_plain xs others]
    exact congrArg (· :: xs) (settled_of_plain x first)

theorem settledMembers_of_plain {n : Nat} : (ms : List (String × Json)) →
    (∀ m ∈ ms, m.2.Plain n) → mapRealMembers Binary64.settled ms = ms
  | [], _ => rfl
  | (k, x) :: ms, h => by
    obtain ⟨first, others⟩ := List.forall_mem_cons.mp h
    rw [mapRealMembers, settledMembers_of_plain ms others]
    exact congrArg (fun x => (k, x) :: ms) (settled_of_plain x first)

end

end Json

end McpFleet
