/-
  File:      McpFleet/Proofs/Json/Digits.lean
  Subject:   Whole numbers read back from their decimal digits.

  * `spanDigits_append`: the digits in front end where another character
    comes.
  * `fill64_eq`: digits of a number that fits 64 bits are all taken.
  * **`scan_ofInt`**, `value?_ofInt`: what is written for a whole number is
    read as that number.
  * **`scan_behind`**: what a number is scanned as does not depend on what
    follows it.
-/
import McpFleet.Json.Numeral

namespace McpFleet.Json

open Text (isAsciiDigit)

/-! ## 1. Digits -/

theorem isAsciiDigit_of_mem {n : Nat} {c : Char} (h : c ∈ Nat.toDigits 10 n) :
    isAsciiDigit c = true := by
  have digit : c.isDigit = true := Nat.isDigit_of_mem_toDigits (by decide) (by decide) h
  unfold Char.isDigit at digit
  unfold isAsciiDigit
  rw [Bool.and_eq_true, decide_eq_true_eq, decide_eq_true_eq] at digit
  rw [Bool.and_eq_true, decide_eq_true_eq, decide_eq_true_eq]
  exact digit

theorem head?_toDigits {n : Nat} (h : 0 < n) : (Nat.toDigits 10 n).head? ≠ some '0' := by
  induction n using Nat.strongRecOn with
  | ind n ih =>
    by_cases small : n < 10
    · rw [Nat.toDigits_of_lt_base small]
      have all : ∀ m ∈ List.range 10, 0 < m → [m.digitChar].head? ≠ some '0' := by decide
      exact all n (List.mem_range.mpr small) h
    · have front := ih (n / 10) (by omega) (by omega)
      rw [Nat.toDigits_of_base_le (by decide) (by omega)]
      cases e : Nat.toDigits 10 (n / 10) with
      | nil => exact absurd e Nat.toDigits_ne_nil
      | cons c cs =>
        rw [e] at front
        exact front

/-- A whole number is written with a sign or a digit in front. -/
theorem toList_ofInt (n : Int) :
    ∃ c cs, (Text.ofInt n).toList = c :: cs ∧ (isAsciiDigit c = true ∨ c = '-') := by
  unfold Text.ofInt Text.ofNat
  split
  · exact ⟨'-', Nat.toDigits 10 n.natAbs, by simp, .inr rfl⟩
  · cases e : Nat.toDigits 10 n.natAbs with
    | nil => exact absurd e Nat.toDigits_ne_nil
    | cons c cs =>
      have digit := isAsciiDigit_of_mem (e ▸ List.mem_cons_self : c ∈ Nat.toDigits 10 n.natAbs)
      exact ⟨c, cs, String.toList_ofList, .inl digit⟩

namespace Numeral

/-- What follows a number: nothing, or what separates or ends a value. -/
def Follows (rest : List Char) : Prop := ∀ c ∈ rest.head?, c = ',' ∨ c = ']' ∨ c = '\x7d'

theorem follows_nil : Follows [] := fun _ h => nomatch h

theorem follows_cons {c : Char} (rest : List Char) (h : c = ',' ∨ c = ']' ∨ c = '\x7d') :
    Follows (c :: rest) := by
  intro d hd
  obtain rfl : c = d := Option.some.inj hd
  exact h

/-- No digit follows a number. -/
theorem Follows.stop {rest : List Char} (hr : Follows rest) :
    ∀ c ∈ rest.head?, isAsciiDigit c = false := by
  intro c hc
  rcases hr c hc with rfl | rfl | rfl <;> rfl

/-- Digits end where another character comes. -/
theorem spanDigits_append {ds rest : List Char} (hd : ∀ c ∈ ds, isAsciiDigit c = true)
    (hr : ∀ c ∈ rest.head?, isAsciiDigit c = false) : spanDigits (ds ++ rest) = (ds, rest) := by
  unfold spanDigits
  rw [List.takeWhile_append_of_pos hd, List.dropWhile_append_of_pos hd]
  cases rest with
  | nil => simp
  | cons c rest =>
    have other : isAsciiDigit c = false := hr c rfl
    simp [other]

theorem scanWhole_toDigits (n : Nat) {rest : List Char} (hr : Follows rest) :
    scanWhole (Nat.toDigits 10 n ++ rest) = some (Nat.toDigits 10 n, rest) := by
  unfold scanWhole
  rw [spanDigits_append (fun c h => isAsciiDigit_of_mem h) hr.stop]
  cases e : Nat.toDigits 10 n with
  | nil => exact absurd e Nat.toDigits_ne_nil
  | cons c cs =>
    by_cases zero : c = '0'
    · subst zero
      cases cs with
      | nil => rfl
      | cons d ds =>
        have pos : 0 < n := by
          rcases Nat.eq_zero_or_pos n with rfl | h
          · cases e
          · exact h
        exact absurd (by rw [e]; rfl) (head?_toDigits pos)
    · split
      · rename_i h
        cases h
      · rename_i h
        cases h
        exact absurd rfl zero
      · rename_i h
        rfl

/-! ## 2. Values -/

theorem le_ofDigitChars (cs : List Char) (m : Nat) : m ≤ Nat.ofDigitChars 10 cs m := by
  rw [Nat.ofDigitChars_eq_ofDigitChars_zero]
  have scale : 1 * m ≤ 10 ^ cs.length * m := Nat.mul_le_mul_right m (Nat.pow_pos (by decide))
  omega

/-- Digits that fit 64 bits are all taken. -/
theorem fill64_eq {cs : List Char} {m : Nat}
    (h : Nat.ofDigitChars 10 cs m ≤ 0xFFFFFFFFFFFFFFFF) :
    fill64 m cs = (Nat.ofDigitChars 10 cs m, []) := by
  induction cs generalizing m with
  | nil => rw [Nat.ofDigitChars_nil, fill64]
  | cons c cs ih =>
    rw [Nat.ofDigitChars_cons] at h ⊢
    have step : m * 10 + (c.toNat - 0x30) = 10 * m + (c.toNat - '0'.toNat) := by
      rw [Nat.mul_comm]
      rfl
    rw [fill64, step, if_pos (Nat.le_trans (le_ofDigitChars cs _) h)]
    exact ih h

theorem scanFraction_follows {rest : List Char} (hr : Follows rest) :
    scanFraction rest = some (none, rest) := by
  cases rest with
  | nil => rfl
  | cons c rest => rcases hr c rfl with rfl | rfl | rfl <;> rfl

theorem scanExponent_follows {rest : List Char} (hr : Follows rest) :
    scanExponent rest = some (none, rest) := by
  cases rest with
  | nil => rfl
  | cons c rest => rcases hr c rfl with rfl | rfl | rfl <;> rfl

/-- The written form of a whole number. -/
def ofInt (n : Int) : Numeral := ⟨n < 0, Nat.toDigits 10 n.natAbs, none, none⟩

/-- **What is written for a whole number is scanned whole.** -/
theorem scan_ofInt (n : Int) {rest : List Char} (hr : Follows rest) :
    scan ((Text.ofInt n).toList ++ rest) = some (ofInt n, rest) := by
  have digits : scanWhole (Nat.toDigits 10 n.natAbs ++ rest) =
      some (Nat.toDigits 10 n.natAbs, rest) := scanWhole_toDigits _ hr
  unfold Text.ofInt Text.ofNat scan ofInt
  by_cases negative : n < 0
  · rw [if_pos negative]
    simp [digits, scanFraction_follows hr, scanExponent_follows hr, negative]
  · rw [if_neg negative, String.toList_ofList]
    cases e : Nat.toDigits 10 n.natAbs with
    | nil => exact absurd e Nat.toDigits_ne_nil
    | cons c cs =>
      have digit : isAsciiDigit c = true :=
        isAsciiDigit_of_mem (e ▸ List.mem_cons_self : c ∈ Nat.toDigits 10 n.natAbs)
      have sign : c ≠ '-' := by
        intro e
        subst e
        cases digit
      rw [e] at digits
      simp only [List.cons_append] at digits ⊢
      split
      · rename_i h
        cases h
        exact absurd rfl sign
      · simp [digits, scanFraction_follows hr, scanExponent_follows hr, negative]

/-- **A whole number that fits 64 bits is read as itself.** -/
theorem value?_ofInt {n : Int} (lo : -0x8000000000000000 ≤ n) (hi : n ≤ 0xFFFFFFFFFFFFFFFF) :
    (ofInt n).value? = some (.integer n) := by
  have filled : fill64 0 (Nat.toDigits 10 n.natAbs) = (n.natAbs, []) := by
    rw [fill64_eq (by rw [Nat.ofDigitChars_ten_toDigits]; omega), Nat.ofDigitChars_ten_toDigits]
  unfold value? ofInt
  simp only [filled]
  by_cases negative : n < 0
  · have size : n.natAbs ≠ 0 ∧ n.natAbs ≤ 0x8000000000000000 := by omega
    simp only [negative, decide_true, Bool.not_true, List.isEmpty_nil, if_true]
    rw [if_neg Bool.false_ne_true, if_pos size]
    congr 2
    omega
  · simp only [negative, decide_false, Bool.not_false, List.isEmpty_nil, if_true]
    congr 2
    omega

/-! ## 3. What may follow a number -/

theorem spanDigits_follows (cs : List Char) {rest : List Char} (hr : Follows rest) :
    spanDigits (cs ++ rest) = ((spanDigits cs).1, (spanDigits cs).2 ++ rest) := by
  induction cs with
  | nil => exact spanDigits_append (fun _ h => nomatch h) hr.stop
  | cons c cs ih =>
    unfold spanDigits at ih ⊢
    by_cases digit : isAsciiDigit c = true
    · rw [List.cons_append, List.takeWhile_cons_of_pos digit, List.dropWhile_cons_of_pos digit,
        List.takeWhile_cons_of_pos digit, List.dropWhile_cons_of_pos digit]
      rw [Prod.mk.injEq] at ih ⊢
      exact ⟨congrArg (c :: ·) ih.1, ih.2⟩
    · rw [List.cons_append, List.takeWhile_cons_of_neg digit, List.dropWhile_cons_of_neg digit,
        List.takeWhile_cons_of_neg digit, List.dropWhile_cons_of_neg digit, List.cons_append]

section Behind

variable {cs r rest : List Char}

/-- What a part of a number is scanned as, with more behind it. -/
theorem scanWhole_behind (cs : List Char) (hr : Follows rest) :
    scanWhole (cs ++ rest) = (scanWhole cs).map fun read => (read.1, read.2 ++ rest) := by
  unfold scanWhole
  rw [spanDigits_follows cs hr]
  generalize spanDigits cs = span
  obtain ⟨digits, behind⟩ := span
  split
  · rename_i e
    cases e
    rfl
  · rename_i e
    cases e
    rfl
  · rename_i nonempty single
    split
    · rename_i e
      cases e
      exact absurd rfl (nonempty _)
    · rename_i e
      cases e
      exact absurd rfl (single _ _ _)
    · rfl

theorem scanFraction_behind (cs : List Char) (hr : Follows rest) :
    scanFraction (cs ++ rest) = (scanFraction cs).map fun read => (read.1, read.2 ++ rest) := by
  cases cs with
  | nil => exact scanFraction_follows hr
  | cons c cs =>
    by_cases point : c = '.'
    · subst point
      rw [List.cons_append, scanFraction, scanFraction, spanDigits_follows cs hr]
      generalize spanDigits cs = span
      obtain ⟨taken, behind⟩ := span
      cases taken <;> rfl
    · have none (tail : List Char) : scanFraction (c :: tail) = some (none, c :: tail) := by
        rw [scanFraction]
        exact fun digits e => point (List.cons.inj e).1
      rw [List.cons_append, none, none, Option.map_some, List.cons_append]

theorem scanSign_behind (cs : List Char) (hr : Follows rest) :
    scanSign (cs ++ rest) = ((scanSign cs).1, (scanSign cs).2 ++ rest) := by
  cases cs with
  | nil =>
    cases rest with
    | nil => rfl
    | cons c rest => rcases hr c rfl with rfl | rfl | rfl <;> rfl
  | cons c cs =>
    rw [List.cons_append]
    unfold scanSign
    split
    · rename_i e
      cases e
      rfl
    · rename_i e
      cases e
      rfl
    · rename_i minus plus
      split
      · rename_i e
        cases e
        exact absurd rfl (minus _)
      · rename_i e
        cases e
        exact absurd rfl (plus _)
      · rfl

theorem scanExponent_behind (cs : List Char) (hr : Follows rest) :
    scanExponent (cs ++ rest) = (scanExponent cs).map fun read => (read.1, read.2 ++ rest) := by
  cases cs with
  | nil => exact scanExponent_follows hr
  | cons c cs =>
    rw [List.cons_append]
    unfold scanExponent
    dsimp only
    by_cases mark : c = 'e' ∨ c = 'E'
    · rw [if_pos mark, if_pos mark, scanSign_behind cs hr]
      dsimp only
      rw [spanDigits_follows _ hr]
      generalize spanDigits (scanSign cs).2 = span
      obtain ⟨taken, behind⟩ := span
      cases taken <;> rfl
    · rw [if_neg mark, if_neg mark]
      rfl

/-- The sign of a number, and what stands behind it. -/
def signOf (cs : List Char) : Bool × List Char :=
  match cs with
  | '-' :: cs => (true, cs)
  | cs => (false, cs)

theorem signOf_cons {c : Char} (minus : c ≠ '-') (tail : List Char) :
    signOf (c :: tail) = (false, c :: tail) := by
  unfold signOf
  split
  · rename_i e
    cases e
    exact absurd rfl minus
  · rfl

theorem signOf_behind (cs : List Char) (hr : Follows rest) :
    signOf (cs ++ rest) = ((signOf cs).1, (signOf cs).2 ++ rest) := by
  cases cs with
  | nil =>
    cases rest with
    | nil => rfl
    | cons c rest => rcases hr c rfl with rfl | rfl | rfl <;> rfl
  | cons c cs =>
    by_cases minus : c = '-'
    · subst minus
      rfl
    · rw [List.cons_append, signOf_cons minus, signOf_cons minus, List.cons_append]

/-- A number is scanned part by part. -/
theorem scan_eq (cs : List Char) :
    scan cs = ((scanWhole (signOf cs).2).bind fun w => (scanFraction w.2).bind fun f =>
      (scanExponent f.2).bind fun e => some (⟨(signOf cs).1, w.1, f.1, e.1⟩, e.2)) := by
  rfl

/-- **A number ends where what follows it begins.** -/
theorem scan_behind (cs : List Char) (hr : Follows rest) :
    scan (cs ++ rest) = (scan cs).map fun read => (read.1, read.2 ++ rest) := by
  rw [scan_eq, scan_eq, signOf_behind cs hr, scanWhole_behind _ hr]
  cases scanWhole (signOf cs).2 with
  | none => rfl
  | some w =>
    simp only [Option.map_some, Option.bind_some]
    rw [scanFraction_behind _ hr]
    cases scanFraction w.2 with
    | none => rfl
    | some f =>
      simp only [Option.map_some, Option.bind_some]
      rw [scanExponent_behind _ hr]
      cases scanExponent f.2 <;> rfl

end Behind

end Numeral

end McpFleet.Json
