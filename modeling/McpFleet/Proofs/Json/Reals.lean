/-
  File:      McpFleet/Proofs/Json/Reals.lean
  Subject:   Scanning the texts of numbers.

  * `Behind`: what the text of a number has behind its whole part.
  * `decimalText_parts`: digits, and then that.
  * `Written`: a text that begins as a number does and has nothing behind it.
  * **`written_ofInt`**, **`written_text`**: the texts of all numbers are such.
    Whether one has a value is another matter: it can be beyond the largest.
-/
import McpFleet.Binary64.Shortest
import McpFleet.Proofs.Json.Digits

namespace McpFleet.Json.Numeral

open Text (isAsciiDigit)

/-! ## 1. Parts -/

section Parts

variable {ds fs rest r : List Char}

theorem stop_nil : ∀ c ∈ ([] : List Char).head?, isAsciiDigit c = false := fun _ h => nomatch h

theorem scanWhole_digits {whole : List Char} (digits : ∀ c ∈ ds, isAsciiDigit c = true)
    (stop : ∀ c ∈ rest.head?, isAsciiDigit c = false)
    (h : scanWhole (ds ++ rest) = some (whole, r)) : r = rest := by
  unfold scanWhole at h
  rw [spanDigits_append digits stop] at h
  split at h
  · cases h
  · cases h
  · cases h
    rfl

theorem scanFraction_point {fraction : Option (List Char)}
    (digits : ∀ c ∈ fs, isAsciiDigit c = true) (stop : ∀ c ∈ rest.head?, isAsciiDigit c = false)
    (h : scanFraction ('.' :: (fs ++ rest)) = some (fraction, r)) : r = rest := by
  rw [scanFraction, spanDigits_append digits stop] at h
  cases fs with
  | nil => cases h
  | cons c fs =>
    cases h
    rfl

theorem scanExponent_ofInt {z : Int} {exponent : Option (Bool × List Char)}
    (h : scanExponent ('e' :: (Text.ofInt z).toList) = some (exponent, r)) : r = [] := by
  have digits : ∀ c ∈ Nat.toDigits 10 z.natAbs, isAsciiDigit c = true :=
    fun c hc => isAsciiDigit_of_mem hc
  have signed : ∃ negative, scanSign (Text.ofInt z).toList =
      (negative, Nat.toDigits 10 z.natAbs ++ []) := by
    rw [List.append_nil]
    unfold Text.ofInt Text.ofNat
    split
    · exact ⟨true, by simp [scanSign]⟩
    · rw [String.toList_ofList]
      cases e : Nat.toDigits 10 z.natAbs with
      | nil => exact absurd e Nat.toDigits_ne_nil
      | cons c cs =>
        have digit : isAsciiDigit c = true := digits c (by rw [e]; exact List.mem_cons_self)
        refine ⟨false, ?_⟩
        unfold scanSign
        split
        · rename_i e
          cases e
          cases digit
        · rename_i e
          cases e
          cases digit
        · rfl
  obtain ⟨negative, signed⟩ := signed
  unfold scanExponent at h
  dsimp only at h
  rw [if_pos (.inl rfl), signed] at h
  dsimp only at h
  rw [spanDigits_append digits stop_nil] at h
  split at h
  · cases h
  · rename_i e
    cases e
    cases h
    rfl

end Parts

/-! ## 2. Texts -/

/-- What stands behind a whole part: a fraction, an exponent, or both. -/
inductive Behind : List Char → Prop where
  | fraction {fs : List Char} (digits : ∀ c ∈ fs, isAsciiDigit c = true) : Behind ('.' :: fs)
  | exponent (z : Int) : Behind ('e' :: (Text.ofInt z).toList)
  | both {fs : List Char} (digits : ∀ c ∈ fs, isAsciiDigit c = true) (z : Int) :
    Behind ('.' :: (fs ++ 'e' :: (Text.ofInt z).toList))

theorem Behind.stop {cs : List Char} (h : Behind cs) :
    ∀ c ∈ cs.head?, isAsciiDigit c = false := by
  intro c hc
  cases h <;> (cases hc; rfl)

/-- Nothing is left of it. -/
theorem Behind.nothing_left {cs b r : List Char} (h : Behind cs) {fraction : Option (List Char)}
    {exponent : Option (Bool × List Char)} (first : scanFraction cs = some (fraction, b))
    (then' : scanExponent b = some (exponent, r)) : r = [] := by
  cases h with
  | @fraction fs digits =>
    rw [← List.append_nil fs] at first
    obtain rfl := scanFraction_point digits stop_nil first
    cases then'
    rfl
  | exponent z =>
    cases first
    exact scanExponent_ofInt then'
  | both digits z =>
    obtain rfl := scanFraction_point digits (fun c hc => by cases hc; rfl) first
    exact scanExponent_ofInt then'

/-- Digits, of which there are some, and what stands behind them. -/
def Parts (cs : List Char) : Prop :=
  ∃ ds tail, cs = ds ++ tail ∧ ds ≠ [] ∧ (∀ c ∈ ds, isAsciiDigit c = true) ∧ Behind tail

theorem decimalText_parts (d : Nat) (k : Int) : Parts (Binary64.decimalText d k) := by
  have digits : ∀ c ∈ Nat.toDigits 10 d, isAsciiDigit c = true := fun c h => isAsciiDigit_of_mem h
  have some : Nat.toDigits 10 d ≠ [] := Nat.toDigits_ne_nil
  have zeros (n : Nat) : ∀ c ∈ List.replicate n '0', isAsciiDigit c = true := by
    intro c hc
    rw [List.eq_of_mem_replicate hc]
    rfl
  have taken {n : Nat} (h : 0 < n) : (Nat.toDigits 10 d).take n ≠ [] := by
    intro none
    rcases List.take_eq_nil_iff.mp none with h' | h'
    · exact absurd h' (Nat.ne_of_gt h)
    · exact some h'
  have front (n : Nat) : ∀ c ∈ (Nat.toDigits 10 d).take n, isAsciiDigit c = true :=
    fun c hc => digits c (List.mem_of_mem_take hc)
  have back (n : Nat) : ∀ c ∈ (Nat.toDigits 10 d).drop n, isAsciiDigit c = true :=
    fun c hc => digits c (List.mem_of_mem_drop hc)
  unfold Binary64.decimalText Binary64.pointed
  dsimp only
  split
  · exact ⟨_, _, rfl, List.append_ne_nil_of_left_ne_nil some _,
      List.forall_mem_append.mpr ⟨digits, zeros _⟩, .fraction (zeros 1)⟩
  split
  · rename_i whole
    exact ⟨_, _, rfl, taken (by omega), front _, .fraction (back _)⟩
  split
  · exact ⟨['0'], _, by rw [List.append_assoc]; rfl, List.cons_ne_nil _ _, zeros 1,
      .fraction (List.forall_mem_append.mpr ⟨zeros _, digits⟩)⟩
  split
  · exact ⟨_, _, rfl, some, digits, .exponent _⟩
  · exact ⟨_, _, List.append_assoc _ _ _, taken (by decide), front _, .both (back _) _⟩

/-- Characters that begin as a number does, and of which scanning leaves
    nothing. -/
structure Written (cs : List Char) : Prop where
  front : ∃ c tail, cs = c :: tail ∧ (isAsciiDigit c = true ∨ c = '-')
  nothing_left : ∀ t r, scan cs = some (t, r) → r = []

theorem Parts.nothing_left {cs ms r : List Char} {t : Numeral} (h : Parts ms)
    (behind : (signOf cs).2 = ms) (scanned : scan cs = some (t, r)) : r = [] := by
  obtain ⟨ds, tail, rfl, -, digits, last⟩ := h
  rw [scan_eq, behind] at scanned
  obtain ⟨⟨w, b⟩, whole, more⟩ := Option.bind_eq_some_iff.mp scanned
  obtain ⟨⟨f, c⟩, fraction, more⟩ := Option.bind_eq_some_iff.mp more
  obtain ⟨⟨e, r⟩, exponent, done⟩ := Option.bind_eq_some_iff.mp more
  cases done
  obtain rfl := scanWhole_digits digits last.stop whole
  exact last.nothing_left fraction exponent

theorem Parts.written {cs : List Char} (h : Parts cs) : Written cs := by
  have parts := h
  obtain ⟨ds, tail, rfl, some, digits, -⟩ := h
  obtain ⟨c, ds, rfl⟩ := List.exists_cons_of_ne_nil some
  have digit : isAsciiDigit c = true := digits c List.mem_cons_self
  have minus : c ≠ '-' := by
    rintro rfl
    cases digit
  refine ⟨⟨c, _, rfl, .inl digit⟩, fun t r => parts.nothing_left ?_⟩
  rw [List.cons_append, signOf_cons minus]

theorem Parts.written_negative {cs : List Char} (h : Parts cs) : Written ('-' :: cs) :=
  ⟨⟨'-', cs, rfl, .inr rfl⟩, fun _ _ => h.nothing_left rfl⟩

/-- **The text of a whole number has nothing behind the number.** -/
theorem written_ofInt (z : Int) : Written (Text.ofInt z).toList := by
  refine ⟨toList_ofInt z, fun t r scanned => ?_⟩
  have own := scan_ofInt z follows_nil
  rw [List.append_nil, scanned] at own
  exact congrArg Prod.snd (Option.some.inj own)

/-- **The text of a fraction has nothing behind the number.** -/
theorem written_text (x : Binary64) : Written x.text.toList := by
  have magnitude : Parts (if x.mantissa = 0 then ['0', '.', '0']
      else Binary64.decimalText x.shortest.1 x.shortest.2) := by
    split
    · have zero : ∀ c ∈ ['0'], isAsciiDigit c = true := List.forall_mem_singleton.mpr rfl
      exact ⟨['0'], _, rfl, List.cons_ne_nil _ _, zero, .fraction zero⟩
    · exact decimalText_parts _ _
  unfold Binary64.text
  rw [String.toList_ofList]
  cases x.negative with
  | false => exact magnitude.written
  | true => exact magnitude.written_negative

end McpFleet.Json.Numeral
