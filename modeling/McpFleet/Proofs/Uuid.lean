/-
  File:      McpFleet/Proofs/Uuid.lean
  Subject:   Identifiers are read back from their text.

  * `Uuid.ofDigits?_digits`: 32 digits give the number that they write.
  * **`Uuid.ofText?_text`**: the hyphenated text is read as the identifier it
    was written for, so no two identifiers are written alike (`text_inj`).
-/
import McpFleet.Proofs.Cluster.Naming
import McpFleet.Proofs.Text

namespace McpFleet

/-! ## 1. Digits -/

namespace Uuid

/-- The last `k` hexadecimal digits of a number, the higher ones first, are
    worth what is left of it below `16 ^ k`. -/
theorem foldl_places (k n : Nat) :
    ((List.range k).map fun place => n >>> (4 * (k - 1 - place)) % 16).foldl
      (fun m v => m * 16 + v) 0 = n % 16 ^ k := by
  induction k generalizing n with
  | zero => rw [Nat.pow_zero, Nat.mod_one]; rfl
  | succ k ih =>
    have front : (List.range k).map (fun place => n >>> (4 * (k - place)) % 16) =
        (List.range k).map fun place => (n / 16) >>> (4 * (k - 1 - place)) % 16 := by
      refine List.map_congr_left fun place h => ?_
      have small := List.mem_range.mp h
      have shift : 4 * (k - place) = 4 + 4 * (k - 1 - place) := by omega
      rw [shift, Nat.shiftRight_add, Nat.shiftRight_eq_div_pow n 4]
    have last : n >>> (4 * (k - k)) % 16 = n % 16 := by rw [Nat.sub_self]; rfl
    rw [Nat.add_sub_cancel, List.range_succ, List.map_append, List.foldl_append, front, ih,
      List.map_singleton, List.foldl_cons, List.foldl_nil, last, Nat.pow_succ,
      Nat.mul_comm (16 ^ k) 16, Nat.mod_mul]
    omega

/-- What the digits of an identifier are worth, one by one. -/
def places (u : Uuid) : List Nat :=
  (List.range 32).map fun place => u.bits.toNat >>> (4 * (31 - place)) % 16

theorem digits_eq_map (u : Uuid) : u.digits = u.places.map Text.hexDigit := by
  unfold digits places
  rw [List.map_map]
  rfl

theorem lt_of_mem_places {u : Uuid} {n : Nat} (h : n ∈ u.places) : n < 16 := by
  obtain ⟨place, -, rfl⟩ := List.mem_map.mp h
  exact Nat.mod_lt _ (by decide)

theorem mapM_hexDigit {ns : List Nat} (h : ∀ n ∈ ns, n < 16) :
    (ns.map Text.hexDigit).mapM Text.hexValue? = some ns := by
  induction ns with
  | nil => rfl
  | cons n ns ih =>
    obtain ⟨first, others⟩ := List.forall_mem_cons.mp h
    rw [List.map_cons, List.mapM_cons, Text.hexValue?_hexDigit first, ih others]
    rfl

/-- **32 digits give the number that they write.** -/
theorem ofDigits?_digits (u : Uuid) : ofDigits? u.digits = some u := by
  have worth : u.places.foldl (fun m v => m * 16 + v) 0 = u.bits.toNat := by
    have all := foldl_places 32 u.bits.toNat
    rw [Nat.mod_eq_of_lt (show u.bits.toNat < 16 ^ 32 from u.bits.isLt)] at all
    exact all
  unfold ofDigits?
  rw [if_pos u.length_digits, digits_eq_map, mapM_hexDigit fun _ => lt_of_mem_places]
  simp only [Option.bind_eq_bind, Option.bind_some, Option.pure_def, worth, BitVec.ofNat_toNat,
    BitVec.setWidth_eq]

/-! ## 2. Texts -/

/-- A digit that is written is no hyphen, no brace and no `u` of either case. -/
theorem apart_of_mem_digits {u : Uuid} {c : Char} (h : c ∈ u.digits) :
    c ≠ '-' ∧ c ≠ '\x7b' ∧ Text.lowerChar c ≠ 'u' :=
  of_mem_digits (p := fun c => c ≠ '-' ∧ c ≠ '\x7b' ∧ Text.lowerChar c ≠ 'u') (by decide) h

/-- The groups between hyphens are the digits again. -/
theorem ofHyphenated?_hyphenated {ds : List Char} (length : ds.length = 32) (plain : '-' ∉ ds) :
    ofHyphenated? (hyphenated ds) = ofDigits? ds := by
  have part (a b : Nat) : '-' ∉ (ds.drop a).take b :=
    fun h => plain (List.mem_of_mem_drop (List.mem_of_mem_take h))
  have first : '-' ∉ ds.take 8 := fun h => plain (List.mem_of_mem_take h)
  have last : '-' ∉ ds.drop 20 := fun h => plain (List.mem_of_mem_drop h)
  have whole : ds.take 8 ++ ((ds.drop 8).take 4 ++ ((ds.drop 12).take 4 ++
      ((ds.drop 16).take 4 ++ ds.drop 20))) = ds := by
    rw [← List.drop_drop (i := 4) (j := 16), List.take_append_drop,
      ← List.drop_drop (i := 4) (j := 12), List.take_append_drop,
      ← List.drop_drop (i := 4) (j := 8), List.take_append_drop, List.take_append_drop]
  unfold ofHyphenated? hyphenated
  simp only [List.append_assoc, List.cons_append]
  rw [Text.splitOn_joined first, Text.splitOn_joined (part 8 4), Text.splitOn_joined (part 12 4),
    Text.splitOn_joined (part 16 4), Text.splitOn_of_not_mem last]
  simp only [List.length_take, List.length_drop, length]
  rw [if_pos (by decide), whole]

/-- Identifiers are written with 36 characters. -/
theorem length_text (u : Uuid) : u.text.toList.length = 36 := by
  have length := u.length_digits
  unfold text hyphenated
  simp [length]

theorem eq_hyphen_or_mem_of_mem_hyphenated {ds : List Char} {c : Char} (h : c ∈ hyphenated ds) :
    c = '-' ∨ c ∈ ds := by
  unfold hyphenated at h
  simp only [List.mem_append, List.mem_cons] at h
  obtain (((group | rfl | group) | rfl | group) | rfl | group) | rfl | group := h
  · exact .inr (List.mem_of_mem_take group)
  · exact .inl rfl
  · exact .inr (List.mem_of_mem_drop (List.mem_of_mem_take group))
  · exact .inl rfl
  · exact .inr (List.mem_of_mem_drop (List.mem_of_mem_take group))
  · exact .inl rfl
  · exact .inr (List.mem_of_mem_drop (List.mem_of_mem_take group))
  · exact .inl rfl
  · exact .inr (List.mem_of_mem_drop group)

/-- Identifiers are written with word characters. -/
theorem isWordChar_of_mem_text {u : Uuid} {c : Char} (h : c ∈ u.text.toList) :
    Text.isWordChar c = true := by
  rw [text, String.toList_ofList] at h
  rcases eq_hyphen_or_mem_of_mem_hyphenated h with rfl | digit
  · decide
  · exact of_mem_digits (p := fun c => Text.isWordChar c = true) (by decide) digit

/-- **An identifier is read back from its text.** -/
theorem ofText?_text (u : Uuid) : ofText? u.text = some u := by
  have length := u.length_digits
  have plain : '-' ∉ u.digits := fun h => (apart_of_mem_digits h).1 rfl
  have chars : u.text.toList = hyphenated u.digits := String.toList_ofList
  obtain ⟨c, cs, first⟩ : ∃ c cs, u.digits = c :: cs := by
    cases e : u.digits with
    | nil => rw [e] at length; cases length
    | cons c cs => exact ⟨c, cs, rfl⟩
  obtain ⟨-, brace, letter⟩ := apart_of_mem_digits (first ▸ List.mem_cons_self : c ∈ u.digits)
  obtain ⟨rest, front⟩ : ∃ rest, hyphenated u.digits = c :: rest := by
    unfold hyphenated
    rw [first]
    exact ⟨_, rfl⟩
  have long : (hyphenated u.digits).length = 36 := by
    rw [← chars]
    exact u.length_text
  have urn : behindUrn? (hyphenated u.digits) = none := by
    unfold behindUrn?
    rw [front]
    refine if_neg fun e => letter ?_
    exact (List.cons.inj e).1
  unfold ofText?
  simp only [chars, urn]
  rw [if_neg (by rw [long]; decide), ofHyphenated?_hyphenated length plain, ofDigits?_digits]
  split
  · rename_i other e
    rw [front] at e
    exact absurd (List.cons.inj e).1 brace
  · rfl

theorem text_inj {a b : Uuid} : a.text = b.text ↔ a = b := by
  constructor
  · intro same
    have read : ofText? a.text = some b := by
      rw [same]
      exact b.ofText?_text
    exact Option.some.inj (a.ofText?_text.symm.trans read)
  · rintro rfl
    rfl

/-- The JSON form of an identifier says all of it. -/
theorem ofJson?_toJson (u : Uuid) : ofJson? u.toJson = some u := u.ofText?_text

end Uuid

end McpFleet
