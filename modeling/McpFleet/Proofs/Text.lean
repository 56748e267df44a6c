/-
  File:      McpFleet/Proofs/Text.lean
  Subject:   Trimming, searching and names, said of the characters themselves.

  * `trimmed?_eq_none`: nothing is left of a text of blanks only.
  * `trim_eq_self`: a text with no blank at its ends is left alone.
  * `stripWhile_append`: the end of a text stays there when it has no blank at
    its own ends.
  * `contains_iff`: a text stands in another one as a run of its characters.
  * `splitOn_append`: pieces are split where they were joined.
  * `lookup_eq_some_iff_mem`: a table of distinct names is looked up by
    membership.
-/
import McpFleet.Text.Ascii
import McpFleet.Text.Blank
import Mathlib.Data.List.TakeWhile

namespace McpFleet

namespace Text

/-! ## 1. Blanks at the ends -/

theorem dropEndWhile_eq_nil {α : Type} {p : α → Bool} {xs : List α} :
    dropEndWhile p xs = [] ↔ ∀ x ∈ xs, p x = true := by
  unfold dropEndWhile
  rw [List.reverse_eq_nil_iff, List.dropWhile_eq_nil_iff]
  simp only [List.mem_reverse]

/-- What is cut off an end satisfies the condition for it. -/
theorem exists_dropEndWhile_append {α : Type} (p : α → Bool) (xs : List α) :
    ∃ ys, dropEndWhile p xs ++ ys = xs ∧ ∀ y ∈ ys, p y = true := by
  refine ⟨(xs.reverse.takeWhile p).reverse, ?_, fun y hy => ?_⟩
  · unfold dropEndWhile
    rw [← List.reverse_append, List.takeWhile_append_dropWhile, List.reverse_reverse]
  · exact List.mem_takeWhile_imp (List.mem_reverse.mp hy)

/-- Nothing is left when every member is cut off. -/
theorem stripWhile_eq_nil {α : Type} {p : α → Bool} {xs : List α} :
    stripWhile p xs = [] ↔ ∀ x ∈ xs, p x = true := by
  unfold stripWhile
  rw [dropEndWhile_eq_nil]
  have parts : xs.takeWhile p ++ xs.dropWhile p = xs := List.takeWhile_append_dropWhile
  constructor
  · intro rest x hx
    rw [← parts] at hx
    rcases List.mem_append.mp hx with front | back
    · exact List.mem_takeWhile_imp front
    · exact rest x back
  · intro all x hx
    have there : x ∈ xs := parts ▸ List.mem_append_right _ hx
    exact all x there

theorem trim_eq_empty {s : String} : trim s = "" ↔ ∀ c ∈ s.toList, isBlank c = true := by
  have chars : trim s = "" ↔ trimChars s.toList = [] := by
    rw [← String.toList_inj]
    simp [trim]
  rw [chars]
  exact stripWhile_eq_nil

theorem trimmed?_eq_none {s : String} :
    trimmed? s = none ↔ ∀ c ∈ s.toList, isBlank c = true := by
  rw [← trim_eq_empty, ← String.isEmpty_iff]
  unfold trimmed?
  split <;> simp_all

theorem trimmed?_eq_some {s t : String} : trimmed? s = some t ↔ trim s = t ∧ t ≠ "" := by
  unfold trimmed?
  split
  · rename_i empty
    have nothing : trim s = "" := String.isEmpty_iff.mp empty
    rw [nothing]
    constructor
    · intro h
      cases h
    · intro parts
      obtain ⟨rfl, nonempty⟩ := parts
      exact absurd rfl nonempty
  · rename_i inhabited
    have something : trim s ≠ "" := fun e => inhabited (String.isEmpty_iff.mpr e)
    constructor
    · intro h
      obtain rfl := Option.some.inj h
      exact ⟨rfl, something⟩
    · intro parts
      obtain ⟨rfl, -⟩ := parts
      rfl

/-- **A text with no blank at its ends is left alone.** -/
theorem trim_eq_self {s : String} (first : ∀ c, s.toList.head? = some c → isBlank c = false)
    (last : ∀ c, s.toList.getLast? = some c → isBlank c = false) : trim s = s := by
  have same : trimChars s.toList = s.toList := stripWhile_eq_self first last
  unfold trim
  rw [same, String.ofList_toList]

/-- Only a text with no blank at its ends is. -/
theorem trim_eq_self_iff {s : String} : trim s = s ↔
    (∀ c, s.toList.head? = some c → isBlank c = false) ∧
      (∀ c, s.toList.getLast? = some c → isBlank c = false) := by
  constructor
  · intro same
    have chars : s.toList = stripWhile isBlank s.toList := by
      rw [← same]
      simp [trim, trimChars, stripWhile_idem]
    rw [chars]
    exact ⟨fun c => head?_stripWhile, fun c => getLast?_stripWhile⟩
  · rintro ⟨first, last⟩
    exact trim_eq_self first last

section Behind

variable {α : Type} {p : α → Bool} {xs ys : List α}

/-- What begins with a member that is not cut off stays behind a list. -/
theorem dropWhile_append_of_head (first : ∀ y, ys.head? = some y → p y = false) :
    (xs ++ ys).dropWhile p = xs.dropWhile p ++ ys := by
  rw [List.dropWhile_append, dropWhile_eq_self first]
  split
  · rename_i gone
    rw [List.isEmpty_iff.mp gone, List.nil_append]
  · rfl

theorem takeWhile_append_of_head (first : ∀ y, ys.head? = some y → p y = false) :
    (xs ++ ys).takeWhile p = xs.takeWhile p := by
  have parts : (xs ++ ys).takeWhile p ++ (xs ++ ys).dropWhile p =
      xs.takeWhile p ++ (xs.dropWhile p ++ ys) := by
    rw [List.takeWhile_append_dropWhile, ← List.append_assoc, List.takeWhile_append_dropWhile]
  rw [dropWhile_append_of_head first] at parts
  exact List.append_cancel_right parts

/-- What stands at the end of a list stays there when its first and last member
    are not cut off. -/
theorem stripWhile_append (nonempty : ys ≠ [])
    (first : ∀ y, ys.head? = some y → p y = false)
    (last : ∀ y, ys.getLast? = some y → p y = false) :
    stripWhile p (xs ++ ys) = xs.dropWhile p ++ ys := by
  unfold stripWhile
  rw [dropWhile_append_of_head first]
  refine dropEndWhile_eq_self fun y hy => last y ?_
  rw [List.getLast?_append] at hy
  cases ends : ys.getLast? with
  | none => exact absurd (List.getLast?_eq_none_iff.mp ends) nonempty
  | some z =>
    rw [ends] at hy
    exact hy

end Behind

/-! ## 2. Searching -/

theorem occursIn_iff {part cs : List Char} : occursIn part cs = true ↔ part <:+: cs := by
  induction cs with
  | nil => simp [occursIn]
  | cons c cs ih => simp [occursIn, ih, List.infix_cons_iff]

theorem contains_iff {s part : String} : contains s part = true ↔ part.toList <:+: s.toList :=
  occursIn_iff

/-! ## 3. Pieces between separators -/

section Pieces

variable {sep : Char} {piece cs : List Char}

theorem splitOn_ne_nil : splitOn sep cs ≠ [] := by
  cases cs with
  | nil => exact List.cons_ne_nil _ _
  | cons c cs =>
    rw [splitOn]
    split
    · exact List.cons_ne_nil _ _
    · split <;> exact List.cons_ne_nil _ _

theorem splitOn_of_not_mem (h : sep ∉ cs) : splitOn sep cs = [cs] := by
  induction cs with
  | nil => rfl
  | cons c cs ih =>
    obtain ⟨other, rest⟩ := List.ne_and_not_mem_of_not_mem_cons h
    rw [splitOn, if_neg (Ne.symm other), ih rest]

/-- **A separator keeps what stands before it from what stands behind it.** -/
theorem splitOn_append (cs rest : List Char) :
    splitOn sep (cs ++ sep :: rest) = splitOn sep cs ++ splitOn sep rest := by
  induction cs with
  | nil => simp [splitOn]
  | cons c cs ih =>
    rw [List.cons_append, splitOn, splitOn]
    by_cases here : c = sep
    · rw [if_pos here, if_pos here, ih, List.cons_append]
    · rw [if_neg here, if_neg here, ih]
      cases pieces : splitOn sep cs with
      | nil => exact absurd pieces splitOn_ne_nil
      | cons first others => rfl

/-- A piece ends at the first separator. -/
theorem splitOn_joined (h : sep ∉ piece) (rest : List Char) :
    splitOn sep (piece ++ sep :: rest) = piece :: splitOn sep rest := by
  rw [splitOn_append, splitOn_of_not_mem h]
  rfl

theorem mem_of_mem_splitOn {c : Char} (h : piece ∈ splitOn sep cs) (hc : c ∈ piece) : c ∈ cs := by
  induction cs generalizing piece with
  | nil =>
    obtain rfl := List.mem_singleton.mp h
    exact hc
  | cons d cs ih =>
    rw [splitOn] at h
    split at h
    · rcases List.mem_cons.mp h with rfl | behind
      · cases hc
      · exact List.mem_cons_of_mem d (ih behind hc)
    · split at h
      · obtain rfl := List.mem_singleton.mp h
        exact List.mem_singleton.mp hc ▸ List.mem_cons_self
      · rename_i first others pieces
        rcases List.mem_cons.mp h with rfl | behind
        · rcases List.mem_cons.mp hc with rfl | later
          · exact List.mem_cons_self
          · exact List.mem_cons_of_mem d (ih (pieces ▸ List.mem_cons_self) later)
        · exact List.mem_cons_of_mem d (ih (pieces ▸ List.mem_cons_of_mem first behind) hc)

end Pieces

end Text

/-! ## 4. Tables of names -/

/-- With distinct names, looking one up is membership. -/
theorem lookup_eq_some_iff_mem {α : Type} {table : List (String × α)} {name : String} {a : α}
    (distinct : (table.map (·.1)).Nodup) : table.lookup name = some a ↔ (name, a) ∈ table := by
  induction table with
  | nil => simp
  | cons e table ih =>
    obtain ⟨other, b⟩ := e
    obtain ⟨absent, rest⟩ := List.nodup_cons.mp distinct
    by_cases same : name = other
    · subst same
      have elsewhere : (name, a) ∉ table := fun h =>
        absent (List.mem_map.mpr ⟨(name, a), h, rfl⟩)
      simp [elsewhere, eq_comm]
    · have differs : (name == other) = false := beq_false_of_ne same
      rw [List.lookup_cons, differs]
      simp [same, ih rest]

end McpFleet
