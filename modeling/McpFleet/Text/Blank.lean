/-
  File:      McpFleet/Text/Blank.lean
  Subject:   White space, and cutting characters off the two ends of a text.

  * `isBlank`: the 25 characters of the Unicode property White_Space.
  * `trim`: a text without blanks at its ends; `trimmed?` is `none` when
    nothing is left.
  * `dropEndWhile_eq_self`, `trimChars_idem`: a text that neither begins nor
    ends with a blank is left alone, so trimming twice is trimming once.
-/

namespace McpFleet.Text

/-! ## 1. The class of blanks -/

/-- Characters of the Unicode property White_Space. -/
def isBlank (c : Char) : Bool :=
  let n := c.toNat
  (0x09 ≤ n && n ≤ 0x0D) || n == 0x20 || n == 0x85 || n == 0xA0 || n == 0x1680
    || (0x2000 ≤ n && n ≤ 0x200A) || n == 0x2028 || n == 0x2029 || n == 0x202F
    || n == 0x205F || n == 0x3000

/-! ## 2. Cutting off the ends -/

/-- Drops the longest end of the list whose members all satisfy `p`. -/
def dropEndWhile {α : Type} (p : α → Bool) (xs : List α) : List α :=
  (xs.reverse.dropWhile p).reverse

/-- Drops members that satisfy `p` from both ends. -/
def stripWhile {α : Type} (p : α → Bool) (xs : List α) : List α :=
  dropEndWhile p (xs.dropWhile p)

/-- The characters of a text without the blanks at its ends. -/
def trimChars (cs : List Char) : List Char := stripWhile isBlank cs

/-- A text without the blanks at its ends. -/
def trim (s : String) : String := String.ofList (trimChars s.toList)

/-- The trimmed text, unless nothing is left of it. -/
def trimmed? (s : String) : Option String :=
  if (trim s).isEmpty then none else some (trim s)

/-- A text that is empty or holds blanks only. -/
def isBlankText (s : String) : Bool := (trim s).isEmpty

/-! ## 3. Laws -/

section Laws

variable {α : Type} {p : α → Bool}

theorem dropWhile_eq_self {xs : List α} (h : ∀ x, xs.head? = some x → p x = false) :
    xs.dropWhile p = xs := by
  cases xs with
  | nil => rfl
  | cons x xs => simp [List.dropWhile, h x rfl]

theorem head?_dropWhile {xs : List α} {x : α} (h : (xs.dropWhile p).head? = some x) :
    p x = false := by
  induction xs with
  | nil => simp at h
  | cons y ys ih =>
    by_cases hy : p y
    · simp only [List.dropWhile, hy] at h; exact ih h
    · simp only [List.dropWhile, hy, List.head?_cons, Option.some.injEq] at h
      rw [← h]; simpa using hy

theorem dropEndWhile_eq_self {xs : List α} (h : ∀ x, xs.getLast? = some x → p x = false) :
    dropEndWhile p xs = xs := by
  unfold dropEndWhile
  rw [dropWhile_eq_self (by simpa using h), List.reverse_reverse]

theorem getLast?_dropEndWhile {xs : List α} {x : α}
    (h : (dropEndWhile p xs).getLast? = some x) : p x = false := by
  unfold dropEndWhile at h
  rw [List.getLast?_reverse] at h
  exact head?_dropWhile h

/-- Cutting the end off keeps the beginning. -/
theorem dropEndWhile_isPrefixOf (xs : List α) : ∃ ys, xs = dropEndWhile p xs ++ ys := by
  refine ⟨(xs.reverse.takeWhile p).reverse, ?_⟩
  unfold dropEndWhile
  rw [← List.reverse_append, List.takeWhile_append_dropWhile, List.reverse_reverse]

theorem head?_dropEndWhile {xs : List α} {x : α} (h : (dropEndWhile p xs).head? = some x) :
    xs.head? = some x := by
  obtain ⟨ys, e⟩ := dropEndWhile_isPrefixOf (p := p) xs
  rw [e, List.head?_append, h]; rfl

theorem head?_stripWhile {xs : List α} {x : α} (h : (stripWhile p xs).head? = some x) :
    p x = false :=
  head?_dropWhile (head?_dropEndWhile h)

theorem getLast?_stripWhile {xs : List α} {x : α} (h : (stripWhile p xs).getLast? = some x) :
    p x = false :=
  getLast?_dropEndWhile h

/-- **A list with no `p` at its ends is left alone.** -/
theorem stripWhile_eq_self {xs : List α} (hh : ∀ x, xs.head? = some x → p x = false)
    (hl : ∀ x, xs.getLast? = some x → p x = false) : stripWhile p xs = xs := by
  unfold stripWhile
  rw [dropWhile_eq_self hh, dropEndWhile_eq_self hl]

theorem stripWhile_idem (xs : List α) : stripWhile p (stripWhile p xs) = stripWhile p xs :=
  stripWhile_eq_self (fun _ h => head?_stripWhile h) (fun _ h => getLast?_stripWhile h)

end Laws

theorem trimChars_idem (cs : List Char) : trimChars (trimChars cs) = trimChars cs :=
  stripWhile_idem cs

/-- **Trimming twice is trimming once.** -/
theorem trim_idem (s : String) : trim (trim s) = trim s := by
  simp [trim, String.toList_ofList, trimChars_idem]

end McpFleet.Text
