/-
  File:      McpFleet/Proofs/Json/RoundTrip.lean
  Subject:   Reading what was written.

  * `readText_escape`: a text is read back from its escaped form.
  * `Fits`: a value that a reader of some shape wants all of.
  * `Spelling`: ways to write fractions, with what each is read as.
  * `readItems_of_reads`, `readMembers_of_reads`: items and members are read
    when their values are.
  * **`parseAs?_renderWith`**: the text of a value is read as what it says,
    when the reader wants all of it, up to a nesting of 127. Deeper, it is not
    read at all. `parseAs?_render`: so is the compact text.
-/
import McpFleet.Json.Parser
import McpFleet.Json.Printer
import McpFleet.Proofs.Json.AsRead
import McpFleet.Proofs.Json.Reals

namespace McpFleet.Json

namespace Reader

/-! ## 1. Texts -/

theorem hex4?_escape {n : Nat} (h : n < 0x20) :
    hex4? '0' '0' (Text.hexDigit (n / 16)) (Text.hexDigit (n % 16)) = some n := by
  have hi := Text.hexValue?_hexDigit (show n / 16 < 16 by omega)
  have lo := Text.hexValue?_hexDigit (show n % 16 < 16 by omega)
  have zero : Text.hexValue? '0' = some 0 := rfl
  unfold hex4?
  rw [hi, lo, zero]
  simp only [Option.bind_eq_bind, Option.bind_some, Option.pure_def, Option.some.injEq]
  omega

theorem readText_short {c d : Char} (h : shortEscape? c = some d) (hu : c ≠ 'u')
    (rest : List Char) : readText ('\\' :: c :: rest) = consText d (readText rest) := by
  rw [readText.eq_def]
  split
  · rename_i e
    cases e
  · rename_i e
    cases e
  · rename_i e
    cases e
    exact absurd rfl hu
  · rename_i e
    cases e
    rw [h]
  · rename_i other e
    cases e
    exact absurd rfl (other c rest rfl)

theorem readText_coded {n : Nat} (h : n < 0x20) (rest : List Char) :
    readText ('\\' :: 'u' :: '0' :: '0' :: Text.hexDigit (n / 16) :: Text.hexDigit (n % 16) :: rest)
      = consText (Char.ofNat n) (readText rest) := by
  have high : isHighHalf n = false := by
    unfold isHighHalf
    rw [decide_eq_false (by omega), Bool.false_and]
  have low : isLowHalf n = false := by
    unfold isLowHalf
    rw [decide_eq_false (by omega), Bool.false_and]
  rw [readText.eq_def]
  simp only [hex4?_escape h, high, low, Bool.false_eq_true, if_false]

theorem readText_plain {c : Char} (quote : c ≠ '"') (backslash : c ≠ '\\') (h : ¬ c.toNat < 0x20)
    (rest : List Char) : readText (c :: rest) = consText c (readText rest) := by
  rw [readText.eq_def]
  split
  · rename_i e
    cases e
  · rename_i e
    cases e
    exact absurd rfl quote
  · rename_i e
    cases e
    exact absurd rfl backslash
  · rename_i e
    cases e
    exact absurd rfl backslash
  · rename_i e
    cases e
    rw [if_neg h]

/-- One character is read back from its escaped form. -/
theorem readText_escapeChar (c : Char) (rest : List Char) :
    readText (escapeChar c ++ rest) = consText c (readText rest) := by
  have named {n : Nat} {d : Char} (h : c.toNat = n) (hd : d.toNat = n) : c = d := by
    rw [← Char.ofNat_toNat c, ← Char.ofNat_toNat d, h, hd]
  unfold escapeChar
  split
  · rename_i h
    subst h
    exact readText_short rfl (by decide) rest
  rename_i quote
  split
  · rename_i h
    subst h
    exact readText_short rfl (by decide) rest
  rename_i backslash
  split
  · rename_i h
    obtain rfl := named h (d := '\x08') rfl
    exact readText_short rfl (by decide) rest
  split
  · rename_i h
    obtain rfl := named h (d := '\t') rfl
    exact readText_short rfl (by decide) rest
  split
  · rename_i h
    obtain rfl := named h (d := '\n') rfl
    exact readText_short rfl (by decide) rest
  split
  · rename_i h
    obtain rfl := named h (d := '\x0c') rfl
    exact readText_short rfl (by decide) rest
  split
  · rename_i h
    obtain rfl := named h (d := '\r') rfl
    exact readText_short rfl (by decide) rest
  split
  · rename_i h
    have read := readText_coded h rest
    rw [Char.ofNat_toNat] at read
    exact read
  · rename_i h
    exact readText_plain quote backslash h rest

/-- **A text is read back from its escaped form.** -/
theorem readText_escape (cs rest : List Char) :
    readText (cs.flatMap escapeChar ++ '"' :: rest) = some (cs, rest) := by
  induction cs with
  | nil =>
    rw [List.flatMap_nil, List.nil_append, readText.eq_def]
    rfl
  | cons c cs ih =>
    rw [List.flatMap_cons, List.append_assoc, readText_escapeChar, ih]
    rfl

end Reader

/-! ## 2. What a reader takes -/

/-- A value that a reader of this shape takes all of: no member is passed
    over. -/
inductive Fits : Shape → Json → Prop where
  | null {s : Shape} : Fits s .null
  | bool {s : Shape} (b : Bool) : Fits s (.bool b)
  | integer {s : Shape} (z : Int) : Fits s (.integer z)
  | real {s : Shape} (x : Binary64) : Fits s (.real x)
  | text {s : Shape} (t : String) : Fits s (.text t)
  | array {s : Shape} {xs : List Json}
    (items : ∀ before, ∀ x ∈ xs, Fits (s.item before) x) : Fits s (.array xs)
  | object {s : Shape} {ms : List (String × Json)}
    (wanted : ∀ before, ∀ m ∈ ms, s.member? m.1 before ≠ none)
    (values : ∀ before, ∀ m ∈ ms, ∀ part, s.member? m.1 before = some part → Fits part m.2) :
    Fits s (.object ms)

mutual

/-- A reader that wants everything takes all of any value. -/
theorem fits_whole : (j : Json) → j.Fits .whole
  | .null => .null
  | .bool b => .bool b
  | .integer z => .integer z
  | .real x => .real x
  | .text t => .text t
  | .array xs => .array fun _ => items_fit xs
  | .object ms => .object (fun _ _ _ => Option.some_ne_none _) fun _ m hm part h => by
    obtain rfl := Option.some.inj h
    exact members_fit ms m hm

theorem items_fit : (xs : List Json) → ∀ x ∈ xs, x.Fits .whole
  | [], _, h => nomatch h
  | x :: xs, y, h => by
    rcases List.mem_cons.mp h with e | h
    · rw [e]
      exact fits_whole x
    · exact items_fit xs y h

theorem members_fit : (ms : List (String × Json)) → ∀ m ∈ ms, m.2.Fits .whole
  | [], _, h => nomatch h
  | (_, x) :: ms, m, h => by
    rcases List.mem_cons.mp h with e | h
    · rw [e]
      exact fits_whole x
    · exact members_fit ms m h

end

/-- A record is taken when its members are those of the shape. -/
theorem Fits.record {fields : List (String × Shape)} {ms : List (String × Json)}
    (h : ∀ m ∈ ms, ∃ part, fields.lookup m.1 = some part ∧ m.2.Fits part) :
    (Json.object ms).Fits (.record fields) := by
  refine .object (fun _ m hm none => ?_) fun _ m hm part there => ?_
  · obtain ⟨part, there, -⟩ := h m hm
    exact Option.some_ne_none part (there.symm.trans none)
  · obtain ⟨own, there', fits⟩ := h m hm
    obtain rfl := Option.some.inj (there.symm.trans there')
    exact fits

theorem Fits.list {item : Shape} {xs : List Json} (h : ∀ x ∈ xs, x.Fits item) :
    (Json.array xs).Fits (.list item) :=
  .array fun _ => h

/-! ## 3. Fractions written otherwise -/

mutual

/-- The value with another one in place of each fraction. -/
def mapReal (f : Binary64 → Json) : Json → Json
  | .real x => f x
  | .array items => .array (mapRealItems f items)
  | .object members => .object (mapRealMembers f members)
  | j => j

def mapRealItems (f : Binary64 → Json) : List Json → List Json
  | [] => []
  | x :: xs => mapReal f x :: mapRealItems f xs

def mapRealMembers (f : Binary64 → Json) : List (String × Json) → List (String × Json)
  | [] => []
  | (k, x) :: ms => (k, mapReal f x) :: mapRealMembers f ms

end

mutual

/-- Fractions in place of themselves change nothing. -/
theorem mapReal_real : (j : Json) → j.mapReal .real = j
  | .null | .bool _ | .integer _ | .real _ | .text _ => rfl
  | .array items => by rw [mapReal, mapRealItems_real items]
  | .object members => by rw [mapReal, mapRealMembers_real members]

theorem mapRealItems_real : (xs : List Json) → mapRealItems .real xs = xs
  | [] => rfl
  | x :: xs => by rw [mapRealItems, mapReal_real x, mapRealItems_real xs]

theorem mapRealMembers_real : (ms : List (String × Json)) → mapRealMembers .real ms = ms
  | [] => rfl
  | (_, x) :: ms => by rw [mapRealMembers, mapReal_real x, mapRealMembers_real ms]

end

/-- How fractions are written: as numbers, and what each is read as. -/
structure Spelling where
  real : Binary64 → String
  value : Binary64 → Json
  written : ∀ x, Numeral.Written (real x).toList
  flat : ∀ x, (value x).nesting = 0
  said : ∀ x, (value x).asRead? = Numeral.read? (real x).toList

section Nesting

variable (w : Spelling)

mutual

/-- However fractions are read, nothing nests deeper. -/
theorem nesting_mapReal : (j : Json) → (j.mapReal w.value).nesting = j.nesting
  | .null | .bool _ | .integer _ | .text _ => rfl
  | .real x => w.flat x
  | .array items => congrArg (· + 1) (itemsNesting_mapReal items)
  | .object members => congrArg (· + 1) (membersNesting_mapReal members)

theorem itemsNesting_mapReal :
    (xs : List Json) → itemsNesting (mapRealItems w.value xs) = itemsNesting xs
  | [] => rfl
  | x :: xs => by
    rw [mapRealItems, itemsNesting, itemsNesting, nesting_mapReal x, itemsNesting_mapReal xs]

theorem membersNesting_mapReal :
    (ms : List (String × Json)) → membersNesting (mapRealMembers w.value ms) = membersNesting ms
  | [] => rfl
  | (_, x) :: ms => by
    rw [mapRealMembers, membersNesting, membersNesting, nesting_mapReal x,
      membersNesting_mapReal ms]

end

end Nesting

/-- The shortest text of a fraction is read as it says. -/
def Spelling.shortest : Spelling where
  real := Binary64.text
  value := .real
  written := Numeral.written_text
  flat _ := rfl
  said _ := rfl

/-! ## 4. How a text begins -/

theorem Reader.isBlank_of_numeral {c : Char} (h : Text.isAsciiDigit c = true ∨ c = '-') :
    isBlank c = false := by
  rw [Bool.eq_false_iff]
  intro blank
  unfold isBlank at blank
  simp only [Bool.or_eq_true, beq_iff_eq] at blank
  rcases blank with ((rfl | rfl) | rfl) | rfl <;> rcases h with h | h <;> cases h

/-- How the text of a number begins. -/
theorem Numeral.Written.head {text : String} (h : Written text.toList) :
    ∃ c cs, text.toList = c :: cs ∧ Reader.isBlank c = false ∧ c ≠ ']' := by
  obtain ⟨c, cs, e, front⟩ := h.front
  refine ⟨c, cs, e, Reader.isBlank_of_numeral front, ?_⟩
  rintro rfl
  rcases front with h | h <;> cases h

theorem toList_quoted (s : String) :
    (quoted s).toList = '"' :: (s.toList.flatMap escapeChar ++ ['"']) := by
  unfold quoted
  rw [String.toList_ofList, List.cons_append]

section Heads

variable {w : Spelling}

/-- How the text of a value begins. -/
theorem render_head (j : Json) :
    ∃ c cs, (renderWith w.real j).toList = c :: cs ∧ Reader.isBlank c = false ∧ c ≠ ']' := by
  cases j with
  | null => exact ⟨'n', _, by rw [renderWith]; rfl, rfl, by decide⟩
  | bool b => cases b with
    | true => exact ⟨'t', _, by rw [renderWith]; rfl, rfl, by decide⟩
    | false => exact ⟨'f', _, by rw [renderWith]; rfl, rfl, by decide⟩
  | integer z =>
    rw [renderWith]
    exact (Numeral.written_ofInt z).head
  | real x =>
    rw [renderWith]
    exact (w.written x).head
  | text t => exact ⟨'"', _, by rw [renderWith, toList_quoted], rfl, by decide⟩
  | array items =>
    exact ⟨'[', _, by rw [renderWith, String.toList_append, String.toList_append]; rfl, rfl,
      by decide⟩
  | object members =>
    exact ⟨'\x7b', _, by rw [renderWith, String.toList_append, String.toList_append]; rfl, rfl,
      by decide⟩

theorem toList_renderItems (x y : Json) (ys : List Json) :
    (renderItems w.real (x :: y :: ys)).toList =
      (renderWith w.real x).toList ++ ',' :: (renderItems w.real (y :: ys)).toList := by
  rw [renderItems, String.toList_append, String.toList_append, List.append_assoc]
  · rfl
  · intro h
    cases h

theorem toList_renderMembers (k : String) (x : Json) (m : String × Json)
    (ms : List (String × Json)) :
    (renderMembers w.real ((k, x) :: m :: ms)).toList =
      (quoted k).toList ++ ':' :: ((renderWith w.real x).toList ++
        ',' :: (renderMembers w.real (m :: ms)).toList) := by
  rw [renderMembers, String.toList_append, String.toList_append, String.toList_append,
    String.toList_append, List.append_assoc, List.append_assoc, List.append_assoc]
  · rfl
  · intro h
    cases h

theorem toList_renderMember (k : String) (x : Json) :
    (renderMembers w.real [(k, x)]).toList =
      (quoted k).toList ++ ':' :: (renderWith w.real x).toList := by
  rw [renderMembers, String.toList_append, String.toList_append, List.append_assoc]
  rfl

/-- How the text of items begins. -/
theorem items_head (x : Json) (xs : List Json) :
    ∃ c cs, (renderItems w.real (x :: xs)).toList = c :: cs ∧ Reader.isBlank c = false ∧
      c ≠ ']' := by
  obtain ⟨c, cs, e, blank, ne⟩ := x.render_head
  cases xs with
  | nil => exact ⟨c, cs, e, blank, ne⟩
  | cons z zs => exact ⟨c, _, by rw [toList_renderItems, e, List.cons_append], blank, ne⟩

/-- How the text of members begins. -/
theorem members_head (m : String × Json) (ms : List (String × Json)) :
    ∃ cs, (renderMembers w.real (m :: ms)).toList = '"' :: cs := by
  obtain ⟨k, x⟩ := m
  cases ms with
  | nil => exact ⟨_, by rw [toList_renderMember, toList_quoted, List.cons_append]⟩
  | cons m ms => exact ⟨_, by rw [toList_renderMembers, toList_quoted, List.cons_append]⟩

end Heads

/-! ## 5. Values -/

namespace Reader

theorem skipBlanks_cons {c : Char} (h : isBlank c = false) (cs : List Char) :
    skipBlanks (c :: cs) = c :: cs := by
  unfold skipBlanks
  rw [List.dropWhile_cons_of_neg (by rw [h]; exact Bool.false_ne_true)]

theorem readValue_numeral {c : Char} (h : Text.isAsciiDigit c = true ∨ c = '-') (fuel depth : Nat)
    (shape : Shape) (cs : List Char) :
    readValue (fuel + 1) depth shape (c :: cs) =
      match Numeral.scan (c :: cs) with
      | some (numeral, rest) =>
        match numeral.value? with
        | some value => some (value, rest)
        | none => none
      | none => none := by
  rw [readValue, skipBlanks_cons (isBlank_of_numeral h)]
  split
  all_goals first
    | rfl
    | (rename_i e; cases e; rcases h with h | h <;> cases h)

variable {w : Spelling}

/-- A member is read when its value is. -/
theorem readMember_of_wanted {k : String} {x : Json} {shape part : Shape} {fuel depth : Nat}
    {rest : List Char} {before : List (String × Json)}
    (wanted : shape.member? k before = some part) :
    readMember (fuel + 1) depth shape before
      ((quoted k).toList ++ ':' :: ((renderWith w.real x).toList ++ rest)) =
        (readValue fuel depth part ((renderWith w.real x).toList ++ rest)).map
          fun read => ((k, read.1) :: before, read.2) := by
  rw [readMember, toList_quoted, List.cons_append, List.append_assoc, List.singleton_append,
    skipBlanks_cons (by rfl)]
  simp only [readText_escape, skipBlanks_cons (by rfl : isBlank ':' = false),
    String.ofList_toList, wanted]
  cases readValue fuel depth part ((renderWith w.real x).toList ++ rest) <;> rfl

/-- Whatever follows, `text` is read as what `said` says, when that is not
    nested too deep. The fuel is twice the length of the text. -/
def ReadAs (shape : Shape) (text : List Char) (said : Json) : Prop :=
  ∀ ⦃fuel depth : Nat⦄ ⦃rest : List Char⦄, 2 * text.length ≤ fuel → 0 < depth →
    Numeral.Follows rest →
    readValue fuel depth shape (text ++ rest) =
      if said.nesting < depth then said.asRead?.map (·, rest) else none

/-- The text of `j` is read as what it says. -/
def Reads (w : Spelling) (shape : Shape) (j : Json) : Prop :=
  ReadAs shape (renderWith w.real j).toList (j.mapReal w.value)

variable {shape : Shape}

/-- Items are read up to the bracket. -/
theorem readItems_of_reads {depth : Nat} {rest : List Char} (hd : 0 < depth) (xs : List Json) :
    ∀ {x : Json} (before : List Json) {fuel : Nat},
    (∀ done, ∀ y ∈ x :: xs, Reads w (shape.item done) y) →
    2 * (renderItems w.real (x :: xs)).toList.length + 2 ≤ fuel →
    readItems fuel depth shape before ((renderItems w.real (x :: xs)).toList ++ ']' :: rest) =
      if itemsNesting (mapRealItems w.value (x :: xs)) < depth then
        (itemsAsRead? (mapRealItems w.value (x :: xs))).map (before.reverse ++ ·, rest)
      else none := by
  induction xs with
  | nil =>
    intro x before fuel items hf
    obtain ⟨fuel, rfl⟩ : ∃ f, fuel = f + 1 := ⟨fuel - 1, by omega⟩
    have text : (renderItems w.real [x]).toList = (renderWith w.real x).toList := rfl
    have deep : itemsNesting [x.mapReal w.value] = (x.mapReal w.value).nesting := by
      simp only [itemsNesting]; omega
    rw [text] at hf ⊢
    have read := items before x List.mem_cons_self (by omega : _ ≤ fuel) hd
      (Numeral.follows_cons rest (.inr (.inl rfl)))
    rw [readItems, read, mapRealItems, mapRealItems, deep]
    by_cases fits : (x.mapReal w.value).nesting < depth
    · simp only [if_pos fits, itemsAsRead?]
      cases (x.mapReal w.value).asRead? with
      | none => rfl
      | some y =>
        simp only [Option.map_some, Option.bind_some,
          skipBlanks_cons (by rfl : isBlank ']' = false), List.reverse_cons]
    · simp only [if_neg fits]
  | cons x' xs ih =>
    intro x before fuel items hf
    obtain ⟨fuel, rfl⟩ : ∃ f, fuel = f + 1 := ⟨fuel - 1, by omega⟩
    rw [toList_renderItems] at hf ⊢
    rw [List.length_append, List.length_cons] at hf
    have read := items before x List.mem_cons_self (by omega : _ ≤ fuel) hd
      (Numeral.follows_cons ((renderItems w.real (x' :: xs)).toList ++ ']' :: rest) (.inl rfl))
    have others (y : Json) := ih (y :: before)
      (fun done z hz => items done z (List.mem_cons_of_mem x hz)) (by omega : _ ≤ fuel)
    rw [readItems, List.append_assoc, List.cons_append, read, mapRealItems, itemsNesting,
      itemsAsRead?]
    by_cases fits : (x.mapReal w.value).nesting < depth
    · have same : max (x.mapReal w.value).nesting
          (itemsNesting (mapRealItems w.value (x' :: xs))) < depth ↔
          itemsNesting (mapRealItems w.value (x' :: xs)) < depth := by omega
      simp only [if_pos fits, same]
      cases (x.mapReal w.value).asRead? with
      | none => simp only [Option.map_none, Option.bind_none, ite_self]
      | some y =>
        simp only [Option.map_some, Option.bind_some,
          skipBlanks_cons (by rfl : isBlank ',' = false), others, Option.map_map,
          Function.comp_def, List.reverse_cons, List.append_assoc, List.singleton_append]
    · have deep : ¬ max (x.mapReal w.value).nesting
          (itemsNesting (mapRealItems w.value (x' :: xs))) < depth := by omega
      simp only [if_neg fits, if_neg deep]

/-- Members are read up to the brace. -/
theorem readMembers_of_reads {depth : Nat} {rest : List Char} (hd : 0 < depth)
    (ms : List (String × Json)) :
    ∀ {m : String × Json} (before : List (String × Json)) {fuel : Nat},
    (∀ done, ∀ y ∈ m :: ms, shape.member? y.1 done ≠ none) →
    (∀ done, ∀ y ∈ m :: ms, ∀ part, shape.member? y.1 done = some part → Reads w part y.2) →
    2 * (renderMembers w.real (m :: ms)).toList.length + 2 ≤ fuel →
    readMembers fuel depth shape before
      ((renderMembers w.real (m :: ms)).toList ++ '\x7d' :: rest) =
      if membersNesting (mapRealMembers w.value (m :: ms)) < depth then
        (membersAsRead? (mapRealMembers w.value (m :: ms))).map (before.reverse ++ ·, rest)
      else none := by
  induction ms with
  | nil =>
    intro ⟨k, x⟩ before fuel wanted values hf
    rw [toList_renderMember] at hf ⊢
    rw [List.length_append, List.length_cons] at hf
    obtain ⟨fuel, rfl⟩ : ∃ f, fuel = f + 2 := ⟨fuel - 2, by omega⟩
    obtain ⟨part, there⟩ := Option.ne_none_iff_exists'.mp (wanted before (k, x) List.mem_cons_self)
    have deep : membersNesting [(k, x.mapReal w.value)] = (x.mapReal w.value).nesting := by
      simp only [membersNesting]; omega
    have value : Reads w part x := values before (k, x) List.mem_cons_self part there
    have read := value (by omega : _ ≤ fuel) hd
      (Numeral.follows_cons rest (.inr (.inr rfl)))
    rw [readMembers, List.append_assoc, List.cons_append, readMember_of_wanted there, read,
      mapRealMembers, mapRealMembers, deep]
    by_cases fits : (x.mapReal w.value).nesting < depth
    · simp only [if_pos fits, membersAsRead?]
      cases (x.mapReal w.value).asRead? with
      | none => rfl
      | some y =>
        simp only [Option.map_some, Option.bind_some,
          skipBlanks_cons (by rfl : isBlank '\x7d' = false), List.reverse_cons]
    · simp only [if_neg fits, Option.map_none]
  | cons m ms ih =>
    intro ⟨k, x⟩ before fuel wanted values hf
    rw [toList_renderMembers] at hf ⊢
    rw [List.length_append, List.length_cons, List.length_append, List.length_cons] at hf
    obtain ⟨fuel, rfl⟩ : ∃ f, fuel = f + 2 := ⟨fuel - 2, by omega⟩
    obtain ⟨part, there⟩ := Option.ne_none_iff_exists'.mp (wanted before (k, x) List.mem_cons_self)
    have value : Reads w part x := values before (k, x) List.mem_cons_self part there
    have read := value (by omega : _ ≤ fuel) hd
      (Numeral.follows_cons ((renderMembers w.real (m :: ms)).toList ++ '\x7d' :: rest) (.inl rfl))
    have others (y : Json) := ih ((k, y) :: before)
      (fun done z hz => wanted done z (List.mem_cons_of_mem (k, x) hz))
      (fun done z hz => values done z (List.mem_cons_of_mem (k, x) hz)) (by omega : _ ≤ fuel + 1)
    rw [readMembers, List.append_assoc, List.cons_append, List.append_assoc, List.cons_append,
      readMember_of_wanted there, read, mapRealMembers, membersNesting, membersAsRead?]
    by_cases fits : (x.mapReal w.value).nesting < depth
    · have same : max (x.mapReal w.value).nesting
          (membersNesting (mapRealMembers w.value (m :: ms))) < depth ↔
          membersNesting (mapRealMembers w.value (m :: ms)) < depth := by omega
      simp only [if_pos fits, same]
      cases (x.mapReal w.value).asRead? with
      | none => simp only [Option.map_none, Option.bind_none, ite_self]
      | some y =>
        simp only [Option.map_some, Option.bind_some,
          skipBlanks_cons (by rfl : isBlank ',' = false), others, Option.map_map,
          Function.comp_def, List.reverse_cons, List.append_assoc, List.singleton_append]
    · have deep : ¬ max (x.mapReal w.value).nesting
          (membersNesting (mapRealMembers w.value (m :: ms))) < depth := by omega
      simp only [if_neg fits, if_neg deep, Option.map_none]

theorem reads_array {xs : List Json} (items : ∀ done, ∀ x ∈ xs, Reads w (shape.item done) x) :
    Reads w shape (.array xs) := by
  intro fuel depth rest hf hd hr
  have text : (renderWith w.real (.array xs)).toList =
      '[' :: ((renderItems w.real xs).toList ++ [']']) := by
    rw [renderWith, String.toList_append, String.toList_append, List.append_assoc]
    rfl
  rw [text, List.length_cons, List.length_append, List.length_singleton] at hf
  obtain ⟨fuel, rfl⟩ : ∃ f, fuel = f + 1 := ⟨fuel - 1, by omega⟩
  rw [text, List.cons_append, List.append_assoc, List.singleton_append, readValue,
    skipBlanks_cons (by rfl), mapReal, nesting, asRead?]
  by_cases shallow : depth ≤ 1
  · simp only [if_pos shallow,
      if_neg (show ¬ itemsNesting (mapRealItems w.value xs) + 1 < depth by omega)]
  simp only [if_neg shallow]
  cases xs with
  | nil =>
    rw [mapRealItems, if_pos (by simp only [itemsNesting]; omega)]
    rfl
  | cons x xs =>
    obtain ⟨c, cs, e, blank, ne⟩ := items_head (w := w) x xs
    have same : itemsNesting (mapRealItems w.value (x :: xs)) + 1 < depth ↔
        itemsNesting (mapRealItems w.value (x :: xs)) < depth - 1 := by omega
    have read : readItems fuel (depth - 1) shape []
        ((renderItems w.real (x :: xs)).toList ++ ']' :: rest) =
          if itemsNesting (mapRealItems w.value (x :: xs)) < depth - 1 then
            (itemsAsRead? (mapRealItems w.value (x :: xs))).map (·, rest)
          else none :=
      readItems_of_reads (by omega) xs [] items (by omega)
    rw [e, List.cons_append] at read ⊢
    simp only [skipBlanks_cons blank, same]
    split
    · rename_i h
      cases h
      exact absurd rfl ne
    · rw [read]
      by_cases fits : itemsNesting (mapRealItems w.value (x :: xs)) < depth - 1
      · simp only [if_pos fits]
        cases itemsAsRead? (mapRealItems w.value (x :: xs)) <;> rfl
      · simp only [if_neg fits]

theorem reads_object {ms : List (String × Json)}
    (wanted : ∀ done, ∀ m ∈ ms, shape.member? m.1 done ≠ none)
    (values : ∀ done, ∀ m ∈ ms, ∀ part, shape.member? m.1 done = some part → Reads w part m.2) :
    Reads w shape (.object ms) := by
  intro fuel depth rest hf hd hr
  have text : (renderWith w.real (.object ms)).toList =
      '\x7b' :: ((renderMembers w.real ms).toList ++ ['\x7d']) := by
    rw [renderWith, String.toList_append, String.toList_append, List.append_assoc]
    rfl
  rw [text, List.length_cons, List.length_append, List.length_singleton] at hf
  obtain ⟨fuel, rfl⟩ : ∃ f, fuel = f + 1 := ⟨fuel - 1, by omega⟩
  rw [text, List.cons_append, List.append_assoc, List.singleton_append, readValue,
    skipBlanks_cons (by rfl), mapReal, nesting, asRead?]
  by_cases shallow : depth ≤ 1
  · simp only [if_pos shallow,
      if_neg (show ¬ membersNesting (mapRealMembers w.value ms) + 1 < depth by omega)]
  simp only [if_neg shallow]
  cases ms with
  | nil =>
    rw [mapRealMembers, if_pos (by simp only [membersNesting]; omega)]
    rfl
  | cons m ms =>
    obtain ⟨cs, e⟩ := members_head (w := w) m ms
    have same : membersNesting (mapRealMembers w.value (m :: ms)) + 1 < depth ↔
        membersNesting (mapRealMembers w.value (m :: ms)) < depth - 1 := by omega
    have read : readMembers fuel (depth - 1) shape []
        ((renderMembers w.real (m :: ms)).toList ++ '\x7d' :: rest) =
          if membersNesting (mapRealMembers w.value (m :: ms)) < depth - 1 then
            (membersAsRead? (mapRealMembers w.value (m :: ms))).map (·, rest)
          else none :=
      readMembers_of_reads (by omega) ms [] wanted values (by omega)
    rw [e, List.cons_append] at read ⊢
    simp only [skipBlanks_cons (by rfl : isBlank '"' = false), same]
    split
    · rename_i h
      cases h
    · rw [read]
      by_cases fits : membersNesting (mapRealMembers w.value (m :: ms)) < depth - 1
      · simp only [if_pos fits]
        cases membersAsRead? (mapRealMembers w.value (m :: ms)) <;> rfl
      · simp only [if_neg fits]

/-- A number is read as it is alone. -/
theorem readAs_number {text : List Char} {said : Json} (flat : said.nesting = 0)
    (alone : said.asRead? = Numeral.read? text) (written : Numeral.Written text) :
    ReadAs shape text said := by
  intro fuel depth rest hf hd hr
  obtain ⟨c, cs, e, front⟩ := written.front
  have behind := Numeral.scan_behind text hr
  rw [alone, flat, if_pos hd]
  unfold Numeral.read?
  rw [e, List.length_cons] at hf
  obtain ⟨fuel, rfl⟩ : ∃ f, fuel = f + 1 := ⟨fuel - 1, by omega⟩
  have first := readValue_numeral front fuel depth shape (cs ++ rest)
  rw [← List.cons_append, ← e, behind] at first
  rw [first]
  cases scanned : Numeral.scan text with
  | none => rfl
  | some read =>
    obtain ⟨t, r⟩ := read
    obtain rfl := written.nothing_left t r scanned
    simp only [Option.map_some, List.nil_append]
    cases t.value? <;> rfl

/-- **The text of a value is read as what it says, whatever follows.** -/
theorem reads_of_fits {j : Json} (h : j.Fits shape) : Reads w shape j := by
  induction h with
  | array items ih => exact reads_array ih
  | object wanted values ih => exact reads_object wanted ih
  | null =>
    intro fuel depth rest hf hd hr
    obtain ⟨fuel, rfl⟩ : ∃ f, fuel = f + 1 := ⟨fuel - 1, by simp [renderWith] at hf; omega⟩
    have flat : (Json.null.mapReal w.value).nesting = 0 := rfl
    rw [renderWith, readValue, flat, if_pos hd]
    rfl
  | bool b =>
    intro fuel depth rest hf hd hr
    obtain ⟨fuel, rfl⟩ : ∃ f, fuel = f + 1 :=
      ⟨fuel - 1, by cases b <;> simp [renderWith] at hf <;> omega⟩
    have flat : ((Json.bool b).mapReal w.value).nesting = 0 := rfl
    cases b <;> (rw [renderWith, readValue, flat, if_pos hd]; rfl)
  | integer z =>
    have same : (Json.integer z).mapReal w.value = .integer z := rfl
    unfold Reads
    rw [renderWith, same]
    exact readAs_number rfl rfl (Numeral.written_ofInt z)
  | real x =>
    unfold Reads
    rw [renderWith, mapReal]
    exact readAs_number (w.flat x) (w.said x) (w.written x)
  | text t =>
    intro fuel depth rest hf hd hr
    have flat : ((Json.text t).mapReal w.value).nesting = 0 := rfl
    rw [renderWith, toList_quoted, List.length_cons] at hf
    obtain ⟨fuel, rfl⟩ : ∃ f, fuel = f + 1 := ⟨fuel - 1, by omega⟩
    rw [renderWith, toList_quoted, List.cons_append, List.append_assoc, List.singleton_append,
      readValue, skipBlanks_cons (by rfl), flat, if_pos hd]
    simp only [readText_escape, String.ofList_toList]
    rfl

end Reader

/-- **The text of a value is read as what it says**, however its fractions are
    written, unless it is nested too deep. -/
theorem parseAs?_renderWith (w : Spelling) {shape : Shape} {j : Json} (h : j.Fits shape) :
    parseAs? shape (renderWith w.real j) =
      if j.nesting ≤ 127 then (j.mapReal w.value).asRead? else none := by
  have read := Reader.reads_of_fits (w := w) h
    (by omega : 2 * (renderWith w.real j).toList.length ≤
      2 * (renderWith w.real j).toList.length + 2)
    (by decide : 0 < 128) Numeral.follows_nil
  have same : j.nesting < 128 ↔ j.nesting ≤ 127 := by omega
  rw [List.append_nil, nesting_mapReal] at read
  unfold parseAs?
  simp only [read, same]
  by_cases shallow : j.nesting ≤ 127
  · simp only [if_pos shallow]
    cases (j.mapReal w.value).asRead? <;> rfl
  · simp only [if_neg shallow]

/-- **The compact text of a value is read as what it says**, unless it is
    nested too deep. -/
theorem parseAs?_render {shape : Shape} {j : Json} (h : j.Fits shape) :
    parseAs? shape (render j) = if j.nesting ≤ 127 then j.asRead? else none := by
  have read := parseAs?_renderWith .shortest h
  rw [show j.mapReal Spelling.shortest.value = j from mapReal_real j] at read
  exact read

end McpFleet.Json
