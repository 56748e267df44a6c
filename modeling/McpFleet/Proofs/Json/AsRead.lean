/-
  File:      McpFleet/Proofs/Json/AsRead.lean
  Subject:   What the text of a value says.

  * `asRead?`: the value with each number as its digits are read; a number with
    a fraction or an exponent is read with rounding, and need not come back.
  * **`ordered_of_asRead`**: what the text of a document says is a document.
  * `Plain.asRead?`: whole numbers of 64 bits are read as they are.
  * `nesting`: how deep lists and objects stand in each other.
  * `Lossless`: documents whose text says all of them.
-/
import McpFleet.Binary64.Shortest
import McpFleet.Proofs.Json.Digits
import McpFleet.Proofs.Json.Reading

namespace McpFleet.Json

/-! ## 1. Numbers -/

/-- The value of characters that write one number and nothing else. -/
def Numeral.read? (cs : List Char) : Option Json :=
  match scan cs with
  | some (t, []) => t.value?
  | _ => none

theorem Numeral.read?_eq_some {cs : List Char} {j : Json} :
    read? cs = some j ↔ ∃ t, scan cs = some (t, []) ∧ t.value? = some j := by
  unfold read?
  constructor
  · intro h
    split at h
    · rename_i t e
      exact ⟨t, e, h⟩
    · cases h
  · rintro ⟨t, e, h⟩
    rw [e]
    exact h

theorem Numeral.ordered_of_value {t : Numeral} {j : Json} (h : t.value? = some j) : j.Ordered := by
  have real {negative : Bool} {n : Nat} {e : Int} (h : realValue? negative n e = some j) :
      j.Ordered := by
    unfold realValue? at h
    simp only [Option.bind_eq_bind, Option.bind_eq_some_iff, Option.pure_def,
      Option.some.injEq] at h
    obtain ⟨x, -, y, -, rfl⟩ := h
    exact .real _
  unfold value? at h
  dsimp only at h
  split at h
  · split at h
    · split at h
      · obtain rfl := Option.some.inj h
        exact .integer _
      · split at h
        · obtain rfl := Option.some.inj h
          exact .integer _
        · exact real h
    · exact real h
  · exact real h

/-! ## 2. Values -/

mutual

/-- **The value that the text of a value says**: each number is what its digits
    are read as. -/
def asRead? : Json → Option Json
  | .integer z => Numeral.read? (Text.ofInt z).toList
  | .real x => Numeral.read? x.text.toList
  | .array items => (itemsAsRead? items).map .array
  | .object members => (membersAsRead? members).map .object
  | j => some j

def itemsAsRead? : List Json → Option (List Json)
  | [] => some []
  | x :: xs => (asRead? x).bind fun y => (itemsAsRead? xs).map (y :: ·)

def membersAsRead? : List (String × Json) → Option (List (String × Json))
  | [] => some []
  | (k, x) :: ms => (asRead? x).bind fun y => (membersAsRead? ms).map ((k, y) :: ·)

end

section AsRead

variable {x y : Json} {xs ys : List Json} {k : String} {ms ns : List (String × Json)}

theorem itemsAsRead?_cons_eq_some {zs : List Json} :
    itemsAsRead? (x :: xs) = some zs ↔
      ∃ y ys, asRead? x = some y ∧ itemsAsRead? xs = some ys ∧ zs = y :: ys := by
  simp only [itemsAsRead?, Option.bind_eq_some_iff, Option.map_eq_some_iff]
  constructor
  · rintro ⟨y, hy, ys, hys, rfl⟩
    exact ⟨y, ys, hy, hys, rfl⟩
  · rintro ⟨y, ys, hy, hys, rfl⟩
    exact ⟨y, hy, ys, hys, rfl⟩

theorem membersAsRead?_cons_eq_some {ls : List (String × Json)} :
    membersAsRead? ((k, x) :: ms) = some ls ↔
      ∃ y ns, asRead? x = some y ∧ membersAsRead? ms = some ns ∧ ls = (k, y) :: ns := by
  simp only [membersAsRead?, Option.bind_eq_some_iff, Option.map_eq_some_iff]
  constructor
  · rintro ⟨y, hy, ns, hns, rfl⟩
    exact ⟨y, ns, hy, hns, rfl⟩
  · rintro ⟨y, ns, hy, hns, rfl⟩
    exact ⟨y, hy, ns, hns, rfl⟩

/-- Items that are all read as they are. -/
theorem itemsAsRead?_self (h : ∀ x ∈ xs, asRead? x = some x) : itemsAsRead? xs = some xs := by
  induction xs with
  | nil => rfl
  | cons x xs ih =>
    obtain ⟨first, others⟩ := List.forall_mem_cons.mp h
    exact itemsAsRead?_cons_eq_some.mpr ⟨x, xs, first, ih others, rfl⟩

/-- Members that are all read as they are. -/
theorem membersAsRead?_self (h : ∀ m ∈ ms, asRead? m.2 = some m.2) :
    membersAsRead? ms = some ms := by
  induction ms with
  | nil => rfl
  | cons m ms ih =>
    obtain ⟨first, others⟩ := List.forall_mem_cons.mp h
    exact membersAsRead?_cons_eq_some.mpr ⟨m.2, ms, first, ih others, rfl⟩

theorem membersAsRead?_append {ms' ns' : List (String × Json)} (h : membersAsRead? ms = some ns)
    (h' : membersAsRead? ms' = some ns') : membersAsRead? (ms ++ ms') = some (ns ++ ns') := by
  induction ms generalizing ns with
  | nil =>
    obtain rfl := Option.some.inj h
    exact h'
  | cons m ms ih =>
    obtain ⟨y, rest, first, others, rfl⟩ := membersAsRead?_cons_eq_some.mp h
    exact membersAsRead?_cons_eq_some.mpr ⟨y, rest ++ ns', first, ih others, rfl⟩

/-- Members keep their keys. -/
theorem keys_membersAsRead (h : membersAsRead? ms = some ns) : ns.map Prod.fst = ms.map Prod.fst := by
  induction ms generalizing ns with
  | nil =>
    obtain rfl := Option.some.inj h
    rfl
  | cons m ms ih =>
    obtain ⟨y, rest, -, others, rfl⟩ := membersAsRead?_cons_eq_some.mp h
    exact congrArg (m.1 :: ·) (ih others)

theorem mem_itemsAsRead (h : itemsAsRead? xs = some ys) (hy : y ∈ ys) :
    ∃ x ∈ xs, asRead? x = some y := by
  induction xs generalizing ys with
  | nil =>
    obtain rfl := Option.some.inj h
    cases hy
  | cons x xs ih =>
    obtain ⟨z, zs, first, others, rfl⟩ := itemsAsRead?_cons_eq_some.mp h
    rcases List.mem_cons.mp hy with rfl | hy
    · exact ⟨x, List.mem_cons_self, first⟩
    · obtain ⟨x', hx, e⟩ := ih others hy
      exact ⟨x', List.mem_cons_of_mem x hx, e⟩

theorem mem_membersAsRead {n : String × Json} (h : membersAsRead? ms = some ns) (hn : n ∈ ns) :
    ∃ m ∈ ms, asRead? m.2 = some n.2 := by
  induction ms generalizing ns with
  | nil =>
    obtain rfl := Option.some.inj h
    cases hn
  | cons m ms ih =>
    obtain ⟨z, zs, first, others, rfl⟩ := membersAsRead?_cons_eq_some.mp h
    rcases List.mem_cons.mp hn with rfl | hn
    · exact ⟨m, List.mem_cons_self, first⟩
    · obtain ⟨m', hm, e⟩ := ih others hn
      exact ⟨m', List.mem_cons_of_mem m hm, e⟩

/-- What a text says of an object, it says of each member. -/
theorem asRead?_of_mem {m : String × Json} (h : membersAsRead? ms = some ns) (hm : m ∈ ms) :
    ∃ y, asRead? m.2 = some y := by
  induction ms generalizing ns with
  | nil => cases hm
  | cons m' ms ih =>
    obtain ⟨y, rest, first, others, rfl⟩ := membersAsRead?_cons_eq_some.mp h
    rcases List.mem_cons.mp hm with rfl | hm
    · exact ⟨y, first⟩
    · exact ih others hm

/-- **What the text of a document says is a document.** -/
theorem ordered_of_asRead (h : x.Ordered) (said : asRead? x = some y) : y.Ordered := by
  induction h generalizing y with
  | integer z =>
    obtain ⟨t, -, value⟩ := Numeral.read?_eq_some.mp said
    exact Numeral.ordered_of_value value
  | real b =>
    obtain ⟨t, -, value⟩ := Numeral.read?_eq_some.mp said
    exact Numeral.ordered_of_value value
  | array items ih =>
    rw [asRead?, Option.map_eq_some_iff] at said
    obtain ⟨ys, said, rfl⟩ := said
    refine .array fun z hz => ?_
    obtain ⟨w, hw, e⟩ := mem_itemsAsRead said hz
    exact ih w hw e
  | @object ms values keys ih =>
    rw [asRead?, Option.map_eq_some_iff] at said
    obtain ⟨ns, said, rfl⟩ := said
    have sameKeys : ns.map Prod.fst = ms.map Prod.fst := keys_membersAsRead said
    refine .object (fun n hn => ?_) (ascending_of_keys _ sameKeys (List.pairwise_map.mpr keys))
    obtain ⟨m, hm, e⟩ := mem_membersAsRead said hn
    exact ih m hm e
  | null =>
    obtain rfl := Option.some.inj said
    exact .null
  | bool b =>
    obtain rfl := Option.some.inj said
    exact .bool b
  | text t =>
    obtain rfl := Option.some.inj said
    exact .text t

end AsRead

/-! ## 3. Plain values -/

/-- A value without fractions and exponents, whose whole numbers fit 64 bits,
    nested at most `n` deep. -/
inductive Plain : Nat → Json → Prop where
  | null {n : Nat} : Plain n .null
  | bool {n : Nat} (b : Bool) : Plain n (.bool b)
  | integer {n : Nat} {z : Int} (lo : -0x8000000000000000 ≤ z) (hi : z ≤ 0xFFFFFFFFFFFFFFFF) :
    Plain n (.integer z)
  | text {n : Nat} (s : String) : Plain n (.text s)
  | array {n : Nat} {xs : List Json} (items : ∀ x ∈ xs, Plain n x) : Plain (n + 1) (.array xs)
  | object {n : Nat} {ms : List (String × Json)} (values : ∀ m ∈ ms, Plain n m.2) :
    Plain (n + 1) (.object ms)

/-- **A plain value is read as it is.** -/
theorem Plain.asRead? {n : Nat} {j : Json} (h : j.Plain n) : j.asRead? = some j := by
  induction h with
  | null => rfl
  | bool b => rfl
  | @integer n z lo hi =>
    have scanned := Numeral.scan_ofInt z Numeral.follows_nil
    rw [List.append_nil] at scanned
    exact Numeral.read?_eq_some.mpr ⟨Numeral.ofInt z, scanned, Numeral.value?_ofInt lo hi⟩
  | text t => rfl
  | array items ih => rw [Json.asRead?, itemsAsRead?_self ih, Option.map_some]
  | object values ih => rw [Json.asRead?, membersAsRead?_self ih, Option.map_some]

/-! ## 4. Nesting -/

mutual

/-- How deep lists and objects stand in each other. -/
def nesting : Json → Nat
  | .array items => itemsNesting items + 1
  | .object members => membersNesting members + 1
  | _ => 0

def itemsNesting : List Json → Nat
  | [] => 0
  | x :: xs => max (nesting x) (itemsNesting xs)

def membersNesting : List (String × Json) → Nat
  | [] => 0
  | (_, x) :: ms => max (nesting x) (membersNesting ms)

end

theorem itemsNesting_le {n : Nat} {xs : List Json} :
    itemsNesting xs ≤ n ↔ ∀ x ∈ xs, x.nesting ≤ n := by
  induction xs with
  | nil => simp [itemsNesting]
  | cons x xs ih => rw [itemsNesting, Nat.max_le, ih, List.forall_mem_cons]

theorem membersNesting_le {n : Nat} {ms : List (String × Json)} :
    membersNesting ms ≤ n ↔ ∀ m ∈ ms, m.2.nesting ≤ n := by
  induction ms with
  | nil => simp [membersNesting]
  | cons m ms ih => rw [membersNesting, Nat.max_le, ih, List.forall_mem_cons]

theorem Plain.nesting_le {n : Nat} {j : Json} (h : j.Plain n) : j.nesting ≤ n := by
  induction h with
  | null | bool b | integer lo hi | text t => exact Nat.zero_le _
  | array items ih => exact Nat.succ_le_succ (itemsNesting_le.mpr ih)
  | object values ih => exact Nat.succ_le_succ (membersNesting_le.mpr ih)

/-! ## 5. Documents whose text says all of them -/

/-- A plain value with its members in key order. -/
structure Lossless (n : Nat) (j : Json) : Prop where
  ordered : j.Ordered
  plain : j.Plain n

namespace Lossless

variable {n : Nat}

theorem bool (b : Bool) : (Json.bool b).Lossless n := ⟨.bool b, .bool b⟩

theorem text (s : String) : (Json.text s).Lossless n := ⟨.text s, .text s⟩

theorem integer {z : Int} (lo : -0x8000000000000000 ≤ z) (hi : z ≤ 0xFFFFFFFFFFFFFFFF) :
    (Json.integer z).Lossless n := ⟨.integer z, .integer lo hi⟩

theorem array {xs : List Json} (items : ∀ x ∈ xs, x.Lossless n) :
    (Json.array xs).Lossless (n + 1) :=
  ⟨.array fun x hx => (items x hx).ordered, .array fun x hx => (items x hx).plain⟩

theorem object {ms : List (String × Json)} (keys : Entries.Ascending ms)
    (values : ∀ m ∈ ms, m.2.Lossless n) : (Json.object ms).Lossless (n + 1) :=
  ⟨.object (fun m hm => (values m hm).ordered) keys, .object fun m hm => (values m hm).plain⟩

theorem keys {ms : List (String × Json)} (h : (Json.object ms).Lossless n) :
    Entries.Ascending ms := by
  cases h.ordered with
  | object _ keys => exact keys

theorem option {α : Type} {write : α → Json} (h : ∀ a, (write a).Lossless n) (o : Option α) :
    (Json.ofOption write o).Lossless n := by
  cases o with
  | none => exact ⟨.null, .null⟩
  | some a => exact h a

theorem textDict (d : Dict String String) : (Json.ofTextDict d).Lossless (n + 1) := by
  refine .object (List.pairwise_map.mpr d.ascending) fun m hm => ?_
  obtain ⟨e, -, rfl⟩ := List.mem_map.mp hm
  exact .text e.2

theorem list {α : Type} {write : α → Json} (h : ∀ a, (write a).Lossless n) (as : List α) :
    (Json.array (as.map write)).Lossless (n + 1) := by
  refine .array fun x hx => ?_
  obtain ⟨a, -, rfl⟩ := List.mem_map.mp hx
  exact h a

end Lossless

end McpFleet.Json
