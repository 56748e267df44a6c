/-
  File:      McpFleet/Json.lean
  Subject:   JSON values as trees, and documents: trees with one form per
             value.

  A tree keeps the members of an object as they were written, also a key
  that is written twice. A document lists the members of every object in key
  order, each key once.

  * `canonical_ordered`: `canonical` makes a document of every tree.
  * `canonical_eq_self`: a document is left alone.
-/
import McpFleet.Binary64
import McpFleet.Dict

namespace McpFleet

/-! ## 1. Trees -/

/-- A JSON value. Whole numbers are exact, numbers with a fraction or an
    exponent are binary floating-point numbers. -/
inductive Json where
  | null
  | bool (value : Bool)
  | integer (value : Int)
  | real (value : Binary64)
  | text (value : String)
  | array (items : List Json)
  | object (members : List (String × Json))
deriving Repr

namespace Json

instance : Inhabited Json := ⟨.null⟩

/-- The value under a key of an object; other values have no members. -/
def get? (key : String) : Json → Option Json
  | .object members => Entries.get? key members
  | _ => none

/-- The text of a text value. -/
def text? : Json → Option String
  | .text s => some s
  | _ => none

/-- Whether the value is null. -/
def isNull : Json → Bool
  | .null => true
  | _ => false

/-! ## 2. Equality -/

mutual

/-- Whether two trees are the same. -/
def same : Json → Json → Bool
  | .null, .null => true
  | .bool a, .bool b => a == b
  | .integer a, .integer b => a == b
  | .real a, .real b => decide (a = b)
  | .text a, .text b => a == b
  | .array xs, .array ys => sameItems xs ys
  | .object ms, .object ns => sameMembers ms ns
  | _, _ => false

/-- The same items in the same order. -/
def sameItems : List Json → List Json → Bool
  | [], [] => true
  | x :: xs, y :: ys => same x y && sameItems xs ys
  | _, _ => false

/-- The same members in the same order. -/
def sameMembers : List (String × Json) → List (String × Json) → Bool
  | [], [] => true
  | (k, x) :: ms, (l, y) :: ns => k == l && same x y && sameMembers ms ns
  | _, _ => false

end

mutual

theorem eq_of_same : (a b : Json) → same a b = true → a = b
  | .null, b, h => by cases b <;> simp_all [same]
  | .bool _, b, h => by cases b <;> simp_all [same]
  | .integer _, b, h => by cases b <;> simp_all [same]
  | .real _, b, h => by cases b <;> simp_all [same]
  | .text _, b, h => by cases b <;> simp_all [same]
  | .array xs, b, h => by
    cases b with
    | array ys => rw [sameItems_eq xs ys (by simpa [same] using h)]
    | _ => simp [same] at h
  | .object ms, b, h => by
    cases b with
    | object ns => rw [sameMembers_eq ms ns (by simpa [same] using h)]
    | _ => simp [same] at h

theorem sameItems_eq : (xs ys : List Json) → sameItems xs ys = true → xs = ys
  | [], ys, h => by cases ys <;> simp_all [sameItems]
  | x :: xs, ys, h => by
    cases ys with
    | nil => simp [sameItems] at h
    | cons y ys =>
      simp only [sameItems, Bool.and_eq_true] at h
      rw [eq_of_same x y h.1, sameItems_eq xs ys h.2]

theorem sameMembers_eq : (ms ns : List (String × Json)) → sameMembers ms ns = true → ms = ns
  | [], ns, h => by cases ns <;> simp_all [sameMembers]
  | (k, x) :: ms, ns, h => by
    cases ns with
    | nil => simp [sameMembers] at h
    | cons n ns =>
      obtain ⟨l, y⟩ := n
      simp only [sameMembers, Bool.and_eq_true, beq_iff_eq] at h
      rw [h.1.1, eq_of_same x y h.1.2, sameMembers_eq ms ns h.2]

end

mutual

theorem same_refl : (a : Json) → same a a = true
  | .null => rfl
  | .bool _ => by simp [same]
  | .integer _ => by simp [same]
  | .real _ => by simp [same]
  | .text _ => by simp [same]
  | .array xs => by simpa [same] using sameItems_refl xs
  | .object ms => by simpa [same] using sameMembers_refl ms

theorem sameItems_refl : (xs : List Json) → sameItems xs xs = true
  | [] => rfl
  | x :: xs => by simp [sameItems, same_refl x, sameItems_refl xs]

theorem sameMembers_refl : (ms : List (String × Json)) → sameMembers ms ms = true
  | [] => rfl
  | (_, x) :: ms => by simp [sameMembers, same_refl x, sameMembers_refl ms]

end

instance : DecidableEq Json := fun a b =>
  if h : same a b = true then isTrue (eq_of_same a b h)
  else isFalse fun e => h (e ▸ same_refl a)

/-! ## 3. Documents -/

/-- Every object lists its members in key order, each key once. -/
inductive Ordered : Json → Prop where
  | null : Ordered .null
  | bool (b : Bool) : Ordered (.bool b)
  | integer (n : Int) : Ordered (.integer n)
  | real (x : Binary64) : Ordered (.real x)
  | text (s : String) : Ordered (.text s)
  | array {xs : List Json} (items : ∀ x ∈ xs, Ordered x) : Ordered (.array xs)
  | object {ms : List (String × Json)} (values : ∀ m ∈ ms, Ordered m.2)
      (keys : Entries.Ascending ms) : Ordered (.object ms)

mutual

/-- Members sorted by key; of two under one key the one written later stays. -/
def canonical : Json → Json
  | .array items => .array (canonicalItems items)
  | .object members => .object (Dict.ofList (canonicalMembers members)).entries
  | j => j

/-- Every item in its canonical form. -/
def canonicalItems : List Json → List Json
  | [] => []
  | x :: xs => canonical x :: canonicalItems xs

/-- Every value in its canonical form, the keys left in their order. -/
def canonicalMembers : List (String × Json) → List (String × Json)
  | [] => []
  | (k, x) :: ms => (k, canonical x) :: canonicalMembers ms

end

theorem foldl_insert_ordered (ms : List (String × Json)) (d : Dict String Json)
    (hm : ∀ m ∈ ms, Ordered m.2) (hd : ∀ m ∈ d.entries, Ordered m.2) :
    ∀ m ∈ (ms.foldl (fun d e => d.insert e.1 e.2) d).entries, Ordered m.2 := by
  induction ms generalizing d with
  | nil => exact hd
  | cons e ms ih =>
    refine ih _ (fun m h => hm m (List.mem_cons_of_mem _ h)) fun m h => ?_
    rcases Entries.mem_insert h with h | h
    · rw [h]; exact hm e List.mem_cons_self
    · exact hd m h

mutual

/-- **Every tree has a document.** -/
theorem canonical_ordered : (j : Json) → j.canonical.Ordered
  | .null => .null
  | .bool b => .bool b
  | .integer n => .integer n
  | .real x => .real x
  | .text s => .text s
  | .array items => .array (canonicalItems_ordered items)
  | .object members => .object
      (foldl_insert_ordered _ _ (canonicalMembers_ordered members) (fun _ h => nomatch h))
      (Dict.ofList (canonicalMembers members)).ascending

theorem canonicalItems_ordered : (xs : List Json) → ∀ x ∈ canonicalItems xs, x.Ordered
  | [], _, h => nomatch h
  | x :: xs, y, h => by
    rcases List.mem_cons.mp h with e | h
    · rw [e]; exact canonical_ordered x
    · exact canonicalItems_ordered xs y h

theorem canonicalMembers_ordered :
    (ms : List (String × Json)) → ∀ m ∈ canonicalMembers ms, m.2.Ordered
  | [], _, h => nomatch h
  | (_, x) :: ms, m, h => by
    rcases List.mem_cons.mp h with e | h
    · rw [e]; exact canonical_ordered x
    · exact canonicalMembers_ordered ms m h

end

mutual

/-- **A document is its own canonical form.** -/
theorem canonical_eq_self : (j : Json) → j.Ordered → j.canonical = j
  | .null, _ => rfl
  | .bool _, _ => rfl
  | .integer _, _ => rfl
  | .real _, _ => rfl
  | .text _, _ => rfl
  | .array xs, .array items => by rw [canonical, canonicalItems_eq_self xs items]
  | .object ms, .object values keys => by
    rw [canonical, canonicalMembers_eq_self ms values]
    exact congrArg (fun d : Dict String Json => Json.object d.entries)
      (Dict.ofList_entries ⟨ms, keys⟩)

theorem canonicalItems_eq_self :
    (xs : List Json) → (∀ x ∈ xs, x.Ordered) → canonicalItems xs = xs
  | [], _ => rfl
  | x :: xs, h => by
    rw [canonicalItems, canonical_eq_self x (h x List.mem_cons_self),
      canonicalItems_eq_self xs (fun y hy => h y (List.mem_cons_of_mem _ hy))]

theorem canonicalMembers_eq_self :
    (ms : List (String × Json)) → (∀ m ∈ ms, m.2.Ordered) → canonicalMembers ms = ms
  | [], _ => rfl
  | (k, x) :: ms, h => by
    rw [canonicalMembers, canonical_eq_self x (h (k, x) List.mem_cons_self),
      canonicalMembers_eq_self ms (fun m hm => h m (List.mem_cons_of_mem _ hm))]

end

end Json

/-- A JSON value in the form in which it is stored and compared. -/
structure Document where
  tree : Json
  ordered : tree.Ordered

namespace Document

theorem ext_tree {d e : Document} (h : d.tree = e.tree) : d = e := by
  cases d; cases e; cases h; rfl

instance : DecidableEq Document := fun d e =>
  if h : d.tree = e.tree then isTrue (ext_tree h) else isFalse fun e' => h (e' ▸ rfl)

/-- The document of a tree. -/
def ofJson (j : Json) : Document := ⟨j.canonical, j.canonical_ordered⟩

instance : Inhabited Document := ⟨ofJson .null⟩

/-- A document is the document of its tree. -/
@[simp] theorem ofJson_tree (d : Document) : ofJson d.tree = d :=
  ext_tree (Json.canonical_eq_self d.tree d.ordered)

end Document

end McpFleet
