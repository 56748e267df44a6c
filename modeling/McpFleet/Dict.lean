/-
  File:      McpFleet/Dict.lean
  Subject:   Dictionaries with one form per content: entries in strictly
             ascending key order.

  * `SortKey`: what a type needs to be a key.
  * `get?_insert`, `get?_erase`, `get?_empty`: what each operation does to
    the view `get?`.
  * `Dict.ext_get?`: two dictionaries with the same view are equal, so "the
    store is as it was" is an equation between stores.
  * `ofList_entries`: rebuilding a dictionary from its entries gives it back.
-/

namespace McpFleet

/-! ## 1. Keys -/

/-- A type with a decidable strict order in which any two members compare. -/
class SortKey (κ : Type) extends LT κ where
  [decEq : DecidableEq κ]
  [decLt : DecidableRel (α := κ) (· < ·)]
  irrefl : ∀ a : κ, ¬ a < a
  trans : ∀ {a b c : κ}, a < b → b < c → a < c
  connected : ∀ a b : κ, a < b ∨ a = b ∨ b < a

@[reducible] instance SortKey.instDecidableEq {κ : Type} [SortKey κ] : DecidableEq κ :=
  SortKey.decEq

@[reducible] instance SortKey.instDecidableLt {κ : Type} [SortKey κ] (a b : κ) :
    Decidable (a < b) := SortKey.decLt a b

instance : SortKey String where
  irrefl := String.lt_irrefl
  trans := String.lt_trans
  connected := Std.lt_trichotomy

instance : SortKey Nat where
  irrefl := Nat.lt_irrefl
  trans := Nat.lt_trans
  connected := Nat.lt_trichotomy

/-- An order carried over from another type along an injective map. -/
@[reducible] def SortKey.lift {κ ι : Type} [SortKey ι] [DecidableEq κ] (f : κ → ι)
    (inj : ∀ a b, f a = f b → a = b) : SortKey κ where
  lt a b := f a < f b
  decLt := fun a b => inferInstanceAs (Decidable (f a < f b))
  irrefl a := SortKey.irrefl (f a)
  trans h h' := SortKey.trans (κ := ι) h h'
  connected a b := (SortKey.connected (f a) (f b)).imp_right (Or.imp_left (inj a b))

theorem SortKey.ne_of_lt {κ : Type} [SortKey κ] {a b : κ} (h : a < b) : a ≠ b :=
  fun e => SortKey.irrefl b (e ▸ h)

/-! ## 2. Entries in key order -/

namespace Entries

variable {κ β : Type} [SortKey κ]

/-- Keys grow strictly from entry to entry. -/
def Ascending (es : List (κ × β)) : Prop := es.Pairwise (fun a b => a.1 < b.1)

/-- The value of the first entry with the key. -/
def get? (k : κ) : List (κ × β) → Option β
  | [] => none
  | (k', v) :: es => if k' = k then some v else get? k es

/-- Puts a value under a key, in place of the one that was there. -/
def insert (k : κ) (v : β) : List (κ × β) → List (κ × β)
  | [] => [(k, v)]
  | (k', v') :: es =>
    if k < k' then (k, v) :: (k', v') :: es
    else if k = k' then (k, v) :: es
    else (k', v') :: insert k v es

/-- Leaves out the entries with the key. -/
def erase (k : κ) (es : List (κ × β)) : List (κ × β) := es.filter (fun e => !decide (e.1 = k))

theorem mem_insert {k : κ} {v : β} {e : κ × β} {es : List (κ × β)} (h : e ∈ insert k v es) :
    e = (k, v) ∨ e ∈ es := by
  induction es with
  | nil => exact .inl (List.mem_singleton.mp h)
  | cons d es ih =>
    obtain ⟨k', v'⟩ := d
    unfold insert at h
    split at h
    · rcases List.mem_cons.mp h with h | h
      · exact .inl h
      · exact .inr h
    · split at h
      · rcases List.mem_cons.mp h with h | h
        · exact .inl h
        · exact .inr (List.mem_cons_of_mem _ h)
      · rcases List.mem_cons.mp h with h | h
        · exact .inr (h ▸ List.mem_cons_self)
        · exact (ih h).imp_right (List.mem_cons_of_mem _)

theorem ascending_insert (k : κ) (v : β) {es : List (κ × β)} (h : Ascending es) :
    Ascending (insert k v es) := by
  induction es with
  | nil => exact List.pairwise_singleton _ _
  | cons d es ih =>
    obtain ⟨k', v'⟩ := d
    have hs := List.pairwise_cons.mp h
    unfold insert
    split
    · rename_i hk
      refine List.pairwise_cons.mpr ⟨fun e he => ?_, h⟩
      rcases List.mem_cons.mp he with he | he
      · rw [he]; exact hk
      · exact SortKey.trans hk (hs.1 e he)
    · rename_i hk
      split
      · rename_i e; subst e
        exact List.pairwise_cons.mpr ⟨hs.1, hs.2⟩
      · rename_i hne
        refine List.pairwise_cons.mpr ⟨fun e he => ?_, ih hs.2⟩
        rcases mem_insert he with he | he
        · rw [he]
          exact ((SortKey.connected k k').resolve_left hk).resolve_left hne
        · exact hs.1 e he

theorem ascending_erase (k : κ) {es : List (κ × β)} (h : Ascending es) :
    Ascending (erase k es) := List.Pairwise.filter _ h

theorem get?_insert (k k' : κ) (v : β) (es : List (κ × β)) :
    get? k' (insert k v es) = if k = k' then some v else get? k' es := by
  induction es with
  | nil => rfl
  | cons d es ih =>
    obtain ⟨k₁, v₁⟩ := d
    unfold insert
    by_cases h1 : k < k₁
    · rw [if_pos h1]; rfl
    · rw [if_neg h1]
      by_cases h2 : k = k₁
      · subst h2
        rw [if_pos rfl]
        by_cases h3 : k = k' <;> simp [get?, h3]
      · rw [if_neg h2]
        show (if k₁ = k' then some v₁ else get? k' (insert k v es)) = _
        rw [ih]
        by_cases h3 : k = k'
        · subst h3; simp [Ne.symm h2]
        · simp [get?, h3]

theorem get?_erase (k k' : κ) (es : List (κ × β)) :
    get? k' (erase k es) = if k = k' then none else get? k' es := by
  induction es with
  | nil => simp [erase, get?]
  | cons d es ih =>
    obtain ⟨k₁, v₁⟩ := d
    unfold erase at ih ⊢
    by_cases h1 : k₁ = k
    · subst h1
      simp only [List.filter, decide_true, Bool.not_true]
      rw [ih]
      by_cases h2 : k₁ = k' <;> simp [get?, h2]
    · simp only [List.filter, h1, decide_false, Bool.not_false]
      show (if k₁ = k' then some v₁ else _) = _
      rw [ih]
      by_cases h2 : k = k'
      · subst h2; simp [h1]
      · simp [get?, h2]

theorem get?_eq_some_of_mem {k : κ} {v : β} {es : List (κ × β)} (h : Ascending es)
    (hm : (k, v) ∈ es) : get? k es = some v := by
  induction es with
  | nil => cases hm
  | cons d es ih =>
    obtain ⟨k', v'⟩ := d
    have hs := List.pairwise_cons.mp h
    rcases List.mem_cons.mp hm with e | hm'
    · obtain ⟨rfl, rfl⟩ := Prod.mk.inj e
      simp [get?]
    · have hne : k' ≠ k := SortKey.ne_of_lt (hs.1 _ hm')
      simp only [get?, hne, if_false]
      exact ih hs.2 hm'

theorem mem_of_get? {k : κ} {v : β} {es : List (κ × β)} (h : get? k es = some v) :
    (k, v) ∈ es := by
  induction es with
  | nil => cases h
  | cons d es ih =>
    obtain ⟨k', v'⟩ := d
    simp only [get?] at h
    split at h
    · rename_i e; subst e
      cases h; exact List.mem_cons_self
    · exact List.mem_cons_of_mem _ (ih h)

theorem get?_eq_some_iff {k : κ} {v : β} {es : List (κ × β)} (h : Ascending es) :
    get? k es = some v ↔ (k, v) ∈ es := ⟨mem_of_get?, get?_eq_some_of_mem h⟩

/-- A sorted list of entries is determined by its members. -/
theorem eq_of_mem_iff {es fs : List (κ × β)} (he : Ascending es) (hf : Ascending fs)
    (h : ∀ e, e ∈ es ↔ e ∈ fs) : es = fs := by
  induction es generalizing fs with
  | nil =>
    cases fs with
    | nil => rfl
    | cons f fs => exact absurd ((h f).mpr List.mem_cons_self) (by simp)
  | cons e es ih =>
    cases fs with
    | nil => exact absurd ((h e).mp List.mem_cons_self) (by simp)
    | cons f fs =>
      have hse := List.pairwise_cons.mp he
      have hsf := List.pairwise_cons.mp hf
      have hef : e = f := by
        rcases List.mem_cons.mp ((h e).mp List.mem_cons_self) with h1 | h1
        · exact h1
        · rcases List.mem_cons.mp ((h f).mpr List.mem_cons_self) with h2 | h2
          · exact h2.symm
          · exact absurd (SortKey.trans (hsf.1 _ h1) (hse.1 _ h2)) (SortKey.irrefl _)
      subst hef
      congr 1
      refine ih hse.2 hsf.2 fun d => ⟨fun hd => ?_, fun hd => ?_⟩
      · rcases List.mem_cons.mp ((h d).mp (List.mem_cons_of_mem _ hd)) with h1 | h1
        · exact absurd (hse.1 d hd) (by rw [h1]; exact SortKey.irrefl _)
        · exact h1
      · rcases List.mem_cons.mp ((h d).mpr (List.mem_cons_of_mem _ hd)) with h1 | h1
        · exact absurd (hsf.1 d hd) (by rw [h1]; exact SortKey.irrefl _)
        · exact h1

end Entries

/-! ## 3. Dictionaries -/

/-- Values under keys, kept in key order with each key once. -/
structure Dict (κ β : Type) [SortKey κ] where
  entries : List (κ × β)
  ascending : Entries.Ascending entries

namespace Dict

variable {κ β : Type} [SortKey κ]

theorem ext_entries {d e : Dict κ β} (h : d.entries = e.entries) : d = e := by
  cases d; cases e; cases h; rfl

instance [DecidableEq β] : DecidableEq (Dict κ β) := fun d e =>
  if h : d.entries = e.entries then isTrue (ext_entries h)
  else isFalse (fun e' => h (e' ▸ rfl))

/-- The dictionary without entries. -/
def empty : Dict κ β := ⟨[], List.Pairwise.nil⟩

instance : Inhabited (Dict κ β) := ⟨empty⟩

/-- The value under a key. -/
def get? (d : Dict κ β) (k : κ) : Option β := Entries.get? k d.entries

/-- Whether there is a value under a key. -/
def contains (d : Dict κ β) (k : κ) : Bool := (d.get? k).isSome

/-- Puts a value under a key, in place of the one before. -/
def insert (d : Dict κ β) (k : κ) (v : β) : Dict κ β :=
  ⟨Entries.insert k v d.entries, Entries.ascending_insert k v d.ascending⟩

/-- Removes the entry of a key, if there is one. -/
def erase (d : Dict κ β) (k : κ) : Dict κ β :=
  ⟨Entries.erase k d.entries, Entries.ascending_erase k d.ascending⟩

/-- The keys in ascending order. -/
def keys (d : Dict κ β) : List κ := d.entries.map (·.1)

/-- The values in the order of their keys. -/
def values (d : Dict κ β) : List β := d.entries.map (·.2)

/-- The number of entries. -/
def size (d : Dict κ β) : Nat := d.entries.length

/-- Entries put in one after another: of two under one key the later stays. -/
def ofList (es : List (κ × β)) : Dict κ β := es.foldl (fun d e => d.insert e.1 e.2) empty

/-! ## 4. The view -/

@[simp] theorem get?_empty (k : κ) : (empty : Dict κ β).get? k = none := rfl

theorem get?_insert (d : Dict κ β) (k k' : κ) (v : β) :
    (d.insert k v).get? k' = if k = k' then some v else d.get? k' :=
  Entries.get?_insert k k' v d.entries

@[simp] theorem get?_insert_self (d : Dict κ β) (k : κ) (v : β) :
    (d.insert k v).get? k = some v := by simp [get?_insert]

theorem get?_erase (d : Dict κ β) (k k' : κ) :
    (d.erase k).get? k' = if k = k' then none else d.get? k' :=
  Entries.get?_erase k k' d.entries

@[simp] theorem get?_erase_self (d : Dict κ β) (k : κ) : (d.erase k).get? k = none := by
  simp [get?_erase]

theorem mem_entries {d : Dict κ β} {k : κ} {v : β} :
    (k, v) ∈ d.entries ↔ d.get? k = some v := (Entries.get?_eq_some_iff d.ascending).symm

/-- **A dictionary is its view.** -/
theorem ext_get? {d e : Dict κ β} (h : ∀ k, d.get? k = e.get? k) : d = e := by
  refine ext_entries (Entries.eq_of_mem_iff d.ascending e.ascending fun p => ?_)
  obtain ⟨k, v⟩ := p
  rw [mem_entries, mem_entries, h]

theorem get?_foldl_insert (es : List (κ × β)) (d : Dict κ β) (h : Entries.Ascending es) (k : κ) :
    (es.foldl (fun d e => d.insert e.1 e.2) d).get? k
      = (Entries.get? k es).or (d.get? k) := by
  induction es generalizing d with
  | nil => simp [Entries.get?]
  | cons e es ih =>
    obtain ⟨k', v⟩ := e
    have hs := List.pairwise_cons.mp h
    rw [List.foldl_cons, ih _ hs.2, get?_insert]
    simp only [Entries.get?]
    by_cases hk : k' = k
    · subst hk
      have hnone : Entries.get? k' es = none := by
        cases hg : Entries.get? k' es with
        | none => rfl
        | some w => exact absurd (hs.1 _ (Entries.mem_of_get? hg)) (SortKey.irrefl _)
      simp [hnone]
    · simp [hk]

/-- Rebuilding a dictionary from its entries gives it back. -/
@[simp] theorem ofList_entries (d : Dict κ β) : ofList d.entries = d := by
  refine ext_get? fun k => ?_
  unfold ofList
  rw [get?_foldl_insert _ _ d.ascending, get?_empty, Option.or_none]
  rfl

end Dict

end McpFleet
