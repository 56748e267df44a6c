/-
  File:      McpFleet/Proofs/Store/Index.lean
  Subject:   The name index of a registry is exact: it has the name of every
             stored instance, and no other name.

  * `Registry.Exact`: what every registry keeps that starts empty.
  * `exact_put`: storing an instance keeps it, whatever was stored under the
    identifier, as soon as the index has the new name and no old one.
  * `create_spec`, `update_spec`, `delete_spec`: each operation succeeds where
    its condition holds, changes one instance, and keeps the index exact.
  * `Exact.eq_of_instances`: an exact registry is fixed by its instances.
-/
import McpFleet.Store.Registry

namespace McpFleet.Registry

/-! ## 1. Exactness -/

/-- Instances are stored under their identifiers, and the index has exactly
    their names. -/
structure Exact (r : Registry) : Prop where
  key : ∀ {id i}, r.find? id = some i → i.id = id
  name : ∀ {n id}, r.names.get? n = some id ↔ ∃ i, r.find? id = some i ∧ i.name = n

theorem exact_empty : empty.Exact where
  key h := nomatch h
  name := by
    intro n id
    constructor
    · intro h; cases h
    · intro parts
      obtain ⟨i, h, _⟩ := parts
      cases h

namespace Exact

variable {r r' : Registry} {i j : Instance} {id : Uuid} {n : InstanceName}

theorem get?_name (h : r.Exact) (hi : r.find? id = some i) : r.names.get? i.name = some id :=
  h.name.mpr ⟨i, hi, rfl⟩

/-- **A name is the name of one stored instance.** -/
theorem eq_of_name (h : r.Exact) {a b : Uuid} (hi : r.find? a = some i) (hj : r.find? b = some j)
    (e : i.name = j.name) : a = b ∧ i = j := by
  have ha := h.get?_name hi
  rw [e, h.get?_name hj] at ha
  obtain rfl := Option.some.inj ha
  exact ⟨rfl, Option.some.inj (hi.symm.trans hj)⟩

/-- **Looking a name up finds the stored instance of that name.** -/
theorem findByName?_eq_some (h : r.Exact) :
    r.findByName? n = some i ↔ r.find? i.id = some i ∧ i.name = n := by
  unfold findByName?
  rw [Option.bind_eq_some_iff]
  constructor
  · intro parts
    obtain ⟨id, hn, hi⟩ := parts
    obtain rfl := h.key hi
    obtain ⟨j, hj, e⟩ := h.name.mp hn
    obtain rfl : i = j := Option.some.inj (hi.symm.trans hj)
    exact ⟨hi, e⟩
  · intro parts
    obtain ⟨hi, e⟩ := parts
    exact ⟨i.id, h.name.mpr ⟨i, hi, e⟩, hi⟩

theorem findByName?_eq_none (h : r.Exact) :
    r.findByName? n = none ↔ r.names.get? n = none := by
  unfold findByName?
  cases hn : r.names.get? n with
  | none => simp
  | some id =>
    obtain ⟨i, hi, _⟩ := h.name.mp hn
    have hi' : r.instances.get? id = some i := hi
    simp [hi']

/-- **An exact registry is fixed by its instances.** -/
theorem eq_of_instances (h : r.Exact) (h' : r'.Exact) (e : r.instances = r'.instances) :
    r = r' := by
  have same (id : Uuid) : r.find? id = r'.find? id := by unfold find?; rw [e]
  have names : r.names = r'.names := Dict.ext_get? fun n => Option.ext fun id => by
    rw [h.name, h'.name, same]
  cases r
  cases r'
  cases e
  cases names
  rfl

end Exact

/-! ## 2. Storing one instance -/

/-- Storing an instance keeps the index exact when the index is changed at the
    new name and at the old names of that identifier only. -/
theorem exact_put {r : Registry} (h : r.Exact) {i : Instance} {names : Dict InstanceName Uuid}
    (hn : ∀ n id, names.get? n = some id ↔
      (id = i.id ∧ n = i.name) ∨ (id ≠ i.id ∧ r.names.get? n = some id)) :
    Exact ⟨r.instances.insert i.id i, names⟩ where
  key {id j} hj := by
    unfold find? at hj
    rw [Dict.get?_insert] at hj
    split at hj
    · rename_i e
      exact Option.some.inj hj ▸ e
    · exact h.key hj
  name {n id} := by
    rw [hn]
    unfold find?
    rw [Dict.get?_insert]
    by_cases e : i.id = id
    · subst e
      simp [eq_comm]
    · rw [if_neg e, h.name]
      simp [Ne.symm e, find?]

/-- An index in which `id` had the name `old`, after it was given the name
    `n`. -/
theorem get?_renamed {d : Dict InstanceName Uuid} {n old m : InstanceName} {id id' : Uuid}
    (hold : ∀ k, d.get? k = some id ↔ k = old) (hn : ∀ id', d.get? n = some id' → id' = id) :
    ((d.erase old).insert n id).get? m = some id' ↔
      (id' = id ∧ m = n) ∨ (id' ≠ id ∧ d.get? m = some id') := by
  rw [Dict.get?_insert, Dict.get?_erase]
  by_cases e : n = m
  · subst e
    rw [if_pos rfl]
    constructor
    · intro h; exact .inl ⟨(Option.some.inj h).symm, rfl⟩
    · intro ways
      rcases ways with ⟨h, _⟩ | ⟨h, h'⟩
      · rw [h]
      · exact absurd (hn id' h') h
  · rw [if_neg e]
    by_cases e' : old = m
    · rw [if_pos e']
      constructor
      · intro h; cases h
      · intro ways
        rcases ways with ⟨_, h⟩ | ⟨h, h'⟩
        · exact absurd h.symm e
        · rw [(hold m).mpr e'.symm] at h'
          exact absurd (Option.some.inj h').symm h
    · rw [if_neg e']
      constructor
      · intro h
        refine .inr ⟨fun e'' => ?_, h⟩
        subst e''
        exact e' ((hold m).mp h).symm
      · intro ways
        rcases ways with ⟨_, h⟩ | ⟨_, h⟩
        · exact absurd h.symm e
        · exact h

/-! ## 3. The operations -/

section Operations

variable {r : Registry} {i s : Instance} {id : Uuid}

/-- **Creating stores the instance, unless its identifier or its name is
    taken.** -/
theorem create_spec (h : r.Exact) (absent : r.find? i.id = none)
    (free : r.names.get? i.name = none) :
    ∃ r', r.create i = .ok r' ∧ r'.instances = r.instances.insert i.id i ∧ r'.Exact := by
  have hid : r.instances.contains i.id = false := by
    unfold Dict.contains
    rw [show r.instances.get? i.id = none from absent]
    rfl
  have hname : r.names.contains i.name = false := by
    unfold Dict.contains
    rw [free]
    rfl
  refine ⟨_, by unfold create; rw [hid, hname]; rfl, rfl, exact_put h fun n id => ?_⟩
  rw [Dict.get?_insert]
  by_cases e : i.name = n
  · subst e
    rw [free]
    simp [eq_comm]
  · rw [if_neg e]
    constructor
    · intro hn
      refine .inr ⟨fun e' => ?_, hn⟩
      obtain ⟨j, hj, _⟩ := h.name.mp hn
      rw [e', absent] at hj
      cases hj
    · intro ways
      rcases ways with ⟨_, e'⟩ | ⟨_, hn⟩
      · exact absurd e'.symm e
      · exact hn

/-- Nothing is created under an identifier in use. -/
theorem create_taken (stored : r.find? i.id = some s) :
    r.create i = .error (.duplicateInstance i.id) := by
  have there : r.instances.contains i.id = true := by
    unfold Dict.contains
    rw [show r.instances.get? i.id = some s from stored]
    rfl
  unfold create
  rw [if_pos there]

/-- **Updating replaces a stored instance, unless its name belongs to another
    one.** -/
theorem update_spec (h : r.Exact) (stored : r.find? i.id = some s)
    (free : ∀ id, r.names.get? i.name = some id → id = i.id) :
    ∃ r', r.update i = .ok r' ∧ r'.instances = r.instances.insert i.id i ∧ r'.Exact := by
  have stored' : r.instances.get? i.id = some s := stored
  have names (k : InstanceName) : r.names.get? k = some i.id ↔ k = s.name := by
    rw [h.name]
    constructor
    · intro parts
      obtain ⟨j, hj, e⟩ := parts
      rw [← e, ← Option.some.inj (stored.symm.trans hj)]
    · intro e
      exact ⟨s, stored, e.symm⟩
  by_cases e : i.name = s.name
  · refine ⟨_, by unfold update; simp only [stored']; rw [if_pos e], rfl,
      exact_put h fun n id => ?_⟩
    constructor
    · intro hn
      by_cases e' : id = i.id
      · subst e'
        exact .inl ⟨rfl, ((names n).mp hn).trans e.symm⟩
      · exact .inr ⟨e', hn⟩
    · intro ways
      rcases ways with ⟨rfl, rfl⟩ | ⟨_, hn⟩
      · exact (names _).mpr e
      · exact hn
  · have other : r.nameTakenByOther i.name i.id = false := by
      unfold nameTakenByOther
      cases hn : r.names.get? i.name with
      | none => rfl
      | some owner => simp [free owner hn]
    exact ⟨_, by unfold update; simp only [stored']; rw [if_neg e, other]; rfl, rfl,
      exact_put h fun n id => get?_renamed names free⟩

/-- What was written back is what is stored. -/
theorem find?_update {r' : Registry} (h : r.update i = .ok r') : r'.find? i.id = some i := by
  unfold update at h
  split at h
  · cases h
  · split at h
    · cases h
      exact Dict.get?_insert_self _ _ _
    · split at h
      · cases h
      · cases h
        exact Dict.get?_insert_self _ _ _

/-- What was put in is what is stored. -/
theorem find?_create {r' : Registry} (h : r.create i = .ok r') : r'.find? i.id = some i := by
  unfold create at h
  split at h
  · cases h
  · split at h
    · cases h
    · cases h
      exact Dict.get?_insert_self _ _ _

/-- An instance that keeps its name is written back, and nothing else is
    touched. -/
theorem update_sameName (stored : r.find? i.id = some s) (named : i.name = s.name) :
    r.update i = .ok { r with instances := r.instances.insert i.id i } := by
  unfold update
  rw [show r.instances.get? i.id = some s from stored]
  exact if_pos named

/-- Putting an instance where it is stored already changes nothing. -/
theorem insert_stored (stored : r.find? i.id = some i) : r.instances.insert i.id i = r.instances := by
  refine Dict.ext_get? fun id => ?_
  rw [Dict.get?_insert]
  split
  · rename_i same
    exact (same ▸ stored).symm
  · rfl

/-- **Deleting removes a stored instance and gives its name free.** -/
theorem delete_spec (h : r.Exact) (stored : r.find? id = some s) :
    ∃ r', r.delete id = .ok r' ∧ r'.instances = r.instances.erase id ∧ r'.Exact := by
  have stored' : r.instances.get? id = some s := stored
  refine ⟨_, by unfold delete; simp only [stored']; rfl, rfl, ⟨fun {a j} hj => ?_, fun {n a} => ?_⟩⟩
  · unfold find? at hj
    rw [Dict.get?_erase] at hj
    split at hj
    · cases hj
    · exact h.key hj
  · unfold find?
    rw [Dict.get?_erase, Dict.get?_erase]
    by_cases e : id = a
    · subst e
      rw [if_pos rfl]
      constructor
      · intro hn
        split at hn
        · cases hn
        · rename_i e'
          obtain ⟨j, hj, rfl⟩ := h.name.mp hn
          rw [Option.some.inj (stored.symm.trans hj)] at e'
          exact absurd rfl e'
      · intro parts
        obtain ⟨_, hj, _⟩ := parts
        cases hj
    · rw [if_neg e]
      by_cases e' : s.name = n
      · rw [if_pos e']
        constructor
        · intro hn; cases hn
        · intro parts
          obtain ⟨j, hj, hn⟩ := parts
          exact absurd (h.eq_of_name stored hj (e'.trans hn.symm)).1 e
      · rw [if_neg e', h.name]
        rfl

end Operations

end McpFleet.Registry
