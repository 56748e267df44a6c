/-
  File:      McpFleet/Proofs/Store/Listing.lean
  Subject:   The list of a registry: every instance once, by time of creation
             and then by identifier.

  * `Instance.Precedes`: the strict order of a list; two instances with
    different identifiers always compare in it.
  * `sortInstances_ascending`: instances with distinct identifiers are sorted
    strictly.
  * **`Registry.Exact.enumerates`**: the list of an exact registry has what is
    stored, each once, in ascending order.
  * **`Enumerates.sublist_iff`**: which of two instances comes first in a list
    is decided by these two alone.
-/
import McpFleet.Proofs.Store.Table
import Mathlib.Data.List.Sort

namespace McpFleet

/-! ## 1. The order of a list -/

namespace Instance

/-- The first of two instances is listed before the second. -/
def Precedes (i j : Instance) : Prop := listedBefore i.createdAt i.id j.createdAt j.id

instance (i j : Instance) : Decidable (i.Precedes j) := by unfold Precedes; infer_instance

variable {i j k : Instance}

theorem not_precedes_self (i : Instance) : ¬ i.Precedes i := by
  rintro (earlier | ⟨-, lower⟩)
  · exact SortKey.irrefl _ earlier
  · exact SortKey.irrefl _ lower

theorem Precedes.trans (h : i.Precedes j) (h' : j.Precedes k) : i.Precedes k := by
  unfold Precedes listedBefore at *
  rcases h with earlier | ⟨same, lower⟩
  · rcases h' with later | ⟨same', -⟩
    · exact .inl (SortKey.trans earlier later)
    · exact .inl (same' ▸ earlier)
  · rcases h' with later | ⟨same', higher⟩
    · exact .inl (same ▸ later)
    · exact .inr ⟨same.trans same', SortKey.trans lower higher⟩

theorem Precedes.not_precedes (h : i.Precedes j) : ¬ j.Precedes i :=
  fun h' => i.not_precedes_self (h.trans h')

/-- Two instances compare unless they were created at the same moment under the
    same identifier. -/
theorem precedes_connected (i j : Instance) :
    i.Precedes j ∨ (i.createdAt = j.createdAt ∧ i.id = j.id) ∨ j.Precedes i := by
  unfold Precedes listedBefore
  rcases SortKey.connected i.createdAt j.createdAt with earlier | same | later
  · exact .inl (.inl earlier)
  · rcases SortKey.connected i.id j.id with lower | equal | higher
    · exact .inl (.inr ⟨same, lower⟩)
    · exact .inr (.inl ⟨same, equal⟩)
    · exact .inr (.inr (.inr ⟨same.symm, higher⟩))
  · exact .inr (.inr (.inl later))

/-- Between what does not come before an instance and what it does not come
    before, there is no step back. -/
theorem not_precedes_trans (h : ¬ j.Precedes i) (h' : ¬ k.Precedes j) : ¬ k.Precedes i := by
  intro back
  rcases precedes_connected j k with before | ⟨moment, id⟩ | behind
  · exact h (before.trans back)
  · refine h ?_
    unfold Precedes at back ⊢
    rwa [moment, id]
  · exact h' behind

instance : Std.Antisymm Precedes := ⟨fun _ _ h h' => absurd h' h.not_precedes⟩

end Instance

/-- **Instances with distinct identifiers are sorted strictly.** -/
theorem sortInstances_ascending {is : List Instance} (distinct : (is.map (·.id)).Nodup) :
    (sortInstances is).Pairwise Instance.Precedes := by
  have sorted : (sortInstances is).Pairwise fun i j =>
      (!decide (j.Precedes i)) = true := by
    refine List.pairwise_mergeSort (fun i j k h h' => ?_) (fun i j => ?_) is
    · simp only [Bool.not_eq_true', decide_eq_false_iff_not] at h h' ⊢
      exact Instance.not_precedes_trans h h'
    · simp only [Bool.or_eq_true, Bool.not_eq_true', decide_eq_false_iff_not]
      exact Classical.or_iff_not_imp_left.mpr fun h => (Classical.not_not.mp h).not_precedes
  have apart : (sortInstances is).Pairwise fun i j => i.id ≠ j.id :=
    List.pairwise_map.mp (((List.mergeSort_perm is _).map _).nodup_iff.mpr distinct)
  refine (sorted.and apart).imp fun {i j} parts => ?_
  simp only [Bool.not_eq_true', decide_eq_false_iff_not] at parts
  obtain ⟨ordered, ne⟩ := parts
  rcases Instance.precedes_connected i j with before | ⟨-, same⟩ | behind
  · exact before
  · exact absurd same ne
  · exact absurd behind ordered

/-! ## 2. The list of a registry -/

/-- A list of what is stored: each instance once, in strictly ascending order. -/
structure Registry.Enumerates (r : Registry) (l : List Instance) : Prop where
  stored : ∀ {i}, i ∈ l ↔ r.find? i.id = some i
  once : (l.map (·.id)).Nodup
  ascending : l.Pairwise Instance.Precedes

namespace Registry

variable {r : Registry} {l : List Instance} {a b : Uuid} {i j : Instance}

/-- The identifiers of the stored instances are the keys of the table, and no
    key is there twice. -/
theorem Exact.nodup_ids (h : r.Exact) : (r.instances.values.map (·.id)).Nodup := by
  have ids : r.instances.values.map (·.id) = r.instances.keys := by
    unfold Dict.values Dict.keys
    rw [List.map_map]
    exact List.map_congr_left fun e he => h.key (Dict.mem_entries.mp he)
  rw [ids]
  exact List.pairwise_map.mpr (r.instances.ascending.imp SortKey.ne_of_lt)

/-- **A registry lists what is stored, each instance once, in ascending
    order.** -/
theorem Exact.enumerates (h : r.Exact) : r.Enumerates r.list where
  stored {i} := by
    have listed : i ∈ r.list ↔ i ∈ r.instances.values := List.mem_mergeSort
    rw [listed, Dict.mem_values]
    constructor
    · intro parts
      obtain ⟨id, hi⟩ := parts
      obtain rfl : i.id = id := h.key hi
      exact hi
    · intro hi
      exact ⟨i.id, hi⟩
  once := ((List.mergeSort_perm r.instances.values _).map _).nodup_iff.mpr h.nodup_ids
  ascending := sortInstances_ascending h.nodup_ids

/-- **Which of two stored instances comes first in a list** is decided by these
    two alone. -/
theorem Enumerates.sublist_iff (h : r.Enumerates l) (exact : r.Exact)
    (hi : r.find? a = some i) (hj : r.find? b = some j) :
    [a, b].Sublist (l.map (·.id)) ↔ i.Precedes j := by
  obtain rfl : i.id = a := exact.key hi
  obtain rfl : j.id = b := exact.key hj
  constructor
  · intro before
    obtain ⟨pair, within, e⟩ := List.sublist_map_iff.mp before
    -- the two identifiers are those of two members, which are what is stored
    obtain ⟨i', rest, rfl, hi', e⟩ := List.map_eq_cons_iff.mp e.symm
    obtain ⟨j', rfl, hj'⟩ := List.map_eq_singleton_iff.mp e
    have here : r.find? i.id = some i' := hi' ▸ h.stored.mp (within.subset List.mem_cons_self)
    have there : r.find? j.id = some j' :=
      hj' ▸ h.stored.mp (within.subset (List.mem_cons_of_mem _ List.mem_cons_self))
    obtain rfl := Option.some.inj (hi.symm.trans here)
    obtain rfl := Option.some.inj (hj.symm.trans there)
    exact List.pairwise_iff_forall_sublist.mp h.ascending within
  · intro before
    have ne : i ≠ j := fun e => i.not_precedes_self (e ▸ before)
    have both : [i, j] ⊆ l := by
      intro k hk
      rcases List.mem_cons.mp hk with rfl | hk
      · exact h.stored.mpr hi
      · exact List.mem_singleton.mp hk ▸ h.stored.mpr hj
    have within : [i, j].Sublist l := List.sublist_of_subperm_of_pairwise
      (List.subperm_of_subset (by simpa using ne) both) (by simpa using before) h.ascending
    exact within.map (·.id)

end Registry

end McpFleet
