/-
  File:      McpFleet/Proofs/Store/Table.lean
  Subject:   The table of a registry: one row for each stored instance.

  The registry keeps an index of names, the table looks through its rows. When
  the index is exact both find the same.

  * `Registry.nameTaken_table`: a name is taken in the table when the index has
    it for another instance.
  * `Registry.findByName?_table`, `Registry.list_table`: the rows that are
    found are the rows of the instances that are found, in the same order.
  * `Registry.insert_table`, `Registry.update_table`: which row is refused.
  * `Registry.put_table`, `Registry.erase_table`: a table that is changed is
    the table of the registry that is changed.
-/
import McpFleet.Proofs.Store.Columns
import McpFleet.Proofs.Store.Index
import McpFleet.Store.Database

namespace McpFleet

/-! ## 1. Changing every value of a dictionary -/

namespace Dict

variable {κ β γ : Type} [SortKey κ]

/-- The dictionary with every value changed. -/
def map (f : β → γ) (d : Dict κ β) : Dict κ γ where
  entries := d.entries.map fun e => (e.1, f e.2)
  ascending := by
    unfold Entries.Ascending
    rw [List.pairwise_map]
    exact d.ascending

theorem get?_map (f : β → γ) (d : Dict κ β) (k : κ) : (d.map f).get? k = (d.get? k).map f := by
  show Entries.get? k (d.entries.map fun e => (e.1, f e.2)) = (Entries.get? k d.entries).map f
  induction d.entries with
  | nil => rfl
  | cons e es ih =>
    obtain ⟨k', v⟩ := e
    rw [List.map_cons]
    unfold Entries.get?
    split
    · rfl
    · exact ih

theorem contains_map (f : β → γ) (d : Dict κ β) (k : κ) :
    (d.map f).contains k = d.contains k := by
  unfold contains
  rw [get?_map, Option.isSome_map]

theorem map_insert (f : β → γ) (d : Dict κ β) (k : κ) (v : β) :
    (d.insert k v).map f = (d.map f).insert k (f v) := by
  refine ext_get? fun k' => ?_
  rw [get?_map, get?_insert, get?_insert, get?_map]
  split <;> rfl

theorem map_erase (f : β → γ) (d : Dict κ β) (k : κ) : (d.erase k).map f = (d.map f).erase k := by
  refine ext_get? fun k' => ?_
  rw [get?_map, get?_erase, get?_erase, get?_map]
  split <;> rfl

theorem values_map (f : β → γ) (d : Dict κ β) : (d.map f).values = d.values.map f := by
  unfold values map
  rw [List.map_map, List.map_map]
  rfl

theorem mem_values {d : Dict κ β} {v : β} : v ∈ d.values ↔ ∃ k, d.get? k = some v := by
  unfold values
  rw [List.mem_map]
  constructor
  · intro parts
    obtain ⟨⟨k, v'⟩, he, rfl⟩ := parts
    exact ⟨k, mem_entries.mp he⟩
  · intro parts
    obtain ⟨k, hk⟩ := parts
    exact ⟨(k, v), mem_entries.mpr hk, rfl⟩

end Dict

/-! ## 2. Looking through the rows -/

namespace Registry

/-- The table of a registry. -/
def table (r : Registry) (columns : Columns) : Table := ⟨columns, r.instances.map Row.ofInstance⟩

variable {r : Registry} {columns : Columns}

theorem contains_table (id : Uuid) :
    (r.table columns).rows.contains id = r.instances.contains id :=
  Dict.contains_map Row.ofInstance r.instances id

theorem nameTakenByOther_eq_true {n : InstanceName} {id : Uuid} :
    r.nameTakenByOther n id = true ↔ ∃ owner, r.names.get? n = some owner ∧ owner ≠ id := by
  unfold nameTakenByOther
  cases r.names.get? n with
  | none => simp
  | some owner => simp

/-- **A name is taken in the table when the index has it for another
    instance.** -/
theorem nameTaken_table (h : r.Exact) (i : Instance) :
    (r.table columns).nameTaken (.ofInstance i) = r.nameTakenByOther i.name i.id := by
  rw [Bool.eq_iff_iff, nameTakenByOther_eq_true]
  unfold Table.nameTaken table Dict.map
  rw [List.any_map, List.any_eq_true]
  constructor
  · intro parts
    obtain ⟨⟨owner, j⟩, mem, other⟩ := parts
    obtain ⟨apart, same⟩ := Bool.and_eq_true_iff.mp other
    have name : j.name = i.name := InstanceName.ext_text (of_decide_eq_true same)
    exact ⟨owner, h.name.mpr ⟨j, Dict.mem_entries.mp mem, name⟩, of_decide_eq_true apart⟩
  · intro parts
    obtain ⟨owner, hn, apart⟩ := parts
    obtain ⟨j, hj, name⟩ := h.name.mp hn
    refine ⟨(owner, j), Dict.mem_entries.mpr hj, Bool.and_eq_true_iff.mpr ⟨?_, ?_⟩⟩
    · exact decide_eq_true apart
    · exact decide_eq_true (congrArg InstanceName.text name)

/-- The first instance of a name is the one that the index has. -/
theorem find?_values (h : r.Exact) (n : InstanceName) :
    (r.instances.values.find? fun i => i.name.text = n.text) = r.findByName? n := by
  cases found : r.instances.values.find? fun i => i.name.text = n.text with
  | some i =>
    have name : i.name = n := InstanceName.ext_text (by simpa using List.find?_some found)
    obtain ⟨id, hi⟩ := Dict.mem_values.mp (List.mem_of_find?_eq_some found)
    obtain rfl := h.key hi
    exact (h.findByName?_eq_some.mpr ⟨hi, name⟩).symm
  | none =>
    cases indexed : r.findByName? n with
    | none => rfl
    | some i =>
      obtain ⟨hi, rfl⟩ := h.findByName?_eq_some.mp indexed
      have absent := List.find?_eq_none.mp found i (Dict.mem_values.mpr ⟨i.id, hi⟩)
      exact absurd (decide_eq_true rfl) absent

theorem findByName?_table (h : r.Exact) {n : InstanceName}
    (taken : columns.checkText n.text = .ok ()) :
    (r.table columns).findByName? n.text = .ok ((r.findByName? n).map Row.ofInstance) := by
  have found : (r.table columns).rows.values.find? (fun row => row.name = n.text) =
      (r.findByName? n).map Row.ofInstance := by
    unfold table
    rw [Dict.values_map, List.find?_map]
    exact congrArg (Option.map Row.ofInstance) (find?_values h n)
  unfold Table.findByName?
  rw [found]
  show (columns.checkText n.text >>= _) = _
  rw [taken]
  rfl

/-- **The rows are listed in the order of their instances.** -/
theorem list_table : (r.table columns).list = r.list.map Row.ofInstance := by
  unfold Table.list Registry.list table sortRows sortInstances
  rw [Dict.values_map, List.map_mergeSort]
  exact fun _ _ _ _ => rfl

/-! ## 3. Statements -/

/-- Names of enumerations fit their columns, and so does a normal name. -/
theorem checkWidths_ofInstance {i : Instance} (h : i.name.IsNormal) :
    Table.checkWidths (.ofInstance i) = .ok () := by
  have access : i.access.name.length ≤ 20 := by cases i.access <;> decide
  have protocol : i.protocol.name.length ≤ 32 := by cases i.protocol <;> decide
  have status : i.status.name.length ≤ 20 := by cases i.status <;> decide
  have fits : (Table.widths (.ofInstance i)).find? (fun w => w.2 < w.1.length) = none := by
    rw [List.find?_eq_none]
    unfold Table.widths
    simp only [List.forall_mem_cons, decide_eq_true_eq, Nat.not_lt]
    exact ⟨h.2.1, access, protocol, status, List.forall_mem_nil _⟩
  unfold Table.checkWidths
  rw [fits]

variable {i : Instance}

theorem checkName_table (h : r.Exact) (i : Instance) :
    (r.table columns).checkName (.ofInstance i) =
      if r.nameTakenByOther i.name i.id then .error (.duplicateKey Table.nameIndex)
      else .ok () := by
  unfold Table.checkName
  rw [nameTaken_table h i]

/-- **A row that the columns take is refused for its identifier first, then for
    its name.** -/
theorem insert_table (h : r.Exact) (hn : i.name.IsNormal)
    (taken : columns.check (.ofInstance i) = .ok ()) :
    (r.table columns).insert (.ofInstance i) =
      if r.instances.contains i.id then .error (.duplicateKey Table.primaryKey)
      else if r.nameTakenByOther i.name i.id then .error (.duplicateKey Table.nameIndex)
      else .ok ((r.table columns).put (.ofInstance i)) := by
  have key : (r.table columns).rows.contains (Row.ofInstance i).id = r.instances.contains i.id :=
    contains_table i.id
  have taken' : (r.table columns).columns.check (.ofInstance i) = .ok () := taken
  unfold Table.insert
  rw [taken', checkWidths_ofInstance hn, checkName_table h, key]
  cases r.instances.contains i.id with
  | true => rfl
  | false => cases r.nameTakenByOther i.name i.id <;> rfl

/-- **A row that is not there is not changed, whatever its name.** -/
theorem update_table (h : r.Exact) (hn : i.name.IsNormal)
    (taken : columns.check (.ofInstance i) = .ok ()) :
    (r.table columns).update (.ofInstance i) =
      if r.instances.contains i.id then
        if r.nameTakenByOther i.name i.id then .error (.duplicateKey Table.nameIndex)
        else .ok ((r.table columns).put (.ofInstance i), 1)
      else .ok (r.table columns, 0) := by
  have key : (r.table columns).rows.contains (Row.ofInstance i).id = r.instances.contains i.id :=
    contains_table i.id
  have taken' : (r.table columns).columns.check (.ofInstance i) = .ok () := taken
  unfold Table.update
  rw [taken', checkWidths_ofInstance hn, checkName_table h, key]
  cases r.instances.contains i.id with
  | true => cases r.nameTakenByOther i.name i.id <;> rfl
  | false => rfl

/-- What the columns do not take is neither inserted nor looked for. -/
theorem insert_refused {e : DatabaseError} (refused : columns.check (.ofInstance i) = .error e) :
    (r.table columns).insert (.ofInstance i) = .error e := by
  have refused' : (r.table columns).columns.check (.ofInstance i) = .error e := refused
  unfold Table.insert
  rw [refused']
  rfl

theorem update_refused {e : DatabaseError} (refused : columns.check (.ofInstance i) = .error e) :
    (r.table columns).update (.ofInstance i) = .error e := by
  have refused' : (r.table columns).columns.check (.ofInstance i) = .error e := refused
  unfold Table.update
  rw [refused']
  rfl

/-- **The table with a row put in is the table of the registry with the times
    of the instance cut.** -/
theorem put_table {r' : Registry} (h : r'.instances = r.instances.insert i.id i.cutTimes) :
    (r.table columns).put (.ofInstance i) = r'.table columns := by
  unfold Table.put table
  rw [h, Dict.map_insert]
  rfl

theorem erase_table {r' : Registry} {id : Uuid} (h : r'.instances = r.instances.erase id) :
    (⟨columns, (r.table columns).rows.erase id⟩ : Table) = r'.table columns := by
  unfold table
  rw [h, Dict.map_erase]

end Registry

end McpFleet
