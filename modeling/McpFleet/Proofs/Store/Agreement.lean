/-
  File:      McpFleet/Proofs/Store/Agreement.lean
  Subject:   The two stores of instances answer every sequence of calls alike.

  The registry is the specification: a database answers as a registry does
  behind the columns of the table (`Registry.serveBehind`). What columns do not
  take is refused and does not reach the registry, the registry is handed
  instances with their times cut, and the instances in its answers come back
  as columns give them back. The relation between the two stores is a function:
  the database that belongs to a registry is the one that holds its table
  (`Registry.database`).

  * `Registry.Kept`: the index is exact, and every stored instance is one of
    those that are handed over.
  * `create_alike`, `update_alike`, `delete_alike`: both stores refuse a change
    for the same reason, or both make it, and then the table is again the
    table of the registry.
  * **`serve_database`**: one call. **`answers_database`**: every sequence of
    calls.
  * **`stores_agree`**: what this says of two stores that start empty, and of
    instances whose documents have no fractions.
-/
import McpFleet.Proofs.Store.Table

namespace McpFleet

/-! ## 1. Calls to a store -/

/-- One call to a store. -/
inductive StoreCall where
  | create (i : Instance)
  | update (i : Instance)
  | delete (id : Uuid)
  | find (id : Uuid)
  | findByName (name : InstanceName)
  | list

/-- What a store answers when it does not refuse. -/
inductive StoreReply where
  | done
  | found (i : Option Instance)
  | listed (is : List Instance)
deriving DecidableEq

namespace StoreCall

/-- The instance that a call hands over. -/
def handed? : StoreCall → Option Instance
  | create i => some i
  | update i => some i
  | _ => none

/-- The call with another instance handed over. -/
def withHanded (f : Instance → Instance) : StoreCall → StoreCall
  | create i => create (f i)
  | update i => update (f i)
  | c => c

/-- What columns say of the values that a call hands over. -/
def check (columns : Columns) : StoreCall → Except DatabaseError Unit
  | create i => columns.check (.ofInstance i)
  | update i => columns.check (.ofInstance i)
  | findByName name => columns.checkText name.text
  | _ => .ok ()

/-- No text that is handed over holds U+0000, and no time is before the first
    one that can be kept. -/
def Storable : StoreCall → Prop
  | create i => i.Storable
  | update i => i.Storable
  | findByName name => Text.hasZero name.text = false
  | _ => True

/-- **What can be stored is taken by every kind of columns.** -/
theorem check_of_storable {c : StoreCall} (h : c.Storable) (columns : Columns) :
    c.check columns = .ok () := by
  cases c with
  | create i => exact Columns.check_ofInstance.mpr fun _ => h
  | update i => exact Columns.check_ofInstance.mpr fun _ => h
  | findByName name => exact Columns.checkText_eq_ok.mpr fun _ => h
  | delete | find | list => rfl

end StoreCall

/-- A reply with its instances as columns give them back. -/
def StoreReply.givenBack (columns : Columns) : StoreReply → Except StoreError StoreReply
  | done => .ok done
  | found i => (i.mapM (Instance.givenBack columns)).map found
  | listed is => (is.mapM (Instance.givenBack columns)).map listed

namespace Registry

/-- What a change is answered with; one that is refused changes nothing. -/
def afterChange (r : Registry) :
    Except StoreError Registry → Except StoreError StoreReply × Registry
  | .ok r' => (.ok .done, r')
  | .error e => (.error e, r)

def serve (r : Registry) : StoreCall → Except StoreError StoreReply × Registry
  | .create i => r.afterChange (r.create i)
  | .update i => r.afterChange (r.update i)
  | .delete id => r.afterChange (r.delete id)
  | .find id => (.ok (.found (r.find? id)), r)
  | .findByName name => (.ok (.found (r.findByName? name)), r)
  | .list => (.ok (.listed r.list), r)

/-- The answers to calls that are made one after another. -/
def answers (r : Registry) : List StoreCall → List (Except StoreError StoreReply)
  | [] => []
  | c :: cs => (r.serve c).1 :: (r.serve c).2.answers cs

/-- **One call to a registry behind columns.** A value that they do not take is
    refused; else the registry is called with the times cut, and its answer
    comes back through them. -/
def serveBehind (columns : Columns) (r : Registry) (c : StoreCall) :
    Except StoreError StoreReply × Registry :=
  match c.check columns with
  | .error e => (.error (.persistence e.message), r)
  | .ok () =>
    let served := r.serve (c.withHanded Instance.cutTimes)
    (served.1.bind (StoreReply.givenBack columns), served.2)

/-- The answers to calls that are made one after another. -/
def answersBehind (columns : Columns) (r : Registry) :
    List StoreCall → List (Except StoreError StoreReply)
  | [] => []
  | c :: cs =>
    (r.serveBehind columns c).1 :: (r.serveBehind columns c).2.answersBehind columns cs

end Registry

namespace Database

/-- An answer of the database as a reply. -/
def reply {α : Type} (wrap : α → StoreReply) (a : Except StoreError α × Database) :
    Except StoreError StoreReply × Database := (a.1.map wrap, a.2)

def serve (d : Database) : StoreCall → Except StoreError StoreReply × Database
  | .create i => reply (fun _ => .done) (d.create i)
  | .update i => reply (fun _ => .done) (d.update i)
  | .delete id => reply (fun _ => .done) (d.delete id)
  | .find id => reply .found (d.find id)
  | .findByName name => reply .found (d.findByName name)
  | .list => reply .listed d.list

/-- The answers to calls that are made one after another. -/
def answers (d : Database) : List StoreCall → List (Except StoreError StoreReply)
  | [] => []
  | c :: cs => (d.serve c).1 :: (d.serve c).2.answers cs

end Database

/-! ## 2. The invariant -/

namespace Registry

/-- What a registry keeps that is handed instances with the property only. -/
structure Kept (P : Instance → Prop) (r : Registry) : Prop where
  exact : r.Exact
  each : ∀ {id i}, r.find? id = some i → P i

variable {P : Instance → Prop} {columns : Columns}

theorem kept_empty : empty.Kept P := ⟨exact_empty, fun h => nomatch h⟩

/-- The database that belongs to a registry: in reach, and with its table. -/
def database (r : Registry) (columns : Columns) : Database := ⟨r.table columns, true, none⟩

variable {r r' : Registry} {i : Instance} {id : Uuid}

theorem Kept.insert (h : r.Kept P) (hp : P i) (exact : r'.Exact)
    (e : r'.instances = r.instances.insert i.id i) : r'.Kept P where
  exact := exact
  each {id j} hj := by
    unfold find? at hj
    rw [e, Dict.get?_insert] at hj
    split at hj
    · exact Option.some.inj hj ▸ hp
    · exact h.each hj

theorem Kept.erase (h : r.Kept P) (exact : r'.Exact) (e : r'.instances = r.instances.erase id) :
    r'.Kept P where
  exact := exact
  each {id' j} hj := by
    unfold find? at hj
    rw [e, Dict.get?_erase] at hj
    split at hj
    · cases hj
    · exact h.each hj

/-- What is found has the property. -/
theorem Kept.of_findByName (h : r.Kept P) {n : InstanceName} (hi : r.findByName? n = some i) :
    P i :=
  h.each (h.exact.findByName?_eq_some.mp hi).1

theorem Kept.of_mem_list (h : r.Kept P) (hi : i ∈ r.list) : P i := by
  obtain ⟨id, stored⟩ := Dict.mem_values.mp (List.mem_mergeSort.mp hi)
  exact h.each stored

/-! ## 3. Changes -/

section Statements

variable {α : Type} {run : Table → Except DatabaseError (Table × α)}

theorem statement_refused (meaning : DatabaseError → StoreError) {e : DatabaseError}
    (h : run (r.table columns) = .error e) :
    (r.database columns).statement run meaning = (.error (meaning e), r.database columns) := by
  unfold Database.statement database
  simp only [Bool.not_true, Bool.false_eq_true, if_false, h]

theorem statement_made (meaning : DatabaseError → StoreError) {t : Table} {a : α}
    (h : run (r.table columns) = .ok (t, a)) :
    (r.database columns).statement run meaning = (.ok a, ⟨t, true, none⟩) := by
  unfold Database.statement database
  simp only [Bool.not_true, Bool.false_eq_true, if_false, h]

end Statements

/-- Both stores refuse a change for the same reason, or both make it. -/
inductive Alike (P : Instance → Prop) (columns : Columns) (r : Registry)
    (answer : Except StoreError Unit × Database) : Except StoreError Registry → Prop where
  | refused {e : StoreError} (h : answer = (.error e, r.database columns)) :
    Alike P columns r answer (.error e)
  | made {r' : Registry} (kept : r'.Kept P) (h : answer = (.ok (), r'.database columns)) :
    Alike P columns r answer (.ok r')

theorem find?_of_contains (h : r.instances.contains id = true) : ∃ i, r.find? id = some i :=
  Option.isSome_iff_exists.mp h

theorem find?_of_not_contains (h : r.instances.contains id = false) : r.find? id = none :=
  Option.isNone_iff_eq_none.mp (Option.isSome_eq_false_iff.mp h)

/-- A name that is not taken by another instance has this one as its owner, if
    any. -/
theorem owner_of_not_taken {n : InstanceName} (h : r.nameTakenByOther n id = false) {owner : Uuid}
    (hn : r.names.get? n = some owner) : owner = id := by
  refine Decidable.byContradiction fun other => ?_
  rw [nameTakenByOther_eq_true.mpr ⟨owner, hn, other⟩] at h
  cases h

theorem database_create_refused {e : DatabaseError}
    (row : (r.table columns).insert (.ofInstance i) = .error e) :
    (r.database columns).create i =
      (.error (Database.createFailure i e), r.database columns) :=
  statement_refused _ (by rw [row]; rfl)

theorem database_create_made
    (row : (r.table columns).insert (.ofInstance i) = .ok (r'.table columns)) :
    (r.database columns).create i = (.ok (), r'.database columns) :=
  statement_made _ (by rw [row]; rfl)

/-- **Creating.** An identifier that is taken is found before a name that is
    taken. -/
theorem create_alike (h : r.Kept P) (hn : i.name.IsNormal) (hp : P i.cutTimes)
    (taken : columns.check (.ofInstance i) = .ok ()) :
    Alike P columns r ((r.database columns).create i) (r.create i.cutTimes) := by
  have row := insert_table h.exact hn taken
  cases present : r.instances.contains i.id with
  | true =>
    rw [present, if_pos rfl] at row
    have refused : r.create i.cutTimes = .error (.duplicateInstance i.id) := by
      unfold create
      exact if_pos present
    rw [refused]
    exact .refused (database_create_refused row)
  | false =>
    rw [present, if_neg Bool.false_ne_true] at row
    cases taken : r.nameTakenByOther i.name i.id with
    | true =>
      rw [taken, if_pos rfl] at row
      obtain ⟨owner, hn', -⟩ := nameTakenByOther_eq_true.mp taken
      have indexed : r.names.contains i.name = true := Option.isSome_iff_exists.mpr ⟨owner, hn'⟩
      have refused : r.create i.cutTimes = .error (.duplicateName i.name) := by
        unfold create
        exact (if_neg (Bool.eq_false_iff.mp present)).trans (if_pos indexed)
      rw [refused]
      exact .refused (database_create_refused row)
    | false =>
      rw [taken, if_neg Bool.false_ne_true] at row
      have absent : r.find? i.id = none := find?_of_not_contains present
      have free : r.names.get? i.name = none := by
        refine Option.eq_none_iff_forall_ne_some.mpr fun owner hn' => ?_
        obtain ⟨j, hj, -⟩ := h.exact.name.mp hn'
        rw [owner_of_not_taken taken hn', absent] at hj
        cases hj
      obtain ⟨r', made, instances, exact'⟩ := create_spec (i := i.cutTimes) h.exact absent free
      rw [made]
      rw [put_table instances] at row
      exact .made (h.insert (i := i.cutTimes) hp exact' instances) (database_create_made row)

theorem database_update_refused {e : DatabaseError}
    (row : (r.table columns).update (.ofInstance i) = .error e) :
    (r.database columns).update i =
      (.error (Database.updateFailure i e), r.database columns) := by
  unfold Database.update
  rw [statement_refused _ row]
  rfl

theorem database_update_absent
    (row : (r.table columns).update (.ofInstance i) = .ok (r.table columns, 0)) :
    (r.database columns).update i = (.error (.notFound i.id), r.database columns) := by
  unfold Database.update
  rw [statement_made _ row]
  rfl

theorem database_update_made
    (row : (r.table columns).update (.ofInstance i) = .ok (r'.table columns, 1)) :
    (r.database columns).update i = (.ok (), r'.database columns) := by
  unfold Database.update
  rw [statement_made _ row]
  rfl

/-- **Updating.** An instance that is not there is reported before a name that
    is taken. -/
theorem update_alike (h : r.Kept P) (hn : i.name.IsNormal) (hp : P i.cutTimes)
    (taken : columns.check (.ofInstance i) = .ok ()) :
    Alike P columns r ((r.database columns).update i) (r.update i.cutTimes) := by
  have row := update_table h.exact hn taken
  cases present : r.instances.contains i.id with
  | false =>
    rw [present, if_neg Bool.false_ne_true] at row
    have absent : r.instances.get? i.cutTimes.id = none := find?_of_not_contains present
    have refused : r.update i.cutTimes = .error (.notFound i.id) := by
      unfold update
      rw [absent]
      rfl
    rw [refused]
    exact .refused (database_update_absent row)
  | true =>
    rw [present, if_pos rfl] at row
    obtain ⟨s, stored⟩ := find?_of_contains present
    cases taken : r.nameTakenByOther i.name i.id with
    | true =>
      rw [taken, if_pos rfl] at row
      obtain ⟨owner, indexed, other⟩ := nameTakenByOther_eq_true.mp taken
      -- the stored instance has another name, or its identifier would be the owner
      have renamed : i.cutTimes.name ≠ s.name := by
        intro same
        have own : r.names.get? i.name = some i.id := h.exact.name.mpr ⟨s, stored, same.symm⟩
        exact other (Option.some.inj (indexed.symm.trans own))
      have stored' : r.instances.get? i.cutTimes.id = some s := stored
      have refused : r.update i.cutTimes = .error (.duplicateName i.name) := by
        unfold update
        rw [stored']
        exact (if_neg renamed).trans (if_pos taken)
      rw [refused]
      exact .refused (database_update_refused row)
    | false =>
      rw [taken, if_neg Bool.false_ne_true] at row
      have free (owner : Uuid) (indexed : r.names.get? i.cutTimes.name = some owner) :
          owner = i.cutTimes.id := owner_of_not_taken taken indexed
      obtain ⟨r', made, instances, exact'⟩ := update_spec (i := i.cutTimes) h.exact stored free
      rw [made]
      rw [put_table instances] at row
      exact .made (h.insert (i := i.cutTimes) hp exact' instances) (database_update_made row)

/-- **Deleting.** -/
theorem delete_alike (h : r.Kept P) (id : Uuid) :
    Alike P columns r ((r.database columns).delete id) (r.delete id) := by
  have row : (.ok ((r.table columns).delete id) : Except DatabaseError (Table × Nat)) =
      .ok (if r.instances.contains id then
        (⟨columns, (r.table columns).rows.erase id⟩, 1) else (r.table columns, 0)) := by
    unfold Table.delete
    rw [contains_table]
    rfl
  unfold Database.delete
  cases present : r.instances.contains id with
  | false =>
    rw [present, if_neg Bool.false_ne_true] at row
    have absent : r.instances.get? id = none := find?_of_not_contains present
    have refused : r.delete id = .error (.notFound id) := by
      unfold delete
      rw [absent]
    rw [refused, statement_made _ row]
    exact .refused rfl
  | true =>
    obtain ⟨s, stored⟩ := find?_of_contains present
    obtain ⟨r', made, instances, exact'⟩ := delete_spec h.exact stored
    rw [present, if_pos rfl, erase_table instances] at row
    rw [made, statement_made _ row]
    exact .made (h.erase exact' instances) rfl

/-! ## 4. Looking up -/

/-- Rows of instances are read as the rows of what comes back of these. -/
theorem mapM_readRow (columns : Columns) (is : List Instance) :
    (is.map Row.ofInstance).mapM columns.readRow =
      (is.mapM (Instance.givenBack columns)).map (List.map Row.ofInstance) := by
  induction is with
  | nil => rfl
  | cons i is ih =>
    rw [List.map_cons, List.mapM_cons, List.mapM_cons, Columns.readRow_ofInstance, ih]
    cases i.givenBack columns with
    | error e => rfl
    | ok j => cases is.mapM (Instance.givenBack columns) <;> rfl

/-- The rows of instances with normal names read as these instances. -/
theorem mapM_toInstance {is : List Instance} (h : ∀ i ∈ is, i.name.IsNormal) :
    (is.map Row.ofInstance).mapM (fun row => row.toInstance.mapError StoreError.invalidData) =
      .ok is := by
  induction is with
  | nil => rfl
  | cons i is ih =>
    obtain ⟨first, others⟩ := List.forall_mem_cons.mp h
    rw [List.map_cons, List.mapM_cons, Row.toInstance_ofInstance first, ih others]
    rfl

/-- What comes back has normal names when what went in had. -/
theorem normal_givenBack {is js : List Instance} (h : ∀ i ∈ is, i.name.IsNormal)
    (back : is.mapM (Instance.givenBack columns) = .ok js) : ∀ j ∈ js, j.name.IsNormal := by
  induction is generalizing js with
  | nil =>
    cases back
    exact fun _ hj => nomatch hj
  | cons i is ih =>
    obtain ⟨first, others⟩ := List.forall_mem_cons.mp h
    rw [List.mapM_cons] at back
    obtain ⟨k, hk, back⟩ := bind_eq_ok.mp back
    obtain ⟨ks, hks, back⟩ := bind_eq_ok.mp back
    cases back
    refine List.forall_mem_cons.mpr ⟨?_, ih others hks⟩
    rw [Instance.name_givenBack hk]
    exact first

/-- A statement that selects the rows of instances gives what comes back of
    them. -/
theorem query_database {run : Table → Except DatabaseError (List Row)} {is : List Instance}
    (h : ∀ i ∈ is, i.name.IsNormal) (rows : run (r.table columns) = .ok (is.map Row.ofInstance)) :
    (r.database columns).query run =
      (is.mapM (Instance.givenBack columns), r.database columns) := by
  have read : Database.readInstances columns (is.map Row.ofInstance) =
      is.mapM (Instance.givenBack columns) := by
    unfold Database.readInstances
    rw [mapM_readRow]
    cases back : is.mapM (Instance.givenBack columns) with
    | error e => rfl
    | ok js => exact mapM_toInstance (normal_givenBack h back)
  unfold Database.query
  rw [statement_made (t := r.table columns) (a := is.map Row.ofInstance) _ (by rw [rows]; rfl)]
  exact congrArg (·, r.database columns) read

/-- One instance at most. -/
theorem head?_mapM {ε α β : Type} (f : α → Except ε β) (o : Option α) :
    (o.toList.mapM f).map List.head? = o.mapM f := by
  cases o with
  | none => rfl
  | some a =>
    show (f a >>= fun b => pure [b]).map List.head? = f a >>= fun b => pure (some b)
    cases f a <;> rfl

theorem find_database (h : r.Kept P) (normal : ∀ {i}, P i → i.name.IsNormal) (id : Uuid) :
    (r.database columns).find id =
      ((r.find? id).mapM (Instance.givenBack columns), r.database columns) := by
  have rows : ((r.table columns).rows.get? id).toList =
      (r.find? id).toList.map Row.ofInstance := by
    show ((r.instances.map Row.ofInstance).get? id).toList = _
    rw [Dict.get?_map, Option.toList_map]
    rfl
  have names : ∀ i ∈ (r.find? id).toList, i.name.IsNormal := fun i hi =>
    normal (h.each (Option.mem_toList.mp hi))
  unfold Database.find
  rw [query_database names (congrArg Except.ok rows)]
  exact congrArg (·, r.database columns) (head?_mapM _ _)

theorem findByName_database (h : r.Kept P) (normal : ∀ {i}, P i → i.name.IsNormal)
    {n : InstanceName} (taken : columns.checkText n.text = .ok ()) :
    (r.database columns).findByName n =
      ((r.findByName? n).mapM (Instance.givenBack columns), r.database columns) := by
  have rows : ((r.table columns).findByName? n.text).map Option.toList =
      .ok ((r.findByName? n).toList.map Row.ofInstance) := by
    rw [findByName?_table h.exact taken, ← Option.toList_map]
    rfl
  have names : ∀ i ∈ (r.findByName? n).toList, i.name.IsNormal := fun i hi =>
    normal (h.of_findByName (Option.mem_toList.mp hi))
  unfold Database.findByName
  rw [query_database names rows]
  exact congrArg (·, r.database columns) (head?_mapM _ _)

theorem list_database (h : r.Kept P) (normal : ∀ {i}, P i → i.name.IsNormal) :
    (r.database columns).list = (r.list.mapM (Instance.givenBack columns), r.database columns) :=
  query_database (fun _ hi => normal (h.of_mem_list hi)) (congrArg Except.ok list_table)

/-! ## 5. Values that columns do not take -/

/-- Such a value is no unique violation, so the refusal is a failure. -/
theorem failure_of_check {row : Row} {e : DatabaseError} (refused : columns.check row = .error e) :
    Database.createFailure i e = .persistence e.message ∧
      Database.updateFailure i e = .persistence e.message := by
  have other : e.code ≠ DatabaseError.uniqueViolation := Columns.notUnique_check row e refused
  unfold Database.createFailure Database.updateFailure Database.isNameViolation
  simp [other, Database.failure]

/-- **What columns do not take is refused**, and nothing is changed. -/
theorem serve_refused_by_columns {c : StoreCall} {e : DatabaseError}
    (refused : c.check columns = .error e) :
    (r.database columns).serve c = (.error (.persistence e.message), r.database columns) := by
  cases c with
  | create i =>
    have answer := database_create_refused (r := r) (insert_refused refused)
    rw [(failure_of_check refused).1] at answer
    exact congrArg (Database.reply fun _ => .done) answer
  | update i =>
    have answer := database_update_refused (r := r) (update_refused refused)
    rw [(failure_of_check refused).2] at answer
    exact congrArg (Database.reply fun _ => .done) answer
  | findByName n =>
    have selected : (r.table columns).findByName? n.text = .error e := by
      unfold Table.findByName?
      show (columns.checkText n.text >>= _) = _
      rw [show columns.checkText n.text = .error e from refused]
      rfl
    have answer : (r.database columns).findByName n =
        (.error (.persistence e.message), r.database columns) := by
      unfold Database.findByName Database.query
      rw [statement_refused _ (by simp only [selected]; rfl)]
      rfl
    exact congrArg (Database.reply .found) answer
  | delete | find | list => cases refused

/-! ## 6. Agreement -/

/-- A change that both stores take alike is answered alike, and what is behind
    it belongs together. -/
theorem Alike.reply {answer : Except StoreError Unit × Database}
    {result : Except StoreError Registry} (h : r.Kept P) (a : Alike P columns r answer result) :
    Database.reply (fun _ => .done) answer =
        ((r.afterChange result).1.bind (StoreReply.givenBack columns),
          (r.afterChange result).2.database columns) ∧
      (r.afterChange result).2.Kept P := by
  cases a with
  | refused e => exact ⟨by rw [e]; rfl, h⟩
  | made kept e => exact ⟨by rw [e]; rfl, kept⟩

/-- The answer to a look-up. -/
theorem reply_lookup {α : Type} {wrap : α → StoreReply} {o : Except StoreError α}
    {a : Except StoreError α × Database} (e : a = (o, r.database columns)) :
    Database.reply wrap a = (o.map wrap, r.database columns) := by
  rw [e]
  rfl

theorem serveBehind_of_taken {c : StoreCall} (taken : c.check columns = .ok ()) :
    r.serveBehind columns c =
      ((r.serve (c.withHanded Instance.cutTimes)).1.bind (StoreReply.givenBack columns),
        (r.serve (c.withHanded Instance.cutTimes)).2) := by
  unfold serveBehind
  rw [taken]

/-- **One call.** The database answers as its registry does behind the columns,
    and belongs to that registry again. -/
theorem serve_database (h : r.Kept P) (normal : ∀ {i}, P i → i.name.IsNormal) (c : StoreCall)
    (handed : ∀ i ∈ c.handed?, P i.cutTimes) :
    (r.database columns).serve c =
        ((r.serveBehind columns c).1, (r.serveBehind columns c).2.database columns) ∧
      (r.serveBehind columns c).2.Kept P := by
  cases taken : c.check columns with
  | error e =>
    -- the registry is not called, and no row is looked at
    have same : r.serveBehind columns c = (.error (.persistence e.message), r) := by
      unfold serveBehind
      rw [taken]
    rw [same]
    exact ⟨serve_refused_by_columns taken, h⟩
  | ok _ =>
    rw [serveBehind_of_taken taken]
    cases c with
    | create i =>
      have hp : P i.cutTimes := handed i rfl
      have hn : i.cutTimes.name.IsNormal := normal hp
      exact (create_alike (i := i) h hn hp taken).reply h
    | update i =>
      have hp : P i.cutTimes := handed i rfl
      have hn : i.cutTimes.name.IsNormal := normal hp
      exact (update_alike (i := i) h hn hp taken).reply h
    | delete id => exact (delete_alike h id).reply h
    | find id => exact ⟨reply_lookup (find_database h normal id), h⟩
    | findByName n => exact ⟨reply_lookup (findByName_database h normal taken), h⟩
    | list => exact ⟨reply_lookup (list_database h normal), h⟩

/-- **Every sequence of calls.** -/
theorem answers_database (h : r.Kept P) (normal : ∀ {i}, P i → i.name.IsNormal)
    (cs : List StoreCall) (handed : ∀ c ∈ cs, ∀ i ∈ c.handed?, P i.cutTimes) :
    (r.database columns).answers cs = r.answersBehind columns cs := by
  induction cs generalizing r with
  | nil => rfl
  | cons c cs ih =>
    obtain ⟨first, others⟩ := List.forall_mem_cons.mp handed
    obtain ⟨same, kept⟩ := serve_database h normal c first
    unfold Database.answers Registry.answersBehind
    rw [same, ih kept others]

/-! ## 7. Instances without fractions -/

/-- Instances without fractions all come back as they were. -/
theorem mapM_givenBack_of_whole {is : List Instance} (h : ∀ i ∈ is, i.Whole) :
    is.mapM (Instance.givenBack columns) = .ok is := by
  induction is with
  | nil => rfl
  | cons i is ih =>
    obtain ⟨first, others⟩ := List.forall_mem_cons.mp h
    rw [List.mapM_cons, Instance.givenBack_of_whole first, ih others]
    rfl

/-- So does an instance that is found. -/
theorem givenBack_found {o : Option Instance} (h : ∀ i ∈ o, i.Whole) :
    (StoreReply.found o).givenBack columns = .ok (.found o) := by
  cases o with
  | none => rfl
  | some i =>
    show (Instance.givenBack columns i >>= fun j => pure (some j)).map StoreReply.found = _
    rw [Instance.givenBack_of_whole (h i rfl)]
    rfl

/-- **Nothing stands between the caller and a registry of instances without
    fractions**, but for the times. -/
theorem serveBehind_of_whole (h : r.Kept P) (whole : ∀ {i}, P i → i.Whole) {c : StoreCall}
    (taken : c.check columns = .ok ()) :
    r.serveBehind columns c = r.serve (c.withHanded Instance.cutTimes) := by
  have change (result : Except StoreError Registry) :
      ((r.afterChange result).1.bind (StoreReply.givenBack columns), (r.afterChange result).2) =
        r.afterChange result := by
    cases result <;> rfl
  rw [serveBehind_of_taken taken]
  cases c with
  | create i => exact change _
  | update i => exact change _
  | delete id => exact change _
  | find id =>
    exact congrArg (·, r) (givenBack_found fun i hi => whole (h.each hi))
  | findByName n =>
    exact congrArg (·, r) (givenBack_found fun i hi => whole (h.of_findByName hi))
  | list =>
    have back : (StoreReply.listed r.list).givenBack columns = .ok (.listed r.list) :=
      congrArg (Except.map StoreReply.listed)
        (mapM_givenBack_of_whole fun i hi => whole (h.of_mem_list hi))
    exact congrArg (·, r) back

/-- **Every sequence of calls** with instances without fractions. -/
theorem answersBehind_of_whole (h : r.Kept P) (normal : ∀ {i}, P i → i.name.IsNormal)
    (whole : ∀ {i}, P i → i.Whole) (cs : List StoreCall) (storable : ∀ c ∈ cs, c.Storable)
    (handed : ∀ c ∈ cs, ∀ i ∈ c.handed?, P i.cutTimes) :
    r.answersBehind columns cs = r.answers (cs.map (·.withHanded Instance.cutTimes)) := by
  induction cs generalizing r with
  | nil => rfl
  | cons c cs ih =>
    obtain ⟨first, others⟩ := List.forall_mem_cons.mp handed
    obtain ⟨taken, takenLater⟩ := List.forall_mem_cons.mp storable
    have kept : (r.serveBehind columns c).2.Kept P := (serve_database h normal c first).2
    have same : r.serveBehind columns c = r.serve (c.withHanded Instance.cutTimes) :=
      serveBehind_of_whole h whole (StoreCall.check_of_storable taken columns)
    rw [same] at kept
    rw [List.map_cons]
    unfold Registry.answersBehind Registry.answers
    rw [same, ih kept takenLater others]

end Registry

/-- **The two stores agree.** Both start empty, and the columns of the table are
    of either kind. Every call on the database is answered as the same call on
    the registry behind the columns: values that they do not take are refused,
    times are cut, and documents come back as the columns give them back. When
    all values can be stored and no document has a fraction, cutting the times
    is all. -/
theorem stores_agree (columns : Columns) (cs : List StoreCall)
    (normal : ∀ c ∈ cs, ∀ i ∈ c.handed?, i.name.IsNormal) :
    (Database.empty columns).answers cs = Registry.empty.answersBehind columns cs ∧
      ((∀ c ∈ cs, c.Storable) → (∀ c ∈ cs, ∀ i ∈ c.handed?, i.Whole) →
        (Database.empty columns).answers cs =
          Registry.empty.answers (cs.map (·.withHanded Instance.cutTimes))) := by
  have agree : (Database.empty columns).answers cs = Registry.empty.answersBehind columns cs :=
    Registry.answers_database (P := fun i => i.name.IsNormal) Registry.kept_empty id cs normal
  refine ⟨agree, fun storable whole => ?_⟩
  have handed : ∀ c ∈ cs, ∀ i ∈ c.handed?, i.cutTimes.name.IsNormal ∧ i.cutTimes.Whole := by
    intro c hc i hi
    have documents := whole c hc i hi
    exact ⟨normal c hc i hi, documents.source, documents.target, documents.publicProxy⟩
  rw [agree]
  exact Registry.answersBehind_of_whole (P := fun i => i.name.IsNormal ∧ i.Whole)
    Registry.kept_empty And.left And.right cs storable handed

/-! ## 8. Two runs -/

/-- An instance, created between two microseconds. -/
def sampleInstance (id : Uuid) (name : String) (source : Document) : Instance where
  id := id
  name := ⟨name⟩
  access := .proxy
  protocol := .sse
  source := source
  target := .ofJson .null
  publicProxy := .ofJson (.text "http://fleet")
  status := .active
  container := none
  message := some "ready"
  createdAt := ⟨0, 1500⟩
  updatedAt := ⟨1, 2500⟩

theorem storable_sampleInstance {id : Uuid} {name : String} {source : Document}
    (text : Text.hasZero name = false) (document : source.tree.anyText Text.hasZero = false) :
    (sampleInstance id name source).Storable where
  name := text
  source := document
  target := rfl
  publicProxy := rfl
  container := nofun
  message := fun _ hs => Option.some.inj hs ▸ rfl
  createdAt := by show Columns.firstMicro ≤ (Instant.mk 0 1500).microsSince2000; decide
  updatedAt := by show Columns.firstMicro ≤ (Instant.mk 1 2500).microsSince2000; decide

/-- Names and identifiers are taken, given free, and not there. -/
def sampleCalls : List StoreCall :=
  let instanceOf (id : Nat) (name : String) : Instance :=
    sampleInstance ⟨.ofNat 128 id⟩ name (.ofJson (.array [.integer 8000, .null]))
  [.create (instanceOf 7 "files"), .create (instanceOf 7 "files"), .create (instanceOf 8 "files"),
    .update (instanceOf 9 "files"), .create (instanceOf 8 "search"),
    .update (instanceOf 8 "files"), .update (instanceOf 7 "mail"), .update (instanceOf 8 "files"),
    .find ⟨7⟩, .findByName ⟨"files"⟩, .findByName ⟨"search"⟩, .delete ⟨7⟩, .delete ⟨7⟩, .list]

/-- U+0000 in a name, a large number, and lists nested 128 deep. -/
def oddCalls : List StoreCall :=
  let nested : Json := (List.range 128).foldl (fun j _ => .array [j]) .null
  [.create (sampleInstance ⟨7⟩ "fi\x00les" (.ofJson .null)),
    .create (sampleInstance ⟨7⟩ "files" (.ofJson (.real ⟨false, 5000000000000000, 1⟩))),
    .find ⟨7⟩, .findByName ⟨"fi\x00les"⟩, .list,
    .create (sampleInstance ⟨8⟩ "search" (.ofJson nested)),
    .find ⟨7⟩, .find ⟨8⟩, .delete ⟨8⟩, .list]

theorem stores_agree_sampleCalls :
    (∀ c ∈ oddCalls, ∀ i ∈ c.handed?, i.name.IsNormal) ∧
      (Database.empty .typed).answers oddCalls = Registry.empty.answersBehind .typed oddCalls ∧
      ((Database.empty .typed).answers oddCalls).map (·.toBool) =
        [false, true, true, false, true, true, true, false, true, true] ∧
      (∀ c ∈ sampleCalls, ∀ i ∈ c.handed?, i.name.IsNormal) ∧
      (∀ c ∈ sampleCalls, c.Storable) ∧
      (∀ c ∈ sampleCalls, ∀ i ∈ c.handed?, i.Whole) ∧
      (Database.empty .typed).answers sampleCalls =
        Registry.empty.answers (sampleCalls.map (·.withHanded Instance.cutTimes)) ∧
      ((Database.empty .typed).answers sampleCalls).map (·.toBool) =
        [true, false, false, false, true, false, true, true, true, true, true, true, false,
          true] := by
  have odd : ∀ c ∈ oddCalls, ∀ i ∈ c.handed?, i.name.IsNormal := by decide +kernel
  have normal : ∀ c ∈ sampleCalls, ∀ i ∈ c.handed?, i.name.IsNormal := by decide +kernel
  have storable : ∀ c ∈ sampleCalls, c.Storable := by
    simp only [sampleCalls, List.forall_mem_cons, StoreCall.Storable]
    refine ⟨?_, ?_, ?_, ?_, ?_, ?_, ?_, ?_, trivial, rfl, rfl, trivial, trivial, trivial,
      List.forall_mem_nil _⟩ <;> exact storable_sampleInstance rfl rfl
  have whole : ∀ c ∈ sampleCalls, ∀ i ∈ c.handed?, i.Whole := by
    have one (id : Uuid) (name : String) :
        (sampleInstance id name (.ofJson (.array [.integer 8000, .null]))).Whole :=
      ⟨.array (by simp [Json.canonicalItems, Json.canonical, Json.Plain.null, Json.Plain.integer]),
        .null, .text _⟩
    simp [sampleCalls, StoreCall.handed?, one]
  exact ⟨odd, (stores_agree .typed oddCalls odd).1, by decide +kernel, normal, storable, whole,
    (stores_agree .typed sampleCalls normal).2 storable whole, by decide +kernel⟩

/-- A number whose text is read as the number next to it. -/
def fractionSource : Document := .ofJson ((Json.parse? "3.94188365837137e-16").getD .null)

/-- **Cutting the times is not all**, with columns of either kind. A document
    with a fraction comes back from the table with another last digit. -/
theorem stores_disagree_on_fractions :
    ¬ ∃ columns : Columns, ∀ cs : List StoreCall,
      (∀ c ∈ cs, ∀ i ∈ c.handed?, i.name.IsNormal) →
      (Database.empty columns).answers cs =
        Registry.empty.answers (cs.map (·.withHanded Instance.cutTimes)) := by
  rintro ⟨columns, agree⟩
  have same := agree [.create (sampleInstance ⟨7⟩ "files" fractionSource), .find ⟨7⟩]
    (by decide +kernel)
  have apart :
      ((Database.empty columns).answers
        [.create (sampleInstance ⟨7⟩ "files" fractionSource), .find ⟨7⟩]).map (·.toOption) ≠
      (Registry.empty.answers ([StoreCall.create (sampleInstance ⟨7⟩ "files" fractionSource),
        .find ⟨7⟩].map (·.withHanded Instance.cutTimes))).map (·.toOption) := by
    cases columns <;> decide +kernel
  exact apart (congrArg (List.map (·.toOption)) same)

end McpFleet
