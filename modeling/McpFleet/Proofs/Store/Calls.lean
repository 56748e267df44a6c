/-
  File:      McpFleet/Proofs/Store/Calls.lean
  Subject:   What a registry answers, and what its name index says, behind any
             calls in any order.

  A call is one step, so the calls of several clients are one list in the order
  in which they took place.

  * `Creates`, `Updates`, `Deletes`: everything that a change can come to, with
    the condition of each case; the index is exact again behind each.
  * `Exact.serve`, **`Exact.afterCalls`**: one call, and every list of calls.
  * `IndexesNames`, `RefusesRightly`, `FreesNames`: what an exact index means to
    a client.
  * **`index_exact_after_calls`**: a registry that starts empty has all of it.
-/
import McpFleet.Proofs.Store.Agreement

namespace McpFleet

namespace Registry

/-! ## 1. What a change can come to -/

/-- A stored instance has the name. -/
def Has (r : Registry) (n : InstanceName) : Prop := ∃ j, r.find? j.id = some j ∧ j.name = n

/-- A stored instance with another identifier has the name. -/
def HasBeside (r : Registry) (id : Uuid) (n : InstanceName) : Prop :=
  ∃ j, r.find? j.id = some j ∧ j.id ≠ id ∧ j.name = n

inductive Creates (r : Registry) (i : Instance) : Except StoreError Registry → Prop where
  | known {s : Instance} (stored : r.find? i.id = some s) :
    Creates r i (.error (.duplicateInstance i.id))
  | named (absent : r.find? i.id = none) (taken : r.Has i.name) :
    Creates r i (.error (.duplicateName i.name))
  | made {r' : Registry} (absent : r.find? i.id = none) (free : ¬ r.Has i.name)
    (instances : r'.instances = r.instances.insert i.id i) (exact : r'.Exact) :
    Creates r i (.ok r')

inductive Updates (r : Registry) (i : Instance) : Except StoreError Registry → Prop where
  | unknown (absent : r.find? i.id = none) : Updates r i (.error (.notFound i.id))
  | named {s : Instance} (stored : r.find? i.id = some s) (taken : r.HasBeside i.id i.name) :
    Updates r i (.error (.duplicateName i.name))
  | made {s : Instance} {r' : Registry} (stored : r.find? i.id = some s)
    (free : ¬ r.HasBeside i.id i.name) (instances : r'.instances = r.instances.insert i.id i)
    (exact : r'.Exact) : Updates r i (.ok r')

inductive Deletes (r : Registry) (id : Uuid) : Except StoreError Registry → Prop where
  | unknown (absent : r.find? id = none) : Deletes r id (.error (.notFound id))
  | made {s : Instance} {r' : Registry} (stored : r.find? id = some s)
    (instances : r'.instances = r.instances.erase id) (exact : r'.Exact) : Deletes r id (.ok r')

variable {r r' : Registry} {i s : Instance} {id : Uuid} {n : InstanceName} {e : StoreError}

namespace Exact

theorem has_iff (h : r.Exact) : r.Has n ↔ ∃ id, r.names.get? n = some id := by
  constructor
  · intro parts
    obtain ⟨j, hj, rfl⟩ := parts
    exact ⟨j.id, h.get?_name hj⟩
  · intro parts
    obtain ⟨id, hn⟩ := parts
    obtain ⟨j, hj, e⟩ := h.name.mp hn
    exact ⟨j, (h.key hj).symm ▸ hj, e⟩

theorem hasBeside_iff (h : r.Exact) :
    r.HasBeside id n ↔ ∃ owner, r.names.get? n = some owner ∧ owner ≠ id := by
  constructor
  · intro parts
    obtain ⟨j, hj, ne, rfl⟩ := parts
    exact ⟨j.id, h.get?_name hj, ne⟩
  · intro parts
    obtain ⟨owner, hn, ne⟩ := parts
    obtain ⟨j, hj, e⟩ := h.name.mp hn
    obtain rfl := h.key hj
    exact ⟨j, hj, ne, e⟩

theorem creates (h : r.Exact) (i : Instance) : Creates r i (r.create i) := by
  cases found : r.find? i.id with
  | some s =>
    rw [create_taken found]
    exact .known found
  | none =>
    cases owned : r.names.get? i.name with
    | none =>
      obtain ⟨r', made, instances, exact'⟩ := create_spec h found owned
      have free : ¬ r.Has i.name := by
        intro taken
        obtain ⟨id, hn⟩ := h.has_iff.mp taken
        rw [owned] at hn
        cases hn
      rw [made]
      exact .made found free instances exact'
    | some id =>
      have unknown : ¬ r.instances.contains i.id = true := by
        intro known
        obtain ⟨s, stored⟩ := find?_of_contains known
        rw [found] at stored
        cases stored
      have indexed : r.names.contains i.name = true := Option.isSome_iff_exists.mpr ⟨id, owned⟩
      have refused : r.create i = .error (.duplicateName i.name) := by
        unfold create
        exact (if_neg unknown).trans (if_pos indexed)
      rw [refused]
      exact .named found (h.has_iff.mpr ⟨id, owned⟩)

theorem updates (h : r.Exact) (i : Instance) : Updates r i (r.update i) := by
  cases found : r.find? i.id with
  | none =>
    have refused : r.update i = .error (.notFound i.id) := by
      unfold update
      rw [show r.instances.get? i.id = none from found]
    rw [refused]
    exact .unknown found
  | some s =>
    by_cases taken : r.HasBeside i.id i.name
    · obtain ⟨owner, hn, ne⟩ := h.hasBeside_iff.mp taken
      -- under its stored name the instance would own it itself
      have renamed : ¬ i.name = s.name := by
        intro same
        have own : r.names.get? i.name = some i.id := h.name.mpr ⟨s, found, same.symm⟩
        exact ne (Option.some.inj (hn.symm.trans own))
      have refused : r.update i = .error (.duplicateName i.name) := by
        unfold update
        rw [show r.instances.get? i.id = some s from found]
        exact (if_neg renamed).trans (if_pos (nameTakenByOther_eq_true.mpr ⟨owner, hn, ne⟩))
      rw [refused]
      exact .named found taken
    · have free : ∀ owner, r.names.get? i.name = some owner → owner = i.id := by
        intro owner hn
        exact Decidable.byContradiction fun ne => taken (h.hasBeside_iff.mpr ⟨owner, hn, ne⟩)
      obtain ⟨r', made, instances, exact'⟩ := update_spec h found free
      rw [made]
      exact .made found taken instances exact'

theorem deletes (h : r.Exact) (id : Uuid) : Deletes r id (r.delete id) := by
  cases found : r.find? id with
  | none =>
    have refused : r.delete id = .error (.notFound id) := by
      unfold delete
      rw [show r.instances.get? id = none from found]
    rw [refused]
    exact .unknown found
  | some s =>
    obtain ⟨r', made, instances, exact'⟩ := delete_spec h found
    rw [made]
    exact .made found instances exact'

end Exact

/-! ## 2. Calls one after another -/

/-- The registry behind calls that are made one after another. -/
def afterCalls (r : Registry) (cs : List StoreCall) : Registry :=
  cs.foldl (fun r c => (r.serve c).2) r

theorem Exact.of_create (h : r.Exact) (made : r.create i = .ok r') :
    r'.instances = r.instances.insert i.id i ∧ r'.Exact := by
  have outcome := h.creates i
  rw [made] at outcome
  cases outcome with
  | made _ _ instances exact' => exact ⟨instances, exact'⟩

theorem Exact.of_update (h : r.Exact) (made : r.update i = .ok r') :
    r'.instances = r.instances.insert i.id i ∧ r'.Exact := by
  have outcome := h.updates i
  rw [made] at outcome
  cases outcome with
  | made _ _ instances exact' => exact ⟨instances, exact'⟩

theorem Exact.of_delete (h : r.Exact) (made : r.delete id = .ok r') :
    r'.instances = r.instances.erase id ∧ r'.Exact := by
  have outcome := h.deletes id
  rw [made] at outcome
  cases outcome with
  | made _ instances exact' => exact ⟨instances, exact'⟩

/-- A change that is made is the registry from then on. -/
theorem eq_ok_of_done {a : Except StoreError Registry}
    (done : (r.afterChange a).1 = .ok .done) : a = .ok (r.afterChange a).2 := by
  cases a with
  | ok r' => rfl
  | error e => cases done

/-- **Every call leaves the index exact.** -/
theorem Exact.serve (h : r.Exact) (c : StoreCall) : (r.serve c).2.Exact := by
  have change {a : Except StoreError Registry} (made : ∀ r', a = .ok r' → r'.Exact) :
      (r.afterChange a).2.Exact := by
    cases a with
    | ok r' => exact made r' rfl
    | error e => exact h
  cases c with
  | create i => exact change fun _ made => (h.of_create made).2
  | update i => exact change fun _ made => (h.of_update made).2
  | delete id => exact change fun _ made => (h.of_delete made).2
  | find | findByName | list => exact h

/-- **Every list of calls leaves the index exact.** -/
theorem Exact.afterCalls (h : r.Exact) (cs : List StoreCall) : (r.afterCalls cs).Exact := by
  induction cs generalizing r with
  | nil => exact h
  | cons c cs ih => exact ih (h.serve c)

/-- A call that is refused changes neither the instances nor the index. -/
theorem serve_refused {c : StoreCall} (refused : (r.serve c).1 = .error e) :
    (r.serve c).2 = r := by
  have change {a : Except StoreError Registry} (refused : (r.afterChange a).1 = .error e) :
      (r.afterChange a).2 = r := by
    cases a with
    | ok r' => cases refused
    | error e' => rfl
  cases c with
  | create | update | delete => exact change refused
  | find | findByName | list => rfl

/-! ## 3. What a client sees -/

/-- **The index has the names of the stored instances, and no others.** -/
structure IndexesNames (r : Registry) : Prop where
  index : ∀ n id, r.names.get? n = some id ↔
    ∃ i, r.instances.get? id = some i ∧ i.id = id ∧ i.name = n
  unique : ∀ a b i j, r.instances.get? a = some i → r.instances.get? b = some j →
    i.name = j.name → a = b
  found : ∀ n i, r.findByName? n = some i ↔ r.instances.get? i.id = some i ∧ i.name = n
  missing : ∀ n, r.findByName? n = none ↔ ∀ id i, r.instances.get? id = some i → i.name ≠ n

/-- **A change is refused for a reason, and made otherwise.** A taken
    identifier is the reason that is given before a taken name, and an unknown
    identifier is too. -/
structure RefusesRightly (r : Registry) : Prop where
  create : ∀ i e, r.create i = .error e ↔
    (e = .duplicateInstance i.id ∧ ∃ s, r.find? i.id = some s) ∨
    (e = .duplicateName i.name ∧ r.find? i.id = none ∧ r.Has i.name)
  update : ∀ i e, r.update i = .error e ↔
    (e = .notFound i.id ∧ r.find? i.id = none) ∨
    (e = .duplicateName i.name ∧ (∃ s, r.find? i.id = some s) ∧ r.HasBeside i.id i.name)
  delete : ∀ id e, r.delete id = .error e ↔ e = .notFound id ∧ r.find? id = none
  stored : ∀ i r', r.create i = .ok r' ∨ r.update i = .ok r' →
    r'.instances = r.instances.insert i.id i
  removed : ∀ id r', r.delete id = .ok r' → r'.instances = r.instances.erase id
  unchanged : ∀ c e, (r.serve c).1 = .error e → (r.serve c).2 = r

theorem Exact.indexesNames (h : r.Exact) : r.IndexesNames where
  index n id := by
    rw [h.name]
    refine exists_congr fun i => and_congr_right fun hi => ?_
    exact ⟨fun e => ⟨h.key hi, e⟩, And.right⟩
  unique a b i j hi hj e := (h.eq_of_name hi hj e).1
  found n i := h.findByName?_eq_some
  missing n := by
    rw [h.findByName?_eq_none, Option.eq_none_iff_forall_ne_some]
    constructor
    · intro unindexed id i hi e
      exact unindexed id (h.name.mpr ⟨i, hi, e⟩)
    · intro other id hn
      obtain ⟨i, hi, e⟩ := h.name.mp hn
      exact other id i hi e

theorem Exact.refusesRightly (h : r.Exact) : r.RefusesRightly where
  create i e := by
    have outcome := h.creates i
    revert outcome
    generalize r.create i = a
    rintro (stored | ⟨absent, taken⟩ | ⟨absent, free, -, -⟩)
    · simp [stored, eq_comm (a := e)]
    · simp [absent, taken, eq_comm (a := e)]
    · simp [absent, free]
  update i e := by
    have outcome := h.updates i
    revert outcome
    generalize r.update i = a
    rintro (absent | ⟨stored, taken⟩ | ⟨stored, free, -, -⟩)
    · simp [absent, eq_comm (a := e)]
    · simp [stored, taken, eq_comm (a := e)]
    · simp [stored, free]
  delete id e := by
    have outcome := h.deletes id
    revert outcome
    generalize r.delete id = a
    rintro (absent | ⟨stored, -, -⟩)
    · simp [absent, eq_comm (a := e)]
    · simp [stored]
  stored i r' ways := ways.elim (fun made => (h.of_create made).1) fun made => (h.of_update made).1
  removed id r' made := (h.of_delete made).1
  unchanged c e refused := serve_refused refused

/-! ## 4. Names that become free -/

end Registry

/-- A call that takes an instance's name away from it: the instance is deleted
    or gets another name. -/
inductive StoreCall.TakesNameOf (s : Instance) : StoreCall → Prop where
  | delete : TakesNameOf s (.delete s.id)
  | rename {i : Instance} (own : i.id = s.id) (other : i.name ≠ s.name) :
    TakesNameOf s (.update i)

namespace Registry

/-- **A name that an instance loses is free at once**, for a new instance and
    for one that is stored. -/
def FreesNames (r : Registry) : Prop :=
  ∀ s c, r.find? s.id = some s → c.TakesNameOf s → (r.serve c).1 = .ok .done →
    ∀ i, i.name = s.name →
      ((r.serve c).2.find? i.id = none → ((r.serve c).2.serve (.create i)).1 = .ok .done) ∧
      (∀ t, (r.serve c).2.find? i.id = some t → ((r.serve c).2.serve (.update i)).1 = .ok .done)

variable {r r' : Registry} {s : Instance}

/-- Behind a call that takes its name away no instance has it. -/
theorem Exact.not_has (h : r.Exact) (stored : r.find? s.id = some s) {c : StoreCall}
    (takes : c.TakesNameOf s) (done : (r.serve c).1 = .ok .done) : ¬ (r.serve c).2.Has s.name := by
  -- an instance of that name was stored before, so it was `s` itself
  have before {j : Instance} (hj : r.instances.get? j.id = some j) (e : j.name = s.name) :
      s.id = j.id := congrArg Instance.id (h.eq_of_name hj stored e).2.symm
  intro has
  obtain ⟨j, hj, e⟩ := has
  have hj : (r.serve c).2.instances.get? j.id = some j := hj
  cases takes with
  | delete =>
    have made : r.delete s.id = .ok (r.serve (.delete s.id)).2 := eq_ok_of_done done
    rw [(h.of_delete made).1, Dict.get?_erase] at hj
    split at hj
    · cases hj
    · rename_i ne
      exact ne (before hj e)
  | @rename i own other =>
    have made : r.update i = .ok (r.serve (.update i)).2 := eq_ok_of_done done
    rw [(h.of_update made).1, Dict.get?_insert] at hj
    split at hj
    · exact other (Option.some.inj hj ▸ e)
    · rename_i ne
      exact ne (own.trans (before hj e))

theorem Exact.freesNames (h : r.Exact) : r.FreesNames := by
  intro s c stored takes done i named
  have exact' : (r.serve c).2.Exact := h.serve c
  have free : ∀ id, (r.serve c).2.names.get? i.name ≠ some id := by
    intro id hn
    rw [named] at hn
    exact h.not_has stored takes done (exact'.has_iff.mpr ⟨id, hn⟩)
  constructor
  · intro absent
    obtain ⟨r', made, -⟩ := create_spec exact' absent (Option.eq_none_iff_forall_ne_some.mpr free)
    show ((r.serve c).2.afterChange ((r.serve c).2.create i)).1 = _
    rw [made]
    rfl
  · intro t there
    obtain ⟨r', made, -⟩ := update_spec exact' there fun id hn => absurd hn (free id)
    show ((r.serve c).2.afterChange ((r.serve c).2.update i)).1 = _
    rw [made]
    rfl

/-- **The name index is exact behind any calls.** A registry that starts empty
    has in its index the names of the stored instances and no others, so that a
    name finds the one instance that has it; it refuses a change only for an
    identifier or a name that is taken, or for an identifier that is unknown,
    and then changes nothing; and a name that an instance loses can be used
    from then on. -/
theorem index_exact_after_calls (cs : List StoreCall) :
    (empty.afterCalls cs).IndexesNames ∧ (empty.afterCalls cs).RefusesRightly ∧
      (empty.afterCalls cs).FreesNames := by
  have exact' : (empty.afterCalls cs).Exact := exact_empty.afterCalls cs
  exact ⟨exact'.indexesNames, exact'.refusesRightly, exact'.freesNames⟩

end Registry

end McpFleet
