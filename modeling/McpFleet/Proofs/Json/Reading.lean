/-
  File:      McpFleet/Proofs/Json/Reading.lean
  Subject:   Reading values of a type from the trees written for them.

  * `record?_object`: an object without a repeated key is a record, and its
    fields are its members.
  * `uint16?_integer`, ..., `textDict?_ofTextDict`, `list?_map`: numbers,
    texts, dictionaries and lists are read as what was written.
  * `list?_text?_eq_some`, `textDict?_eq_some`: nothing else is read as texts.
-/
import McpFleet.Json.Record

namespace McpFleet.Json

/-! ## 1. Records -/

/-- Members are in key order when their keys are. -/
theorem ascending_of_keys {ms : List (String × Json)} (ks : List String) (h : ms.map Prod.fst = ks)
    (hk : ks.Pairwise (· < ·)) : Entries.Ascending ms := by
  subst h
  exact List.pairwise_map.mp hk

/-- A key stands once in a list of members in key order. -/
theorem repeats_eq_false {ms : List (String × Json)} (h : Entries.Ascending ms) (name : String) :
    repeats ms name = false := by
  have once : (ms.filter fun m => m.1 == name).length ≤ 1 := by
    have apart : (ms.filter fun m => m.1 == name).Pairwise fun a b => a.1 < b.1 := h.filter _
    cases e : ms.filter fun m => m.1 == name with
    | nil => exact Nat.zero_le 1
    | cons a as =>
      cases as with
      | nil => exact Nat.le_refl 1
      | cons b bs =>
        have here (m : String × Json) (hm : m ∈ a :: b :: bs) : m.1 = name := by
          rw [← e] at hm
          exact beq_iff_eq.mp (List.mem_filter.mp hm).2
        rw [e] at apart
        have before := (List.pairwise_cons.mp apart).1 b List.mem_cons_self
        rw [here a List.mem_cons_self, here b (List.mem_cons_of_mem a List.mem_cons_self)] at before
        exact absurd before (SortKey.irrefl name)
  unfold repeats
  rw [decide_eq_false_iff_not]
  omega

/-- The members of an object in key order, as a record of these fields. -/
def recordOf (fields : List String) (ms : List (String × Json)) : Record :=
  ⟨false, ms.filter fun m => fields.contains m.1⟩

theorem record?_object {fields : List String} {ms : List (String × Json)}
    (h : Entries.Ascending ms) : record? fields (.object ms) = some (recordOf fields ms) := by
  have single : fields.any (repeats ms) = false :=
    List.any_eq_false.mpr fun name _ => Bool.eq_false_iff.mp (repeats_eq_false h name)
  unfold record?
  simp only [single, Bool.false_eq_true, if_false]
  rfl

section Fields

variable {α : Type} {fields : List String} {ms : List (String × Json)} {name : String}

theorem get?_slots (h : name ∈ fields) :
    Entries.get? name (recordOf fields ms).slots = Entries.get? name ms := by
  show Entries.get? name (ms.filter fun m => fields.contains m.1) = _
  induction ms with
  | nil => rfl
  | cons m ms ih =>
    obtain ⟨k, j⟩ := m
    by_cases same : k = name
    · subst same
      have wanted : fields.contains k = true := List.contains_iff_mem.mpr h
      rw [List.filter_cons]
      simp only [wanted, if_true, Entries.get?]
    · rw [List.filter_cons]
      split <;> simp only [Entries.get?, if_neg same, ih]

/-- A field is the member of its name. -/
theorem required_recordOf (h : name ∈ fields) (read : Json → Option α) {j : Json}
    (there : Entries.get? name ms = some j) :
    (recordOf fields ms).required name read = read j := by
  unfold Record.required
  rw [get?_slots h, there, Option.bind_some]

theorem optional_recordOf (h : name ∈ fields) (read : Json → Option α) {j : Json}
    (there : Entries.get? name ms = some j) :
    (recordOf fields ms).optional name read = j.nullable? read := by
  unfold Record.optional
  rw [get?_slots h, there]

theorem withDefault_recordOf (h : name ∈ fields) (default : α) (read : Json → Option α) {j : Json}
    (there : Entries.get? name ms = some j) :
    (recordOf fields ms).withDefault name default read = read j := by
  unfold Record.withDefault
  rw [get?_slots h, there]

end Fields

/-! ## 2. Values -/

theorem intIn?_integer {lo hi n : Int} (h : lo ≤ n ∧ n ≤ hi) : intIn? lo hi (.integer n) = some n :=
  if_pos h

/-- A number without a sign, of any width. -/
theorem natural?_integer {α : Type} {m last : Nat} (h : m ≤ last) (ofNat : Nat → α) :
    ((Json.integer m).intIn? 0 last).map (fun n => ofNat n.toNat) = some (ofNat m) := by
  rw [intIn?_integer ⟨Int.natCast_nonneg m, Int.ofNat_le.mpr h⟩, Option.map_some,
    Int.toNat_natCast]

theorem uint16?_integer (n : UInt16) : uint16? (.integer n.toNat) = some n :=
  (natural?_integer (Nat.le_of_lt_succ n.toNat_lt) UInt16.ofNat).trans
    (congrArg some UInt16.ofNat_toNat)

theorem uint32?_integer (n : UInt32) : uint32? (.integer n.toNat) = some n :=
  (natural?_integer (Nat.le_of_lt_succ n.toNat_lt) UInt32.ofNat).trans
    (congrArg some UInt32.ofNat_toNat)

theorem int64?_integer (n : Int64) : int64? (.integer n.toInt) = some n := by
  have range : -0x8000000000000000 ≤ n.toInt ∧ n.toInt ≤ 0x7FFFFFFFFFFFFFFF := by
    have lo := n.le_toInt
    have hi := n.toInt_lt
    omega
  unfold int64?
  rw [intIn?_integer range, Option.map_some, Int64.ofInt_toInt]

theorem nullable?_ofOption (t : Option String) : nullable? text? (ofOption .text t) = some t := by
  cases t <;> rfl

/-- A list is read when each of its items is. -/
theorem list?_map {α : Type} {read : Json → Option α} {write : α → Json}
    (h : ∀ a, read (write a) = some a) (as : List α) :
    list? read (.array (as.map write)) = some as := by
  unfold list?
  induction as with
  | nil => rfl
  | cons a as ih =>
    simp only [List.map_cons, List.mapM_cons, h a] at ih ⊢
    rw [ih]
    rfl

theorem list?_ofTexts (ts : List String) : list? text? (ofTexts ts) = some ts :=
  @list?_map String text? .text (fun _ => rfl) ts

theorem textDict?_ofTextDict (d : Dict String String) : textDict? (ofTextDict d) = some d := by
  have texts (es : List (String × String)) :
      (es.map fun e => (e.1, Json.text e.2)).mapM (fun (m : String × Json) =>
        m.2.text?.map (m.1, ·)) = some es := by
    induction es with
    | nil => rfl
    | cons e es ih =>
      rw [List.map_cons, List.mapM_cons, ih]
      rfl
  show Option.map Dict.ofList
    (List.mapM _ (d.entries.map fun (e : String × String) => (e.1, Json.text e.2))) = _
  rw [texts, Option.map_some, Dict.ofList_entries]

/-! ## 3. What was read -/

theorem eq_text_of_text? {j : Json} {s : String} (h : text? j = some s) : j = .text s := by
  cases j with
  | text t => exact congrArg Json.text (Option.some.inj h)
  | _ => cases h

/-- Items that are all read were written from what is read. -/
theorem eq_map_of_mapM {α β : Type} {read : β → Option α} {write : α → β}
    (exact : ∀ {b a}, read b = some a → b = write a) {bs : List β} {as : List α}
    (h : bs.mapM read = some as) : bs = as.map write := by
  induction bs generalizing as with
  | nil =>
    obtain rfl := Option.some.inj h
    rfl
  | cons b bs ih =>
    rw [List.mapM_cons] at h
    obtain ⟨a, hb, h⟩ := Option.bind_eq_some_iff.mp h
    obtain ⟨rest, hbs, h⟩ := Option.bind_eq_some_iff.mp h
    obtain rfl := Option.some.inj h
    rw [List.map_cons, ← exact hb, ← ih hbs]

/-- **A list of texts is what was written for them.** -/
theorem list?_text?_eq_some {j : Json} {texts : List String} :
    list? text? j = some texts ↔ j = ofTexts texts := by
  constructor
  · intro h
    cases j with
    | array items => exact congrArg Json.array (eq_map_of_mapM eq_text_of_text? h)
    | _ => cases h
  · intro e
    rw [e]
    exact list?_ofTexts texts

/-- **A dictionary of texts is what was written for it**, in a document. -/
theorem textDict?_eq_some {j : Json} (ordered : j.Ordered) {texts : Dict String String} :
    textDict? j = some texts ↔ j = ofTextDict texts := by
  constructor
  · intro h
    cases j with
    | object ms =>
      obtain ⟨es, read, rfl⟩ := Option.map_eq_some_iff.mp h
      have member {m : String × Json} {e : String × String}
          (hm : m.2.text?.map (m.1, ·) = some e) : m = (e.1, .text e.2) := by
        obtain ⟨s, hs, rfl⟩ := Option.map_eq_some_iff.mp hm
        exact Prod.ext rfl (eq_text_of_text? hs)
      have written : ms = es.map fun e => (e.1, Json.text e.2) := eq_map_of_mapM member read
      cases ordered with
      | object _ keys =>
        have sorted : Entries.Ascending es := by
          rw [written] at keys
          unfold Entries.Ascending at keys
          rw [List.pairwise_map] at keys
          exact keys
        have same : Dict.ofList es = ⟨es, sorted⟩ := Dict.ofList_entries ⟨es, sorted⟩
        rw [same, written]
        rfl
    | _ => cases h
  · intro e
    rw [e]
    exact textDict?_ofTextDict texts

end McpFleet.Json
