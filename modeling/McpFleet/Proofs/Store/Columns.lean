/-
  File:      McpFleet/Proofs/Store/Columns.lean
  Subject:   What the columns of a table take of an instance, and what they
             give back of it.

  Both are said without the texts that go in and out.

  * `Instance.Storable`: no U+0000, and no time before the first one.
  * **`check_ofInstance`**: columns with types take the rows of such instances
    and no others. `notUnique_check`: it is never a unique violation that they
    find.
  * `Columns.giveBack`: what comes back of a document is what its settled value
    says, and nothing when it is nested too deep.
  * **`readRow_ofInstance`**: what is read from the row of an instance is the
    row of the instance with its documents given back. A container comes back
    as it was.
  * `Instance.givenBack_of_whole`: documents without fractions come back as
    they were.
-/
import McpFleet.Proofs.Checks
import McpFleet.Proofs.Json.Jsonb
import McpFleet.Proofs.Row
import McpFleet.Store.Columns

namespace McpFleet

/-! ## 1. What columns take -/

/-- No text in the instance holds U+0000, and its times are not before the
    first one that can be kept. -/
structure Instance.Storable (i : Instance) : Prop where
  name : Text.hasZero i.name.text = false
  source : i.source.tree.anyText Text.hasZero = false
  target : i.target.tree.anyText Text.hasZero = false
  publicProxy : i.publicProxy.tree.anyText Text.hasZero = false
  container : ∀ c ∈ i.container, c.toJson.anyText Text.hasZero = false
  message : ∀ s ∈ i.message, Text.hasZero s = false
  createdAt : Columns.firstMicro ≤ i.createdAt.microsSince2000
  updatedAt : Columns.firstMicro ≤ i.updatedAt.microsSince2000

namespace Columns

section Checks

variable {columns : Columns} {ε α : Type}

/-- Two checks pass when both do. -/
theorem andThen_eq_ok {e : Except ε Unit} {f : Unit → Except ε Unit} :
    e >>= f = .ok () ↔ e = .ok () ∧ f () = .ok () := by
  rw [bind_eq_ok]
  exact ⟨fun ⟨_, first, rest⟩ => ⟨first, rest⟩, fun ⟨first, rest⟩ => ⟨(), first, rest⟩⟩

theorem forM_eq_ok {o : Option α} {f : α → Except ε Unit} :
    o.forM f = .ok () ↔ ∀ a ∈ o, f a = .ok () := by
  cases o with
  | none => exact ⟨fun _ _ => nofun, fun _ => rfl⟩
  | some a => exact ⟨fun h b hb => Option.some.inj hb ▸ h, fun h => h a rfl⟩

theorem checkText_eq_ok {s : String} :
    columns.checkText s = .ok () ↔ (columns = typed → Text.hasZero s = false) := by
  unfold checkText
  rw [ite_error_eq_ok]
  simp

theorem checkDocument_eq_ok {d : Document} :
    columns.checkDocument d = .ok () ↔
      (columns = typed → d.tree.anyText Text.hasZero = false) := by
  unfold checkDocument
  rw [ite_error_eq_ok]
  simp

theorem checkTime_eq_ok {t : Instant} :
    columns.checkTime t = .ok () ↔ (columns = typed → firstMicro ≤ t.microsSince2000) := by
  unfold checkTime
  rw [ite_error_eq_ok]
  simp

/-- **Columns with types take the rows of instances that can be stored**, and
    no others. -/
theorem check_ofInstance {i : Instance} :
    columns.check (.ofInstance i) = .ok () ↔ (columns = typed → i.Storable) := by
  have access : Text.hasZero i.access.name = false := by cases i.access <;> rfl
  have protocol : Text.hasZero i.protocol.name = false := by cases i.protocol <;> rfl
  have status : Text.hasZero i.status.name = false := by cases i.status <;> rfl
  unfold check Row.ofInstance
  simp only [andThen_eq_ok, forM_eq_ok, checkText_eq_ok, checkDocument_eq_ok, checkTime_eq_ok]
  cases columns with
  | plain => simp
  | typed =>
    simp only [access, protocol, status, true_implies]
    constructor
    · rintro ⟨name, -, -, source, target, publicProxy, -, container, message, created, updated⟩
      refine ⟨name, source, target, publicProxy, fun c hc => ?_, message, created, updated⟩
      have column := container (.ofJson c.toJson) (Option.mem_map_of_mem _ hc)
      rw [Row.tree_toJson] at column
      exact column
    · intro h
      refine ⟨h.name, trivial, trivial, h.source, h.target, h.publicProxy, trivial,
        fun d hd => ?_, h.message, h.createdAt, h.updatedAt⟩
      obtain ⟨c, hc, rfl⟩ := Option.map_eq_some_iff.mp hd
      rw [Row.tree_toJson]
      exact h.container c hc

/-- A check that refuses nothing for being there already. -/
def NotUnique (check : Except DatabaseError Unit) : Prop :=
  ∀ e, check = .error e → e.code ≠ DatabaseError.uniqueViolation

theorem NotUnique.andThen {check : Except DatabaseError Unit}
    {rest : Unit → Except DatabaseError Unit} (h : NotUnique check) (h' : NotUnique (rest ())) :
    NotUnique (check >>= rest) := by
  intro e refused
  rcases bind_eq_error.mp refused with first | ⟨_, -, later⟩
  · exact h e first
  · exact h' e later

theorem NotUnique.forM {o : Option α} {f : α → Except DatabaseError Unit}
    (h : ∀ a, NotUnique (f a)) : NotUnique (o.forM f) := by
  cases o with
  | none => exact fun _ => nofun
  | some a => exact h a

theorem NotUnique.ite {p : Prop} [Decidable p] {e : DatabaseError}
    (h : e.code ≠ DatabaseError.uniqueViolation) :
    NotUnique (if p then .error e else .ok ()) := by
  intro e' refused
  split at refused
  · exact Except.error.inj refused ▸ h
  · cases refused

theorem notUnique_checkText (s : String) : NotUnique (columns.checkText s) :=
  .ite (by decide)

theorem notUnique_checkDocument (d : Document) : NotUnique (columns.checkDocument d) :=
  .ite (by decide)

theorem notUnique_checkTime (t : Instant) : NotUnique (columns.checkTime t) :=
  .ite (by decide)

/-- **What columns refuse is no unique violation.** -/
theorem notUnique_check (r : Row) : NotUnique (columns.check r) :=
  (notUnique_checkText _).andThen <| (notUnique_checkText _).andThen <|
  (notUnique_checkText _).andThen <| (notUnique_checkDocument _).andThen <|
  (notUnique_checkDocument _).andThen <| (notUnique_checkDocument _).andThen <|
  (notUnique_checkText _).andThen <| (NotUnique.forM notUnique_checkDocument).andThen <|
  (NotUnique.forM notUnique_checkText).andThen <| (notUnique_checkTime _).andThen <|
  notUnique_checkTime _

end Checks

/-! ## 2. What columns give back -/

/-- The value that a column shows. -/
def settle : Columns → Json → Json
  | plain => id
  | typed => Json.settled

/-- What the text of a value in a column says, unless it is nested too deep. -/
def given? (columns : Columns) (j : Json) : Option Json :=
  if j.nesting ≤ 127 then (columns.settle j).asRead? else none

/-- What comes back of a document. -/
def giveBack (columns : Columns) (column : String) (d : Document) : Except StoreError Document :=
  orUnreadable column (columns.given? d.tree)

variable {columns : Columns}

/-- **A document is read from the text of its column as what comes back of
    it.** -/
theorem readDocument_eq (column : String) (d : Document) :
    columns.readDocument column d = columns.giveBack column d := by
  have read : Json.parse? (columns.documentText d.tree) = columns.given? d.tree := by
    cases columns with
    | plain => exact Json.parseAs?_render (Json.fits_whole d.tree)
    | typed => exact Json.parse?_jsonbText d.tree
  exact congrArg (orUnreadable column) read

/-- A document whose text says all of it comes back as it was. -/
theorem giveBack_of_plain {d : Document} (h : d.tree.Plain 127) (column : String) :
    columns.giveBack column d = .ok d := by
  have settled : columns.settle d.tree = d.tree := by
    cases columns with
    | plain => rfl
    | typed => exact Json.settled_of_plain d.tree h
  unfold giveBack given?
  rw [if_pos h.nesting_le, settled, h.asRead?]
  exact congrArg Except.ok d.ofJson_tree

end Columns

namespace Instance

/-- The instance with its times on the grid of a table. -/
def cutTimes (i : Instance) : Instance :=
  { i with
    createdAt := i.createdAt.cutToMicros
    updatedAt := i.updatedAt.cutToMicros }

/-- What comes back of an instance. -/
def givenBack (columns : Columns) (i : Instance) : Except StoreError Instance := do
  let source ← columns.giveBack "source_config" i.source
  let target ← columns.giveBack "target_config" i.target
  let publicProxy ← columns.giveBack "public_proxy_config" i.publicProxy
  return { i with source, target, publicProxy }

/-- The text of every document of the instance says all of it: numbers are
    whole, in the range of 64 bits, and lists and objects stand at most 127
    deep in each other. -/
structure Whole (i : Instance) : Prop where
  source : i.source.tree.Plain 127
  target : i.target.tree.Plain 127
  publicProxy : i.publicProxy.tree.Plain 127

variable {columns : Columns} {i j : Instance}

/-- **Documents without fractions come back as they were.** -/
theorem givenBack_of_whole (h : i.Whole) : i.givenBack columns = .ok i := by
  unfold givenBack
  rw [Columns.giveBack_of_plain h.source, Columns.giveBack_of_plain h.target,
    Columns.giveBack_of_plain h.publicProxy]
  rfl

/-- The name is no document. -/
theorem name_givenBack (h : i.givenBack columns = .ok j) : j.name = i.name := by
  unfold givenBack at h
  simp only [bind_eq_ok, pure_eq_ok] at h
  obtain ⟨source, -, target, -, publicProxy, -, rfl⟩ := h
  rfl

end Instance

namespace Columns

/-- **What is read from the row of an instance.** -/
theorem readRow_ofInstance (columns : Columns) (i : Instance) :
    columns.readRow (.ofInstance i) = (i.givenBack columns).map Row.ofInstance := by
  -- a container has no fractions, so its column is the one that cannot change
  have hosting : (Row.ofInstance i).hosting.mapM (columns.readDocument "hosting") =
      .ok (Row.ofInstance i).hosting := by
    unfold Row.ofInstance
    cases i.container with
    | none => rfl
    | some c =>
      have plain : (Document.ofJson c.toJson).tree.Plain 127 := by
        rw [Row.tree_toJson]
        exact c.lossless_toJson.plain
      have back : columns.readDocument "hosting" (.ofJson c.toJson) = .ok (.ofJson c.toJson) :=
        (readDocument_eq _ _).trans (giveBack_of_plain plain _)
      show (columns.readDocument "hosting" _ >>= fun d => pure (some d)) = _
      rw [back]
      rfl
  unfold readRow Instance.givenBack
  rw [hosting]
  simp only [readDocument_eq]
  show (columns.giveBack _ i.source >>= fun source => columns.giveBack _ i.target >>= fun target =>
    columns.giveBack _ i.publicProxy >>= fun publicProxy => _) = _
  cases columns.giveBack "source_config" i.source with
  | error e => rfl
  | ok source =>
    cases columns.giveBack "target_config" i.target with
    | error e => rfl
    | ok target => cases columns.giveBack "public_proxy_config" i.publicProxy <;> rfl

end Columns

end McpFleet
