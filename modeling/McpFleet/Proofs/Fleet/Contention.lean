/-
  File:      McpFleet/Proofs/Fleet/Contention.lean
  Subject:   An edit and another operation that work on one record.

  Every operation reads the whole record and writes the whole record back, and
  nothing is locked in between. Which version is stored at any moment is fixed
  by the order of three calls (`Beat`): the other operation reads, the edit
  writes, the other operation writes.

  * `SameDefinition`: versions of a record that differ in its state only.
  * `Recorded`: which version is stored; `Held`: which version the other
    operation has read.
  * `editPact`: what the two sides rely on. `quiet_editPact` says which calls
    do not matter for it; **`keeps_read`**, **`keeps_wrote`** and
    **`keeps_edited`** are the three that do.
-/
import Mathlib.Data.List.Basic
import McpFleet.Proofs.Fleet.Interleaving
import McpFleet.Proofs.Store.Calls

namespace McpFleet

/-! ## 1. Versions of a record -/

namespace Instance

/-- The same name, documents and container, in whatever state. -/
structure SameDefinition (s i : Instance) : Prop where
  kept : s.Kept i
  told : s.SameDocuments i

theorem sameDefinition_refl (s : Instance) : s.SameDefinition s :=
  ⟨⟨rfl, rfl, rfl, rfl, rfl⟩, ⟨rfl, rfl, rfl, rfl⟩⟩

theorem SameDefinition.trans {s i j : Instance} (h : s.SameDefinition i)
    (h' : i.SameDefinition j) : s.SameDefinition j where
  kept :=
    ⟨h'.kept.id.trans h.kept.id, h'.kept.name.trans h.kept.name, h'.kept.access.trans h.kept.access,
      h'.kept.createdAt.trans h.kept.createdAt, h'.kept.container.trans h.kept.container⟩
  told :=
    ⟨h'.told.protocol.trans h.told.protocol, h'.told.source.trans h.told.source,
      h'.told.target.trans h.told.target, h'.told.publicProxy.trans h.told.publicProxy⟩

end Instance

namespace Fleet

/-! ## 2. Beats -/

/-- What an edit, on the left, and another operation do to a record. -/
inductive Beat where
  /-- The other operation read the record. -/
  | read
  /-- The edit wrote the record. -/
  | edited
  /-- The other operation wrote the record. -/
  | wrote
deriving DecidableEq

def beat? : Side × Exchange → Option Beat
  | (.right, ⟨.findRecord _, .ok _, _⟩) => some .read
  | (.left, ⟨.updateRecord _, .ok _, _⟩) => some .edited
  | (.right, ⟨.updateRecord _, .ok _, _⟩) => some .wrote
  | _ => none

/-- The record that the edit wrote. -/
def editedRecord? : Side × Exchange → Option Instance
  | (.left, ⟨.updateRecord i, .ok _, _⟩) => some i
  | _ => none

namespace Scene

/-- The beats so far, the last one first. -/
def beats (σ : Scene) : List Beat := σ.log.filterMap beat?

def edited? (σ : Scene) : Option Instance := σ.log.findSome? editedRecord?

/-- The edit wrote the record behind the other operation's reading it. -/
def Stale (σ : Scene) : Prop := List.Sublist [.edited, .read] σ.beats

/-- **The other operation read the record, the edit wrote it, and the other
    operation wrote it**, in this order. -/
def Overwritten (σ : Scene) : Prop := List.Sublist [.wrote, .edited, .read] σ.beats

instance (σ : Scene) : Decidable σ.Stale := by unfold Stale; infer_instance

instance (σ : Scene) : Decidable σ.Overwritten := by unfold Overwritten; infer_instance

variable {σ τ : Scene} {s e : Instance}

theorem Stale.read (h : σ.Stale) : .read ∈ σ.beats := h.subset (by simp)

theorem Overwritten.edited (h : σ.Overwritten) : .edited ∈ σ.beats := h.subset (by simp)

/-- Before the edit wrote, there is no record of its own. -/
theorem edited?_of_unwritten (h : .edited ∉ σ.beats) : σ.edited? = none := by
  refine List.findSome?_eq_none_iff.mpr fun y hy => ?_
  have silent : beat? y ≠ some .edited := fun e => h (List.mem_filterMap.mpr ⟨y, hy, e⟩)
  unfold editedRecord?
  split
  · exact absurd rfl silent
  · rfl

/-- The definition that goes for a record: the edit's own once it wrote, or the
    one from before. -/
def definition (σ : Scene) (s : Instance) (old : Prop) [Decidable old] : Instance :=
  match σ.edited? with
  | none => s
  | some e => if old then s else e

theorem definition_congr {old old' : Prop} [Decidable old] [Decidable old']
    (edited : τ.edited? = σ.edited?) (same : old' ↔ old) :
    τ.definition s old' = σ.definition s old := by
  unfold definition
  rw [edited]
  cases σ.edited? with
  | none => rfl
  | some e => simp only [same]

theorem definition_of_edited {old : Prop} [Decidable old] (h : σ.edited? = some e) :
    σ.definition s old = if old then s else e := by
  unfold definition
  rw [h]

theorem definition_of_unwritten {old : Prop} [Decidable old] (h : .edited ∉ σ.beats) :
    σ.definition s old = s := by
  unfold definition
  rw [edited?_of_unwritten h]

/-- One more beat. -/
theorem stale_of_beats {b : Beat} (h : τ.beats = b :: σ.beats) :
    τ.Stale ↔ σ.Stale ∨ (b = .edited ∧ .read ∈ σ.beats) := by
  unfold Stale
  rw [h, List.cons_sublist_cons', List.singleton_sublist, eq_comm (a := b)]

theorem overwritten_of_beats {b : Beat} (h : τ.beats = b :: σ.beats) :
    τ.Overwritten ↔ σ.Overwritten ∨ (b = .wrote ∧ σ.Stale) := by
  unfold Overwritten
  rw [h, List.cons_sublist_cons', eq_comm (a := b)]
  rfl

theorem Overwritten.stale (h : σ.Overwritten) : σ.Stale := (List.sublist_cons_self _ _).trans h

end Scene

/-! ## 3. Calls that leave the record alone -/

/-- Calls of a side that change no record and are no beat. -/
def Call.passes (c : Call) (side : Side) : Bool :=
  match side, c with
  | _, .createRecord _ => false
  | _, .updateRecord _ => false
  | _, .deleteRecord _ => false
  | .right, .findRecord _ => false
  | _, _ => true

namespace World

theorem answer_findRecord (w : World) (id : Uuid) :
    w.answer (.findRecord id) = (.ok (w.registry.find? id), w) ∨
      ∃ e, w.answer (.findRecord id) = (.error e, w) := by
  rw [show w.answer (.findRecord id) = _ from w.withRegistry_find .findById fun r => r.find? id]
  cases w.storeFailing .findById with
  | true => exact .inr ⟨_, rfl⟩
  | false => exact .inl rfl

theorem answer_updateRecord (w : World) (i : Instance) :
    (∃ r, w.registry.update i = .ok r ∧
      w.answer (.updateRecord i) = (.ok (), { w with registry := r })) ∨
    ∃ e, w.answer (.updateRecord i) = (.error e, w) := by
  unfold answer withRegistry
  cases w.storeFailing .update with
  | true => exact .inr ⟨_, rfl⟩
  | false =>
    cases made : w.registry.update i with
    | ok r => exact .inl ⟨r, rfl, by simp [made, Except.map]⟩
    | error e => exact .inr ⟨e, by simp [made, Except.map]⟩

theorem registry_withCluster {α : Type} (w : World)
    (f : Cluster → Except ClusterError (α × Cluster)) :
    (w.withCluster f).2.registry = w.registry := by
  unfold withCluster
  split <;> rfl

/-- A container is created under its name, or the call is refused. -/
theorem answer_createContainer (w : World) (d : Deployment) :
    (∃ c, w.cluster.create d = .ok c ∧
      w.answer (.createContainer d) = (.ok (), { w with cluster := c })) ∨
    ∃ e, w.answer (.createContainer d) = (.error e, w) := by
  unfold answer withCluster
  cases made : w.cluster.create d with
  | ok c => exact .inl ⟨c, rfl, by simp [made, Except.map]⟩
  | error e => exact .inr ⟨e, by simp [made, Except.map]⟩

theorem after_deleteContainer (w : World) (i : Instance) :
    (w.answer (.deleteContainer i)).2 = { w with cluster := discard w.cluster i } := by
  unfold answer withCluster discard
  cases removed : w.cluster.delete i <;> simp [removed, Except.map]

/-- Starting a container again leaves it what it was created from. -/
theorem source?_restartContainer (w : World) (i : Instance) (n : String) :
    (w.answer (.restartContainer i)).2.cluster.source? n = w.cluster.source? n := by
  unfold answer withCluster
  cases done : w.cluster.restart i with
  | ok p =>
    simp only [done]
    exact Cluster.source?_restart done n
  | error e => simp only [done]

theorem registry_answer (w : World) {c : Call} {side : Side} (h : c.passes side = true) :
    (w.answer c).2.registry = w.registry := by
  cases c with
  | createRecord | updateRecord | deleteRecord => cases side <;> cases h
  | createContainer | restartContainer | deleteContainer => exact w.registry_withCluster _
  | findRecord | findRecordByName | listRecords | findEnvironment | containerStatus
  | containerLogs | probe | readClock => exact congrArg _ (answer_lookup rfl w)

end World

/-- The same record, and no beat in between. -/
structure Scene.SameRecords (σ τ : Scene) : Prop where
  registry : τ.world.registry = σ.world.registry
  beats : τ.beats = σ.beats
  edited? : τ.edited? = σ.edited?

/-- One more beat, behind which the edit's record is `e` and the registry
    `r`. -/
structure Scene.Beats (b : Beat) (e : Option Instance) (r : Registry) (σ τ : Scene) : Prop where
  world : τ.world = { σ.world with registry := r }
  beats : τ.beats = b :: σ.beats
  edited? : τ.edited? = e

namespace Scene

variable {σ : Scene} {side : Side} {c : Call} {id : Uuid} {i : Instance}

theorem editedRecord?_of_silent {y : Side × Exchange} (h : beat? y = none) :
    editedRecord? y = none := by
  unfold editedRecord?
  split
  · cases h
  · rfl

/-- A call that changes no record and is no beat. -/
theorem sameRecords_ask (registry : (σ.world.answer c).2.registry = σ.world.registry)
    (silent : beat? (side, ⟨c, (σ.world.answer c).1, (σ.world.answer c).2⟩) = none) :
    σ.SameRecords (σ.ask side c) where
  registry := registry
  beats := by
    unfold beats ask
    rw [List.filterMap_cons, silent]
  edited? := by
    unfold edited? ask
    rw [List.findSome?_cons, editedRecord?_of_silent silent]

theorem beat?_of_passes (h : c.passes side = true) (a : c.Answer) (w : World) :
    beat? (side, ⟨c, a, w⟩) = none := by
  cases side <;> cases c <;> first | rfl | cases h

theorem sameRecords_of_passes (σ : Scene) (h : c.passes side = true) :
    σ.SameRecords (σ.ask side c) :=
  sameRecords_ask (σ.world.registry_answer h) (beat?_of_passes h _ _)

theorem ask_eq {a : c.Answer} {w : World} (h : σ.world.answer c = (a, w)) :
    σ.ask side c = ⟨w, (side, ⟨c, a, w⟩) :: σ.log⟩ := by
  unfold ask
  rw [h]

/-- The other operation reads what is stored, or is refused. -/
theorem ask_findRecord (σ : Scene) (id : Uuid) :
    ((σ.world.answer (.findRecord id)).1 = .ok (σ.world.registry.find? id) ∧
      Beats .read σ.edited? σ.world.registry σ (σ.ask .right (.findRecord id))) ∨
    ((∃ e, (σ.world.answer (.findRecord id)).1 = .error e) ∧
      σ.SameRecords (σ.ask .right (.findRecord id)) ∧
      (σ.ask .right (.findRecord id)).world = σ.world) := by
  rcases σ.world.answer_findRecord id with h | ⟨e, h⟩
  · rw [ask_eq h, h]
    exact .inl ⟨rfl, rfl, rfl, rfl⟩
  · rw [ask_eq h, h]
    exact .inr ⟨⟨e, rfl⟩, ⟨rfl, rfl, rfl⟩, rfl⟩

/-- The beat of a side that writes. -/
def beatOf : Side → Beat
  | .left => .edited
  | .right => .wrote

/-- The edit's record, once a side has written `i`. -/
def editedBy (σ : Scene) (i : Instance) : Side → Option Instance
  | .left => some i
  | .right => σ.edited?

/-- A record is written, or refused. -/
theorem ask_updateRecord (σ : Scene) (side : Side) (i : Instance) :
    (∃ r, σ.world.registry.update i = .ok r ∧ (σ.world.answer (.updateRecord i)).1 = .ok () ∧
      Beats (beatOf side) (σ.editedBy i side) r σ (σ.ask side (.updateRecord i))) ∨
    ((∃ e, (σ.world.answer (.updateRecord i)).1 = .error e) ∧
      σ.SameRecords (σ.ask side (.updateRecord i)) ∧
      (σ.ask side (.updateRecord i)).world = σ.world) := by
  rcases σ.world.answer_updateRecord i with ⟨r, made, h⟩ | ⟨e, h⟩
  · rw [ask_eq h, h]
    cases side <;> exact .inl ⟨r, made, rfl, rfl, rfl, rfl⟩
  · rw [ask_eq h, h]
    cases side <;> exact .inr ⟨⟨e, rfl⟩, ⟨rfl, rfl, rfl⟩, rfl⟩

end Scene

/-! ## 4. The pact -/

/-- The record that is stored: the one from before while the edit has not
    written and again once it is overwritten, the edit's own otherwise. -/
def Recorded (id : Uuid) (s : Instance) (σ : Scene) : Prop :=
  σ.world.registry.Exact ∧
    ∃ i, σ.world.registry.find? id = some i ∧ (σ.definition s σ.Overwritten).SameDefinition i

/-- The record that the other operation has read: the one from before if the
    edit wrote behind that, or has not written. -/
structure Held (id : Uuid) (s r : Instance) (σ : Scene) : Prop where
  read : .read ∈ σ.beats
  id : r.id = id
  version : (σ.definition s σ.Stale).SameDefinition r

/-- What the edit relies on. -/
inductive EditFact (id : Uuid) (s : Instance) : Facts
  | recorded : EditFact id s (Recorded id s)
  | unwritten : EditFact id s fun σ => .edited ∉ σ.beats
  | written (e : Instance) : EditFact id s fun σ => σ.edited? = some e
  | running (n : String) : EditFact id s fun σ => σ.world.cluster.source? n ≠ none

/-- What the other operation relies on. -/
inductive OtherFact (id : Uuid) (s : Instance) : Facts
  | recorded : OtherFact id s (Recorded id s)
  | unread : OtherFact id s fun σ => .read ∉ σ.beats
  | held (r : Instance) : OtherFact id s (Held id s r)

def editPact (id : Uuid) (s : Instance) : Pact
  | .left => EditFact id s
  | .right => OtherFact id s

section Keeping

variable {id : Uuid} {s e r i : Instance} {σ τ : Scene} {c : Call}

theorem Recorded.same (h : Recorded id s σ) (same : σ.SameRecords τ) : Recorded id s τ := by
  obtain ⟨exact', i, stored, version⟩ := h
  refine ⟨same.registry ▸ exact', i, same.registry ▸ stored, ?_⟩
  rw [Scene.definition_congr same.edited? (by unfold Scene.Overwritten; rw [same.beats])]
  exact version

/-- A scene with the same record, in which the same containers run. -/
theorem keeps_edit (same : σ.SameRecords τ)
    (running : ∀ n, τ.world.cluster.source? n = σ.world.cluster.source? n) :
    Keeps (EditFact id s) σ τ := by
  intro P fact h
  cases fact with
  | recorded => exact h.same same
  | unwritten => exact same.beats ▸ h
  | written e => exact same.edited?.trans h
  | running n => exact (running n).symm ▸ h

theorem keeps_other (same : σ.SameRecords τ) : Keeps (OtherFact id s) σ τ := by
  intro P fact h
  cases fact with
  | recorded => exact h.same same
  | unread => exact same.beats ▸ h
  | held r =>
    refine ⟨same.beats ▸ h.read, h.id, ?_⟩
    rw [Scene.definition_congr same.edited? (by unfold Scene.Stale; rw [same.beats])]
    exact h.version

/-- Nothing that happens around the fleet touches a record or the source of a
    container. -/
theorem sheltered_editPact (id : Uuid) (s : Instance) : (editPact id s).Sheltered := by
  intro side σ x aside
  have same : σ.SameRecords (σ.behind x) ∧
      ∀ n, (σ.behind x).world.cluster.source? n = σ.world.cluster.source? n := by
    cases x with
    | storeOutage operation failing => exact ⟨⟨rfl, rfl, rfl⟩, fun _ => rfl⟩
    | event e =>
      obtain ⟨registry, -, sources⟩ := after_around σ.world aside
      exact ⟨⟨registry, rfl, rfl⟩, sources⟩
  cases side with
  | left => exact keeps_edit same.1 same.2
  | right => exact keeps_other same.1

/-- A call that changes no record, is no beat, and changes the source of no
    container. -/
theorem quiet_editPact {side : Side} (passes : c.passes side = true)
    (running : ∀ (w : World) n, (w.answer c).2.cluster.source? n = w.cluster.source? n) :
    c.Quiet (editPact id s) side := by
  intro σ
  have same := σ.sameRecords_of_passes passes
  cases side with
  | left => exact ⟨keeps_edit same (running σ.world), keeps_other same⟩
  | right => exact ⟨keeps_other same, keeps_edit same (running σ.world)⟩

theorem quiet_lookup (lookup : c.isLookup = true) : c.Quiet (editPact id s) .left := by
  refine quiet_editPact ?_ fun w n => by rw [w.answer_lookup lookup]
  cases c <;> first | rfl | cases lookup

/-- A beat of the other operation keeps what the edit relies on, if the right
    version is stored behind it. -/
theorem keeps_edit_of_beats {b : Beat} {reg : Registry} (h : Scene.Beats b σ.edited? reg σ τ)
    (other : b ≠ .edited) (recorded : Recorded id s σ → Recorded id s τ) :
    Keeps (EditFact id s) σ τ := by
  intro P fact hσ
  cases fact with
  | recorded => exact recorded hσ
  | unwritten =>
    rw [h.beats]
    exact fun written => (List.mem_cons.mp written).elim (fun e => other e.symm) hσ
  | written e => exact h.edited?.trans hσ
  | running n =>
    rw [h.world]
    exact hσ

/-- **The other operation reads the record**; the same version stays stored. -/
theorem keeps_read (σ : Scene) (id : Uuid) (s : Instance) :
    Keeps (EditFact id s) σ (σ.ask .right (.findRecord id)) := by
  rcases σ.ask_findRecord id with ⟨-, beats⟩ | ⟨-, same, world⟩
  · refine keeps_edit_of_beats beats (by decide) fun ⟨exact', i, stored, version⟩ => ?_
    have overwritten : (σ.ask .right (.findRecord id)).Overwritten ↔ σ.Overwritten := by
      rw [Scene.overwritten_of_beats beats.beats]
      simp
    unfold Recorded
    rw [beats.world]
    refine ⟨exact', i, stored, ?_⟩
    rw [Scene.definition_congr beats.edited? overwritten]
    exact version
  · exact keeps_edit same fun n => by rw [world]

/-- **The other operation writes its record back.** The version that it has
    read is stored now. -/
theorem keeps_wrote (held : Held id s r σ) (version : r.SameDefinition i) :
    Keeps (EditFact id s) σ (σ.ask .right (.updateRecord i)) := by
  rcases σ.ask_updateRecord .right i with ⟨reg, made, -, beats⟩ | ⟨-, same, world⟩
  · refine keeps_edit_of_beats beats (by decide) fun ⟨exact', _⟩ => ?_
    have overwritten : (σ.ask .right (.updateRecord i)).Overwritten ↔ σ.Stale := by
      rw [Scene.overwritten_of_beats beats.beats]
      exact ⟨fun ways => ways.elim Scene.Overwritten.stale (·.2), fun stale => .inr ⟨rfl, stale⟩⟩
    unfold Recorded
    rw [beats.world]
    refine ⟨(exact'.of_update made).2, i, ?_, ?_⟩
    · rw [← held.id, ← version.kept.id]
      exact Registry.find?_update made
    · rw [Scene.definition_congr beats.edited? overwritten]
      exact held.version.trans version
  · exact keeps_edit same fun n => by rw [world]

/-- **The edit writes its record back.** It is the one that is stored now, and
    what the other operation has read is the version from before. -/
theorem keeps_edited (unwritten : .edited ∉ σ.beats) (own : e.id = id) :
    Keeps (OtherFact id s) σ (σ.ask .left (.updateRecord e)) ∧
      ((σ.world.answer (.updateRecord e)).1 = .ok () →
        (σ.ask .left (.updateRecord e)).edited? = some e) := by
  rcases σ.ask_updateRecord .left e with ⟨reg, made, -, beats⟩ | ⟨⟨x, refused⟩, same, -⟩
  · have written : (σ.ask .left (.updateRecord e)).edited? = some e := beats.edited?
    refine ⟨?_, fun _ => written⟩
    intro P fact hσ
    cases fact with
    | recorded =>
      have current : ¬ (σ.ask .left (.updateRecord e)).Overwritten := by
        rw [Scene.overwritten_of_beats beats.beats]
        rintro (h | ⟨h, -⟩)
        · exact unwritten h.edited
        · cases h
      unfold Recorded
      rw [Scene.definition_of_edited written, if_neg current, beats.world]
      exact ⟨(hσ.1.of_update made).2, e, own ▸ Registry.find?_update made, e.sameDefinition_refl⟩
    | unread =>
      rw [beats.beats]
      exact fun read => (List.mem_cons.mp read).elim (fun h => nomatch h) hσ
    | held r =>
      have stale : (σ.ask .left (.updateRecord e)).Stale :=
        (Scene.stale_of_beats beats.beats).mpr (.inr ⟨rfl, hσ.read⟩)
      refine ⟨beats.beats ▸ List.mem_cons_of_mem _ hσ.read, hσ.id, ?_⟩
      have version := hσ.version
      rw [Scene.definition_of_unwritten unwritten] at version
      rw [Scene.definition_of_edited written, if_pos stale]
      exact version
  · exact ⟨keeps_other same, fun made => nomatch refused.symm.trans made⟩

end Keeping

end Fleet

end McpFleet
