/-
  File:      McpFleet/Proofs/Fleet/Outcome.lean
  Subject:   How each operation of the fleet can end, in any state.

  An operation looks things up first. It is refused there and changes nothing,
  or it goes on to its changes (`RefusedOr`):

  * `runs_plan`, `runs_revise`: a revision that passed every check, and the
    container that was created for it (`Planned`, `Replaced`);
  * `runs_edit`: the whole edit, call by call.

  The state is any state, and any operation of the store may be made to fail.
-/
import McpFleet.Fleet.Request
import McpFleet.Proofs.Fleet.Planning

namespace McpFleet.Fleet

/-! ## 1. Refusals -/

/-- A container was removed, or was found to be gone. -/
def Exchange.removed : Exchange → Bool
  | ⟨.deleteContainer _, .ok _, _⟩ => true
  | _ => false

/-- Calls that leave the state at `w` and remove nothing. -/
def Idle (w : World) (xs : List Exchange) : Prop := ∀ x ∈ xs, x.after = w ∧ x.removed = false

theorem Still.idle {w : World} {xs : List Exchange} (h : Still w xs) : Idle w xs := by
  intro x hx
  obtain ⟨lookup, after⟩ := h x hx
  refine ⟨after, ?_⟩
  obtain ⟨c, answer, w'⟩ := x
  cases c with
  | deleteContainer i => cases lookup
  | _ => rfl

theorem Idle.append {w : World} {xs ys : List Exchange} (hx : Idle w xs) (hy : Idle w ys) :
    Idle w (xs ++ ys) := fun x h => (List.mem_append.mp h).elim (hx x) (hy x)

theorem idle_single {w : World} {c : Call} {answer : c.Answer}
    (h : Exchange.removed ⟨c, answer, w⟩ = false) : Idle w [⟨c, answer, w⟩] := by
  intro x hx
  rw [List.mem_singleton.mp hx]
  exact ⟨rfl, h⟩

variable {α β : Type} {w w' : World} {xs : List Exchange}

/-- A run that is refused and changes nothing, or goes on behind look-ups with
    exchanges of which `Q` holds. -/
def RefusedOr (w : World) (xs : List Exchange) (r : Except Error α) (w' : World)
    (Q : List Exchange → Prop) : Prop :=
  ((∃ e, r = .error e) ∧ w' = w ∧ Idle w xs) ∨ ∃ ys zs, xs = ys ++ zs ∧ Still w ys ∧ Q zs

theorem RefusedOr.prepend {r : Except Error α} {Q : List Exchange → Prop} {ys zs : List Exchange}
    (hy : Still w ys) (h : RefusedOr w zs r w' Q) : RefusedOr w (ys ++ zs) r w' Q := by
  rcases h with ⟨he, hw, hi⟩ | ⟨us, vs, rfl, hu, hv⟩
  · exact .inl ⟨he, hw, hy.idle.append hi⟩
  · exact .inr ⟨ys ++ us, vs, (List.append_assoc _ _ _).symm, hy.append hu, hv⟩

theorem RefusedOr.imp {r : Except Error α} {s : Except Error β} {Q P : List Exchange → Prop}
    (h : RefusedOr w xs r w' Q) (refused : ∀ e, r = .error e → ∃ e', s = .error e')
    (reached : ∀ zs, Q zs → P zs) : RefusedOr w xs s w' P := by
  rcases h with ⟨⟨e, he⟩, hw, hi⟩ | ⟨ys, zs, hxs, hy, hz⟩
  · exact .inl ⟨refused e he, hw, hi⟩
  · exact .inr ⟨ys, zs, hxs, hy, reached zs hz⟩

/-- What matters behind a run: refused without a change, or `Q` of some of its
    exchanges. -/
theorem RefusedOr.elim {r : Except Error α} {Q : List Exchange → Prop}
    (h : RefusedOr w xs r w' Q) : ((∃ e, r = .error e) ∧ w' = w) ∨ ∃ zs, zs ⊆ xs ∧ Q zs := by
  rcases h with ⟨he, hw, -⟩ | ⟨ys, zs, rfl, -, hz⟩
  · exact .inl ⟨he, hw⟩
  · exact .inr ⟨zs, List.subset_append_right ys zs, hz⟩

/-- A run that succeeds was not refused. -/
theorem RefusedOr.of_ok {a : α} {Q : List Exchange → Prop} (h : RefusedOr w xs (.ok a) w' Q) :
    ∃ zs, Q zs := by
  rcases h.elim with ⟨⟨e, refused⟩, -⟩ | ⟨zs, -, reached⟩
  · cases refused
  · exact ⟨zs, reached⟩

theorem refusedOr_refused {r : Except Error α} {Q : List Exchange → Prop} {e : Error}
    (he : r = .error e) (hw : w' = w) (hi : Idle w xs) : RefusedOr w xs r w' Q :=
  .inl ⟨⟨e, he⟩, hw, hi⟩

theorem refusedOr_reached {r : Except Error α} {Q : List Exchange → Prop} (h : Q xs) :
    RefusedOr w xs r w' Q := .inr ⟨[], xs, rfl, still_nil w, h⟩

/-- **Behind a look-up the run goes on in the same state.** -/
theorem Task.ReadOnly.through {t : Task α} {f : α → Task β} {r : Except Error β}
    {Q : List Exchange → Prop} (ht : t.ReadOnly) (h : (t >>= f).Runs w xs r w')
    (next : ∀ ys zs a, t.Runs w ys (.ok a) w → (f a).Runs w zs r w' → RefusedOr w zs r w' Q) :
    RefusedOr w xs r w' Q := by
  rcases Task.runs_bind.mp h with ⟨e, he, h'⟩ | ⟨ys, zs, a, w₁, rfl, ha, hf⟩
  · obtain ⟨hw, hs⟩ := ht.still h'
    exact refusedOr_refused he hw hs.idle
  · obtain ⟨rfl, hs⟩ := ht.still ha
    exact .prepend hs (next ys zs a ha hf)

/-- A first part that is refused or reaches `P`, and a second part from
    there. -/
theorem RefusedOr.bind {t : Task α} {f : α → Task β} {r : Except Error β}
    {P : α → List Exchange → World → Prop} {Q : List Exchange → Prop}
    (h : (t >>= f).Runs w xs r w')
    (first : ∀ ys s w₁, t.Runs w ys s w₁ →
      RefusedOr w ys s w₁ fun us => ∃ a, s = .ok a ∧ P a us w₁)
    (next : ∀ us zs a w₁, P a us w₁ → (f a).Runs w₁ zs r w' → Q (us ++ zs)) :
    RefusedOr w xs r w' Q := by
  rcases Task.runs_bind.mp h with ⟨e, rfl, ht⟩ | ⟨ys, zs, a, w₁, rfl, ht, hf⟩
  · rcases first _ _ _ ht with ⟨_, hw, hi⟩ | ⟨_, _, _, _, a, ha, _⟩
    · exact refusedOr_refused rfl hw hi
    · cases ha
  · rcases first _ _ _ ht with ⟨⟨e, he⟩, _⟩ | ⟨us, vs, rfl, still, b, hb, hP⟩
    · cases he
    · cases hb
      rw [List.append_assoc]
      exact .prepend still (refusedOr_reached (next vs zs a w₁ hP hf))

/-! ## 2. Checks before a change -/

theorem readOnly_get (id : Uuid) : (get id).ReadOnly := by
  refine .bind (Task.readOnly_findRecord id) fun found => ?_
  cases found with
  | none => exact Task.readOnly_throw _
  | some i => exact Task.readOnly_pure i

theorem runs_get {id : Uuid} {i : Instance} (h : (get id).Runs w xs (.ok i) w') :
    w.registry.find? id = some i := by
  unfold get at h
  obtain ⟨_, _, found, w₁, -, hfound, h⟩ := Task.runs_bind_ok.mp h
  rcases Task.runs_findRecord hfound with e | ⟨-, _, e⟩
  · cases e
    cases hr : w.registry.find? id with
    | none =>
      rw [hr] at h
      cases (Task.runs_throw.mp h).2.1
    | some j =>
      rw [hr] at h
      cases (Task.runs_pure.mp h).2.1
      rfl
  · cases e

theorem readOnly_ensureNameFree (name : InstanceName) (owner : Option Uuid) :
    (ensureNameFree name owner).ReadOnly := by
  refine .bind (Task.readOnly_findRecordByName name) fun found => ?_
  cases found with
  | none => exact Task.readOnly_pure _
  | some i =>
    show Task.ReadOnly (if _ then _ else _)
    split
    · exact Task.readOnly_pure _
    · exact Task.readOnly_throw _

/-- A name that passed belongs to nobody, or to its owner. -/
theorem runs_ensureNameFree {name : InstanceName} {owner : Option Uuid}
    (h : (ensureNameFree name owner).Runs w xs (.ok ()) w') {i : Instance}
    (hi : w.registry.findByName? name = some i) : owner = some i.id := by
  unfold ensureNameFree at h
  obtain ⟨_, _, found, w₁, -, hfound, h⟩ := Task.runs_bind_ok.mp h
  rcases Task.runs_findRecordByName hfound with e | ⟨-, _, e⟩
  · cases e
    rw [hi] at h
    simp only at h
    split at h
    · assumption
    · cases (Task.runs_throw.mp h).2.1
  · cases e

/-- Refuses a stated kind of access that is not the instance's own. -/
def ensureAccess (stated : Option Access) (own : Access) : Task Unit :=
  match stated with
  | none => pure ()
  | some requested => if requested ≠ own then throw (.accessImmutable own requested) else pure ()

theorem readOnly_ensureAccess (stated : Option Access) (own : Access) :
    (ensureAccess stated own).ReadOnly := by
  unfold ensureAccess
  split
  · exact Task.readOnly_pure _
  · split
    · exact Task.readOnly_throw _
    · exact Task.readOnly_pure _

/-- Refuses an instance that the fleet runs no container for. -/
def ensureHosted (own : Access) : Task Unit :=
  if own ≠ .hosting then throw (.restartNotSupported own) else pure ()

theorem readOnly_ensureHosted (own : Access) : (ensureHosted own).ReadOnly := by
  unfold ensureHosted
  split
  · exact Task.readOnly_throw _
  · exact Task.readOnly_pure _

theorem runs_ensureHosted {own : Access} (h : (ensureHosted own).Runs w xs (.ok ()) w') :
    own = .hosting := by
  unfold ensureHosted at h
  split at h
  · cases (Task.runs_throw.mp h).2.1
  · rename_i hosted
    exact Classical.not_not.mp hosted

theorem refusedOr_ofExcept {ε : Type} {e : Except ε α} {wrap : ε → Error} {r : Except Error α}
    (h : (Task.ofExcept e wrap).Runs w xs r w') :
    RefusedOr w xs r w' fun zs => zs = [] ∧ w' = w ∧ ∃ a, e = .ok a ∧ r = .ok a := by
  obtain ⟨rfl, rfl, rfl⟩ := Task.runs_ofExcept.mp h
  cases e with
  | error x => exact refusedOr_refused rfl rfl (still_nil w').idle
  | ok a => exact refusedOr_reached ⟨rfl, rfl, a, rfl, rfl⟩

/-! ## 3. Plans -/

section Plans

variable {cfg : Config} {d : Definition}

-- The checks of a name stay closed: no argument here looks into them.
attribute [local irreducible] Text.trim

/-- A revision that passed every check, and the cluster with the container
    that was created for it. -/
inductive Planned (cfg : Config) (w : World) (id : Uuid) (d : Definition) (generation : UInt32) :
    Access → Revision → Cluster → Prop where
  | passthrough {access : Access} {v : Revision} (own : access ≠ .hosting)
    (judged : passthroughRevision cfg.gateway access id d = .ok v) :
    Planned cfg w id d generation access v w.cluster
  | hosted {p : HostingPlan} {ys : List Exchange} {c : Cluster}
    (prepared : (prepareHosting cfg id d generation).Runs w ys (.ok p) w)
    (made : w.cluster.create p.deployment = .ok c) :
    Planned cfg w id d generation .hosting p.revision c

theorem Planned.name {id : Uuid} {generation : UInt32} {access : Access} {v : Revision}
    {c : Cluster} (h : Planned cfg w id d generation access v c) :
    InstanceName.ofText d.name = .ok v.name := by
  cases h with
  | passthrough own judged => exact (passthroughRevision_spec judged).1
  | hosted prepared made => exact (runs_prepareHosting prepared).1

theorem runs_plan {id : Uuid} {access : Access} {r : Except Error Revision}
    (h : (plan cfg id access d).Runs w xs r w') :
    RefusedOr w xs r w' fun _ =>
      ∃ v, r = .ok v ∧ ∃ c, w' = { w with cluster := c } ∧ Planned cfg w id d 0 access v c := by
  have passthrough (own : access ≠ .hosting)
      (h : (Task.ofExcept (passthroughRevision cfg.gateway access id d)
        fun e => e).Runs w xs r w') :
      RefusedOr w xs r w' fun _ =>
        ∃ v, r = .ok v ∧ ∃ c, w' = { w with cluster := c } ∧ Planned cfg w id d 0 access v c := by
    refine (refusedOr_ofExcept h).imp (fun e he => ⟨e, he⟩) ?_
    rintro _ ⟨-, rfl, v, judged, rfl⟩
    exact ⟨v, rfl, w'.cluster, rfl, .passthrough own judged⟩
  cases access with
  | direct | proxy => exact passthrough (by decide) h
  | hosting =>
    refine (readOnly_prepareHosting cfg id d 0).through h fun ys zs p hp h => ?_
    obtain ⟨s, hs, rfl⟩ := Task.runs_bind_pure.mp h
    obtain ⟨_, rfl, rfl, carried⟩ := Task.runs_createContainer hs
    cases carried with
    | done made => exact refusedOr_reached ⟨p.revision, rfl, _, rfl, .hosted hp made⟩
    | refused _ => exact refusedOr_refused rfl rfl (idle_single rfl)

/-- The cluster without an instance's container, if that can be removed. -/
def discard (c : Cluster) (i : Instance) : Cluster :=
  match c.delete i with
  | .ok c' => c'
  | .error _ => c

/-- A revision that passed every check, the calls that replace the container,
    and the state behind them. -/
inductive Replaced (cfg : Config) (w : World) (s : Instance) (d : Definition) :
    Revision → List Exchange → World → Prop where
  | passthrough {v : Revision} (own : s.access ≠ .hosting)
    (judged : passthroughRevision cfg.gateway s.access s.id d = .ok v) :
    Replaced cfg w s d v [] w
  | hosted {p : HostingPlan} {ys : List Exchange} {c : Cluster} (own : s.access = .hosting)
    (prepared : (prepareHosting cfg s.id d (nextGeneration s)).Runs w ys (.ok p) w)
    (made : w.cluster.create p.deployment = .ok c) :
    Replaced cfg w s d p.revision
      [⟨.createContainer p.deployment, .ok (), { w with cluster := c }⟩,
        ⟨.deleteContainer s, (c.delete s).map fun _ => (), { w with cluster := discard c s }⟩]
      { w with cluster := discard c s }

theorem Replaced.name {s : Instance} {v : Revision} (h : Replaced cfg w s d v xs w') :
    InstanceName.ofText d.name = .ok v.name := by
  cases h with
  | passthrough own judged => exact (passthroughRevision_spec judged).1
  | hosted own prepared made => exact (runs_prepareHosting prepared).1

/-- Replacing a container changes the cluster only. -/
theorem Replaced.frame {s : Instance} {v : Revision} (h : Replaced cfg w s d v xs w') :
    w' = { w with cluster := w'.cluster } := by
  cases h <;> rfl

theorem runs_revise {s : Instance} {r : Except Error Revision}
    (h : (revise cfg s d).Runs w xs r w') :
    RefusedOr w xs r w' fun zs => ∃ v, r = .ok v ∧ Replaced cfg w s d v zs w' := by
  unfold revise at h
  by_cases own : s.access = .hosting
  · rw [own] at h
    refine (readOnly_prepareHosting cfg s.id d (nextGeneration s)).through h fun ys zs p hp h => ?_
    rcases Task.runs_bind.mp h with ⟨e, he, hc⟩ | ⟨us, vs, _, w₁, rfl, hc, hd⟩
    · obtain ⟨_, rfl, failed, carried⟩ := Task.runs_createContainer hc
      obtain ⟨rfl, _, rfl⟩ := carried.of_error failed
      exact refusedOr_refused he rfl (idle_single rfl)
    · obtain ⟨_, rfl, granted, carried⟩ := Task.runs_createContainer hc
      obtain ⟨rfl, c, made, rfl⟩ := carried.of_ok granted
      obtain ⟨a, ha, rfl⟩ := Task.runs_bind_pure.mp hd
      obtain ⟨b, rfl, hb⟩ := Task.runs_attempt.mp ha
      obtain ⟨answer, rfl, -, removed⟩ := Task.runs_deleteContainer hb
      have gone : w' = { w with cluster := discard c s } ∧
          answer = (c.delete s).map fun _ => () := by
        unfold discard
        cases removed with
        | done e => rw [show c.delete s = _ from e]; exact ⟨rfl, rfl⟩
        | refused e => rw [show c.delete s = _ from e]; exact ⟨rfl, rfl⟩
      obtain ⟨rfl, rfl⟩ := gone
      exact refusedOr_reached ⟨p.revision, rfl, .hosted own hp made⟩
  · have h' : (Task.ofExcept (passthroughRevision cfg.gateway s.access s.id d)
        fun e => e).Runs w xs r w' := by
      cases e : s.access with
      | hosting => exact absurd e own
      | direct | proxy => rwa [e] at h
    refine (refusedOr_ofExcept h').imp (fun e he => ⟨e, he⟩) ?_
    rintro _ ⟨rfl, rfl, v, judged, rfl⟩
    exact ⟨v, rfl, .passthrough own judged⟩

/-! ## 4. Edits -/

theorem edit_eq (cfg : Config) (id : Uuid) (stated : Option Access) (d : Definition) :
    edit cfg id stated d = (do
      let stored ← get id
      ensureAccess stated stored.access
      let name ← Task.ofExcept (InstanceName.ofText d.name) .domain
      ensureNameFree name (some id)
      let revision ← revise cfg stored d
      let now ← Task.readClock
      Task.updateRecord (stored.revise revision now)
      pure (stored.revise revision now)) := by
  unfold edit
  congr 1
  funext stored
  unfold ensureAccess
  cases stated with
  | none => simp only [pure_bind]
  | some requested =>
    by_cases other : requested ≠ stored.access
    · simp only [if_pos other]
    · simp only [if_neg other, pure_bind]

/-- A record with the time of its change is written back. -/
theorem runs_writeBack {f : Instant → Instance} {r : Except Error Instance}
    (h : (do
      let now ← Task.readClock
      Task.updateRecord (f now)
      pure (f now)).Runs w xs r w') :
    ∃ answer : Except StoreError Unit,
      xs = [⟨.readClock, w.clock, w⟩, ⟨.updateRecord (f w.clock), answer, w'⟩] ∧
      Written .update (·.update (f w.clock)) w (answer.mapError .store) w' ∧
      r = (answer.mapError .store).map fun _ => f w.clock := by
  obtain ⟨zs, rfl, hf⟩ := Task.runs_readClock_bind.mp h
  obtain ⟨s, hs, rfl⟩ := Task.runs_bind_pure.mp hf
  obtain ⟨answer, rfl, rfl, written⟩ := Task.runs_updateRecord hs
  exact ⟨answer, rfl, written, rfl⟩

/-- What is left of an edit when every check is passed: the container is
    replaced, the clock is read, the record is written back. -/
structure Edited (cfg : Config) (w : World) (id : Uuid) (s : Instance) (d : Definition)
    (v : Revision) (ys : List Exchange) (w₁ : World) (answer : Except StoreError Unit)
    (zs : List Exchange) (w' : World) : Prop where
  free : ∀ {i}, w.registry.findByName? v.name = some i → i.id = id
  replaced : Replaced cfg w s d v ys w₁
  written : Written .update (·.update (s.revise v w.clock)) w₁ (answer.mapError .store) w'
  exchanges : zs = ys ++ [⟨.readClock, w.clock, w₁⟩,
    ⟨.updateRecord (s.revise v w.clock), answer, w'⟩]

/-- **An edit is refused and changes nothing, or goes on to replace the
    container and to write the record back.** -/
theorem runs_edit {id : Uuid} {stated : Option Access} {r : Except Error Instance}
    (h : (edit cfg id stated d).Runs w xs r w') :
    RefusedOr w xs r w' fun zs => ∃ s v ys w₁ answer, w.registry.find? id = some s ∧
      Edited cfg w id s d v ys w₁ answer zs w' ∧
      r = (answer.mapError .store).map fun _ => s.revise v w.clock := by
  rw [edit_eq] at h
  refine (readOnly_get id).through h fun _ _ s hs h => ?_
  refine (readOnly_ensureAccess stated s.access).through h fun _ _ _ _ h => ?_
  refine (Task.readOnly_ofExcept _ _).through h fun _ _ name hname h => ?_
  refine (readOnly_ensureNameFree name (some id)).through h fun _ us _ hfree h => ?_
  refine .bind h (fun _ _ _ => runs_revise) fun ys zs v w₁ replaced h => ?_
  obtain ⟨answer, rfl, written, rfl⟩ := runs_writeBack h
  have clock : w₁.clock = w.clock := by rw [replaced.frame]
  rw [clock] at written ⊢
  refine ⟨s, v, ys, w₁, answer, runs_get hs, ⟨fun {i} hi => ?_, replaced, written, rfl⟩, rfl⟩
  have e : name = v.name := Except.ok.inj ((mapError_eq_ok.mp
    (Task.runs_ofExcept.mp hname).2.1.symm).symm.trans replaced.name)
  rw [← e] at hi
  exact (Option.some.inj (runs_ensureNameFree hfree hi)).symm

end Plans

end McpFleet.Fleet
