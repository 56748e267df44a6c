/-
  File:      McpFleet/Proofs/Fleet/Effect.lean
  Subject:   What requests do, whichever operations of the store fail.

  * `Effect`: everything that a request can change, one case per operation.
  * `Unsaved`: what is left when the store refuses the last call of an
    operation: the cluster is changed, and no record is.
  * **`closes_request`**: a request is refused and changes nothing, has its
    effect, or stays unsaved. The last call of an operation is its one change
    of the registry; only a failing store refuses it, or an identifier that is
    in use already, since the other checks were made in the same registry.
  * **`Steady.effect`**: in a state whose store answers nothing stays unsaved,
    as long as identifiers are new.
-/
import McpFleet.Proofs.Cluster.Operations
import McpFleet.Proofs.Fleet.Outcome
import McpFleet.Proofs.Instance
import McpFleet.Proofs.Store.Index

namespace McpFleet

/-! ## 1. Changes of a registry -/

namespace Registry

/-- The registry with one record put in. -/
structure Puts (r : Registry) (i : Instance) (r' : Registry) : Prop where
  instances : r'.instances = r.instances.insert i.id i
  exact : r'.Exact

/-- The registry with one record left out. -/
structure Drops (r : Registry) (id : Uuid) (r' : Registry) : Prop where
  instances : r'.instances = r.instances.erase id
  exact : r'.Exact

theorem Puts.find? {r r' : Registry} {i : Instance} (h : r.Puts i r') (id : Uuid) :
    r'.find? id = if i.id = id then some i else r.find? id := by
  unfold Registry.find?
  rw [h.instances, Dict.get?_insert]

theorem Drops.find? {r r' : Registry} {id' : Uuid} (h : r.Drops id' r') (id : Uuid) :
    r'.find? id = if id' = id then none else r.find? id := by
  unfold Registry.find?
  rw [h.instances, Dict.get?_erase]

/-- The records that are left were there before. -/
theorem Drops.before {r r' : Registry} {id' id : Uuid} {i : Instance} (h : r.Drops id' r')
    (left : r'.find? id = some i) : r.find? id = some i := by
  rw [h.find?] at left
  split at left
  · cases left
  · exact left

/-- A record that keeps its name can be written back. -/
theorem Exact.update_named {r : Registry} (h : r.Exact) {s i : Instance}
    (stored : r.find? i.id = some s) (named : i.name = s.name) :
    ∃ r', r.update i = .ok r' ∧ r.Puts i r' := by
  have free : ∀ id, r.names.get? i.name = some id → id = i.id := by
    intro id hid
    rw [named, h.get?_name stored] at hid
    exact (Option.some.inj hid).symm
  obtain ⟨r', hr, hi, he⟩ := update_spec h stored free
  exact ⟨r', hr, hi, he⟩

end Registry

namespace Fleet

/-! ## 2. Effects -/

/-- The store answers, and its name index is exact. -/
structure Steady (w : World) : Prop where
  reliable : w.storeFailing = fun _ => false
  exact : w.registry.Exact

theorem Steady.answers {w : World} (h : Steady w) (operation : StoreOperation) :
    w.storeFailing operation = false := congrFun h.reliable operation

/-- **What a request can change**, with its reply; `xs` are its exchanges. -/
inductive Effect (cfg : Config) (w : World) (xs : List Exchange) :
    Request → Reply → World → Prop where
  | unchanged (q : Request) (a : Reply) : Effect cfg w xs q a w
  | created {id : Uuid} {access : Access} {d : Definition} {v : Revision} {c : Cluster}
    {r : Registry} (fresh : w.registry.find? id = none) (planned : Planned cfg w id d 0 access v c)
    (puts : w.registry.Puts (.create id access v w.clock) r) :
    Effect cfg w xs (.create id access d) (.stored (.create id access v w.clock))
      { w with registry := r, cluster := c }
  | edited {id : Uuid} {stated : Option Access} {d : Definition} {s : Instance} {v : Revision}
    {ys : List Exchange} {w₁ : World} {r : Registry} (stored : w.registry.find? id = some s)
    (replaced : Replaced cfg w s d v ys w₁) (made : ys ⊆ xs)
    (puts : w.registry.Puts (s.revise v w.clock) r) :
    Effect cfg w xs (.edit id stated d) (.stored (s.revise v w.clock))
      { w with registry := r, cluster := w₁.cluster }
  | restarted {id : Uuid} {s i : Instance} {m : String} {c : Cluster} {r : Registry}
    (stored : w.registry.find? id = some s) (own : s.access = .hosting)
    (done : w.cluster.restart s = .ok (m, c)) (marked : s.markRestarting m w.clock = .ok i)
    (puts : w.registry.Puts i r) :
    Effect cfg w xs (.restart id) (.stored i) { w with registry := r, cluster := c }
  | switched {id : Uuid} {q : Request} {s i : Instance} {status : InstanceStatus} {r : Registry}
    (asked : (q = .disable id ∧ status = .inactive) ∨ (q = .enable id ∧ status = .active))
    (stored : w.registry.find? id = some s) (changed : s.withStatus? status w.clock = some i)
    (puts : w.registry.Puts i r) :
    Effect cfg w xs q (.stored i) { w with registry := r }
  | refreshed {id : Uuid} {s i : Instance} {health : HealthReport} {report : StatusReport}
    {r : Registry} (stored : w.registry.find? id = some s) (own : s.access = .hosting)
    (asked : w.cluster.status s = .ok report)
    (changed : s.withReport? report w.clock = some i) (puts : w.registry.Puts i r) :
    Effect cfg w xs (.status id) (.health health) { w with registry := r }
  | deleted {id : Uuid} {s : Instance} {c : Cluster} {r : Registry}
    (stored : w.registry.find? id = some s)
    (removed : if s.access = .hosting then w.cluster.delete s = .ok c else c = w.cluster)
    (drops : w.registry.Drops id r) :
    Effect cfg w xs (.delete id) .removed { w with registry := r, cluster := c }

/-- **What a request leaves behind whose record was not saved**: the cluster
    is changed, and the store fails where the record is to be written; a new
    record is not saved under an identifier in use either. -/
inductive Unsaved (cfg : Config) (w : World) : Request → World → Prop where
  | created {id : Uuid} {access : Access} {d : Definition} {v : Revision} {c : Cluster}
    (refused : w.storeFailing .create = true ∨ ∃ i, w.registry.find? id = some i)
    (planned : Planned cfg w id d 0 access v c) :
    Unsaved cfg w (.create id access d) { w with cluster := c }
  | edited {id : Uuid} {stated : Option Access} {d : Definition} {s : Instance} {v : Revision}
    {ys : List Exchange} {w₁ : World} (failing : w.storeFailing .update = true)
    (stored : w.registry.find? id = some s) (replaced : Replaced cfg w s d v ys w₁) :
    Unsaved cfg w (.edit id stated d) w₁
  | restarted {id : Uuid} {s : Instance} {m : String} {c : Cluster}
    (failing : w.storeFailing .update = true) (stored : w.registry.find? id = some s)
    (done : w.cluster.restart s = .ok (m, c)) :
    Unsaved cfg w (.restart id) { w with cluster := c }
  | deleted {id : Uuid} {s : Instance} {c : Cluster} (failing : w.storeFailing .delete = true)
    (stored : w.registry.find? id = some s)
    (removed : if s.access = .hosting then w.cluster.delete s = .ok c else c = w.cluster) :
    Unsaved cfg w (.delete id) { w with cluster := c }

/-! ## 3. Writing behind the checks -/

section Writing

variable {cfg : Config} {w w' : World} {xs : List Exchange}

-- The checks of a name stay closed: no argument here looks into them.
attribute [local irreducible] Text.trim

/-- A change that the registry takes is made, unless the store is made to
    fail. -/
theorem Written.made_or_failing {operation : StoreOperation}
    {change : Registry → Except StoreError Registry} {a : Except Error Unit} {r : Registry}
    (h : Written operation change w a w') (ok : change w.registry = .ok r) :
    (a = .ok () ∧ w' = { w with registry := r }) ∨
      (w.storeFailing operation = true ∧ (∃ e, a = .error e) ∧ w' = w) := by
  cases h with
  | made h =>
    cases Except.ok.inj (h.symm.trans ok)
    exact .inl ⟨rfl, rfl⟩
  | refused h =>
    refine .inr ⟨?_, ⟨_, rfl⟩, rfl⟩
    cases failing : w.storeFailing operation with
    | true => rfl
    | false =>
      have e := h failing
      rw [ok] at e
      cases e

theorem fresh_name (exact : w.registry.Exact) {name : InstanceName} {ys : List Exchange}
    {w₁ : World} (h : (ensureNameFree name none).Runs w ys (.ok ()) w₁) :
    w.registry.names.get? name = none := by
  rw [← exact.findByName?_eq_none]
  cases found : w.registry.findByName? name with
  | none => rfl
  | some i => cases runs_ensureNameFree h found

/-! ## 4. Operations -/

/-- How an operation ends whose reply is made with `f`. -/
def Ends {α : Type} (cfg : Config) (w : World) (xs : List Exchange) (q : Request) (f : α → Reply)
    (a : Except Error α) (w' : World) : Prop :=
  ((∃ e, a = .error e) ∧ w' = w) ∨ ∃ b, a = .ok b ∧ Effect cfg w xs q (f b) w'

/-- How an operation closes, whichever operations of the store fail. -/
def Closes {α : Type} (cfg : Config) (w : World) (xs : List Exchange) (q : Request) (f : α → Reply)
    (a : Except Error α) (w' : World) : Prop :=
  Ends cfg w xs q f a w' ∨ ((∃ e, a = .error e) ∧ Unsaved cfg w q w')

/-- An operation that is not refused at first has its effect or stays
    unsaved. -/
def Settles {α : Type} (cfg : Config) (w : World) (xs : List Exchange) (q : Request)
    (f : α → Reply) (a : Except Error α) (w' : World) : Prop :=
  (∃ b, a = .ok b ∧ Effect cfg w xs q (f b) w') ∨ ((∃ e, a = .error e) ∧ Unsaved cfg w q w')

theorem RefusedOr.closes {α : Type} {a : Except Error α} {q : Request} {f : α → Reply}
    {Q : List Exchange → Prop} (h : RefusedOr w xs a w' Q)
    (reached : ∀ zs, zs ⊆ xs → Q zs → Settles cfg w xs q f a w') : Closes cfg w xs q f a w' := by
  rcases h.elim with refused | ⟨zs, hs, hz⟩
  · exact .inl (.inl refused)
  · rcases reached zs hs hz with done | unsaved
    · exact .inl (.inr done)
    · exact .inr unsaved

theorem closes_create (exact : w.registry.Exact) {id : Uuid} {access : Access} {d : Definition}
    {a : Except Error Instance} (h : (create cfg id access d).Runs w xs a w') :
    Closes cfg w xs (.create id access d) .stored a w' := by
  have key : RefusedOr w xs a w' fun _ =>
      Settles cfg w xs (.create id access d) .stored a w' := by
    refine (Task.readOnly_ofExcept _ _).through h fun _ _ name hname h => ?_
    refine (readOnly_ensureNameFree name none).through h fun _ _ _ hfree h => ?_
    refine .bind h (fun _ _ _ => runs_plan) fun _ _ v _ ⟨c, hw₁, planned⟩ h => ?_
    subst hw₁
    obtain ⟨_, rfl, hc⟩ := Task.runs_readClock_bind.mp h
    obtain ⟨s, hs, rfl⟩ := Task.runs_bind_pure.mp hc
    have e : name = v.name := Except.ok.inj ((mapError_eq_ok.mp
      (Task.runs_ofExcept.mp hname).2.1.symm).symm.trans planned.name)
    have free := e ▸ fresh_name exact hfree
    have written := Task.runs_createRecord hs
    cases found : w.registry.find? id with
    | none =>
      obtain ⟨r, hr, hi, he⟩ := Registry.create_spec (i := .create id access v w.clock) exact
        found free
      rcases written.made_or_failing hr with ⟨rfl, rfl⟩ | ⟨failing, ⟨e, rfl⟩, rfl⟩
      · exact .inl ⟨_, rfl, .created found planned ⟨hi, he⟩⟩
      · exact .inr ⟨⟨e, rfl⟩, .created (.inl failing) planned⟩
    | some i =>
      have taken := Registry.create_taken (i := .create id access v w.clock) found
      cases written with
      | made done =>
        have done := taken.symm.trans done
        cases done
      | refused => exact .inr ⟨⟨_, rfl⟩, .created (.inr ⟨i, found⟩) planned⟩
  exact key.closes fun _ _ h => h

theorem closes_edit (exact : w.registry.Exact) {id : Uuid} {stated : Option Access}
    {d : Definition} {a : Except Error Instance} (h : (edit cfg id stated d).Runs w xs a w') :
    Closes cfg w xs (.edit id stated d) .stored a w' := by
  refine (runs_edit h).closes ?_
  rintro zs hs ⟨s, v, ys, w₁, answer, stored, e, rfl⟩
  obtain rfl : s.id = id := exact.key stored
  have free : ∀ id, w.registry.names.get? v.name = some id → id = s.id := by
    intro id hid
    obtain ⟨j, hj, named⟩ := exact.name.mp hid
    rw [← e.free (exact.findByName?_eq_some.mpr ⟨exact.key hj ▸ hj, named⟩)]
    exact (exact.key hj).symm
  obtain ⟨r, hr, hi, he⟩ := Registry.update_spec (i := s.revise v w.clock) exact stored free
  have frame := e.replaced.frame
  rcases e.written.made_or_failing (r := r) (by rw [frame]; exact hr) with
    ⟨ha, rfl⟩ | ⟨failing, ⟨x, hx⟩, rfl⟩
  · have made : ys ⊆ xs := by
      rw [e.exchanges] at hs
      exact fun x hx => hs (List.mem_append_left _ hx)
    have done : Effect cfg w xs (.edit s.id stated d) (.stored (s.revise v w.clock))
        { w with registry := r, cluster := w₁.cluster } :=
      .edited stored e.replaced made ⟨hi, he⟩
    rw [ha, frame]
    exact .inl ⟨_, rfl, done⟩
  · rw [frame] at failing
    rw [hx]
    exact .inr ⟨⟨x, rfl⟩, .edited failing stored e.replaced⟩

/-- A record that was looked up and keeps its name is written back, unless the
    store is made to fail. -/
theorem writeBack (exact : w.registry.Exact) {s i : Instance} {id : Uuid} {c : Cluster}
    (stored : w.registry.find? id = some s) (kept : s.Kept i)
    {a : Except Error Unit} (h : (Task.updateRecord i).Runs { w with cluster := c } xs a w') :
    (a = .ok () ∧ ∃ r, w.registry.Puts i r ∧ w' = { w with registry := r, cluster := c }) ∨
    (w.storeFailing .update = true ∧ (∃ e, a = .error e) ∧ w' = { w with cluster := c }) := by
  obtain ⟨_, -, -, written⟩ := Task.runs_updateRecord h
  obtain rfl : s.id = id := exact.key stored
  obtain ⟨r, hr, puts⟩ := exact.update_named (kept.id ▸ stored) kept.name
  rcases written.made_or_failing hr with ⟨ha, hw'⟩ | unsaved
  · exact .inl ⟨ha, r, puts, hw'⟩
  · exact .inr unsaved

theorem ends_setStatus (exact : w.registry.Exact) {id : Uuid} {q : Request}
    {status : InstanceStatus}
    (asked : (q = .disable id ∧ status = .inactive) ∨ (q = .enable id ∧ status = .active))
    {a : Except Error Instance} (h : (setStatus id status).Runs w xs a w') :
    Ends cfg w xs q .stored a w' := by
  have key : RefusedOr w xs a w' fun _ => Ends cfg w xs q .stored a w' := by
    refine (readOnly_get id).through h fun _ _ s hs h => ?_
    have stored := runs_get hs
    obtain ⟨_, rfl, hc⟩ := Task.runs_readClock_bind.mp h
    cases changed : s.withStatus? status w.clock with
    | none =>
      rw [changed] at hc
      obtain ⟨rfl, rfl, rfl⟩ := Task.runs_pure.mp hc
      exact refusedOr_reached (.inr ⟨s, rfl, .unchanged _ _⟩)
    | some i =>
      rw [changed] at hc
      obtain ⟨_, hu, rfl⟩ := Task.runs_bind_pure.mp hc
      rcases writeBack exact stored (Instance.kept_withStatus? changed) hu with
        ⟨rfl, r, puts, rfl⟩ | ⟨-, ⟨e, rfl⟩, rfl⟩
      · exact refusedOr_reached (.inr ⟨i, rfl, .switched asked stored changed puts⟩)
      · exact refusedOr_reached (.inl ⟨⟨e, rfl⟩, rfl⟩)
  rcases key.elim with refused | ⟨_, _, ends⟩
  · exact .inl refused
  · exact ends

theorem restart_eq (id : Uuid) :
    restart id = (do
      let stored ← get id
      ensureHosted stored.access
      let message ← Task.restartContainer stored
      let now ← Task.readClock
      let i ← Task.ofExcept (stored.markRestarting message now) .domain
      Task.updateRecord i
      pure i) := by
  unfold restart
  congr 1
  funext stored
  unfold ensureHosted
  by_cases other : stored.access ≠ .hosting
  · simp only [if_pos other]
  · simp only [if_neg other, pure_bind]

theorem closes_restart (exact : w.registry.Exact) {id : Uuid} {a : Except Error Instance}
    (h : (restart id).Runs w xs a w') : Closes cfg w xs (.restart id) .stored a w' := by
  have key : RefusedOr w xs a w' fun _ => Settles cfg w xs (.restart id) .stored a w' := by
    rw [restart_eq] at h
    refine (readOnly_get id).through h fun _ _ s hs h => ?_
    refine (readOnly_ensureHosted s.access).through h fun _ zs _ hosted h => ?_
    have stored := runs_get hs
    rcases Task.runs_bind.mp h with ⟨e, rfl, hr⟩ | ⟨us, vs, m, w₁, rfl, hr, hc⟩
    · rcases Task.runs_restartContainer hr with ⟨_, _, _, _, e, _⟩ | ⟨_, -, rfl, -, rfl⟩
      · cases e
      · exact refusedOr_refused rfl rfl (idle_single rfl)
    · rcases Task.runs_restartContainer hr with ⟨_, c, done, -, e, rfl⟩ | ⟨_, _, _, e, _⟩
      · cases e
        obtain ⟨_, rfl, hm⟩ := Task.runs_readClock_bind.mp hc
        obtain ⟨k, _, hk, -⟩ := Cluster.restart_eq_ok.mp done
        obtain ⟨i, marked⟩ := Instance.markRestarting_of_some hk m w.clock
        simp only [marked] at hm
        obtain ⟨_, hu, rfl⟩ := Task.runs_bind_pure.mp hm
        rcases writeBack exact stored (Instance.kept_markRestarting marked) hu with
          ⟨rfl, r, puts, rfl⟩ | ⟨failing, ⟨e, rfl⟩, rfl⟩
        · exact refusedOr_reached
            (.inl ⟨i, rfl, .restarted stored (runs_ensureHosted hosted) done marked puts⟩)
        · exact refusedOr_reached (.inr ⟨⟨e, rfl⟩, .restarted failing stored done⟩)
      · cases e
  exact key.closes fun _ _ h => h

theorem closes_delete (exact : w.registry.Exact) {id : Uuid} {a : Except Error Unit}
    (h : (delete id).Runs w xs a w') : Closes cfg w xs (.delete id) (fun _ => .removed) a w' := by
  have key : RefusedOr w xs a w' fun _ =>
      Settles cfg w xs (.delete id) (fun _ => .removed) a w' := by
    refine (readOnly_get id).through h fun _ zs s hs h => ?_
    have stored := runs_get hs
    obtain ⟨r, hr, hi, he⟩ := Registry.delete_spec exact stored
    have drops : w.registry.Drops id r := ⟨hi, he⟩
    have last {c : Cluster} {ys : List Exchange}
        (removed : if s.access = .hosting then w.cluster.delete s = .ok c else c = w.cluster)
        (h : (Task.deleteRecord id).Runs { w with cluster := c } ys a w') :
        Settles cfg w xs (.delete id) (fun _ => .removed) a w' := by
      rcases (Task.runs_deleteRecord h).made_or_failing hr with
        ⟨rfl, rfl⟩ | ⟨failing, ⟨e, rfl⟩, rfl⟩
      · exact .inl ⟨(), rfl, .deleted stored removed drops⟩
      · exact .inr ⟨⟨e, rfl⟩, .deleted failing stored removed⟩
    simp only at h
    split at h
    · rename_i hosted
      rcases Task.runs_bind.mp h with ⟨e, rfl, hd⟩ | ⟨us, vs, _, w₁, rfl, hd, hl⟩
      · obtain ⟨_, rfl, failed, carried⟩ := Task.runs_deleteContainer hd
        obtain ⟨rfl, _, rfl⟩ := carried.of_error failed
        exact refusedOr_refused rfl rfl (idle_single rfl)
      · obtain ⟨_, -, granted, carried⟩ := Task.runs_deleteContainer hd
        obtain ⟨-, c, gone, rfl⟩ := carried.of_ok granted
        exact refusedOr_reached (last (by rw [if_pos hosted]; exact gone) hl)
    · rename_i other
      exact refusedOr_reached (last (c := w.cluster) (by rw [if_neg other]) h)
  exact key.closes fun _ _ h => h

theorem readOnly_check (cfg : Config) (i : Instance) : (check cfg i).ReadOnly := by
  unfold check
  by_cases own : i.access = .hosting
  · simp only [if_pos own]
    exact .bind (Task.readOnly_containerStatus i) fun _ => Task.readOnly_pure _
  · simp only [if_neg own]
    split
    · exact Task.readOnly_pure _
    · exact .bind (Task.readOnly_probe _ _) fun _ => Task.readOnly_pure _

/-- The report of a container is what the cluster says. -/
theorem runs_check {i : Instance} {health : HealthReport} {report : StatusReport}
    (h : (check cfg i).Runs w xs (.ok health) w') (said : health.evidence = .container report) :
    i.access = .hosting ∧ w.cluster.status i = .ok report := by
  unfold check at h
  by_cases own : i.access = .hosting
  · simp only [if_pos own] at h
    obtain ⟨s, hs, hr⟩ := Task.runs_bind_pure.mp h
    have asked := Task.runs_containerStatus hs
    cases hc : w.cluster.status i with
    | error e =>
      rw [asked, hc] at hr
      cases hr
    | ok r =>
      rw [asked, hc] at hr
      cases hr
      cases said
      exact ⟨own, rfl⟩
  · simp only [if_neg own] at h
    split at h
    · cases (Task.runs_pure.mp h).2.1
      cases said
    · obtain ⟨s, -, hr⟩ := Task.runs_bind_pure.mp h
      cases s with
      | error e => cases hr
      | ok o =>
        cases hr
        cases said

theorem ends_status (exact : w.registry.Exact) {id : Uuid} {a : Except Error HealthReport}
    (h : (status cfg id).Runs w xs a w') : Ends cfg w xs (.status id) .health a w' := by
  have key : RefusedOr w xs a w' fun _ =>
      ∃ b, a = .ok b ∧ Effect cfg w xs (.status id) (.health b) w' := by
    refine (readOnly_get id).through h fun _ _ s hs h => ?_
    refine (readOnly_check cfg s).through h fun _ _ health hh h => ?_
    have stored := runs_get hs
    cases said : health.evidence with
    | endpoint o =>
      rw [said] at h
      obtain ⟨rfl, rfl, rfl⟩ := Task.runs_pure.mp h
      exact refusedOr_reached ⟨health, rfl, .unchanged _ _⟩
    | container report =>
      rw [said] at h
      obtain ⟨own, asked⟩ := runs_check hh said
      obtain ⟨_, rfl, hc⟩ := Task.runs_readClock_bind.mp h
      cases changed : s.withReport? report w.clock with
      | none =>
        rw [changed] at hc
        obtain ⟨rfl, rfl, rfl⟩ := Task.runs_pure.mp hc
        exact refusedOr_reached ⟨health, rfl, .unchanged _ _⟩
      | some i =>
        rw [changed] at hc
        obtain ⟨_, ha, rfl⟩ := Task.runs_bind_pure.mp hc
        obtain ⟨_, rfl, hu⟩ := Task.runs_attempt.mp ha
        -- the reply is the same when the record cannot be written back
        rcases writeBack exact stored (Instance.kept_withReport? changed) hu with
          ⟨rfl, r, puts, rfl⟩ | ⟨-, -, rfl⟩
        · exact refusedOr_reached ⟨health, rfl, .refreshed stored own asked changed puts⟩
        · exact refusedOr_reached ⟨health, rfl, .unchanged _ _⟩
  rcases key.elim with refused | ⟨_, _, done⟩
  · exact .inl refused
  · exact .inr done

/-! ## 5. Requests that only look things up -/

/-- A task that only looks things up has no effect. -/
theorem Task.ReadOnly.ends {α : Type} {t : Task α} (ht : t.ReadOnly) {q : Request} {f : α → Reply}
    {a : Except Error α} (h : t.Runs w xs a w') : Ends cfg w xs q f a w' := by
  obtain ⟨rfl, -⟩ := ht.still h
  cases a with
  | error e => exact .inl ⟨⟨e, rfl⟩, rfl⟩
  | ok b => exact .inr ⟨b, rfl, .unchanged _ _⟩

theorem readOnly_environmentName? (i : Instance) : (environmentName? i).ReadOnly := by
  unfold environmentName?
  split
  · exact Task.readOnly_pure _
  · refine .bind (.attempt (Task.readOnly_findEnvironment _)) fun found => ?_
    split <;> exact Task.readOnly_pure _

theorem readOnly_describe (id : Uuid) : (describe id).ReadOnly :=
  .bind (readOnly_get id) fun i => .bind (readOnly_environmentName? i) fun _ => Task.readOnly_pure _

theorem readOnly_logs (cfg : Config) (id : Uuid) (lines : Option Nat) :
    (logs cfg id lines).ReadOnly := by
  refine .bind (readOnly_get id) fun i => ?_
  split
  · exact Task.readOnly_pure _
  · refine .bind (.attempt (Task.readOnly_containerLogs i _)) fun found => ?_
    split <;> exact Task.readOnly_pure _

theorem readOnly_findByName (name : String) : (findByName name).ReadOnly :=
  .bind (Task.readOnly_ofExcept _ _) fun _ => Task.readOnly_findRecordByName _

/-! ## 6. Requests -/

/-- The identifier that a request draws for a new instance. -/
def Request.drawn? : Request → Option Uuid
  | create id _ _ => some id
  | _ => none

/-- **A request is refused and changes nothing, has its effect, or stays
    unsaved.** -/
theorem closes_request (exact : w.registry.Exact) {q : Request} {a : Except Error Reply}
    (h : (q.task cfg).Runs w xs a w') : Closes cfg w xs q (fun b => b) a w' := by
  have closed {α : Type} {t : Task α} {f : α → Reply} (h : (f <$> t).Runs w xs a w')
      (closes : ∀ s, t.Runs w xs s w' → Closes cfg w xs q f s w') :
      Closes cfg w xs q (fun b => b) a w' := by
    obtain ⟨s, hs, rfl⟩ := Task.runs_map.mp h
    rcases closes s hs with (⟨⟨e, rfl⟩, hw'⟩ | ⟨b, rfl, effect⟩) | ⟨⟨e, rfl⟩, unsaved⟩
    · exact .inl (.inl ⟨⟨e, rfl⟩, hw'⟩)
    · exact .inl (.inr ⟨f b, rfl, effect⟩)
    · exact .inr ⟨⟨e, rfl⟩, unsaved⟩
  have ended {α : Type} {t : Task α} {f : α → Reply} (h : (f <$> t).Runs w xs a w')
      (ends : ∀ s, t.Runs w xs s w' → Ends cfg w xs q f s w') :
      Closes cfg w xs q (fun b => b) a w' := closed h fun s hs => .inl (ends s hs)
  cases q with
  | create id access d => exact closed h fun _ => closes_create exact
  | edit id stated d => exact closed h fun _ => closes_edit exact
  | restart id => exact closed h fun _ => closes_restart exact
  | disable id => exact ended h fun _ => ends_setStatus exact (.inl ⟨rfl, rfl⟩)
  | enable id => exact ended h fun _ => ends_setStatus exact (.inr ⟨rfl, rfl⟩)
  | delete id => exact closed h fun _ => closes_delete exact
  | status id => exact ended h fun _ => ends_status exact
  | get id => exact ended h fun _ => (readOnly_get id).ends
  | find name => exact ended h fun _ => (readOnly_findByName name).ends
  | list => exact ended h fun _ => Task.readOnly_listRecords.ends
  | describe id => exact ended h fun _ => (readOnly_describe id).ends
  | logs id lines => exact ended h fun _ => (readOnly_logs cfg id lines).ends

/-- Nothing stays unsaved in a store that answers, as long as identifiers are
    new. -/
theorem Unsaved.refused {q : Request} (h : Unsaved cfg w q w') :
    (∃ operation, w.storeFailing operation = true) ∨
      ∃ id i, q.drawn? = some id ∧ w.registry.find? id = some i := by
  cases h with
  | created refused planned =>
    rcases refused with failing | ⟨i, found⟩
    · exact .inl ⟨_, failing⟩
    · exact .inr ⟨_, i, rfl, found⟩
  | edited failing => exact .inl ⟨_, failing⟩
  | restarted failing => exact .inl ⟨_, failing⟩
  | deleted failing => exact .inl ⟨_, failing⟩

/-- **A request is refused and changes nothing, or has its effect**, when the
    identifier that it draws is not in use. -/
theorem Steady.effect (hw : Steady w) {q : Request}
    (fresh : ∀ id, q.drawn? = some id → w.registry.find? id = none) {a : Except Error Reply}
    (h : (q.task cfg).Runs w xs a w') : Ends cfg w xs q (fun b => b) a w' := by
  rcases closes_request hw.exact h with ends | ⟨-, unsaved⟩
  · exact ends
  · rcases unsaved.refused with ⟨operation, failing⟩ | ⟨id, i, drawn, found⟩
    · rw [hw.answers] at failing
      cases failing
    · rw [fresh id drawn] at found
      cases found

end Writing

end Fleet

end McpFleet
