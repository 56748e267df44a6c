/-
  File:      McpFleet/Proofs/Fleet/WriteBack.lean
  Subject:   What a container reports is written back to its record, and once it
             is written there is nothing left to write.

  * `Instance.reported`: an instance as a report leaves it; it takes up the
    report's status, readiness and message, and is dated when that is new.
  * **`yields_status_hosted`**: a whole look at a hosted instance, as an equation
    for the state behind it.
  * `UpToDate`: the report of the container says nothing new. New, edited and
    restarted records are, since record and container begin with the same pending
    report; so is a record that a report was written to.
  * `AtRest.after`: it stays so while no request is served and no container
    reports.
  * **`status_written_back`**: all of this in whole runs.
-/
import McpFleet.Proofs.Fleet.Acceptance
import McpFleet.Proofs.Fleet.Succession

namespace McpFleet

/-! ## 1. Instances and reports -/

namespace Instance

/-- **An instance as a report of its container leaves it.** The time of the
    change is set when the status, the readiness or the message is another one. -/
def reported (s : Instance) (k : Hosting.Container) (r : StatusReport) (now : Instant) : Instance :=
  { s with
    container := some { k with status := r.status, ready := r.ready }
    message := r.message.or s.message
    updatedAt := if k.status = r.status ∧ k.ready = r.ready ∧ s.message = r.message.or s.message
      then s.updatedAt else now }

variable {s : Instance} {k : Hosting.Container} {r : StatusReport} {now : Instant}

theorem differsFrom_eq_false : s.differsFrom k r = false ↔
    k.status = r.status ∧ k.ready = r.ready ∧ s.message = r.message.or s.message := by
  unfold differsFrom messageAfter
  rw [Bool.or_eq_false_iff, Bool.or_eq_false_iff, and_assoc]
  simp only [ne_eq, decide_eq_false_iff_not, not_not]
  exact and_congr_right fun _ => and_congr_right fun _ => eq_comm

/-- A report that says nothing new leaves the instance as it is. -/
theorem reported_of_known (hk : s.container = some k) (known : s.differsFrom k r = false) :
    s.reported k r now = s := by
  obtain ⟨status, ready, message⟩ := differsFrom_eq_false.mp known
  unfold reported
  rw [if_pos ⟨status, ready, message⟩, ← message, ← status, ← ready, ← hk]

/-- Taking a report gives the instance as the report leaves it. -/
theorem withReport?_getD (hk : s.container = some k) :
    (s.withReport? r now).getD s = s.reported k r now := by
  unfold withReport?
  rw [hk]
  simp only
  cases differs : s.differsFrom k r with
  | false =>
    rw [reported_of_known hk differs]
    rfl
  | true =>
    have new : ¬ (k.status = r.status ∧ k.ready = r.ready ∧ s.message = r.message.or s.message) := by
      intro known
      rw [differsFrom_eq_false.mpr known] at differs
      cases differs
    unfold reported
    rw [if_neg new]
    rfl

/-- **The same report says nothing new a second time.** -/
theorem reported_known (s : Instance) (k : Hosting.Container) (r : StatusReport) (now : Instant) :
    (s.reported k r now).differsFrom { k with status := r.status, ready := r.ready } r = false := by
  rw [differsFrom_eq_false]
  refine ⟨rfl, rfl, ?_⟩
  show r.message.or s.message = r.message.or (r.message.or s.message)
  cases r.message <;> rfl

end Instance

/-- A container that was just asked for, as its record has it and as it reports
    itself. -/
structure Hosting.Container.Begins (k : Hosting.Container) (r : StatusReport) : Prop where
  status : k.status = .pending
  ready : k.ready = false
  report : r = .pending

/-- The first report says nothing new, whatever the message of the record is. -/
theorem Hosting.Container.Begins.known {k : Hosting.Container} {r : StatusReport}
    (h : k.Begins r) (s : Instance) : s.differsFrom k r = false := by
  rw [Instance.differsFrom_eq_false, h.report]
  exact ⟨h.status, h.ready, rfl⟩

namespace Fleet

variable {allowed : Config → Prop} {calm fresh : Prop} {used : List Uuid} {cfg : Config}
  {w w' : World} {c : Cluster} {id : Uuid} {i s : Instance} {k : Hosting.Container}
  {d : Definition} {q : Request} {a : Reply} {health : HealthReport}

/-! ## 2. A look at a hosted instance -/

/-- The state with one record put in its place. -/
def World.withRecord (w : World) (i : Instance) : World :=
  { w with registry := { w.registry with instances := w.registry.instances.insert i.id i } }

theorem withRecord_stored (stored : w.registry.find? i.id = some i) : w.withRecord i = w := by
  unfold World.withRecord
  rw [Registry.insert_stored stored]

theorem find?_withRecord (w : World) (i : Instance) :
    (w.withRecord i).registry.find? i.id = some i := Dict.get?_insert_self _ _ _

/-- A record that keeps its name is written back, unless the store refuses. -/
theorem answer_writeBack (stored : w.registry.find? i.id = some s) (named : i.name = s.name) :
    (w.answer (.updateRecord i)).2 = if w.storeFailing .update then w else w.withRecord i := by
  show (w.withRegistry .update fun r => (r.update i).map ((), ·)).2 = _
  unfold World.withRegistry
  simp only [Registry.update_sameName stored named]
  split <;> rfl

theorem yields_check_hosted (own : i.access = .hosting) :
    (check cfg i).Yields w health w' ↔ ∃ r, w.cluster.status i = .ok r ∧
      health = ⟨i.id, i.access, i.status, .container r⟩ ∧ w' = w := by
  unfold check
  simp only [if_pos own, Task.yields_bind, Task.yields_containerStatus, Task.yields_pure]
  constructor
  · rintro ⟨r, _, ⟨asked, rfl⟩, rfl, rfl⟩
    exact ⟨r, asked, rfl, rfl⟩
  · rintro ⟨r, asked, rfl, rfl⟩
    exact ⟨r, _, ⟨asked, rfl⟩, rfl, rfl⟩

/-- **A look at a hosted instance** that succeeds gives what the record's
    container reports. The record is put back as the report leaves it; nothing
    is changed when the store refuses that. -/
theorem yields_status_hosted (exact : w.registry.Exact) (stored : w.registry.find? id = some s)
    (own : s.access = .hosting) (h : (status cfg id).Yields w health w') :
    ∃ k rc, s.container = some k ∧ w.cluster.containers.get? k.name = some rc ∧
      health = ⟨id, s.access, s.status, .container rc.report⟩ ∧
      w' = if w.storeFailing .update then w
        else w.withRecord (s.reported k rc.report w.clock) := by
  obtain rfl : s.id = id := exact.key stored
  obtain ⟨s', w, found, h₁⟩ := Task.yields_bind.mp h
  obtain ⟨-, stored', rfl⟩ := yields_get.mp found
  obtain rfl := Option.some.inj (stored.symm.trans stored')
  obtain ⟨_, w, checked, h₂⟩ := Task.yields_bind.mp h₁
  obtain ⟨r, asked, rfl, rfl⟩ := (yields_check_hosted own).mp checked
  obtain ⟨k, rc, hk, -, there, rfl⟩ := Cluster.status_eq_ok.mp asked
  obtain ⟨_, w, clock, h₃⟩ := Task.yields_bind.mp h₂
  obtain ⟨rfl, rfl⟩ := Task.yields_readClock.mp clock
  have after : (s.withReport? rc.report w.clock).getD s = s.reported k rc.report w.clock :=
    Instance.withReport?_getD hk
  refine ⟨k, rc, hk, there, ?_⟩
  cases changed : s.withReport? rc.report w.clock with
  | none =>
    simp only [changed] at h₃ after
    have same : s.reported k rc.report w.clock = s := after.symm
    rw [same, withRecord_stored stored, ite_self]
    obtain ⟨rfl, rfl⟩ := Task.yields_pure.mp h₃
    exact ⟨rfl, rfl⟩
  | some i =>
    simp only [changed] at h₃ after
    obtain ⟨a, _, attempted, h₄⟩ := Task.yields_bind.mp h₃
    obtain ⟨rfl, rfl⟩ := Task.yields_pure.mp h₄
    have kept := Instance.kept_withReport? changed
    have written := answer_writeBack (kept.id ▸ stored) kept.name
    have same : i = s.reported k rc.report w.clock := after
    rw [← same, ← written]
    refine ⟨rfl, ?_⟩
    exact (congrArg Prod.snd (Task.yields_attempt.mp attempted)).symm

/-! ## 3. Records that are up to date -/

/-- **An instance whose container reports nothing new**, if its record and its
    container are there. -/
def UpToDate (w : World) (id : Uuid) : Prop :=
  ∀ s k rc, w.registry.find? id = some s → s.container = some k →
    w.cluster.containers.get? k.name = some rc → s.differsFrom k rc.report = false

/-- A look at the instance writes nothing: there is nothing new, or the store
    refuses what is. -/
def AtRest (w : World) (id : Uuid) : Prop := w.storeFailing .update = true ∨ UpToDate w id

/-- **A look at an instance at rest** changes nothing. -/
theorem AtRest.unchanged (rest : AtRest w id) (exact : w.registry.Exact) (cfg : Config) :
    (w.serve cfg (.status id)).2 = w := by
  rcases closes_request exact (Task.runs_self ((Request.status id).task cfg) w) with
    (⟨-, same⟩ | ⟨b, ok, effect⟩) | ⟨-, unsaved⟩
  · exact same
  · have served : ((Request.status id).task cfg).Yields w b (w.serve cfg (.status id)).2 :=
      Prod.ext ok rfl
    have effect : Effect cfg w _ (.status id) b (w.serve cfg (.status id)).2 := effect
    generalize (w.serve cfg (.status id)).2 = w' at effect served ⊢
    cases effect with
    | unchanged => rfl
    | switched asked => rcases asked with ⟨e, -⟩ | ⟨e, -⟩ <;> cases e
    | refreshed stored own =>
      -- a record was put in, but it is the one that was there
      obtain ⟨_, looked, -⟩ := Task.yields_map.mp served
      obtain ⟨k, rc, hk, there, -, after⟩ := yields_status_hosted exact stored own looked
      rw [after]
      rcases rest with failing | known
      · exact if_pos failing
      · rw [Instance.reported_of_known hk (known _ _ _ stored hk there),
          withRecord_stored (exact.key stored ▸ stored), ite_self]
  · cases unsaved

/-! ## 4. What brings a record up to date -/

/-- The container of a plan begins, and so does what was created for it. -/
theorem Planned.begins {generation : UInt32} {access : Access} {v : Revision}
    (h : Planned cfg w id d generation access v c) (hk : v.container = some k)
    {rc : RunningContainer} (there : c.containers.get? k.name = some rc) : k.Begins rc.report := by
  cases h with
  | passthrough own judged =>
    rw [(passthroughRevision_spec judged).2] at hk
    cases hk
  | hosted prepared made =>
    obtain ⟨-, spec, plan⟩ := runs_prepareHosting prepared
    rw [plan.container] at hk
    obtain rfl := Option.some.inj hk
    obtain ⟨-, -, rfl⟩ := Cluster.create_eq_ok.mp made
    obtain rfl := Option.some.inj ((Dict.get?_insert_self _ _ _).symm.trans there)
    exact ⟨rfl, rfl, rfl⟩

/-- Removing a container leaves the others as they are. -/
theorem get?_discard {n : String} {rc : RunningContainer}
    (there : (discard c s).containers.get? n = some rc) : c.containers.get? n = some rc := by
  unfold discard at there
  cases removal : c.delete s with
  | error e =>
    rw [removal] at there
    exact there
  | ok c' =>
    rw [removal] at there
    obtain ⟨k, -, -, rfl⟩ := Cluster.delete_eq_ok.mp removal
    simp only [Dict.get?_erase] at there
    split at there
    · cases there
    · exact there

theorem Replaced.begins {v : Revision} {ys : List Exchange} {w₁ : World}
    (h : Replaced cfg w s d v ys w₁) (hk : v.container = some k) {rc : RunningContainer}
    (there : w₁.cluster.containers.get? k.name = some rc) : k.Begins rc.report := by
  cases h with
  | passthrough own judged =>
    rw [(passthroughRevision_spec judged).2] at hk
    cases hk
  | @hosted p _ c own prepared made =>
    -- removing the replaced container can only take the new one away as well
    have planned : Planned cfg w s.id d (nextGeneration s) .hosting p.revision c :=
      .hosted prepared made
    exact planned.begins hk (get?_discard there)

theorem upToDate_created {access : Access} (h : (create cfg id access d).Yields w i w') :
    UpToDate w' id := by
  unfold create at h
  obtain ⟨name, _, judged, h₁⟩ := Task.yields_bind.mp h
  obtain ⟨-, rfl⟩ := Task.yields_ofExcept.mp judged
  obtain ⟨_, _, checked, h₂⟩ := Task.yields_bind.mp h₁
  obtain ⟨-, -, rfl⟩ := yields_ensureNameFree.mp checked
  obtain ⟨v, _, made, h₃⟩ := Task.yields_bind.mp h₂
  obtain ⟨c, rfl, planned⟩ := yields_plan.mp made
  obtain ⟨now, _, clock, h₄⟩ := Task.yields_bind.mp h₃
  obtain ⟨rfl, rfl⟩ := Task.yields_readClock.mp clock
  obtain ⟨_, _, written, h₅⟩ := Task.yields_bind.mp h₄
  obtain ⟨-, r, put, rfl⟩ := Task.yields_createRecord.mp written
  obtain ⟨-, rfl⟩ := Task.yields_pure.mp h₅
  intro s k rc stored hk there
  obtain rfl := Option.some.inj ((Registry.find?_create put).symm.trans stored)
  exact (planned.begins hk there).known _

theorem upToDate_edited (exact : w.registry.Exact) {stated : Option Access}
    (h : (edit cfg id stated d).Yields w i w') : UpToDate w' id := by
  obtain ⟨xs, runs⟩ := Task.yields_iff_runs.mp h
  obtain ⟨_, s, v, us, w₁, answer, before, edited, result⟩ := (runs_edit runs).of_ok
  obtain rfl : s.id = id := exact.key before
  have replaced := edited.replaced
  have written := edited.written
  cases answer with
  | error e => cases result
  | ok _ =>
    cases written with
    | made put =>
      intro i k rc stored hk there
      obtain rfl := Option.some.inj ((Registry.find?_update put).symm.trans stored)
      exact (replaced.begins hk there).known _

theorem yields_ensureHosted {own : Access} :
    (ensureHosted own).Yields w () w' ↔ own = .hosting ∧ w' = w := by
  unfold ensureHosted
  by_cases hosted : own = .hosting
  · simp [hosted, Task.yields_pure]
  · simp [hosted, Task.not_yields_throw]

/-- A restart puts record and container back to pending; the message about it
    stays, since the container has none. -/
theorem upToDate_restarted (exact : w.registry.Exact) (h : (restart id).Yields w i w') :
    UpToDate w' id := by
  rw [restart_eq] at h
  obtain ⟨s, _, found, h₁⟩ := Task.yields_bind.mp h
  obtain ⟨-, before, rfl⟩ := yields_get.mp found
  obtain rfl : s.id = id := exact.key before
  obtain ⟨_, _, hosted, h₂⟩ := Task.yields_bind.mp h₁
  obtain ⟨-, rfl⟩ := yields_ensureHosted.mp hosted
  obtain ⟨m, _, restarted, h₃⟩ := Task.yields_bind.mp h₂
  obtain ⟨c, done, rfl⟩ := Task.yields_restartContainer.mp restarted
  obtain ⟨k, rc, hk, -, -, -, rfl⟩ := Cluster.restart_eq_ok.mp done
  obtain ⟨now, _, clock, h₄⟩ := Task.yields_bind.mp h₃
  obtain ⟨rfl, rfl⟩ := Task.yields_readClock.mp clock
  obtain ⟨i, _, judged, h₅⟩ := Task.yields_bind.mp h₄
  obtain ⟨marked, rfl⟩ := Task.yields_ofExcept.mp judged
  obtain ⟨_, _, written, h₆⟩ := Task.yields_bind.mp h₅
  obtain ⟨-, r, put, rfl⟩ := Task.yields_updateRecord.mp written
  obtain ⟨-, rfl⟩ := Task.yields_pure.mp h₆
  have same : i.id = s.id := (Instance.kept_markRestarting marked).id
  intro i' l rc' stored hl there
  obtain rfl := Option.some.inj ((same ▸ Registry.find?_update put).symm.trans stored)
  unfold Instance.markRestarting at marked
  rw [hk] at marked
  obtain rfl := Except.ok.inj marked
  obtain rfl := Option.some.inj hl
  obtain rfl := Option.some.inj ((Dict.get?_insert_self _ _ _).symm.trans there)
  have begins : k.resetToPending.Begins .pending := ⟨rfl, rfl, rfl⟩
  exact begins.known _

/-- A look that succeeds leaves an instance at rest. -/
theorem Filed.atRest_status (filed : Filed allowed calm fresh used w)
    (h : (status cfg id).Yields w health w') : AtRest w' id := by
  obtain ⟨s, _, found, -⟩ := Task.yields_bind.mp h
  obtain ⟨-, stored, -⟩ := yields_get.mp found
  by_cases own : s.access = .hosting
  · obtain ⟨k, rc, hk, there, -, rfl⟩ := yields_status_hosted filed.exact stored own h
    cases failing : w.storeFailing .update with
    | true => exact .inl failing
    | false =>
      refine .inr fun i l rc' stored' hl there' => ?_
      obtain rfl : s.id = id := filed.exact.key stored
      have put := find?_withRecord w (s.reported k rc.report w.clock)
      obtain rfl := Option.some.inj (put.symm.trans stored')
      obtain rfl := Option.some.inj hl
      obtain rfl := Option.some.inj (there.symm.trans there')
      exact s.reported_known k rc.report w.clock
  · -- without a container there is nothing to be new
    have known : UpToDate w id := by
      intro s' k rc stored' hk there
      obtain rfl := Option.some.inj (stored.symm.trans stored')
      exact absurd (filed.named stored hk).2 own
    have served : (Reply.health <$> status cfg id).Yields w (.health health) w' :=
      Task.yields_map.mpr ⟨health, h, rfl⟩
    have same : w' = w := (congrArg Prod.snd served).symm.trans
      (AtRest.unchanged (.inr known) filed.exact cfg)
    exact same ▸ .inr known

/-- Requests behind which record and container of an instance agree. -/
def Request.Refreshes (id : Uuid) (q : Request) : Prop :=
  (∃ access d, q = .create id access d) ∨ (∃ stated d, q = .edit id stated d) ∨
    q = .restart id ∨ q = .status id

/-- **Creating, editing, restarting and looking leave an instance at rest** when
    they succeed. -/
theorem Filed.atRest (filed : Filed allowed calm fresh used w) (asked : q.Refreshes id)
    (ok : (w.serve cfg q).1 = .ok a) : AtRest (w.serve cfg q).2 id := by
  have served : (q.task cfg).Yields w a (w.serve cfg q).2 := Prod.ext ok rfl
  generalize (w.serve cfg q).2 = w' at served
  rcases asked with ⟨access, d, rfl⟩ | ⟨stated, d, rfl⟩ | rfl | rfl
  · obtain ⟨i, done, -⟩ := Task.yields_map.mp served
    exact .inr (upToDate_created done)
  · obtain ⟨i, done, -⟩ := Task.yields_map.mp served
    exact .inr (upToDate_edited filed.exact done)
  · obtain ⟨i, done, -⟩ := Task.yields_map.mp served
    exact .inr (upToDate_restarted filed.exact done)
  · obtain ⟨health, done, -⟩ := Task.yields_map.mp served
    exact filed.atRest_status done

/-! ## 5. While nothing is asked and no container reports -/

/-- Events that are neither a request nor a report. -/
def Event.isQuiet : Event → Bool
  | request _ _ => false
  | report _ _ => false
  | _ => true

/-- A quiet event leaves what each container reports. -/
theorem get?_quiet {e : Event} (quiet : e.isQuiet = true) {n : String} {rc : RunningContainer}
    (there : (w.after e).cluster.containers.get? n = some rc) :
    ∃ rc', w.cluster.containers.get? n = some rc' ∧ rc'.report = rc.report := by
  cases e with
  | request | report => cases quiet
  | outage | directory | clock | probe => exact ⟨rc, there, rfl⟩
  | output container lines =>
    unfold World.after at there
    cases written : w.cluster.appendLogs container lines with
    | error e =>
      simp only [written] at there
      exact ⟨rc, there, rfl⟩
    | ok c =>
      simp only [written] at there
      obtain ⟨rc', before, rfl⟩ := Cluster.appendLogs_eq_ok.mp written
      simp only [World.withOutcome, Cluster.put, Dict.get?_insert] at there
      split at there
      · rename_i same
        obtain rfl := Option.some.inj there
        exact ⟨rc', same ▸ before, rfl⟩
      · exact ⟨rc, there, rfl⟩

theorem AtRest.after {e : Event} (rest : AtRest w id) (quiet : e.isQuiet = true) :
    AtRest (w.after e) id := by
  have around : e.isRequest = false := by
    cases e with
    | request => cases quiet
    | _ => rfl
  obtain ⟨records, failing, -⟩ := after_around w around
  unfold AtRest
  rw [failing]
  refine rest.imp_right fun known s k rc stored hk there => ?_
  obtain ⟨rc', before, same⟩ := get?_quiet quiet there
  exact same ▸ known s k rc' (records ▸ stored) hk before

theorem AtRest.history {es : List Event} (rest : AtRest w id)
    (quiet : ∀ e ∈ es, e.isQuiet = true) : AtRest (w.history es) id := by
  induction es generalizing w with
  | nil => exact rest
  | cons e es ih =>
    obtain ⟨here, later⟩ := List.forall_mem_cons.mp quiet
    exact ih (rest.after here) later

/-! ## 6. Whole runs -/

/-- **Looking at an instance keeps its record in step with its container.** In
    every state of every run, whatever fails in it and whatever the clock says:

    a look at a hosted instance that succeeds finds its container and gives what
    that reports. As long as the store answers, the record is put back as the
    report leaves it: with the report's status and readiness, with the report's
    message or else its own, and dated when one of the three is new. Nothing else
    changes, and nothing at all when the store refuses to write;

    behind a creation, an edit, a restart or a look that succeeded, a look at the
    instance changes nothing, whatever happens in between that is neither a
    request nor a report of a container. -/
theorem status_written_back {clock : Instant} {probe : String → ProbeOutcome}
    {xs : List Incident} :
    let w := (World.empty clock probe).course xs
    (∀ cfg id s a w', w.registry.find? id = some s → s.access = .hosting →
      w.serve cfg (.status id) = (.ok a, w') →
      ∃ k rc, s.container = some k ∧ w.cluster.containers.get? k.name = some rc ∧
        a = .health ⟨id, .hosting, s.status, .container rc.report⟩ ∧
        ((Calm xs ∨ w.storeFailing .update = false) →
          w' = w.withRecord (s.reported k rc.report w.clock) ∧
          w'.registry.find? id = some (s.reported k rc.report w.clock)) ∧
        (w.storeFailing .update = true → w' = w)) ∧
    ∀ cfg q id a, q.Refreshes id → (w.serve cfg q).1 = .ok a →
      ∀ es : List Event, (∀ e ∈ es, e.isQuiet = true) →
        let w₁ := (w.serve cfg q).2.history es
        ∀ cfg', (w₁.serve cfg' (.status id)).2 = w₁ := by
  intro w
  have filed : Filed (fun _ => True) False False (drawnBy xs) w := filed_course clock probe xs
  constructor
  · intro cfg id s a w' stored own served
    obtain ⟨health, looked, rfl⟩ := Task.yields_map.mp served
    obtain ⟨k, rc, hk, there, rfl, after⟩ := yields_status_hosted filed.exact stored own looked
    refine ⟨k, rc, hk, there, by rw [own], fun answering => ?_, fun failing => ?_⟩
    · rw [course_answers answering] at after
      have put : w' = w.withRecord (s.reported k rc.report w.clock) := after
      obtain rfl : s.id = id := filed.exact.key stored
      exact ⟨put, put ▸ find?_withRecord w (s.reported k rc.report w.clock)⟩
    · rwa [if_pos failing] at after
  · intro cfg q id a asked ok es quiet w₁ cfg'
    have rest : AtRest w₁ id := (filed.atRest asked ok).history quiet
    have exact : w₁.registry.Exact := by
      have next : Filed (fun _ => True) False False _ (w.serve cfg q).2 :=
        filed.anyhow (.event (.request cfg q))
      show ((w.serve cfg q).2.history es).registry.Exact
      rw [← course_events]
      exact (next.course _ (fun _ _ _ => trivial) False.elim False.elim).exact
    exact rest.unchanged exact cfg'

/-- What the container of the first instance reports once it runs. -/
def sampleReport : StatusReport := ⟨.running, true, some "listening"⟩

/-- The container that replaced the first one reports, and time passes. -/
def sampleReported : List Incident :=
  (sampleRun ++ [Event.report "mcp-00000000000000000000000000000007-1" sampleReport,
    .clock ⟨60, 0⟩]).map .event

theorem status_written_back_sampleReported :
    Calm sampleReported ∧
    let w := sampleStart.course sampleReported
    ∃ s k w', w.registry.find? ⟨7⟩ = some s ∧ s.container = some k ∧ k.status = .pending ∧
      w.serve .default (.status ⟨7⟩) =
        (.ok (.health ⟨⟨7⟩, .hosting, s.status, .container sampleReport⟩), w') ∧
      w'.registry.find? ⟨7⟩ = some (s.reported k sampleReport ⟨60, 0⟩) ∧
      let w₁ := w'.history [.clock ⟨90, 0⟩]
      (w₁.serve .default (.status ⟨7⟩)).2 = w₁ := by
  have still : Calm sampleReported := calm_events _
  refine ⟨still, ?_⟩
  have found : ((sampleStart.course sampleReported).registry.find? ⟨7⟩).map (fun i =>
      (i.access, i.container.map fun k => (k.name, k.status))) =
        some (.hosting, some ("mcp-00000000000000000000000000000007-1", .pending)) := by
    decide +kernel
  have report : ((sampleStart.course sampleReported).cluster.containers.get?
      "mcp-00000000000000000000000000000007-1").map (·.report) = some sampleReport := by
    decide +kernel
  have time : ((World.empty ⟨0, 0⟩ fun _ => ⟨true, none⟩).course sampleReported).clock =
      ⟨60, 0⟩ := by decide +kernel
  obtain ⟨s, stored, e⟩ := Option.map_eq_some_iff.mp found
  obtain ⟨own, e⟩ := Prod.mk.inj e
  obtain ⟨a, ok⟩ : ∃ a, ((sampleStart.course sampleReported).serve .default (.status ⟨7⟩)).1 =
      .ok a := exists_ok_of_toBool (by decide +kernel)
  obtain ⟨step, again⟩ :=
    @status_written_back ⟨0, 0⟩ (fun _ => ⟨true, none⟩) sampleReported
  obtain ⟨k, rc, hk, there, rfl, saved, -⟩ :=
    step .default ⟨7⟩ s a _ stored own (Prod.ext ok rfl)
  rw [hk] at e
  obtain ⟨name, pending⟩ := Prod.mk.inj (Option.some.inj e)
  have reports : rc.report = sampleReport := by
    obtain ⟨rc', there', reports⟩ := Option.map_eq_some_iff.mp report
    rw [name] at there
    obtain rfl := Option.some.inj (there.symm.trans there')
    exact reports
  rw [reports] at ok saved
  rw [time] at saved
  have quiet : ∀ e ∈ [Event.clock ⟨90, 0⟩], e.isQuiet = true := by
    intro e he
    rw [List.mem_singleton.mp he]
    rfl
  exact ⟨s, k, _, stored, hk, pending, Prod.ext ok rfl, (saved (.inl still)).2,
    again .default (.status ⟨7⟩) ⟨7⟩ _ (.inr (.inr (.inr rfl))) ok _ quiet .default⟩

end Fleet

end McpFleet
