/-
  File:      McpFleet/Proofs/Fleet/LostUpdate.lean
  Subject:   An edit that takes turns with another operation on the same
             instance.

  * **`meets_upkeep`**, **`meets_edit`**: restarting, disabling, enabling and
    asking on one side, and editing on the other, meet the pact of
    Contention.lean, call by call.
  * **`edit_survives_unless_overwritten`**: the edit is lost in one order of
    the calls and in no other.
-/
import McpFleet.Proofs.Fleet.Contention
import McpFleet.Proofs.Fleet.Ledger

namespace McpFleet.Fleet

/-! ## 1. The other operation -/

section Meeting

variable {cfg : Config} {id : Uuid} {s r i : Instance} {σ : Scene} {α ε : Type}

-- The checks of a name stay closed: no argument here looks into them.
attribute [local irreducible] Text.trim

/-- An operation begins with the record that it finds. -/
theorem meets_get {pact : Pact} {side : Side} {P : Instance → Scene → Prop}
    (h : ∀ τ, Keeps (pact side) σ τ →
      Keeps (pact side.other) τ (τ.ask side (.findRecord id)) ∧
      ∀ i, (τ.world.answer (.findRecord id)).1 = .ok (some i) →
        ∀ υ, Keeps (pact side) (τ.ask side (.findRecord id)) υ → P i υ) :
    (get id).Meets pact side P σ := by
  have found : (Task.findRecord id).Meets pact side
      (fun found τ => ∀ i, found = some i → ∀ υ, Keeps (pact side) τ υ → P i υ) σ := by
    refine .ofCall (p := .ask (.findRecord id)) (.ask fun τ hτ => ?_)
    obtain ⟨other, own⟩ := h τ hτ
    exact ⟨other, fun υ hυ found answer i here φ hφ =>
      own i (here ▸ answer) φ (hυ.trans hφ)⟩
  refine found.bind fun found τ here => ?_
  cases found with
  | none => exact Task.meets_throw _
  | some i => exact Task.meets_pure (here i rfl)

/-- A quiet call leaves the facts of its side what they were. -/
theorem Task.Meets.quiet {pact : Pact} {side : Side} {p : Program (Except ε α)} {wrap : ε → Error}
    (h : p.Meets pact side (fun _ τ => Keeps (pact side) σ τ) σ) :
    (Task.ofCall p wrap).Meets pact side (fun _ τ => Keeps (pact side) σ τ) σ :=
  .ofCall (h.imp fun _ _ hτ _ _ => hτ)

theorem Task.meets_readClock (side : Side) :
    Task.readClock.Meets (editPact id s) side
      (fun _ τ => Keeps (editPact id s side) σ τ) σ :=
  .ofAnswer (p := .ask .readClock) (.quiet (quiet_editPact (by cases side <;> rfl) fun _ _ => rfl))

theorem Held.wait {τ : Scene} (h : Held id s r σ) (kept : Keeps (OtherFact id s) σ τ) :
    Held id s r τ := kept _ (.held r) h

/-- **What the other operation has read** is the version that is stored then. -/
theorem meets_get_right (recorded : Recorded id s σ) (unread : .read ∉ σ.beats) :
    (get id).Meets (editPact id s) .right (Held id s) σ := by
  refine meets_get fun τ hτ => ⟨keeps_read τ id s, fun i answer υ hυ => ?_⟩
  have unread : .read ∉ τ.beats := hτ _ .unread unread
  obtain ⟨exact', j, stored, version⟩ := hτ _ .recorded recorded
  rcases τ.ask_findRecord id with ⟨found, beats⟩ | ⟨⟨e, refused⟩, -⟩
  · obtain rfl : i = j := by
      rw [found, stored] at answer
      exact (Option.some.inj (Except.ok.inj answer)).symm
    refine Held.wait ⟨?_, exact'.key stored, ?_⟩ hυ
    · rw [beats.beats]
      exact List.mem_cons_self
    · have stale : (τ.ask .right (.findRecord id)).Stale ↔ τ.Overwritten := by
        rw [Scene.stale_of_beats beats.beats]
        constructor
        · rintro (h | ⟨h, -⟩)
          · exact absurd h.read unread
          · cases h
        · exact fun h => .inl h.stale
      rw [Scene.definition_congr beats.edited? stale]
      exact version
  · rw [refused] at answer
    cases answer

theorem meets_writeBack (held : Held id s r σ) (version : r.SameDefinition i) :
    (Task.updateRecord i).Meets (editPact id s) .right (fun _ _ => True) σ :=
  .ofCall (p := .ask (.updateRecord i)) (.ask fun _ hτ =>
    ⟨keeps_wrote (held.wait hτ) version, fun _ _ _ _ => trivial⟩)

theorem meets_setStatus (recorded : Recorded id s σ) (unread : .read ∉ σ.beats)
    (status : InstanceStatus) :
    (setStatus id status).Meets (editPact id s) .right (fun _ _ => True) σ := by
  refine (meets_get_right recorded unread).bind fun r τ held => ?_
  refine (Task.meets_readClock .right).bind fun now υ hυ => ?_
  cases changed : r.withStatus? status now with
  | none => exact Task.meets_pure fun _ _ => trivial
  | some i =>
    have version : r.SameDefinition i :=
      ⟨Instance.kept_withStatus? changed, Instance.sameDocuments_withStatus? changed⟩
    exact (meets_writeBack (held.wait hυ) version).bind fun _ _ _ =>
      Task.meets_pure fun _ _ => trivial

theorem meets_restart (recorded : Recorded id s σ) (unread : .read ∉ σ.beats) :
    (restart id).Meets (editPact id s) .right (fun _ _ => True) σ := by
  rw [restart_eq]
  refine (meets_get_right recorded unread).bind fun r τ held => ?_
  have judged : (ensureHosted r.access).Meets (editPact id s) .right
      (fun _ υ => Held id s r υ) τ := by
    unfold ensureHosted
    split
    · exact Task.meets_throw _
    · exact Task.meets_pure fun _ => held.wait
  have restarted (τ : Scene) : (Task.restartContainer r).Meets (editPact id s) .right
      (fun _ υ => Keeps (OtherFact id s) τ υ) τ :=
    .quiet (p := .ask (.restartContainer r))
      (.quiet (quiet_editPact rfl fun w => w.source?_restartContainer r))
  refine judged.bind fun _ υ held => (restarted υ).bind fun message φ hφ => ?_
  refine (Task.meets_readClock .right).bind fun now χ hχ => ?_
  have marked : (Task.ofExcept (r.markRestarting message now) .domain).Meets (editPact id s) .right
      (fun i ψ => r.SameDefinition i ∧ Held id s r ψ) χ :=
    Task.meets_ofExcept fun i hi ψ hψ =>
      ⟨⟨Instance.kept_markRestarting hi, Instance.sameDocuments_markRestarting hi⟩,
        (held.wait (hφ.trans hχ)).wait hψ⟩
  exact marked.bind fun i ψ parts => (meets_writeBack parts.2 parts.1).bind fun _ _ _ =>
    Task.meets_pure fun _ _ => trivial

/-- Asking about an instance changes nothing. -/
theorem meets_check (cfg : Config) (r : Instance) :
    (check cfg r).Meets (editPact id s) .right (fun _ τ => Keeps (OtherFact id s) σ τ) σ := by
  unfold check
  split
  · have asked : (Task.containerStatus r).Meets (editPact id s) .right
        (fun _ τ => Keeps (OtherFact id s) σ τ) σ :=
      .quiet (p := .ask (.containerStatus r)) (.quiet (quiet_editPact rfl fun _ _ => rfl))
    exact asked.bind fun _ _ hτ => Task.meets_pure fun _ hυ => hτ.trans hυ
  · split
    · exact Task.meets_pure fun _ hτ => hτ
    · rename_i url _
      have asked : (Task.probe url cfg.probeTimeout).Meets (editPact id s) .right
          (fun _ τ => Keeps (OtherFact id s) σ τ) σ :=
        .ofAnswer (p := .ask (.probe url cfg.probeTimeout))
          (.quiet (quiet_editPact rfl fun _ _ => rfl))
      exact asked.bind fun _ _ hτ => Task.meets_pure fun _ hυ => hτ.trans hυ

theorem meets_status (cfg : Config) (recorded : Recorded id s σ) (unread : .read ∉ σ.beats) :
    (status cfg id).Meets (editPact id s) .right (fun _ _ => True) σ := by
  refine (meets_get_right recorded unread).bind fun r τ held => ?_
  refine (meets_check cfg r).bind fun health υ hυ => ?_
  split
  · exact Task.meets_pure fun _ _ => trivial
  · rename_i report _
    refine (Task.meets_readClock .right).bind fun now φ hφ => ?_
    cases changed : r.withReport? report now with
    | none => exact Task.meets_pure fun _ _ => trivial
    | some i =>
      have version : r.SameDefinition i :=
        ⟨Instance.kept_withReport? changed, Instance.sameDocuments_withReport? changed⟩
      have written := meets_writeBack (held.wait (hυ.trans hφ)) version
      have attempted : (Task.updateRecord i).attempt.Meets (editPact id s) .right
          (fun _ _ => True) φ :=
        .attempt (Program.Meets.imp written fun _ _ _ => trivial)
      exact attempted.bind fun _ _ _ => Task.meets_pure fun _ _ => trivial

/-- Requests that change the state of an instance and nothing else. -/
def upkeep (id : Uuid) : List Request := [.restart id, .disable id, .enable id, .status id]

/-- **Every request for upkeep meets the pact.** -/
theorem meets_upkeep (cfg : Config) {q : Request} (asked : q ∈ upkeep id)
    (recorded : Recorded id s σ) (unread : .read ∉ σ.beats) :
    (q.task cfg).Meets (editPact id s) .right (fun _ _ => True) σ := by
  simp only [upkeep, List.mem_cons, List.not_mem_nil, or_false] at asked
  rcases asked with rfl | rfl | rfl | rfl
  · exact .map (meets_restart recorded unread)
  · exact .map (meets_setStatus recorded unread .inactive)
  · exact .map (meets_setStatus recorded unread .active)
  · exact .map (meets_status cfg recorded unread)

/-! ## 2. The edit -/

/-- The edit has not written yet, and these containers run. -/
structure Unedited (id : Uuid) (s : Instance) (names : String → Prop) (σ : Scene) : Prop where
  recorded : Recorded id s σ
  unwritten : .edited ∉ σ.beats
  running : ∀ n, names n → σ.world.cluster.source? n ≠ none

variable {names names' : String → Prop} {k : Hosting.Container} {d : Definition}

theorem Unedited.wait {τ : Scene} (h : Unedited id s names σ) (kept : Keeps (EditFact id s) σ τ) :
    Unedited id s names τ where
  recorded := kept _ .recorded h.recorded
  unwritten := kept _ .unwritten h.unwritten
  running n hn := kept _ (.running n) (h.running n hn)

/-- A call of the edit that changes no record and is no beat. -/
theorem Unedited.past {c : Call} (h : Unedited id s names σ) (passes : c.passes .left = true)
    (running : ∀ n, names' n → (σ.world.answer c).2.cluster.source? n ≠ none) :
    Unedited id s names' (σ.ask .left c) where
  recorded := h.recorded.same (σ.sameRecords_of_passes passes)
  unwritten := (σ.sameRecords_of_passes passes).beats ▸ h.unwritten
  running := running

theorem meets_get_left (unedited : Unedited id s names σ) :
    (get id).Meets (editPact id s) .left
      (fun i τ => s.SameDefinition i ∧ Unedited id s names τ) σ := by
  refine meets_get fun τ hτ => ?_
  have quiet : (Call.findRecord id).Quiet (editPact id s) .left := quiet_lookup rfl
  obtain ⟨own, other⟩ := quiet τ
  refine ⟨other, fun i answer υ hυ => ?_⟩
  have here := unedited.wait hτ
  refine ⟨?_, here.wait (own.trans hυ)⟩
  obtain ⟨-, j, stored, version⟩ := here.recorded
  rw [Scene.definition_of_unwritten here.unwritten] at version
  rcases τ.world.answer_findRecord id with found | ⟨e, found⟩
  · rw [found, stored] at answer
    exact Option.some.inj (Except.ok.inj answer) ▸ version
  · rw [found] at answer
    cases answer

/-- **The replacement is created** beside the container of the record. -/
theorem meets_createContainer {dep : Deployment} (unedited : Unedited id s names σ) :
    (Task.createContainer dep).Meets (editPact id s) .left
      (fun _ τ => ¬ names dep.container ∧ Unedited id s (· = dep.container) τ) σ := by
  refine .ofCall (p := .ask (.createContainer dep)) (.ask fun τ hτ => ?_)
  have here := unedited.wait hτ
  refine ⟨keeps_other (τ.sameRecords_of_passes rfl), fun υ hυ a answer => ?_⟩
  rcases τ.world.answer_createContainer dep with ⟨c, made, h⟩ | ⟨e, h⟩
  · refine ⟨fun there => ?_, (here.past rfl fun n hn => ?_).wait hυ⟩
    · obtain ⟨o, ho⟩ := Option.ne_none_iff_exists'.mp (here.running _ there)
      exact (source?_create_of_some made ho).1 rfl
    · subst hn
      rw [h, Cluster.source?_create made, if_pos rfl]
      exact Option.some_ne_none dep
  · rw [h] at answer
    cases answer

/-- **The replaced container is removed**, or is left where it is. -/
theorem meets_deleteContainer {n : String} (hk : i.container = some k)
    (unedited : Unedited id s (· = n) σ) :
    (Task.deleteContainer i).attempt.Meets (editPact id s) .left
      (fun _ τ => Unedited id s (fun m => m = n ∧ k.name ≠ n) τ) σ := by
  refine .attempt (Program.Meets.map (p := .ask (.deleteContainer i)) (.ask fun τ hτ => ?_))
  have here := unedited.wait hτ
  refine ⟨keeps_other (τ.sameRecords_of_passes rfl), fun υ hυ => ?_⟩
  refine (here.past rfl fun m hm => ?_).wait hυ
  obtain ⟨rfl, ne⟩ := hm
  rw [τ.world.after_deleteContainer, source?_discard hk ne]
  exact here.running m rfl

/-- A plan is made for the instance and the generation that were asked for. -/
theorem meets_prepareHosting {generation : UInt32} (unedited : Unedited id s names σ) :
    (prepareHosting cfg i.id d generation).Meets (editPact id s) .left
      (fun p τ => (∃ spec, p.For i.id generation spec) ∧ Unedited id s names τ) σ := by
  unfold prepareHosting
  have quiet : ∀ c : Call, c.isLookup → c.Quiet (editPact id s) .left := fun _ => quiet_lookup
  refine (Task.readOnly_ofExcept _ _).meets_bind quiet fun name τ hτ => ?_
  refine (Task.readOnly_ofExcept _ _).meets_bind quiet fun parts υ hυ => ?_
  refine (readOnly_hostingEnvironment _).meets_bind quiet fun e φ hφ => ?_
  refine (Task.readOnly_ofExcept _ _).meets_bind quiet fun server χ hχ => ?_
  refine Task.meets_ofExcept fun p planned ψ hψ => ?_
  exact ⟨⟨_, (hostingPlan_spec planned).2⟩,
    ((((unedited.wait hτ).wait hυ).wait hφ).wait hχ).wait hψ⟩

theorem Scene.cluster_updateRecord (σ : Scene) (side : Side) (i : Instance) :
    (σ.ask side (.updateRecord i)).world.cluster = σ.world.cluster := by
  rcases σ.ask_updateRecord side i with ⟨_, -, -, beats⟩ | ⟨-, -, world⟩
  · rw [beats.world]
  · rw [world]

/-- **A hosted edit replaces the container**: the new one runs, unless it has
    the name of the one that is removed. -/
theorem meets_revise (own : i.access = .hosting) (hk : i.container = some k)
    (unedited : Unedited id s names σ) :
    (revise cfg i d).Meets (editPact id s) .left
      (fun v τ => ∃ l, v.container = some l ∧
        l.name = Deployment.containerName i.id (nextGeneration i) ∧ ¬ names l.name ∧
        Unedited id s (fun n => n = l.name ∧ k.name ≠ l.name) τ) σ := by
  unfold revise
  rw [own]
  refine (meets_prepareHosting unedited).bind fun p τ parts => ?_
  obtain ⟨⟨spec, plan⟩, unedited⟩ := parts
  refine (meets_createContainer unedited).bind fun _ υ parts => ?_
  obtain ⟨free, unedited⟩ := parts
  refine (meets_deleteContainer hk unedited).bind fun _ φ unedited => ?_
  exact Task.meets_pure fun ψ hψ =>
    ⟨_, plan.container, plan.containerName, free, unedited.wait hψ⟩

theorem nextGeneration_of_version (h : s.SameDefinition i) :
    nextGeneration i = nextGeneration s := by
  cases hk : s.container with
  | none =>
    unfold nextGeneration
    rw [hk, h.kept.container_none hk]
  | some k =>
    obtain ⟨l, hl, -, -, -, generation⟩ := h.kept.container_eq hk
    unfold nextGeneration Hosting.Container.nextGeneration
    rw [hk, hl]
    simp only [generation]

/-- **A hosted edit meets the pact.** When it is done its record is the one that
    it wrote, and names the replacement, which runs unless it has the name of
    the container that was replaced. -/
theorem meets_edit {stated : Option Access} (hid : s.id = id) (own : s.access = .hosting)
    (hk : s.container = some k) (unedited : Unedited id s names σ) :
    (edit cfg id stated d).Meets (editPact id s) .left
      (fun e τ => Recorded id s τ ∧ τ.edited? = some e ∧ ∃ l, e.container = some l ∧
        l.name = Deployment.containerName id (nextGeneration s) ∧ ¬ names l.name ∧
        (k.name ≠ l.name → τ.world.cluster.source? l.name ≠ none)) σ := by
  rw [edit_eq]
  have quiet : ∀ c : Call, c.isLookup → c.Quiet (editPact id s) .left := fun _ => quiet_lookup
  refine (meets_get_left unedited).bind fun i τ parts => ?_
  obtain ⟨version, unedited⟩ := parts
  refine (readOnly_ensureAccess stated i.access).meets_bind quiet fun _ τ hτ => ?_
  replace unedited := unedited.wait hτ
  refine (Task.readOnly_ofExcept _ _).meets_bind quiet fun name τ hτ => ?_
  replace unedited := unedited.wait hτ
  refine (readOnly_ensureNameFree name (some id)).meets_bind quiet fun _ τ hτ => ?_
  replace unedited := unedited.wait hτ
  obtain ⟨k', hk', -, same, -, -⟩ := version.kept.container_eq hk
  refine (meets_revise (version.kept.access.trans own) hk' unedited).bind fun v τ parts => ?_
  obtain ⟨l, hl, named, free, unedited⟩ := parts
  rw [version.kept.id, hid, nextGeneration_of_version version] at named
  refine (Task.meets_readClock .left).bind fun now τ hτ => ?_
  replace unedited := unedited.wait hτ
  have written : (Task.updateRecord (i.revise v now)).Meets (editPact id s) .left
      (fun _ υ => Recorded id s υ ∧ υ.edited? = some (i.revise v now) ∧
        (k.name ≠ l.name → υ.world.cluster.source? l.name ≠ none)) τ := by
    refine .ofCall (p := .ask (.updateRecord (i.revise v now))) (.ask fun υ hυ => ?_)
    have here := unedited.wait hυ
    obtain ⟨other, edited⟩ := keeps_edited (e := i.revise v now) here.unwritten
      (version.kept.id.trans hid)
    refine ⟨other, fun φ hφ _ answer => ⟨hφ _ .recorded (other _ .recorded here.recorded),
      hφ _ (.written _) (edited answer), fun ne => hφ _ (.running l.name) ?_⟩⟩
    rw [υ.cluster_updateRecord]
    exact here.running l.name ⟨rfl, same ▸ ne⟩
  refine written.bind fun _ υ parts => Task.meets_pure fun φ hφ => ?_
  obtain ⟨recorded, edited, running⟩ := parts
  exact ⟨hφ _ .recorded recorded, hφ _ (.written _) edited, l, hl, named, free,
    fun ne => hφ _ (.running _) (running ne)⟩

end Meeting

/-! ## 3. Both in turns -/

/-- **An edit is lost in one order of the calls, and in no other.** In every
    state that a run reaches, whatever was made to fail, take an edit of a
    hosted instance and a restart, a disabling, an enabling or a status request
    of the same instance, and let them take any turns, with anything happening
    around the fleet in between. From the moment on at which the edit has
    succeeded, the stored record has the name, the documents and the container
    of the edit's record, unless the other operation read the record before the
    edit wrote it and wrote its own copy afterwards: then it has the ones from
    before the edit. Either way the container of the edit's record exists,
    unless the record named a lost container of the last generation before. -/
theorem edit_survives_unless_overwritten {clock : Instant} {probe : String → ProbeOutcome}
    {xs : List Incident} {cfg cfg' : Config} {id : Uuid} {stated : Option Access} {d : Definition}
    {q : Request} {s e : Instance} {turns : List Turn} :
    let w := (World.empty clock probe).course xs
    let t := (Duo.start ((Request.edit id stated d).task cfg) (q.task cfg') w).course turns
    w.registry.find? id = some s → s.access = .hosting → q ∈ upkeep id →
    t.left.result? = some (.ok (.stored e)) →
    (∃ i, t.scene.world.registry.find? id = some i ∧
      if t.scene.Overwritten then s.SameDefinition i else e.SameDefinition i) ∧
    (w.Anchored id ∨ w.generation? id ≠ some lastGeneration →
      ∃ k, e.container = some k ∧ k.name ∈ t.scene.world.cluster.names) := by
  intro w t stored own asked reached
  have filed : Filed (fun _ => True) False False (drawnBy xs) w := filed_course clock probe xs
  obtain ⟨k, hk⟩ := Option.isSome_iff_exists.mp ((filed.container_isSome stored).mpr own)
  have recorded : Recorded id s ⟨w, []⟩ := ⟨filed.exact, s, stored, s.sameDefinition_refl⟩
  -- the container to be replaced is only there if the record was not stranded before
  have unedited : Unedited id s (fun n => n = k.name ∧ w.Anchored id) ⟨w, []⟩ :=
    ⟨recorded, List.not_mem_nil, fun n hn =>
      hn.1 ▸ Cluster.mem_names.mp ((anchored_iff stored hk).mp hn.2)⟩
  have edits : ((Request.edit id stated d).task cfg).Meets (editPact id s) .left
      (fun reply τ => ∀ e, reply = .stored e → Recorded id s τ ∧ τ.edited? = some e ∧ ∃ l,
        e.container = some l ∧ l.name = Deployment.containerName id (nextGeneration s) ∧
          ¬ (l.name = k.name ∧ w.Anchored id) ∧
          (k.name ≠ l.name → τ.world.cluster.source? l.name ≠ none)) ⟨w, []⟩ := by
    refine .map ((meets_edit (filed.exact.key stored) own hk unedited).imp fun e τ parts => ?_)
    rintro _ ⟨⟩
    exact parts
  have abides : (Duo.start ((Request.edit id stated d).task cfg) (q.task cfg') w).Abides
      (editPact id s) _ _ := ⟨edits, meets_upkeep cfg' asked recorded List.not_mem_nil⟩
  have done := (abides.course (sheltered_editPact id s) turns).left.result reached
  obtain ⟨⟨-, i, current, version⟩, edited, l, hl, named, free, running⟩ := done _ rfl e rfl
  refine ⟨⟨i, current, ?_⟩, fun apart => ⟨l, hl, Cluster.mem_names.mpr (running ?_)⟩⟩
  · rw [Scene.definition_of_edited edited, apply_ite (Instance.SameDefinition · i)] at version
    exact version
  -- the replacement was created beside the old container, or has a generation of its own
  · intro same
    rcases apart with anchored | early
    · exact free ⟨same.symm, anchored⟩
    · obtain ⟨name, -⟩ := filed.named stored hk
      rw [name, named, Deployment.containerName_inj] at same
      have last : k.generation ≠ lastGeneration := fun e =>
        early (generation?_eq_some.mpr ⟨s, k, stored, hk, e⟩)
      have below := (lt_nextGeneration_iff hk).mpr
        (UInt32.lt_of_le_of_ne (le_lastGeneration k.generation) last)
      exact UInt32.ne_of_lt below same.2

/-- What is left of an edit and a disabling of one instance behind some
    turns. -/
def sampleDuo (turns : List Turn) : Duo (Except Error Reply) (Except Error Reply) :=
  (Duo.start ((Request.edit ⟨7⟩ none (sampleDefinition "search-2")).task .default)
    ((Request.disable ⟨7⟩).task .default)
    (sampleStart.course (sampleHosted.map .event))).course turns

/-- The instance is disabled while the edit is under way. -/
def sampleKept : List Turn :=
  .call .left :: .replicate 3 (.call .right) ++ .replicate 6 (.call .left)

/-- The edit begins and ends while the instance is being disabled. -/
def sampleLost : List Turn :=
  .call .right :: .replicate 7 (.call .left) ++ .replicate 2 (.call .right)

/-- The record of an edit that has succeeded. -/
def Duo.stored? (t : Duo (Except Error Reply) (Except Error Reply)) : Option Instance :=
  match t.left.result? with
  | some (.ok (.stored e)) => some e
  | _ => none

theorem result?_of_stored? {t : Duo (Except Error Reply) (Except Error Reply)} {e : Instance}
    (h : t.stored? = some e) : t.left.result? = some (.ok (.stored e)) := by
  unfold Duo.stored? at h
  split at h
  · rename_i reached
    exact Option.some.inj h ▸ reached
  · cases h

theorem sampleHosted_stored : ∃ s,
    (sampleStart.course (sampleHosted.map .event)).registry.find? ⟨7⟩ = some s ∧
      s.access = .hosting := by
  have found : ((sampleStart.course (sampleHosted.map .event)).registry.find? ⟨7⟩).map (·.access) =
      some .hosting := by decide +kernel
  exact Option.map_eq_some_iff.mp found

theorem edit_survives_unless_overwritten_sampleKept :
    let w := sampleStart.course (sampleHosted.map .event)
    let t := sampleDuo sampleKept
    ∃ s e, w.registry.find? ⟨7⟩ = some s ∧ s.access = .hosting ∧
      Request.disable ⟨7⟩ ∈ upkeep ⟨7⟩ ∧ t.left.result? = some (.ok (.stored e)) ∧
      w.Anchored ⟨7⟩ ∧ ¬ t.scene.Overwritten ∧
      (∃ i, t.scene.world.registry.find? ⟨7⟩ = some i ∧ e.SameDefinition i) ∧
      ∃ k, e.container = some k ∧ k.name ∈ t.scene.world.cluster.names := by
  intro w t
  obtain ⟨s, stored, own⟩ := sampleHosted_stored
  have edited : (sampleDuo sampleKept).stored?.isSome := by decide +kernel
  obtain ⟨e, he⟩ := Option.isSome_iff_exists.mp edited
  have asked : Request.disable ⟨7⟩ ∈ upkeep ⟨7⟩ := by decide
  have reached := result?_of_stored? he
  have anchored : w.Anchored ⟨7⟩ := by decide +kernel
  have kept : ¬ (sampleDuo sampleKept).scene.Overwritten := by decide +kernel
  have both := edit_survives_unless_overwritten stored own asked reached
  obtain ⟨⟨i, current, version⟩, running⟩ := both
  exact ⟨s, e, stored, own, asked, reached, anchored, kept, ⟨i, current, (if_neg kept).mp version⟩,
    running (.inl anchored)⟩

/-- **Not in every order of the calls**: an instance that is edited while it is
    being disabled goes by its old name in the end, and the edit has
    succeeded. -/
theorem edit_not_always_kept :
    ¬ ∀ (xs : List Incident), NewIds xs → Calm xs → ∀ (cfg cfg' : Config) (id : Uuid)
      (stated : Option Access) (d : Definition) (q : Request) (s e : Instance)
      (turns : List Turn),
      let w := sampleStart.course xs
      let t := (Duo.start ((Request.edit id stated d).task cfg) (q.task cfg') w).course turns
      w.registry.find? id = some s → s.access = .hosting → q ∈ upkeep id →
      t.left.result? = some (.ok (.stored e)) → t.right.result? ≠ none →
      ∃ i, t.scene.world.registry.find? id = some i ∧ i.name = e.name ∧ e.SameDocuments i ∧
        i.container.map (·.resetToPending) = e.container.map (·.resetToPending) ∧
        t.scene.world.Anchored id := by
  intro always
  obtain ⟨s, stored, own⟩ := sampleHosted_stored
  have edited : (sampleDuo sampleLost).stored?.any (fun e => e.name.text = "search-2") := by
    decide +kernel
  obtain ⟨e, he, new⟩ := (Option.any_eq_true _ _).mp edited
  have finished : (sampleDuo sampleLost).right.result?.isSome := by decide +kernel
  have old : ((sampleDuo sampleLost).scene.world.registry.find? ⟨7⟩).any
      (fun i => i.name.text = "search") := by decide +kernel
  obtain ⟨i, current, named, -⟩ := always (sampleHosted.map .event) (by decide +kernel)
    (calm_events sampleHosted) .default .default ⟨7⟩ none (sampleDefinition "search-2")
    (.disable ⟨7⟩) s e sampleLost stored own (by decide) (result?_of_stored? he)
    (Option.isSome_iff_ne_none.mp finished)
  obtain ⟨j, hj, before⟩ := (Option.any_eq_true _ _).mp old
  have same : i = j := Option.some.inj (current.symm.trans hj)
  rw [same] at named
  have clash : "search" = "search-2" :=
    (of_decide_eq_true before).symm.trans ((congrArg _ named).trans (of_decide_eq_true new))
  exact absurd clash (by decide)

end McpFleet.Fleet
