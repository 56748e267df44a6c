/-
  File:      McpFleet/Proofs/Fleet/Succession.lean
  Subject:   No container name is created twice.

  The names of an instance's containers are numbered by generations, and an
  edit counts on from the generation of the record. A record may lag behind
  the containers of its instance: an edit whose record was not saved leaves
  the next container there. That container then guards its own name, since the
  cluster creates no container under a name in use.

  * `Turnover.onward`: records only move on to later generations, and a
    container is only removed when its record has just that generation.
  * `Spent`: a name that was created is in use, or behind its record. It is
    kept by each turnover (`Spent.turnover`) and by each run (`Spent.course`).
  * **`containers_created_once`**: the property, with what an edit does to the
    generation of a record, and what it does at the last one.
-/
import McpFleet.Proofs.Fleet.Acceptance
import McpFleet.Proofs.Fleet.Atomicity
import McpFleet.Proofs.Fleet.Turnover

namespace McpFleet.Fleet

variable {allowed : Config → Prop} {calm fresh : Prop} {used used' : List Uuid} {cfg : Config}
  {w w' : World} {id : Uuid} {s : Instance} {k : Hosting.Container} {g : UInt32}
  {d : Definition} {l : List (Request × Notice)} {made : List String}

/-! ## 1. Onward -/

/-- Identifiers that the requests of a ledger draw are new. -/
def DrawsNew (used : List Uuid) (l : List (Request × Notice)) : Prop :=
  ∀ e ∈ l, ∀ id, e.1.drawn? = some id → id ∉ used

/-- From one state to the next: the generation of a record in use does not get
    smaller, and no container is lost but the one that its record names. -/
structure Onward (used : List Uuid) (w w' : World) : Prop where
  generation : ∀ {a h'}, a ∈ used → w'.generation? a = some h' →
    ∃ h, w.generation? a = some h ∧ h ≤ h'
  runs : ∀ {a h}, w.Runs a h → w'.Runs a h ∨ w.generation? a = some h

theorem Books.onward {g : Option UInt32} (h : Books w w' id g)
    (later : id ∈ used → ∀ h', g = some h' → ∃ h, w.generation? id = some h ∧ h ≤ h') {a : Uuid}
    {h' : UInt32} (old : a ∈ used) (now : w'.generation? a = some h') :
    ∃ h, w.generation? a = some h ∧ h ≤ h' := by
  rcases h with booked | ⟨-, same⟩
  · rw [booked] at now
    split at now
    · rename_i e
      subst e
      exact later old h' now
    · exact ⟨h', now, UInt32.le_refl _⟩
  · exact ⟨h', same a ▸ now, UInt32.le_refl _⟩

/-- **Every turnover moves onward.** -/
theorem Turnover.onward (t : Turnover w l w') (new : DrawsNew used l) : Onward used w w' := by
  cases t with
  | still silent generation runs =>
    exact ⟨fun {a h'} _ now => ⟨h', generation a ▸ now, UInt32.le_refl _⟩,
      fun {a h} there => .inl ((runs a h).mpr there)⟩
  | @first id _ _ _ free books runs =>
    refine ⟨fun old now => books.onward (fun old => ?_) old now,
      fun {a h} there => .inl ((runs a h).mpr (.inl there))⟩
    exact absurd old (new _ List.mem_cons_self id rfl)
  | @next id _ _ s k _ removed stored own free books runs =>
    have had : w.generation? id = some k.generation :=
      generation?_eq_some.mpr ⟨s, k, stored, own, rfl⟩
    refine ⟨fun old now => books.onward (fun _ h' e => ?_) old now, fun {a h} there => ?_⟩
    · exact ⟨k.generation, had, Option.some.inj e ▸ le_nextGeneration own⟩
    · by_cases gone : removed ∧ a = id ∧ h = k.generation
      · obtain ⟨-, rfl, rfl⟩ := gone
        exact .inr had
      · exact .inl ((runs a h).mpr ⟨.inl there, gone⟩)
  | @gone _ id g _ silent had books runs =>
    refine ⟨fun old now => books.onward (fun _ h' e => nomatch e) old now, fun {a h} there => ?_⟩
    by_cases gone : a = id ∧ h = g
    · obtain ⟨rfl, rfl⟩ := gone
      exact .inr had
    · exact .inl ((runs a h).mpr ⟨there, gone⟩)

/-! ## 2. Names that are spent -/

/-- The name of this generation is in use, or no later than the record's. -/
def World.Past (w : World) (id : Uuid) (g : UInt32) : Prop :=
  w.Runs id g ∨ ∀ h, w.generation? id = some h → g ≤ h

theorem Onward.past (o : Onward used w w') (old : id ∈ used) (h : w.Past id g) : w'.Past id g := by
  rcases h with there | bound
  · rcases o.runs there with there | named
    · exact .inl there
    · refine .inr fun h' now => ?_
      obtain ⟨h, before, le⟩ := o.generation old now
      rw [named] at before
      exact Option.some.inj before ▸ le
  · refine .inr fun h' now => ?_
    obtain ⟨h, before, le⟩ := o.generation old now
    exact UInt32.le_trans (bound h before) le

/-- **Names that were created are spent.** No two are the same, and each is in
    use or no later than its record; the last generation is its own successor,
    and is left out where the store may fail. -/
structure Spent (calm : Prop) (used : List Uuid) (made : List String) (w : World) : Prop where
  apart : made.Pairwise fun m n => m = n →
    ¬ calm ∧ ∃ id, n = Deployment.containerName id lastGeneration
  past : ∀ n ∈ made, ∃ id g, n = Deployment.containerName id g ∧ id ∈ used ∧
    (calm ∨ g ≠ lastGeneration → w.Past id g)

/-- A name that is not spent is created. -/
theorem Spent.add (h : Spent calm used made w) {n : String} (name : n = Deployment.containerName id g)
    (drawn : id ∈ used) (there : calm ∨ g ≠ lastGeneration → w.Past id g)
    (unspent : n ∈ made → ¬ calm ∧ g = lastGeneration) : Spent calm used (made ++ [n]) w where
  apart := by
    refine List.pairwise_append.mpr ⟨h.apart, List.pairwise_singleton _ _, fun m hm n' hn e => ?_⟩
    obtain rfl := List.mem_singleton.mp hn
    obtain ⟨restless, last⟩ := unspent (e ▸ hm)
    exact ⟨restless, id, last ▸ name⟩
  past m hm := by
    rcases List.mem_append.mp hm with before | now
    · exact h.past m before
    · exact ⟨id, g, (List.mem_singleton.mp now).trans name, drawn, there⟩

theorem Spent.onward (h : Spent calm used made w) (o : Onward used w w') (more : used ⊆ used') :
    Spent calm used' made w' where
  apart := h.apart
  past n hn := by
    obtain ⟨id, g, name, drawn, past⟩ := h.past n hn
    exact ⟨id, g, name, more drawn, fun sure => o.past drawn (past sure)⟩

/-- The next generation is another one, where it can be relied on. -/
theorem lt_next (hk : s.container = some k) (other : nextGeneration s ≠ lastGeneration) :
    k.generation < nextGeneration s := by
  refine (lt_nextGeneration_iff hk).mpr (UInt32.lt_of_le_of_ne (le_lastGeneration _) fun e => ?_)
  exact other (UInt32.le_antisymm (le_lastGeneration _) (e ▸ le_nextGeneration hk))

/-- **Every turnover keeps names spent.** A first container is named by an
    identifier that was not drawn before. A replacement is ahead of its record,
    and its name was free. -/
theorem Spent.turnover (h : Spent calm used made w) (t : Turnover w l w') (new : DrawsNew used l)
    (more : used ⊆ used') (drawn : ∀ e ∈ l, ∀ id, e.1.drawn? = some id → id ∈ used')
    (stored : ∀ {id g}, w.generation? id = some g → id ∈ used)
    (there : calm → ∀ {id g}, w.generation? id = some g → w.Runs id g) :
    Spent calm used' (made ++ createdNames l) w' := by
  have kept : Spent calm used' made w' := h.onward (t.onward new) more
  cases t with
  | still silent =>
    rw [silent.created, List.append_nil]
    exact kept
  | gone silent =>
    rw [silent.created, List.append_nil]
    exact kept
  | @first id _ _ _ free books runs =>
    refine kept.add rfl (drawn _ List.mem_cons_self id rfl)
      (fun _ => .inl ((runs id 0).mpr (.inr ⟨rfl, rfl⟩))) fun before => ?_
    obtain ⟨owner, g, name, old, -⟩ := h.past _ before
    obtain ⟨rfl, -⟩ := Deployment.containerName_inj.mp name
    exact absurd old (new _ List.mem_cons_self id rfl)
  | @next id _ _ s k _ removed record own free books runs =>
    have had : w.generation? id = some k.generation :=
      generation?_eq_some.mpr ⟨s, k, record, own, rfl⟩
    -- in a calm run the last generation has no successor: its name is in use
    have ahead : calm ∨ nextGeneration s ≠ lastGeneration → k.generation < nextGeneration s := by
      intro sure
      rcases sure with quiet | inner
      · refine UInt32.lt_of_le_of_ne (le_nextGeneration own) fun e => ?_
        exact free (e ▸ there quiet had)
      · exact lt_next own inner
    rw [createdNames_replacement]
    refine kept.add rfl (more (stored had)) (fun sure => .inl ?_) fun before => ?_
    · refine (runs id _).mpr ⟨.inr ⟨rfl, rfl⟩, fun gone => ?_⟩
      exact UInt32.ne_of_lt (ahead sure) gone.2.2.symm
    · obtain ⟨owner, g, name, -, past⟩ := h.past _ before
      obtain ⟨rfl, rfl⟩ := Deployment.containerName_inj.mp name
      by_cases sure : calm ∨ nextGeneration s ≠ lastGeneration
      · rcases past sure with inUse | bound
        · exact absurd inUse free
        · exact absurd (bound _ had) (UInt32.not_le.mpr (ahead sure))
      · rw [not_or, Classical.not_not] at sure
        exact sure

/-! ## 3. Whole runs -/

/-- A record of a calm run names a container that is there. -/
theorem Sound.runs (h : Sound used w) (had : w.generation? id = some g) : w.Runs id g := by
  obtain ⟨s, k, stored, hk, rfl⟩ := generation?_eq_some.mp had
  obtain rfl : s.id = id := h.exact.key stored
  obtain ⟨name, -, dep, there, -⟩ := (h.inOrder stored).serves hk
  rw [runs_iff, ← name, there]
  exact Option.some_ne_none dep

/-- **Every run keeps names spent.** -/
theorem Spent.course (xs : List Incident) (filed : Filed (fun _ => True) calm True used w)
    (quiet : calm → Calm xs) (new : (used ++ drawnBy xs).Nodup)
    (h : Spent calm used (createdNames l) w) :
    Spent calm (used ++ drawnBy xs) (createdNames (l ++ w.ledger xs)) (w.course xs) := by
  refine filed.along (motive := fun used l w => Spent calm used (createdNames l) w)
    (fun {used l w} x filed here spent => ?_) xs quiet new h
  rw [createdNames_append]
  exact spent.turnover (filed.turnover x here)
    (fun e he id hid => here id (drawn?_of_mem_entries he ▸ hid)) (List.subset_append_left _ _)
    (fun e he id hid => mem_drawn (drawn?_of_mem_entries he ▸ hid)) filed.drawn_of_generation?
    fun still => (filed.sound still).runs

/-! ## 4. The generation of an edited record -/

/-- **An edit of a hosted record that succeeds** leaves a record of the next
    generation. -/
theorem edited_generation {stated : Option Access} {reply : Reply}
    (exact : w.registry.Exact) (stored : w.registry.find? id = some s)
    (hosted : s.access = .hosting) (ok : (w.serve cfg (.edit id stated d)).1 = .ok reply) :
    ∃ i l, reply = .stored i ∧ (w.serve cfg (.edit id stated d)).2.registry.find? id = some i ∧
      i.container = some l ∧ l.generation = nextGeneration s := by
  have runs := Task.runs_self ((Request.edit id stated d).task cfg) w
  obtain ⟨r, runs, replied⟩ := Task.runs_map.mp runs
  have ok : (((Request.edit id stated d).task cfg).runIn w).1 = .ok reply := ok
  rw [ok] at replied
  have now : (w.serve cfg (.edit id stated d)).2 =
    (((Request.edit id stated d).task cfg).runIn w).2 := rfl
  rw [now]
  generalize (((Request.edit id stated d).task cfg).runIn w).2 = w' at runs
  cases r with
  | error e => cases replied
  | ok i =>
    obtain rfl : reply = .stored i := Except.ok.inj replied
    obtain ⟨_, s', v, us, w₁, answer, stored', e, result⟩ := (runs_edit runs).of_ok
    obtain rfl : s = s' := Option.some.inj (stored.symm.trans stored')
    obtain rfl : s.id = id := exact.key stored
    cases answer with
    | error x => cases result
    | ok _ =>
      obtain rfl : i = s.revise v w.clock := Except.ok.inj result
      have written := e.written
      cases e.replaced with
      | passthrough other judged => exact absurd hosted other
      | hosted own prepared made =>
        obtain ⟨-, l, hl, generation, -⟩ := prepared_serves prepared made
        cases written with
        | made done => exact ⟨_, l, rfl, Registry.find?_update done, hl, generation⟩

/-- **An edit is refused** and changes nothing when the next name is in use,
    whatever else fails. -/
theorem edit_refused_of_runs {stated : Option Access} (exact : w.registry.Exact)
    (stored : w.registry.find? id = some s) (hosted : s.access = .hosting)
    (there : w.Runs id (nextGeneration s)) :
    ∃ e, w.serve cfg (.edit id stated d) = (.error e, w) := by
  have runs := Task.runs_self ((Request.edit id stated d).task cfg) w
  obtain ⟨r, runs, replied⟩ := Task.runs_map.mp runs
  rcases (runs_edit runs).elim with ⟨⟨e, rfl⟩, same⟩ | ⟨zs, -, s', v, us, w₁, _, stored', e, -⟩
  · exact ⟨e, Prod.ext replied same⟩
  · obtain rfl : s = s' := Option.some.inj (stored.symm.trans stored')
    obtain rfl : s.id = id := exact.key stored
    cases e.replaced with
    | passthrough other judged => exact absurd hosted other
    | hosted own prepared made =>
      obtain ⟨named, -⟩ := prepared_serves prepared made
      exact absurd there (not_runs_of_create made named)

/-- The last generation is its own successor. -/
theorem next_eq_of_last (hk : s.container = some k) (last : k.generation = lastGeneration) :
    nextGeneration s = k.generation := by
  refine UInt32.le_antisymm ?_ (le_nextGeneration hk)
  rw [last]
  exact le_lastGeneration _

/-! ## 5. A run to the last generation -/

theorem course_events (w : World) (es : List Event) : w.course (es.map .event) = w.history es := by
  unfold World.course World.history
  rw [List.foldl_map]
  rfl

theorem drawnBy_events (es : List Event) : drawnBy (es.map .event) = drawnIds es := by
  unfold drawnBy drawnIds
  rw [List.filterMap_map]
  rfl

/-- Replacing a container lets no operation of the cluster fail or work. -/
theorem Replaced.failing {v : Revision} {ys : List Exchange} {w₁ : World}
    (h : Replaced cfg w s d v ys w₁) : w₁.cluster.failing = w.cluster.failing := by
  cases h with
  | passthrough => rfl
  | @hosted p _ c own prepared made =>
    obtain ⟨-, -, rfl⟩ := Cluster.create_eq_ok.mp made
    show (discard _ s).failing = _
    unfold discard
    split
    · rename_i c' removed
      obtain ⟨k, -, -, rfl⟩ := Cluster.delete_eq_ok.mp removed
      rfl
    · rfl

/-- An edit leaves alone what decides whether the next one is accepted. -/
theorem Sound.edit_frame (h : Sound used w) (cfg : Config) (id : Uuid) (stated : Option Access)
    (d : Definition) :
    (w.serve cfg (.edit id stated d)).2.directory = w.directory ∧
      (w.serve cfg (.edit id stated d)).2.cluster.failing = w.cluster.failing := by
  have undrawn : ∀ a, (Request.edit id stated d).drawn? = some a → a ∉ used :=
    fun _ drawn => nomatch drawn
  rcases h.served undrawn with ⟨-, same⟩ | ⟨b, -, effect⟩
  · rw [same]
    exact ⟨rfl, rfl⟩
  · generalize (w.serve cfg (.edit id stated d)).2 = w' at effect
    cases effect with
    | unchanged => exact ⟨rfl, rfl⟩
    | edited stored replaced => exact ⟨rfl, replaced.failing⟩
    | switched asked => rcases asked with ⟨e, -⟩ | ⟨e, -⟩ <;> cases e

/-- One hosted instance, edited again and again. -/
def sampleEdits (n : Nat) : List Event :=
  sampleHosted ++ List.replicate n (.request .default (.edit ⟨7⟩ none (sampleDefinition "search")))

theorem drawnIds_sampleEdits (n : Nat) : drawnIds (sampleEdits n) = [⟨7⟩] := by
  unfold sampleEdits
  rw [drawnIds_append]
  have none : drawnIds (List.replicate n
      (.request .default (.edit ⟨7⟩ none (sampleDefinition "search")))) = [] := by
    refine List.filterMap_eq_nil_iff.mpr fun e he => ?_
    rw [List.eq_of_mem_replicate he]
    rfl
  rw [none]
  rfl

theorem freshIds_sampleEdits (n : Nat) : FreshIds (sampleEdits n) := by
  unfold FreshIds
  rw [drawnIds_sampleEdits]
  decide

/-- The definition can be hosted, since an instance was created with it. -/
theorem sample_hostable : ∃ settings spec e,
    Hostable .default sampleDirectory (sampleDefinition "search") settings spec e := by
  have steady : Steady (sampleStart.after (.directory sampleDirectory)) :=
    ⟨rfl, Registry.exact_empty⟩
  have created : ((sampleStart.after (.directory sampleDirectory)).serve .default
      (.create ⟨7⟩ .hosting (sampleDefinition "search"))).1.toBool = true := by decide +kernel
  obtain ⟨-, acceptable, -⟩ := (accepts_create steady rfl).mp (exists_ok_of_toBool created)
  cases acceptable with
  | passthrough own => exact absurd rfl own
  | hosting fits working => exact ⟨_, _, _, fits⟩

/-- **Every generation is reached**: each edit is accepted, and counts on. -/
theorem sampleEdits_generation (n : Nat) (bound : n ≤ lastGeneration.toNat) :
    ((sampleStart.history (sampleEdits n)).directory = sampleDirectory ∧
      (sampleStart.history (sampleEdits n)).cluster.failing .create = false) ∧
    ∃ s k, (sampleStart.history (sampleEdits n)).registry.find? ⟨7⟩ = some s ∧
      s.container = some k ∧ k.generation.toNat = n := by
  induction n with
  | zero =>
    refine ⟨⟨rfl, rfl⟩, ?_⟩
    have found : (sampleStart.history (sampleEdits 0)).generation? ⟨7⟩ = some 0 := by
      decide +kernel
    obtain ⟨s, k, stored, hk, generation⟩ := generation?_eq_some.mp found
    exact ⟨s, k, stored, hk, congrArg UInt32.toNat generation⟩
  | succ n ih =>
    obtain ⟨⟨directory, working⟩, s, k, stored, hk, generation⟩ := ih (by omega)
    have sound : Sound (drawnIds (sampleEdits n)) (sampleStart.history (sampleEdits n)) :=
      sound_history (freshIds_sampleEdits n)
    have numbered : Numbered (drawnIds (sampleEdits n)) (sampleStart.history (sampleEdits n)) :=
      (numbered_empty _ _).history _ (sound_empty _ _) (freshIds_sampleEdits n)
    have next : sampleStart.history (sampleEdits (n + 1)) =
        ((sampleStart.history (sampleEdits n)).serve .default
          (.edit ⟨7⟩ none (sampleDefinition "search"))).2 := by
      unfold sampleEdits World.history
      rw [List.replicate_succ', ← List.append_assoc, List.foldl_append]
      rfl
    rw [next]
    generalize sampleStart.history (sampleEdits n) = w at *
    have own : s.access = .hosting := (sound.inOrder stored).access hk
    have fits : NameFits w (sampleDefinition "search") (some ⟨7⟩) := by
      refine ⟨by decide +kernel, by decide +kernel, fun id i hi _ => ?_⟩
      have drawn := sound.drawn hi
      rw [drawnIds_sampleEdits] at drawn
      rw [List.mem_singleton.mp drawn]
    have acceptable : Acceptable .default w (sampleDefinition "search") s.access := by
      obtain ⟨settings, spec, e, hostable⟩ := sample_hostable
      rw [own]
      exact .hosting (directory ▸ hostable) working
    have below : k.generation < lastGeneration := by
      rw [UInt32.lt_iff_toNat_lt, generation]
      omega
    have free := (numbered.free_next sound stored).mpr fun l hl => by
      obtain rfl := Option.some.inj (hl.symm.trans hk)
      exact below
    obtain ⟨reply, ok⟩ := (accepts_edit sound.toSteady).mpr
      ⟨s, stored, .inl rfl, fits, acceptable, free⟩
    obtain ⟨i, l, -, found, hl, counted⟩ := edited_generation sound.exact stored own ok
    obtain ⟨sameDirectory, sameFailing⟩ :=
      sound.edit_frame .default ⟨7⟩ none (sampleDefinition "search")
    refine ⟨⟨sameDirectory.trans directory, ?_⟩, i, l, found, hl, ?_⟩
    · rw [sameFailing]
      exact working
    · rw [counted, toNat_nextGeneration hk, generation]
      omega

/-! ## 6. Names that are created once -/

/-- **No container name is created twice.** In every run that starts empty, in
    which no identifier is drawn twice:

    the containers that are created have different names, whatever the cluster
    and the directory refuse; when operations of the store fail as well, only
    names of the last generation may be created again;

    while the store answers, a hosted record's container is there. An edit of
    a hosted record that succeeds raises its generation by one, and at the last
    generation every edit is refused while the container is there: the record,
    the container, and all the rest are what they were. -/
theorem containers_created_once {clock : Instant} {probe : String → ProbeOutcome}
    {xs : List Incident} (new : NewIds xs) :
    let start := World.empty clock probe
    let w := start.course xs
    (Calm xs → (createdNames (start.ledger xs)).Nodup) ∧
    ((createdNames (start.ledger xs)).Pairwise fun m n => m = n →
      ∃ id, n = Deployment.containerName id lastGeneration) ∧
    ∀ id s k, w.registry.find? id = some s → s.container = some k →
      (Calm xs → k.name ∈ w.cluster.names) ∧
      ∀ cfg stated d,
        (k.name ∈ w.cluster.names ∨ k.generation ≠ lastGeneration → ∀ reply,
          (w.serve cfg (.edit id stated d)).1 = .ok reply →
          ∃ i l, reply = .stored i ∧
            (w.serve cfg (.edit id stated d)).2.registry.find? id = some i ∧
            i.container = some l ∧ l.generation.toNat = k.generation.toNat + 1) ∧
        (k.name ∈ w.cluster.names → k.generation = lastGeneration →
          ∃ e, w.serve cfg (.edit id stated d) = (.error e, w)) := by
  intro start w
  have empty (calm : Prop) : Filed (fun _ => True) calm True [] start :=
    filed_empty _ _ _ clock probe
  have spent : Spent (Calm xs) (drawnBy xs) (createdNames (start.ledger xs)) w :=
    Spent.course (l := []) xs (empty _) (fun still => still) new
      ⟨List.Pairwise.nil, fun n hn => nomatch hn⟩
  have filed : Filed (fun _ => True) (Calm xs) True (drawnBy xs) w :=
    (empty _).course xs (fun _ _ _ => trivial) (fun still => still) fun _ => new
  refine ⟨fun still => spent.apart.imp fun apart e => (apart e).1 still,
    spent.apart.imp fun apart e => (apart e).2, ?_⟩
  intro id s k stored hk
  obtain ⟨name, hosted⟩ := filed.named stored hk
  rw [name]
  refine ⟨fun still => ?_, fun cfg stated d => ?_⟩
  · exact (filed.sound still).runs (generation?_eq_some.mpr ⟨s, k, stored, hk, rfl⟩)
  have atLast : w.Runs id k.generation → k.generation = lastGeneration →
      ∃ e, w.serve cfg (.edit id stated d) = (.error e, w) := by
    intro there last
    rw [← next_eq_of_last hk last] at there
    exact edit_refused_of_runs filed.exact stored hosted there
  refine ⟨fun sure reply ok => ?_, atLast⟩
  obtain ⟨i, l, e, found, hl, generation⟩ := edited_generation filed.exact stored hosted ok
  have inner : k.generation ≠ lastGeneration := by
    rcases sure with there | inner
    · intro last
      obtain ⟨x, refused⟩ := atLast there last
      rw [refused] at ok
      cases ok
    · exact inner
  refine ⟨i, l, e, found, hl, ?_⟩
  have below : k.generation.toNat ≠ lastGeneration.toNat := fun e => inner (UInt32.toNat_inj.mp e)
  have bound := UInt32.le_iff_toNat_le.mp (le_lastGeneration k.generation)
  rw [generation, toNat_nextGeneration hk]
  omega

/-- Three containers are created in the sample run, and the first instance
    goes on to its second replacement. A run of edits reaches the last
    generation, and goes no further. -/
theorem containers_created_once_samples :
    (NewIds sampleIncidents ∧ Calm sampleIncidents ∧
      createdNames (sampleStart.ledger sampleIncidents) =
        ["mcp-00000000000000000000000000000007", "mcp-00000000000000000000000000000008",
          "mcp-00000000000000000000000000000007-1"] ∧
      (createdNames (sampleStart.ledger sampleIncidents)).Nodup ∧
      ∃ i l, ((sampleStart.course sampleIncidents).serve .default
          (.edit ⟨7⟩ none (sampleDefinition "search-3"))).2.registry.find? ⟨7⟩ = some i ∧
        i.container = some l ∧ l.generation.toNat = 1 + 1) ∧
    ∃ xs, NewIds xs ∧ Calm xs ∧ ∃ s k,
      (sampleStart.course xs).registry.find? ⟨7⟩ = some s ∧ s.container = some k ∧
      k.generation = lastGeneration ∧ k.name ∈ (sampleStart.course xs).cluster.names ∧
      ∃ e, (sampleStart.course xs).serve .default
        (.edit ⟨7⟩ none (sampleDefinition "search-2")) = (.error e, sampleStart.course xs) := by
  constructor
  · have new : NewIds sampleIncidents := by decide +kernel
    have once := @containers_created_once ⟨0, 0⟩ (fun _ => ⟨true, none⟩) _ new
    have found : (sampleStart.course sampleIncidents).generation? ⟨7⟩ = some 1 := by decide +kernel
    have accepted : ((sampleStart.course sampleIncidents).serve .default
        (.edit ⟨7⟩ none (sampleDefinition "search-3"))).1.toBool = true := by decide +kernel
    obtain ⟨s, k, stored, hk, generation⟩ := generation?_eq_some.mp found
    obtain ⟨reply, ok⟩ := exists_ok_of_toBool accepted
    obtain ⟨there, edits⟩ := once.2.2 ⟨7⟩ s k stored hk
    obtain ⟨counts, -⟩ := edits .default none (sampleDefinition "search-3")
    obtain ⟨i, l, -, now, hl, next⟩ := counts (.inl (there calm_sampleIncidents)) reply ok
    rw [generation] at next
    exact ⟨new, calm_sampleIncidents, by decide +kernel, once.1 calm_sampleIncidents, i, l, now, hl,
      next⟩
  · have new : NewIds ((sampleEdits lastGeneration.toNat).map .event) := by
      unfold NewIds
      rw [drawnBy_events]
      exact freshIds_sampleEdits _
    have calm : Calm ((sampleEdits lastGeneration.toNat).map .event) := calm_events _
    obtain ⟨-, s, k, stored, hk, generation⟩ :=
      sampleEdits_generation lastGeneration.toNat (Nat.le_refl _)
    have last : k.generation = lastGeneration := UInt32.toNat_inj.mp generation
    have once := @containers_created_once ⟨0, 0⟩ (fun _ => ⟨true, none⟩) _ new
    rw [← course_events] at stored
    obtain ⟨there, edits⟩ := once.2.2 ⟨7⟩ s k stored hk
    obtain ⟨-, refused⟩ := edits .default none (sampleDefinition "search-2")
    exact ⟨_, new, calm, s, k, stored, hk, last, there calm, refused (there calm) last⟩

end McpFleet.Fleet
