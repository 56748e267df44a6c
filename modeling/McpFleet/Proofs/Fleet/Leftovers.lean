/-
  File:      McpFleet/Proofs/Fleet/Leftovers.lean
  Subject:   Which containers of an instance are left when it is deleted.

  Deleting an instance removes the container that its record names. An edit
  that could not remove the container it replaced went on without it, and no
  later request names that container again. So a deleted instance leaves
  exactly these containers: `Settled` says so for every generation, at every
  moment of a run in which the store answers.
-/
import McpFleet.Proofs.Fleet.Succession

namespace McpFleet

/-- What was deleted is not stored. -/
theorem Registry.find?_delete {r r' : Registry} {id : Uuid} (h : r.delete id = .ok r') :
    r'.find? id = none := by
  unfold Registry.delete at h
  split at h
  · cases h
  · cases h
    exact Dict.get?_erase_self _ _

namespace Fleet

variable {used used' : List Uuid} {cfg : Config} {w w' : World} {id a : Uuid}
  {l m : List (Request × Notice)}

/-! ## 1. The containers of one instance -/

/-- **The containers of an instance that are there** are the one that its
    record names, and those that were left behind; these are of earlier
    generations. -/
structure Settled (used : List Uuid) (l : List (Request × Notice)) (w : World) (id : Uuid) :
    Prop where
  created : ∀ n ∈ createdFor id l, ∃ g, n = Deployment.containerName id g
  there : ∀ g, w.Runs id g ↔
    w.generation? id = some g ∨ Deployment.containerName id g ∈ leftBehind id l
  behind : ∀ {g h}, Deployment.containerName id g ∈ leftBehind id l →
    w.generation? id = some h → g < h
  unused : id ∉ used → leftBehind id l = []

theorem settled_empty (clock : Instant) (probe : String → ProbeOutcome) (id : Uuid) :
    Settled [] [] (World.empty clock probe) id where
  created n hn := nomatch hn
  there g := by
    rw [runs_iff]
    constructor
    · intro h
      exact absurd rfl h
    · intro ways
      rcases ways with h | h <;> cases h
  behind h := nomatch h
  unused _ := rfl

theorem createdFor_replacement (q : Request) (name old : String) (removed : Bool) :
    createdFor a (replacement q name old removed) =
      if q.subject? = some a then [name] else [] := by
  unfold createdFor replacement
  by_cases asked : q.subject? = some a
  · cases removed <;> simp [asked, createdNames, Notice.created?]
  · cases removed <;> simp [asked, createdNames]

theorem leftBehind_replacement {q : Request} (edit : q.isEdit = true) (name old : String)
    (removed : Bool) : leftBehind a (replacement q name old removed) =
      if q.subject? = some a ∧ removed = false then [old] else [] := by
  unfold leftBehind replacement
  by_cases asked : q.subject? = some a
  · cases removed <;> simp [asked, edit, Notice.kept?]
  · cases removed <;> simp [asked]

/-- What happens to other instances leaves this one's containers settled. -/
theorem Settled.untouched (h : Settled used l w a) (more : used ⊆ used')
    (created : createdFor a m = []) (left : leftBehind a m = [])
    (generation : w'.generation? a = w.generation? a) (runs : ∀ g, w'.Runs a g ↔ w.Runs a g) :
    Settled used' (l ++ m) w' a where
  created n hn := by
    rw [createdFor_append, created, List.append_nil] at hn
    exact h.created n hn
  there g := by
    rw [runs, generation, leftBehind_append, left, List.append_nil]
    exact h.there g
  behind hg now := by
    rw [leftBehind_append, left, List.append_nil] at hg
    exact h.behind hg (generation ▸ now)
  unused new := by
    rw [leftBehind_append, left, List.append_nil]
    exact h.unused fun old => new (more old)

theorem Books.booked {g : Option UInt32} (h : Books w w' id g) (steady : Steady w) (a : Uuid) :
    w'.generation? a = if a = id then g else w.generation? a := by
  rcases h with booked | ⟨⟨operation, failing⟩, -⟩
  · exact booked a
  · rw [steady.answers] at failing
    cases failing

/-! ## 2. One step -/

/-- A container that is the first of its instance. -/
theorem Settled.first (h : Settled used l w id) (new : id ∉ used)
    (absent : w.generation? id = none) {access : Access} {d : Definition}
    (generation : w'.generation? id = some 0) (runs : ∀ g, w'.Runs id g ↔ w.Runs id g ∨ g = 0) :
    Settled used'
      (l ++ [(.create id access d, .created (Deployment.containerName id 0))]) w' id := by
  have nothing : leftBehind id (l ++ [(Request.create id access d,
      Notice.created (Deployment.containerName id 0))]) = [] := by
    rw [leftBehind_append, h.unused new]
    rfl
  refine ⟨fun n hn => ?_, fun g => ?_, fun hg => ?_, fun _ => nothing⟩
  · rw [createdFor_append] at hn
    rcases List.mem_append.mp hn with before | now
    · exact h.created n before
    · have now : n ∈ createdNames [(Request.create id access d,
          Notice.created (Deployment.containerName id 0))] :=
        (List.filter_sublist.filterMap _).subset now
      exact ⟨0, List.mem_singleton.mp now⟩
  · have none : ¬ w.Runs id g := by
      rw [h.there, absent, h.unused new]
      simp
    rw [runs, generation, nothing]
    simp [none, eq_comm]
  · rw [nothing] at hg
    cases hg

/-- **A container that replaces another one.** The replaced one is gone, or it
    is left behind from now on. -/
theorem Settled.next (h : Settled used l w id) (drawn : id ∈ used') {stated : Option Access}
    {d : Definition} {g next : UInt32} (removed : Bool) (had : w.generation? id = some g)
    (ahead : g < next) (generation : w'.generation? id = some next)
    (runs : ∀ h, w'.Runs id h ↔ (w.Runs id h ∨ h = next) ∧ ¬ (removed ∧ h = g)) :
    Settled used' (l ++ replacement (.edit id stated d) (Deployment.containerName id next)
      (Deployment.containerName id g) removed) w' id := by
  have left (h : UInt32) : Deployment.containerName id h ∈
      leftBehind id (l ++ replacement (.edit id stated d) (Deployment.containerName id next)
        (Deployment.containerName id g) removed) ↔
      Deployment.containerName id h ∈ leftBehind id l ∨ (removed = false ∧ h = g) := by
    rw [leftBehind_append, leftBehind_replacement rfl, List.mem_append]
    cases removed <;> simp [Request.subject?, Deployment.containerName_inj]
  have asked : (Request.edit id stated d).subject? = some id := rfl
  refine ⟨fun n hn => ?_, fun h' => ?_, fun {h' top} hg now => ?_, fun new => absurd drawn new⟩
  · rw [createdFor_append, createdFor_replacement, if_pos asked] at hn
    rcases List.mem_append.mp hn with before | now
    · exact h.created n before
    · exact ⟨next, List.mem_singleton.mp now⟩
  · have old : Deployment.containerName id h' ∈ leftBehind id l → h' ≠ g :=
      fun left => UInt32.ne_of_lt (h.behind left had)
    have apart : g ≠ next := UInt32.ne_of_lt ahead
    rw [runs, h.there, had, generation, left]
    simp only [Option.some.injEq]
    cases removed <;> grind
  · rw [generation] at now
    obtain rfl := Option.some.inj now
    rcases (left h').mp hg with before | ⟨-, rfl⟩
    · exact UInt32.lt_trans (h.behind before had) ahead
    · exact ahead

/-- **A container that is removed with its record.** -/
theorem Settled.gone (h : Settled used l w id) (more : used ⊆ used') (silent : Silent m)
    {g : UInt32} (had : w.generation? id = some g) (generation : w'.generation? id = none)
    (runs : ∀ h, w'.Runs id h ↔ w.Runs id h ∧ ¬ h = g) : Settled used' (l ++ m) w' id where
  created n hn := by
    rw [createdFor_append, silent.createdFor, List.append_nil] at hn
    exact h.created n hn
  there h' := by
    have old : Deployment.containerName id h' ∈ leftBehind id l → h' ≠ g :=
      fun left => UInt32.ne_of_lt (h.behind left had)
    rw [runs, h.there, had, generation, leftBehind_append, silent.left, List.append_nil]
    simp only [Option.some.injEq, reduceCtorEq, false_or]
    grind
  behind _ now := by
    rw [generation] at now
    cases now
  unused new := by
    rw [leftBehind_append, silent.left, List.append_nil]
    exact h.unused fun old => new (more old)

/-- **Every turnover leaves every instance settled**, while the store
    answers. -/
theorem Settled.turnover (h : Settled used l w a) (t : Turnover w m w') (sound : Sound used w)
    (new : DrawsNew used m) (more : used ⊆ used')
    (stored : ∀ {id g}, w.generation? id = some g → id ∈ used) : Settled used' (l ++ m) w' a := by
  have steady := sound.toSteady
  cases t with
  | still silent generation runs =>
    exact h.untouched more silent.createdFor (silent.left a) (generation a) (runs a)
  | @first id access d _ free books runs =>
    by_cases same : a = id
    · subst same
      have unused := new _ List.mem_cons_self a rfl
      have absent : w.generation? a = none :=
        Option.eq_none_iff_forall_ne_some.mpr fun g had => unused (stored had)
      refine h.first unused absent ?_ fun g => ?_
      · rw [books.booked steady, if_pos rfl]
      · rw [runs]
        simp
    · refine h.untouched more ?_ rfl ?_ fun g => ?_
      · simp [createdFor, createdNames, Request.subject?, Ne.symm same]
      · rw [books.booked steady, if_neg same]
      · rw [runs]
        simp [same]
  | @next id stated d s k _ removed record own free books runs =>
    have had : w.generation? id = some k.generation :=
      generation?_eq_some.mpr ⟨s, k, record, own, rfl⟩
    have ahead : k.generation < nextGeneration s := by
      refine UInt32.lt_of_le_of_ne (le_nextGeneration own) fun e => free ?_
      exact e ▸ sound.runs had
    by_cases same : a = id
    · subst same
      refine h.next (more (stored had)) removed had ahead ?_ fun g => ?_
      · rw [books.booked steady, if_pos rfl]
      · rw [runs]
        simp
    · have other : (Request.edit id stated d).subject? ≠ some a :=
        fun e => same (Option.some.inj e).symm
      refine h.untouched more ?_ ?_ ?_ fun g => ?_
      · rw [createdFor_replacement, if_neg other]
      · rw [leftBehind_replacement rfl, if_neg fun asked => other asked.1]
      · rw [books.booked steady, if_neg same]
      · rw [runs]
        simp [same]
  | @gone _ id g _ silent had books runs =>
    by_cases same : a = id
    · subst same
      refine h.gone more silent had ?_ fun g => ?_
      · rw [books.booked steady, if_pos rfl]
      · rw [runs]
        simp
    · refine h.untouched more silent.createdFor (silent.left a) ?_ fun g => ?_
      · rw [books.booked steady, if_neg same]
      · rw [runs]
        simp [same]

/-! ## 3. Deleted instances -/

/-- A deletion that succeeds finds a record and leaves none. -/
theorem delete_absent {reply : Reply} (ok : (w.serve cfg (.delete id)).1 = .ok reply) :
    (∃ s, w.registry.find? id = some s) ∧
      (w.serve cfg (.delete id)).2.registry.find? id = none := by
  have runs := Task.runs_self ((Request.delete id).task cfg) w
  have ok : (((Request.delete id).task cfg).runIn w).1 = .ok reply := ok
  rw [ok] at runs
  have now : (w.serve cfg (.delete id)).2 = (((Request.delete id).task cfg).runIn w).2 := rfl
  rw [now]
  generalize (((Request.delete id).task cfg).runIn w).2 = w' at runs
  obtain ⟨r, runs, replied⟩ := Task.runs_map.mp runs
  cases r with
  | error e => cases replied
  | ok _ =>
    have last {w₁ : World} {xs : List Exchange}
        (h : (Task.deleteRecord id).Runs w₁ xs (.ok ()) w') : w'.registry.find? id = none := by
      cases Task.runs_deleteRecord h with
      | made done => exact Registry.find?_delete done
    obtain ⟨ys, zs, s, w₁, -, found, h⟩ := Task.runs_bind_ok.mp runs
    refine ⟨⟨s, runs_get found⟩, ?_⟩
    simp only at h
    split at h
    · obtain ⟨_, _, _, _, -, -, h⟩ := Task.runs_bind_ok.mp h
      exact last h
    · exact last h

/-- An instance without a record that was drawn before gets none any more. -/
theorem Filed.stays_absent {calm : Prop} (xs : List Incident)
    (filed : Filed (fun _ => True) calm True used w) (quiet : calm → Calm xs)
    (new : (used ++ drawnBy xs).Nodup) (drawn : id ∈ used) (absent : w.generation? id = none) :
    (w.course xs).generation? id = none := by
  refine (filed.along (motive := fun used _ w => id ∈ used ∧ w.generation? id = none)
    (fun {used l w} x filed here parts => ?_) xs quiet new (l := []) ⟨drawn, absent⟩).2
  obtain ⟨drawn, absent⟩ := parts
  refine ⟨List.mem_append_left _ drawn, Option.eq_none_iff_forall_ne_some.mpr fun g now => ?_⟩
  have onward := (filed.turnover x here).onward fun e he id hid =>
    here id (drawn?_of_mem_entries he ▸ hid)
  obtain ⟨h, before, -⟩ := onward.generation drawn now
  rw [absent] at before
  cases before

theorem drawnBy_append (xs ys : List Incident) : drawnBy (xs ++ ys) = drawnBy xs ++ drawnBy ys :=
  List.filterMap_append

theorem course_append (w : World) (xs ys : List Incident) :
    w.course (xs ++ ys) = (w.course xs).course ys := List.foldl_append

/-- **Deleting an instance removes its containers, but those that an edit left
    behind.** In a run that starts empty, in which no identifier is drawn twice
    and the store answers, whatever the cluster and the directory refuse: once
    an instance was deleted, and at every later moment, there are, among the
    containers that were created for it in any generation, exactly those that
    the cluster refused to remove in an edit of that instance. -/
theorem delete_leaves_refused_removals {clock : Instant} {probe : String → ProbeOutcome}
    {xs later : List Incident} {cfg : Config} {id : Uuid} {reply : Reply} :
    let start := World.empty clock probe
    let run := xs ++ .event (.request cfg (.delete id)) :: later
    NewIds run → Calm run → ((start.course xs).serve cfg (.delete id)).1 = .ok reply →
    ∀ n ∈ createdFor id (start.ledger run),
      n ∈ (start.course run).cluster.names ↔ n ∈ leftBehind id (start.ledger run) := by
  intro start run new calm ok n created
  have empty : Filed (fun _ => True) True True [] start := filed_empty _ _ _ clock probe
  have settled : Settled (drawnBy run) (start.ledger run) (start.course run) id := by
    refine empty.along (motive := fun used l w => Settled used l w id)
      (fun {used l w} x filed here settled => ?_) run (fun _ => calm) new
      (settled_empty clock probe id)
    exact settled.turnover (filed.turnover x here) (filed.sound trivial)
      (fun e he id hid => here id (drawn?_of_mem_entries he ▸ hid)) (List.subset_append_left _ _)
      filed.drawn_of_generation?
  have absent : (start.course run).generation? id = none := by
    have split : start.course run = (((start.course xs).serve cfg (.delete id)).2).course later := by
      rw [course_append]
      rfl
    have ids : drawnBy run = drawnBy xs ++ drawnBy later := drawnBy_append _ _
    have new : (drawnBy xs ++ drawnBy later).Nodup := ids ▸ new
    have quiet : ∀ {ys}, ys ⊆ run → Calm ys :=
      fun sub operation failing h => calm operation failing (sub h)
    have filed : Filed (fun _ => True) True True (drawnBy xs) (start.course xs) :=
      empty.course xs (fun _ _ _ => trivial) (fun _ => quiet (List.subset_append_left _ _))
        fun _ => (List.nodup_append.mp new).1
    have filed' := filed.behind (.event (.request cfg (.delete id))) (fun _ _ _ => trivial)
      (fun _ operation failing e => nomatch e) fun _ a drawn => nomatch drawn
    have filed' : Filed (fun _ => True) True True (drawnBy xs)
        ((start.course xs).serve cfg (.delete id)).2 := (List.append_nil (drawnBy xs)) ▸ filed'
    obtain ⟨⟨s, stored⟩, gone⟩ := delete_absent ok
    rw [split]
    refine filed'.stays_absent later (fun _ => quiet ?_) new (filed.drawn stored) ?_
    · exact fun x hx => List.mem_append_right _ (List.mem_cons_of_mem _ hx)
    · unfold World.generation?
      rw [gone]
      rfl
  obtain ⟨g, rfl⟩ := settled.created n created
  have there : (start.course run).Runs id g ↔
      Deployment.containerName id g ∈ leftBehind id (start.ledger run) := by
    rw [settled.there, absent]
    simp
  exact there

/-- An instance is created, and edited while the cluster refuses to remove
    containers. -/
def sampleLeftover : List Incident :=
  [.event (.directory sampleDirectory),
    .event (.request .default (.create ⟨7⟩ .hosting (sampleDefinition "search"))),
    .event (.outage .delete true),
    .event (.request .default (.edit ⟨7⟩ none (sampleDefinition "search-2"))),
    .event (.outage .delete false)]

theorem sampleLeftover_deleted : ∃ reply,
    ((sampleStart.course sampleLeftover).serve .default (.delete ⟨7⟩)).1 = .ok reply :=
  exists_ok_of_toBool (by decide +kernel)

/-- Two containers were created; the first one is left. -/
theorem delete_leaves_refused_removals_sampleLeftover :
    let run := sampleLeftover ++ [.event (.request .default (.delete ⟨7⟩))]
    NewIds run ∧ Calm run ∧
    createdFor ⟨7⟩ (sampleStart.ledger run) =
      ["mcp-00000000000000000000000000000007", "mcp-00000000000000000000000000000007-1"] ∧
    leftBehind ⟨7⟩ (sampleStart.ledger run) = ["mcp-00000000000000000000000000000007"] ∧
    ∀ n ∈ createdFor ⟨7⟩ (sampleStart.ledger run),
      n ∈ (sampleStart.course run).cluster.names ↔ n ∈ leftBehind ⟨7⟩ (sampleStart.ledger run) := by
  intro run
  have new : NewIds run := by decide +kernel
  have calm : Calm run := by
    intro operation failing h
    simp [run, sampleLeftover] at h
  obtain ⟨reply, ok⟩ := sampleLeftover_deleted
  exact ⟨new, calm, by decide +kernel, by decide +kernel,
    delete_leaves_refused_removals new calm ok⟩

/-- **Not all of them**: the container that an edit could not remove is still
    there when its instance was deleted. -/
theorem delete_not_of_all_containers :
    ¬ ∀ (xs : List Incident), NewIds xs → Calm xs → ∀ (cfg : Config) (id : Uuid) (reply : Reply),
      ((sampleStart.course xs).serve cfg (.delete id)).1 = .ok reply →
      ∀ n ∈ createdFor id (sampleStart.ledger xs),
        n ∉ ((sampleStart.course xs).serve cfg (.delete id)).2.cluster.names := by
  intro always
  have calm : Calm sampleLeftover := by
    intro operation failing h
    simp [sampleLeftover] at h
  obtain ⟨reply, ok⟩ := sampleLeftover_deleted
  refine always sampleLeftover (by decide +kernel) calm .default ⟨7⟩ reply ok
    "mcp-00000000000000000000000000000007" ?_ ?_
  · decide +kernel
  · decide +kernel

end Fleet

end McpFleet
