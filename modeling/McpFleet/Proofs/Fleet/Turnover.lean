/-
  File:      McpFleet/Proofs/Fleet/Turnover.lean
  Subject:   How each request turns containers over.

  * `Turnover`: one step of the generations of the records, of the containers
    that run, and of the ledger, together. There are four: nothing, a first
    container, a replacement, a removal.
  * **`Filed.turnover`**: each incident of a run is one of the four.
  * **`Filed.along`**: what each incident keeps, every run keeps.
-/
import McpFleet.Proofs.Fleet.Ledger

namespace McpFleet.Fleet

variable {allowed : Config → Prop} {calm fresh : Prop} {used : List Uuid} {cfg : Config}
  {w w' : World} {c : Cluster} {id a : Uuid} {i s : Instance} {g : UInt32} {d : Definition}
  {q : Request} {xs : List Exchange}

-- The checks of a name stay closed: no argument here looks into them.
attribute [local irreducible] Text.trim

/-! ## 1. Turnover -/

/-- The record under an identifier has this generation now, and the others
    have theirs; or the store failed, and no record changed. -/
def Books (w w' : World) (id : Uuid) (g : Option UInt32) : Prop :=
  (∀ a, w'.generation? a = if a = id then g else w.generation? a) ∨
    (∃ operation, w.storeFailing operation = true) ∧ ∀ a, w'.generation? a = w.generation? a

/-- What is noted when a container is replaced by another one. -/
def replacement (q : Request) (name old : String) (removed : Bool) : List (Request × Notice) :=
  (q, .created name) :: if removed then [] else [(q, .kept old)]

theorem createdNames_replacement (q : Request) (name old : String) (removed : Bool) :
    createdNames (replacement q name old removed) = [name] := by
  cases removed <;> rfl

/-- **How a step turns containers over**, and what is noted of it. -/
inductive Turnover (w : World) : List (Request × Notice) → World → Prop where
  | still {l : List (Request × Notice)} {w' : World} (silent : Silent l)
    (generation : ∀ a, w'.generation? a = w.generation? a)
    (runs : ∀ a h, w'.Runs a h ↔ w.Runs a h) : Turnover w l w'
  | first {id : Uuid} {access : Access} {d : Definition} {w' : World} (free : ¬ w.Runs id 0)
    (books : Books w w' id (some 0)) (runs : ∀ a h, w'.Runs a h ↔ w.Runs a h ∨ (a = id ∧ h = 0)) :
    Turnover w [(.create id access d, .created (Deployment.containerName id 0))] w'
  | next {id : Uuid} {stated : Option Access} {d : Definition} {s : Instance}
    {k : Hosting.Container} {w' : World} (removed : Bool) (stored : w.registry.find? id = some s)
    (own : s.container = some k) (free : ¬ w.Runs id (nextGeneration s))
    (books : Books w w' id (some (nextGeneration s)))
    (runs : ∀ a h, w'.Runs a h ↔ (w.Runs a h ∨ (a = id ∧ h = nextGeneration s)) ∧
      ¬ (removed ∧ a = id ∧ h = k.generation)) :
    Turnover w (replacement (.edit id stated d) (Deployment.containerName id (nextGeneration s))
      (Deployment.containerName id k.generation) removed) w'
  | gone {l : List (Request × Notice)} {id : Uuid} {g : UInt32} {w' : World} (silent : Silent l)
    (had : w.generation? id = some g) (books : Books w w' id none)
    (runs : ∀ a h, w'.Runs a h ↔ w.Runs a h ∧ ¬ (a = id ∧ h = g)) : Turnover w l w'

theorem Books.unchanged (h : Books w w' id (w.generation? id)) :
    w'.generation? a = w.generation? a := by
  rcases h with booked | ⟨-, same⟩
  · rw [booked]
    split
    · rename_i e
      rw [e]
    · rfl
  · exact same a

/-- A record that is put in is booked, unless the store fails. -/
theorem Written.books {operation : StoreOperation} {r : Registry}
    {change : Registry → Except StoreError Registry} {answer : Except Error Unit}
    (h : Written operation change { w with cluster := c } answer w')
    (made : change w.registry = .ok r) (puts : w.registry.Puts i r) :
    Books w w' i.id i.generation? ∧ w'.cluster = c := by
  rcases h.made_or_failing (r := r) made with ⟨-, rfl⟩ | ⟨failing, -, rfl⟩
  · exact ⟨.inl fun a => generation?_puts puts rfl, rfl⟩
  · exact ⟨.inr ⟨⟨operation, failing⟩, fun a => rfl⟩, rfl⟩

/-! ## 2. Requests -/

theorem turnover_create (h : Filed allowed calm fresh used w) {access : Access}
    {r : Except Error Instance} (new : w.registry.find? id = none)
    (runs : (create cfg id access d).Runs w xs r w') :
    Turnover w ((notices xs).map (.create id access d, ·)) w' := by
  rcases (runs_create runs).notices runs with
    ⟨rfl, uncreated⟩ | ⟨zs, same, v, c, answer, planned, free, written, noted⟩
  · exact .still (silent_map uncreated (fun edit => nomatch edit)) (fun a => rfl) fun a h => .rfl
  · rw [same, noted]
    have unnamed : w.registry.names.get? v.name = none := by
      rw [← h.exact.findByName?_eq_none]
      exact Option.eq_none_iff_forall_ne_some.mpr free
    obtain ⟨r', made, puts, exact'⟩ := Registry.create_spec (i := .create id access v w.clock)
      h.exact new unnamed
    obtain ⟨booked, cluster⟩ := written.books made ⟨puts, exact'⟩
    have books : Books w w' id (v.container.map (·.generation)) := booked
    clear booked
    cases planned with
    | passthrough own judged =>
      rw [if_neg own]
      have before : w.generation? id = none := by
        unfold World.generation?
        rw [new]
        rfl
      rw [(passthroughRevision_spec judged).2, Option.map_none, ← before] at books
      exact .still silent_nil (fun a => books.unchanged) fun a h =>
        runs_congr fun n => by rw [cluster]
    | hosted prepared created =>
      obtain ⟨named, k, hk, generation, -⟩ := prepared_serves prepared created
      rw [hk, Option.map_some, generation] at books
      rw [if_pos rfl]
      exact .first (not_runs_of_create created named) books fun a h =>
        runs_created created named cluster

/-- What an edit writes back is booked. -/
theorem Edited.books {v : Revision} {us zs : List Exchange} {w₁ : World}
    {answer : Except StoreError Unit} (e : Edited cfg w id s d v us w₁ answer zs w')
    (exact : w.registry.Exact) (stored : w.registry.find? id = some s) :
    Books w w' id (v.container.map (·.generation)) ∧ w'.cluster = w₁.cluster := by
  obtain rfl : s.id = id := exact.key stored
  have free : ∀ id, w.registry.names.get? v.name = some id → id = s.id := by
    intro id hid
    obtain ⟨j, hj, named⟩ := exact.name.mp hid
    rw [← e.free (exact.findByName?_eq_some.mpr ⟨exact.key hj ▸ hj, named⟩)]
    exact (exact.key hj).symm
  obtain ⟨r, made, puts, exact'⟩ :=
    Registry.update_spec (i := s.revise v w.clock) exact stored free
  have written := e.written
  rw [e.replaced.frame] at written
  exact written.books made ⟨puts, exact'⟩

theorem turnover_edit (h : Filed allowed calm fresh used w) {stated : Option Access}
    {r : Except Error Instance} (runs : (edit cfg id stated d).Runs w xs r w') :
    Turnover w ((notices xs).map (.edit id stated d, ·)) w' := by
  rcases (runs_edit runs).notices runs with
    ⟨rfl, uncreated⟩ | ⟨zs, same, s, v, us, w₁, answer, stored, e, -⟩
  · have nothing : notices xs = [] := by
      rcases begins_edit runs with nothing | ⟨n, created⟩
      · exact nothing
      · exact absurd created (uncreated n)
    rw [nothing]
    exact .still silent_nil (fun a => rfl) fun a h => .rfl
  · obtain rfl : s.id = id := h.exact.key stored
    obtain ⟨books, cluster⟩ := e.books h.exact stored
    rw [same, e.exchanges, notices_append]
    cases e.replaced with
    | passthrough other judged =>
      have before : w.generation? s.id = none := by
        have absent := mt (h.container_isSome stored).mp other
        rw [generation?_of_stored stored, Instance.generation?,
          Option.not_isSome_iff_eq_none.mp absent]
        rfl
      rw [(passthroughRevision_spec judged).2, Option.map_none, ← before] at books
      exact .still silent_nil (fun a => books.unchanged) fun a h =>
        runs_congr fun n => by rw [cluster]
    | @hosted p _ c own prepared made =>
      obtain ⟨k, hk⟩ := Option.isSome_iff_exists.mp ((h.container_isSome stored).mpr own)
      obtain ⟨name, -⟩ := h.named stored hk
      obtain ⟨named, l, hl, generation, -⟩ := prepared_serves prepared made
      have free : ¬ w.Runs s.id (nextGeneration s) := not_runs_of_create made named
      rw [hl, Option.map_some, generation] at books
      have created (a : Uuid) (h : UInt32) : ({ w with cluster := c } : World).Runs a h ↔
          w.Runs a h ∨ (a = s.id ∧ h = nextGeneration s) := runs_created made named rfl
      have listed : (notices [⟨.createContainer p.deployment, .ok (), { w with cluster := c }⟩,
          ⟨.deleteContainer s, (c.delete s).map fun _ => (),
            { w with cluster := discard c s }⟩] ++
          notices [⟨.readClock, w.clock, { w with cluster := discard c s }⟩,
            ⟨.updateRecord (s.revise p.revision w.clock), answer, w'⟩]).map
            (Request.edit s.id stated d, ·) =
          replacement (.edit s.id stated d) (Deployment.containerName s.id (nextGeneration s))
            (Deployment.containerName s.id k.generation) (c.delete s).toBool := by
        rw [notices_replaced hk, named, name]
        cases (c.delete s).toBool <;> rfl
      rw [listed]
      refine .next _ stored hk free books fun a h => ?_
      rw [runs_discarded (w := { w with cluster := c }) name hk cluster, created]

/-- **A request that defines nothing** leaves containers alone or removes the
    container of a record. -/
theorem turnover_other (h : Filed allowed calm fresh used w) (other : q.isDefinition = false)
    {r : Except Error Reply} (runs : (q.task cfg).Runs w xs r w') :
    Turnover w ((notices xs).map (q, ·)) w' := by
  have silent : Silent ((notices xs).map (q, ·)) := by
    refine silent_map (fun n => ?_) fun edit => ?_
    · obtain ⟨-, rfl⟩ := runs
      exact (createsNone_request other).uncreated w n
    · cases q with
      | edit => cases other
      | _ => cases edit
  have kept {i s : Instance} {id : Uuid} {c : Cluster} {r : Registry}
      (stored : w.registry.find? id = some s) (kept : s.Kept i)
      (same : ∀ n, c.source? n = w.cluster.source? n) (puts : w.registry.Puts i r) :
      Turnover w ((notices xs).map (q, ·)) { w with registry := r, cluster := c } :=
    .still silent (fun a => generation?_kept h.exact stored kept puts rfl)
      fun a h => runs_congr same
  -- a record is left out, or the store refused that
  have removed {id : Uuid} {s : Instance} {c : Cluster} {w' : World}
      (stored : w.registry.find? id = some s)
      (removed : if s.access = .hosting then w.cluster.delete s = .ok c else c = w.cluster)
      (books : Books w w' id none) (same : w'.cluster = c) :
      Turnover w ((notices xs).map (q, ·)) w' := by
    by_cases own : s.access = .hosting
    · rw [if_pos own] at removed
      obtain ⟨k, hk⟩ := Option.isSome_iff_exists.mp ((h.container_isSome stored).mpr own)
      refine .gone silent (generation?_eq_some.mpr ⟨s, k, stored, hk, rfl⟩) books fun a g => ?_
      exact runs_removed (h.named stored hk).1 hk removed same
    · rw [if_neg own] at removed
      have absent := Option.not_isSome_iff_eq_none.mp (mt (h.container_isSome stored).mp own)
      have before : w.generation? id = none := by
        rw [generation?_of_stored stored, Instance.generation?, absent]
        rfl
      rw [← before] at books
      exact .still silent (fun a => books.unchanged) fun a g => runs_congr fun n => by
        rw [same, removed]
  rcases closes_request h.exact runs with (⟨-, rfl⟩ | ⟨b, -, effect⟩) | ⟨-, unsaved⟩
  · exact .still silent (fun a => rfl) fun a h => .rfl
  · cases effect with
    | unchanged => exact .still silent (fun a => rfl) fun a h => .rfl
    | created => cases other
    | edited => cases other
    | restarted stored own done marked puts =>
      exact kept stored (Instance.kept_markRestarting marked) (Cluster.source?_restart done) puts
    | switched asked stored changed puts =>
      exact kept stored (Instance.kept_withStatus? changed) (fun _ => rfl) puts
    | refreshed stored own asked changed puts =>
      exact kept stored (Instance.kept_withReport? changed) (fun _ => rfl) puts
    | deleted stored done drops =>
      exact removed stored done (.inl fun a => generation?_drops drops rfl) rfl
  · cases unsaved with
    | created => cases other
    | edited => cases other
    | restarted failing stored done =>
      exact .still silent (fun a => rfl) fun a h => runs_congr (Cluster.source?_restart done)
    | deleted failing stored done =>
      exact removed stored done (.inr ⟨⟨_, failing⟩, fun a => rfl⟩) rfl

/-- **Every incident is a turnover.** -/
theorem Filed.turnover (h : Filed allowed calm fresh used w) (x : Incident)
    (new : ∀ id, x.drawn? = some id → id ∉ used) :
    Turnover w (w.entries x) (w.behind x) := by
  cases x with
  | storeOutage operation failing =>
    exact .still silent_nil (fun a => rfl) fun a h => .rfl
  | event e =>
    cases served : e.isRequest with
    | false =>
      obtain ⟨hr, -, hs⟩ := after_around w served
      have nothing : w.entries (.event e) = [] := by
        cases e with
        | request cfg q => cases served
        | _ => rfl
      rw [nothing]
      refine .still silent_nil (fun a => ?_) fun a h => runs_congr hs
      show ((w.after e).registry.find? a).bind _ = _
      rw [hr]
      rfl
    | true =>
      obtain ⟨cfg, q, rfl⟩ := e.eq_request served
      show Turnover w ((notices (Program.exchanges (q.task cfg) w)).map (q, ·)) (w.serve cfg q).2
      have runs := Task.runs_self (q.task cfg) w
      cases q with
      | create id access d =>
        obtain ⟨r, runs, -⟩ := Task.runs_map.mp runs
        exact turnover_create h (h.absent (new id rfl)) runs
      | edit id stated d =>
        obtain ⟨r, runs, -⟩ := Task.runs_map.mp runs
        exact turnover_edit h runs
      | _ => exact turnover_other h rfl runs

/-! ## 3. Runs -/

/-- A request is noted when it is asked. -/
theorem drawn?_of_mem_entries {x : Incident} {e : Request × Notice} (h : e ∈ w.entries x) :
    e.1.drawn? = x.drawn? := by
  cases x with
  | storeOutage operation failing => cases h
  | event e' =>
    cases e' with
    | request cfg q =>
      obtain ⟨n, -, rfl⟩ := List.mem_map.mp h
      rfl
    | _ => cases h

theorem mem_drawn {x : Incident} (hid : x.drawn? = some id) :
    id ∈ used ++ x.drawn?.toList := by
  rw [hid]
  exact List.mem_append_right _ (List.mem_singleton_self id)

/-- **What every incident keeps of the identifiers drawn, the ledger and the
    state, every run keeps**, as long as no identifier is drawn twice. -/
theorem Filed.along {motive : List Uuid → List (Request × Notice) → World → Prop}
    (step : ∀ {used l w} (x : Incident), Filed (fun _ => True) calm True used w →
      (∀ id, x.drawn? = some id → id ∉ used) → motive used l w →
      motive (used ++ x.drawn?.toList) (l ++ w.entries x) (w.behind x))
    (xs : List Incident) (filed : Filed (fun _ => True) calm True used w)
    (quiet : calm → Calm xs) (new : (used ++ drawnBy xs).Nodup) {l : List (Request × Notice)}
    (start : motive used l w) : motive (used ++ drawnBy xs) (l ++ w.ledger xs) (w.course xs) := by
  induction xs generalizing used l w with
  | nil =>
    show motive (used ++ []) (l ++ []) w
    rwa [List.append_nil, List.append_nil]
  | cons x xs ih =>
    rw [drawnBy_cons, ← List.append_assoc] at new ⊢
    have here : ∀ id, x.drawn? = some id → id ∉ used := by
      intro id hid before
      have apart := (List.nodup_append.mp (List.nodup_append.mp new).1).2.2
      exact apart id before id (by rw [hid]; exact List.mem_singleton_self id) rfl
    have next := filed.behind x (fun _ _ _ => trivial)
      (fun still operation failing e => quiet still operation failing (e ▸ List.mem_cons_self))
      fun _ => here
    show motive _ (l ++ (w.entries x ++ (w.behind x).ledger xs)) _
    rw [← List.append_assoc]
    exact ih next
      (fun still operation failing hm => quiet still operation failing (List.mem_cons_of_mem x hm))
      new (step x filed here start)

end McpFleet.Fleet
