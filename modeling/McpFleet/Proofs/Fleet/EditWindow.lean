/-
  File:      McpFleet/Proofs/Fleet/EditWindow.lean
  Subject:   Where a hosted edit may be cut off.

  An edit creates the replacement, removes the replaced container and writes
  the record back, in this order and without a way back. Cut off behind any
  one of its calls, or refused by the store at any one of them, it leaves a
  record that names a container, except in one window: the replaced container
  is removed, and the record is not written yet. There the record is still the
  one before the edit, which names the removed container, and the replacement
  is running.
-/
import McpFleet.Proofs.Fleet.Reachable

namespace McpFleet.Fleet

/-! ## 1. Anchored records -/

/-- A record was written back. -/
def Exchange.recorded : Exchange → Bool
  | ⟨.updateRecord _, .ok _, _⟩ => true
  | _ => false

/-- The record stored under an identifier names a container that exists. -/
def World.Anchored (w : World) (id : Uuid) : Prop :=
  ∃ i k, w.registry.find? id = some i ∧ i.container = some k ∧ k.name ∈ w.cluster.names

/-- The container of an instance of this generation exists. -/
def World.Runs (w : World) (id : Uuid) (generation : UInt32) : Prop :=
  Deployment.containerName id generation ∈ w.cluster.names

variable {cfg : Config} {w w' : World} {id : Uuid} {s : Instance} {d : Definition}

instance (w : World) (id : Uuid) : Decidable (w.Anchored id) :=
  decidable_of_iff
    (((w.registry.find? id).bind (·.container)).any fun k =>
      decide (k.name ∈ w.cluster.names)) <| by
    rw [Option.any_eq_true]
    constructor
    · intro parts
      obtain ⟨k, found, there⟩ := parts
      obtain ⟨i, hi, hk⟩ := Option.bind_eq_some_iff.mp found
      exact ⟨i, k, hi, hk, of_decide_eq_true there⟩
    · intro parts
      obtain ⟨i, k, hi, hk, there⟩ := parts
      exact ⟨k, Option.bind_eq_some_iff.mpr ⟨i, hi, hk⟩, decide_eq_true there⟩

theorem anchored_iff (stored : w.registry.find? id = some s) {k : Hosting.Container}
    (hk : s.container = some k) : w.Anchored id ↔ k.name ∈ w.cluster.names := by
  constructor
  · intro parts
    obtain ⟨i, l, hi, hl, there⟩ := parts
    rw [stored] at hi
    rw [← Option.some.inj hi, hk] at hl
    exact Option.some.inj hl ▸ there
  · intro there
    exact ⟨s, k, stored, hk, there⟩

/-- Behind these calls of an edit of `s` the record is anchored, unless the
    replaced container is removed and the record not written; then the record
    is still `s`, and the replacement runs. -/
structure Safe (id : Uuid) (s : Instance) (calls : List Exchange) (w : World) : Prop where
  anchored : w.Anchored id ↔
    (calls.any Exchange.removed → calls.any Exchange.recorded)
  kept : ¬ calls.any Exchange.recorded → w.registry.find? id = some s
  replaced : calls.any Exchange.removed → w.Runs id (nextGeneration s)

/-- Look-ups and refusals leave an anchored record anchored. -/
theorem Idle.safe {xs : List Exchange} (h : Idle w xs) (stored : w.registry.find? id = some s)
    (anchored : w.Anchored id) : Safe id s xs w := by
  have none : xs.any Exchange.removed = false :=
    List.any_eq_false.mpr fun x hx => Bool.eq_false_iff.mp (h x hx).2
  refine ⟨⟨fun _ removed => ?_, fun _ => anchored⟩, fun _ => stored, fun removed => ?_⟩
  all_goals rw [none] at removed; cases removed

/-! ## 2. The calls of an edit -/

section Calls

variable {p : HostingPlan} {c : Cluster} {k : Hosting.Container}

/-- The state with the replacement beside the replaced container. -/
theorem anchored_created (stored : w.registry.find? id = some s) (hk : s.container = some k)
    (there : k.name ∈ w.cluster.names) (made : w.cluster.create p.deployment = .ok c) :
    ({ w with cluster := c } : World).Anchored id := by
  obtain ⟨dep, hdep⟩ := Option.ne_none_iff_exists'.mp (Cluster.mem_names.mp there)
  obtain ⟨-, same⟩ := source?_create_of_some made hdep
  refine (anchored_iff (w := { w with cluster := c }) stored hk).mpr (Cluster.mem_names.mpr ?_)
  rw [same]
  exact Option.some_ne_none dep

/-- The state behind the removal, while the record is the old one. -/
theorem anchored_discarded (stored : w.registry.find? id = some s) (hk : s.container = some k)
    (there : k.name ∈ w.cluster.names) (made : w.cluster.create p.deployment = .ok c) :
    ({ w with cluster := discard c s } : World).Anchored id ↔ ¬ (c.delete s).toBool := by
  have before := (anchored_iff (w := { w with cluster := c }) stored hk).mp
    (anchored_created stored hk there made)
  rw [anchored_iff (w := { w with cluster := discard c s }) stored hk]
  unfold discard
  cases removed : c.delete s with
  | ok c' =>
    simp only [Except.toBool, not_true_eq_false, iff_false]
    intro still
    refine Cluster.mem_names.mp still ?_
    rw [Cluster.source?_delete hk removed, if_pos rfl]
  | error e => simpa [Except.toBool] using before

/-- The call that removes the replaced container removes one when it succeeds. -/
theorem removed_discard (w : World) (c : Cluster) (s : Instance) :
    Exchange.removed ⟨.deleteContainer s, (c.delete s).map fun _ => (), w⟩ =
      (c.delete s).toBool := by
  cases c.delete s <;> rfl

/-- The replacement stays when the replaced container is removed. -/
theorem replacement_discarded (hk : s.container = some k) (there : k.name ∈ w.cluster.names)
    (made : w.cluster.create p.deployment = .ok c) :
    p.deployment.container ∈ (discard c s).names := by
  obtain ⟨dep, hdep⟩ := Option.ne_none_iff_exists'.mp (Cluster.mem_names.mp there)
  obtain ⟨ne, -⟩ := source?_create_of_some made hdep
  refine Cluster.mem_names.mpr ?_
  rw [source?_discard hk (Ne.symm ne), Cluster.source?_create made, if_pos rfl]
  exact Option.some_ne_none _

end Calls

/-! ## 3. Cutting an edit off -/

theorem Still.recorded {xs : List Exchange} (h : Still w xs) :
    xs.any Exchange.recorded = false := by
  refine List.any_eq_false.mpr fun x hx => ?_
  obtain ⟨c, answer, after⟩ := x
  have lookup : c.isLookup = true := (h _ hx).1
  cases c with
  | updateRecord i => cases lookup
  | _ => exact Bool.false_ne_true

/-- Look-ups in front do not matter. -/
theorem Safe.prepend {ys calls : List Exchange} (h : Safe id s calls w') (still : Still w ys) :
    Safe id s (ys ++ calls) w' := by
  have removed : ys.any Exchange.removed = false :=
    List.any_eq_false.mpr fun x hx => Bool.eq_false_iff.mp (still.idle x hx).2
  have sameRemoved : (ys ++ calls).any Exchange.removed = calls.any Exchange.removed := by
    rw [List.any_append, removed, Bool.false_or]
  have sameRecorded : (ys ++ calls).any Exchange.recorded = calls.any Exchange.recorded := by
    rw [List.any_append, still.recorded, Bool.false_or]
  refine ⟨?_, ?_, ?_⟩
  · rw [sameRemoved, sameRecorded]
    exact h.anchored
  · rw [sameRecorded]
    exact h.kept
  · rw [sameRemoved]
    exact h.replaced

/-- A list in two parts is cut inside the first part, or behind it. -/
theorem cut_append {α : Type} {ys zs done rest : List α} {x : α}
    (h : ys ++ zs = done ++ x :: rest) :
    (∃ us, ys = done ++ x :: us) ∨ ∃ us, done = ys ++ us ∧ zs = us ++ x :: rest := by
  rcases List.append_eq_append_iff.mp h with ⟨us, hd, hz⟩ | ⟨us, hy, hx⟩
  · exact .inr ⟨us, hd, hz⟩
  · cases us with
    | nil =>
      refine .inr ⟨[], ?_, hx.symm⟩
      rw [hy, List.append_nil, List.append_nil]
    | cons u us =>
      obtain ⟨rfl, -⟩ := List.cons.inj hx
      exact .inl ⟨us, hy⟩

theorem cut_four {α : Type} {a b c d : α} {done rest : List α} {x : α}
    (h : [a, b, c, d] = done ++ x :: rest) :
    (done = [] ∧ x = a) ∨ (done = [a] ∧ x = b) ∨ (done = [a, b] ∧ x = c) ∨
      (done = [a, b, c] ∧ x = d) := by
  rcases done with _ | ⟨_, _ | ⟨_, _ | ⟨_, _ | ⟨_, done⟩⟩⟩⟩ <;> simp_all

/-- **Behind every call that is left of an edit.** -/
theorem Edited.safe {v : Revision} {us zs : List Exchange} {w₁ : World}
    {answer : Except StoreError Unit} (e : Edited cfg w id s d v us w₁ answer zs w')
    (hid : s.id = id) (stored : w.registry.find? id = some s) (own : s.access = .hosting)
    (old : InOrder w.cluster s) {done rest : List Exchange} {x : Exchange}
    (cut : zs = done ++ x :: rest) : Safe id s (done ++ [x]) x.after := by
  obtain ⟨k, hk, -, -, dep, hdep, -⟩ := old.hosted own
  have there : k.name ∈ w.cluster.names := Cluster.mem_names.mpr (hdep ▸ Option.some_ne_none dep)
  have written := e.written
  have replaced := e.replaced
  rw [e.exchanges] at cut
  cases replaced with
  | passthrough other judged => exact absurd own other
  | @hosted p _ c _ prepared made =>
    obtain ⟨named, l, hl, -, hn, -⟩ := prepared_serves prepared made
    have running : Deployment.containerName id (nextGeneration s) ∈ (discard c s).names := by
      rw [← hid, ← named]
      exact replacement_discarded hk there made
    -- the state between the removal and the writing of the record
    have between (calls : List Exchange)
        (removed : calls.any Exchange.removed = (c.delete s).toBool)
        (unrecorded : calls.any Exchange.recorded = false) :
        Safe id s calls { w with cluster := discard c s } := by
      refine ⟨?_, fun _ => stored, fun _ => running⟩
      rw [anchored_discarded stored hk there made, removed, unrecorded]
      simp
    rcases cut_four cut with ⟨rfl, rfl⟩ | ⟨rfl, rfl⟩ | ⟨rfl, rfl⟩ | ⟨rfl, rfl⟩
    · refine ⟨⟨fun _ removed => ?_, fun _ => anchored_created stored hk there made⟩,
        fun _ => stored, fun removed => ?_⟩
      all_goals cases removed
    · refine between _ ?_ rfl
      simp only [List.any_append, List.any_cons, List.any_nil, removed_discard]
      simp [Exchange.removed]
    · refine between _ ?_ rfl
      simp only [List.any_append, List.any_cons, List.any_nil, removed_discard]
      simp [Exchange.removed]
    · have last : ([⟨.createContainer p.deployment, .ok (), { w with cluster := c }⟩,
          ⟨.deleteContainer s, (c.delete s).map fun _ => (), { w with cluster := discard c s }⟩,
          ⟨.readClock, w.clock, { w with cluster := discard c s }⟩] ++
          [⟨.updateRecord (s.revise p.revision w.clock), answer, w'⟩] : List Exchange).any
            Exchange.removed = (c.delete s).toBool := by
        simp only [List.any_append, List.any_cons, List.any_nil, removed_discard]
        simp [Exchange.removed]
      cases answer with
      | error x =>
        cases written
        exact between _ last rfl
      | ok _ =>
        cases written with
        | made h =>
          have current := Registry.find?_update h
          refine ⟨⟨fun _ _ => rfl, fun _ => ?_⟩, fun unrecorded => absurd rfl unrecorded,
            fun _ => running⟩
          refine ⟨s.revise p.revision w.clock, l, hid ▸ current, hl, ?_⟩
          rw [hn, named, hid]
          exact running

/-- **A hosted edit may be cut off anywhere but in one window.** In every state
    that a run reaches, with any operations of the store made to fail, and
    behind every call of an edit of a hosted instance: the stored record names
    a container that exists, if and only if the replaced container is not
    removed yet or the record is written already; as long as it is not written
    it is the record before the edit, so in between it names the removed
    container; and once that is removed the replacement is running. -/
theorem edit_anchored_outside_window {clock : Instant} {probe : String → ProbeOutcome}
    {es : List Event} (fresh : FreshIds es) {failing : StoreOperation → Bool} {cfg : Config}
    {id : Uuid} {stated : Option Access} {d : Definition} {s : Instance} :
    let w := { (World.empty clock probe).history es with storeFailing := failing }
    w.registry.find? id = some s → s.access = .hosting →
    ∀ done x rest, Program.exchanges ((Request.edit id stated d).task cfg) w = done ++ x :: rest →
      (x.after.Anchored id ↔
        ((done ++ [x]).any Exchange.removed → (done ++ [x]).any Exchange.recorded)) ∧
      (¬ (done ++ [x]).any Exchange.recorded → x.after.registry.find? id = some s) ∧
      ((done ++ [x]).any Exchange.removed → x.after.Runs id (nextGeneration s)) := by
  intro w stored own done x rest cut
  have sound : Sound (drawnIds es) ((World.empty clock probe).history es) := sound_history fresh
  have hid : s.id = id := sound.exact.key stored
  have old : InOrder w.cluster s := sound.inOrder stored
  have anchored : w.Anchored id := by
    obtain ⟨k, hk, -, -, dep, hdep, -⟩ := old.hosted own
    exact ⟨s, k, stored, hk, Cluster.mem_names.mpr (hdep ▸ Option.some_ne_none dep)⟩
  obtain ⟨a, ha, -⟩ := Task.runs_map.mp (Task.runs_self ((Request.edit id stated d).task cfg) w)
  rw [cut] at ha
  have safe : Safe id s (done ++ [x]) x.after := by
    have idle {ys : List Exchange} (h : Idle w ys) (hx : done ++ [x] ⊆ ys) :
        Safe id s (done ++ [x]) x.after := by
      rw [(h x (hx (List.mem_append_right _ (List.mem_singleton_self x)))).1]
      exact Idle.safe (fun y hy => h y (hx hy)) stored anchored
    rcases runs_edit ha with ⟨-, -, unmoved⟩ |
      ⟨ys, zs, parts, still, s', v, us, w₁, answer, stored', e, -⟩
    · exact idle unmoved (by simp)
    · obtain rfl : s' = s := Option.some.inj (stored'.symm.trans stored)
      rcases cut_append parts.symm with ⟨us, hys⟩ | ⟨us, rfl, hzs⟩
      · exact idle still.idle (by rw [hys]; simp)
      · rw [List.append_assoc]
        exact (e.safe hid stored own old hzs).prepend still
  exact ⟨safe.anchored, safe.kept, safe.replaced⟩

/-- One hosted instance is created. -/
def sampleHosted : List Event :=
  [.directory sampleDirectory,
    .request .default (.create ⟨7⟩ .hosting (sampleDefinition "search"))]

/-- The store refuses to write records back. -/
def sampleStranded : World :=
  { sampleStart.history sampleHosted with storeFailing := fun o => o = .update }

theorem sampleStranded_stored : ∃ s, sampleStranded.registry.find? ⟨7⟩ = some s ∧
    s.access = .hosting := by
  have found : (sampleStranded.registry.find? ⟨7⟩).map (·.access) = some .hosting := by
    decide +kernel
  exact Option.map_eq_some_iff.mp found

theorem edit_anchored_outside_window_sampleStranded :
    ∃ s, sampleStranded.registry.find? ⟨7⟩ = some s ∧ s.access = .hosting ∧
      ∀ done x rest, Program.exchanges
          ((Request.edit ⟨7⟩ none (sampleDefinition "search-2")).task .default) sampleStranded =
          done ++ x :: rest →
        (x.after.Anchored ⟨7⟩ ↔
          ((done ++ [x]).any Exchange.removed → (done ++ [x]).any Exchange.recorded)) ∧
        (¬ (done ++ [x]).any Exchange.recorded → x.after.registry.find? ⟨7⟩ = some s) ∧
        ((done ++ [x]).any Exchange.removed → x.after.Runs ⟨7⟩ (nextGeneration s)) := by
  obtain ⟨s, stored, own⟩ := sampleStranded_stored
  have fresh : FreshIds sampleHosted := by decide +kernel
  exact ⟨s, stored, own, edit_anchored_outside_window fresh stored own⟩

/-- **Not behind every call**: when the record cannot be written back, it goes
    on naming the container that was removed. -/
theorem edit_not_anchored_in_window :
    ¬ ∀ (es : List Event), FreshIds es → ∀ (failing : StoreOperation → Bool) (cfg : Config)
      (id : Uuid) (stated : Option Access) (d : Definition) (s : Instance),
      let w := { sampleStart.history es with storeFailing := failing }
      w.registry.find? id = some s → s.access = .hosting →
      ∀ x ∈ Program.exchanges ((Request.edit id stated d).task cfg) w, x.after.Anchored id := by
  intro always
  obtain ⟨s, stored, own⟩ := sampleStranded_stored
  have anchored := always sampleHosted (by decide +kernel) (fun o => o = .update) .default ⟨7⟩ none
    (sampleDefinition "search-2") s stored own
  have stranded : (Program.exchanges
      ((Request.edit ⟨7⟩ none (sampleDefinition "search-2")).task .default) sampleStranded).all
      (fun x => decide (x.after.Anchored ⟨7⟩)) = false := by decide +kernel
  obtain ⟨x, hx, lost⟩ := List.all_eq_false.mp stranded
  exact lost (decide_eq_true (anchored x hx))

end McpFleet.Fleet
