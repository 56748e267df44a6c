/-
  File:      McpFleet/Proofs/Fleet/Correspondence.lean
  Subject:   Records and containers belong together.

  * `Tidy`: every container is the container of a stored record. Only an edit
    whose replaced container could not be removed ends that (`leavesBehind`).
  * **`records_match_containers`**: in every state of every run each hosted
    record has a container of its own, which was created for it; and as long
    as no edit left one behind there are no other containers.
-/
import Mathlib.Data.Set.Function
import McpFleet.Proofs.Fleet.Reachable

namespace McpFleet.Fleet

/-! ## 1. Containers that are left behind -/

def Request.isEdit : Request → Bool
  | edit _ _ _ => true
  | _ => false

/-- The cluster refused to remove a container. -/
def Exchange.removalRefused : Exchange → Bool
  | ⟨.deleteContainer _, .error _, _⟩ => true
  | _ => false

/-- An edit to which the cluster refuses to remove the container that was
    replaced. -/
def World.leavesBehind (w : World) : Event → Bool
  | .request cfg q => q.isEdit && (Program.exchanges (q.task cfg) w).any Exchange.removalRefused
  | _ => false

/-- A run without such an edit. -/
def World.leavesNothing (w : World) : List Event → Bool
  | [] => true
  | e :: es => !w.leavesBehind e && (w.after e).leavesNothing es

/-! ## 2. The invariant -/

/-- Every container is the container of a stored record. -/
def Tidy (w : World) : Prop :=
  ∀ n, w.cluster.source? n ≠ none →
    ∃ i k, w.registry.find? i.id = some i ∧ i.container = some k ∧ k.name = n

variable {cfg : Config} {w w' : World} {used : List Uuid} {c : Cluster} {id : Uuid}
  {i s : Instance} {xs : List Exchange}

theorem tidy_empty (clock : Instant) (probe : String → ProbeOutcome) :
    Tidy (World.empty clock probe) := fun _ h => absurd rfl h

/-- **Putting a record in** keeps the cluster tidy when each container is the
    record's own, or one that was there and not the container of the record
    before. -/
theorem Tidy.put (t : Tidy w) {r : Registry} (puts : w.registry.Puts i r)
    (covers : ∀ n, c.source? n ≠ none → (∃ k, i.container = some k ∧ k.name = n) ∨
      (w.cluster.source? n ≠ none ∧
        ∀ s k, w.registry.find? i.id = some s → s.container = some k → k.name ≠ n)) :
    Tidy { w with registry := r, cluster := c } := by
  intro n hn
  rcases covers n hn with ⟨k, hk, e⟩ | ⟨there, other⟩
  · refine ⟨i, k, ?_, hk, e⟩
    show r.find? i.id = some i
    rw [puts.find?, if_pos rfl]
  · obtain ⟨j, k, hj, hk, e⟩ := t n there
    have ne : i.id ≠ j.id := fun same => other j k (same ▸ hj) hk e
    refine ⟨j, k, ?_, hk, e⟩
    show r.find? j.id = some j
    rw [puts.find?, if_neg ne]
    exact hj

theorem Tidy.created (t : Tidy w) {access : Access} {d : Definition} {v : Revision} {r : Registry}
    (fresh : w.registry.find? id = none) (planned : Planned cfg w id d 0 access v c)
    (puts : w.registry.Puts (.create id access v w.clock) r) :
    Tidy { w with registry := r, cluster := c } := by
  refine t.put puts fun n hn => ?_
  have absent : ∀ s k, w.registry.find? id = some s → s.container = some k → k.name ≠ n := by
    intro s k hs
    rw [fresh] at hs
    cases hs
  cases planned with
  | passthrough own judged => exact .inr ⟨hn, absent⟩
  | hosted prepared made =>
    obtain ⟨-, k, hk, -, named, -⟩ := prepared_serves prepared made
    rw [Cluster.source?_create made, ← named] at hn
    split at hn
    · rename_i e
      exact .inl ⟨k, hk, e⟩
    · exact .inr ⟨hn, absent⟩

/-- An edit whose replaced container was removed. -/
theorem Tidy.edited (t : Tidy w) (h : Sound used w) {d : Definition} {v : Revision}
    {ys : List Exchange} {w₁ : World} {r : Registry} (stored : w.registry.find? id = some s)
    (replaced : Replaced cfg w s d v ys w₁) (removed : ∀ x ∈ ys, x.removalRefused = false)
    (puts : w.registry.Puts (s.revise v w.clock) r) :
    Tidy { w with registry := r, cluster := w₁.cluster } := by
  obtain rfl : s.id = id := h.exact.key stored
  have old := h.inOrder stored
  have before {s' : Instance} (hs' : w.registry.find? s.id = some s') : s' = s :=
    Option.some.inj (hs'.symm.trans stored)
  refine t.put puts fun n hn => ?_
  cases replaced with
  | passthrough own judged =>
    refine .inr ⟨hn, fun s' k hs' hk => ?_⟩
    rw [before hs', old.passthrough own] at hk
    cases hk
  | @hosted p _ c own prepared made =>
    obtain ⟨-, k, hk, -, named, -⟩ := prepared_serves prepared made
    obtain ⟨l, hl, -⟩ := old.hosted own
    have gone := removed _ (List.mem_cons_of_mem _ (List.mem_singleton_self _))
    have hn : (discard c s).source? n ≠ none := hn
    unfold discard at hn
    cases hd : c.delete s with
    | error e =>
      rw [hd] at gone
      cases gone
    | ok c' =>
      simp only [hd] at hn
      rw [Cluster.source?_delete hl hd, Cluster.source?_create made, ← named] at hn
      split at hn
      · exact absurd rfl hn
      · rename_i ne
        split at hn
        · rename_i e
          exact .inl ⟨k, hk, e⟩
        · refine .inr ⟨hn, fun s' k' hs' hk' => ?_⟩
          rw [before hs', hl] at hk'
          exact Option.some.inj hk' ▸ ne

theorem Tidy.kept (t : Tidy w) (h : Sound used w) {r : Registry}
    (stored : w.registry.find? id = some s) (kept : s.Kept i)
    (same : ∀ n, c.source? n = w.cluster.source? n) (puts : w.registry.Puts i r) :
    Tidy { w with registry := r, cluster := c } := by
  obtain rfl : s.id = id := h.exact.key stored
  refine t.put puts fun n hn => ?_
  rw [same] at hn
  by_cases own : ∃ k, s.container = some k ∧ k.name = n
  · obtain ⟨k, hk, e⟩ := own
    have container := kept.container
    rw [hk] at container
    obtain ⟨l, hl, alike⟩ := Option.map_eq_some_iff.mp container
    exact .inl ⟨l, hl, (Hosting.Container.resetToPending_eq.mp alike).2.1.trans e⟩
  · refine .inr ⟨hn, fun s' k hs' hk e => own ⟨k, ?_, e⟩⟩
    rw [kept.id] at hs'
    rw [Option.some.inj (stored.symm.trans hs'), hk]

theorem Tidy.deleted (t : Tidy w) (h : Sound used w) {r : Registry}
    (stored : w.registry.find? id = some s)
    (removed : if s.access = .hosting then w.cluster.delete s = .ok c else c = w.cluster)
    (drops : w.registry.Drops id r) : Tidy { w with registry := r, cluster := c } := by
  obtain rfl : s.id = id := h.exact.key stored
  have old := h.inOrder stored
  -- a container that is still there is not the one of the record that is gone
  have others : ∀ n, c.source? n ≠ none → w.cluster.source? n ≠ none ∧
      ∀ k, s.container = some k → k.name ≠ n := by
    intro n hn
    split at removed
    · rename_i own
      obtain ⟨k, hk, -⟩ := old.hosted own
      rw [Cluster.source?_delete hk removed] at hn
      split at hn
      · exact absurd rfl hn
      · rename_i ne
        refine ⟨hn, fun k' hk' => ?_⟩
        rw [hk] at hk'
        exact Option.some.inj hk' ▸ ne
    · rename_i other
      refine ⟨removed ▸ hn, fun k hk => ?_⟩
      rw [old.passthrough other] at hk
      cases hk
  intro n hn
  obtain ⟨there, ne⟩ := others n hn
  obtain ⟨j, k, hj, hk, e⟩ := t n there
  refine ⟨j, k, ?_, hk, e⟩
  show r.find? j.id = some j
  rw [drops.find?, if_neg]
  · exact hj
  · intro same
    rw [← same] at hj
    exact ne k (Option.some.inj (stored.symm.trans hj) ▸ hk) e

theorem Tidy.effect (t : Tidy w) (h : Sound used w) {q : Request} {a : Reply}
    (e : Effect cfg w xs q a w') (clean : q.isEdit → ∀ x ∈ xs, x.removalRefused = false) :
    Tidy w' := by
  cases e with
  | unchanged => exact t
  | created fresh planned puts => exact t.created fresh planned puts
  | edited stored replaced made puts =>
    exact t.edited h stored replaced (fun x hx => clean rfl x (made hx)) puts
  | restarted stored own done marked puts =>
    exact t.kept h stored (Instance.kept_markRestarting marked) (Cluster.source?_restart done) puts
  | switched asked stored changed puts =>
    exact t.kept h stored (Instance.kept_withStatus? changed) (fun _ => rfl) puts
  | refreshed stored own asked changed puts =>
    exact t.kept h stored (Instance.kept_withReport? changed) (fun _ => rfl) puts
  | deleted stored removed drops => exact t.deleted h stored removed drops

/-! ## 3. Whole runs -/

theorem Tidy.after (t : Tidy w) (h : Sound used w) (e : Event)
    (fresh : ∀ id, e.drawn? = some id → id ∉ used) (clean : w.leavesBehind e = false) :
    Tidy (w.after e) := by
  cases served : e.isRequest with
  | false =>
    obtain ⟨hr, -, hs⟩ := after_around w served
    intro n hn
    rw [hs] at hn
    rw [hr]
    exact t n hn
  | true =>
    obtain ⟨cfg, q, rfl⟩ := e.eq_request served
    rcases h.served fresh with ⟨-, same⟩ | ⟨b, -, effect⟩
    · show Tidy (w.serve cfg q).2
      rw [same]
      exact t
    · refine t.effect h effect fun edit x hx => ?_
      have clean : (q.isEdit && (Program.exchanges (q.task cfg) w).any Exchange.removalRefused) =
        false := clean
      rw [edit, Bool.true_and, List.any_eq_false] at clean
      exact Bool.eq_false_iff.mpr (clean x hx)

theorem Tidy.history (es : List Event) (t : Tidy w) (h : Sound used w)
    (fresh : (used ++ drawnIds es).Nodup) (clean : w.leavesNothing es) : Tidy (w.history es) := by
  induction es generalizing used w with
  | nil => exact t
  | cons e es ih =>
    rw [drawnIds_cons, ← List.append_assoc] at fresh
    have here := fresh_head fresh
    unfold World.leavesNothing at clean
    rw [Bool.and_eq_true, Bool.not_eq_true'] at clean
    exact ih (t.after h e here clean.1) (h.after e here) fresh clean.2

/-! ## 4. Records and containers -/

/-- The records of hosted instances. -/
def World.hosted (w : World) : Set Instance :=
  {i | w.registry.find? i.id = some i ∧ i.access = .hosting}

/-- The names of the containers that there are. -/
def World.running (w : World) : Set String := {n | n ∈ w.cluster.names}

/-- The name of a record's container. -/
def containerName? (i : Instance) : Option String := i.container.map (·.name)

/-- A hosted record's container is there, with the record's service and port. -/
theorem Sound.container (h : Sound used w) (hi : w.registry.find? id = some i)
    (own : i.access = .hosting) :
    ∃ k rc, i.container = some k ∧ w.cluster.containers.get? k.name = some rc ∧
      rc.deployment.service = k.service ∧ rc.deployment.port = k.spec.port := by
  obtain ⟨k, hk, -, -, dep, hdep, service, port⟩ := (h.inOrder hi).hosted own
  obtain ⟨rc, hrc, rfl⟩ := Option.map_eq_some_iff.mp hdep
  exact ⟨k, rc, hk, hrc, service, port⟩

/-- **Two records never name the same container.** -/
theorem Sound.apart (h : Sound used w) {a b : Uuid} {i j : Instance} {k l : Hosting.Container}
    (hi : w.registry.find? a = some i) (hj : w.registry.find? b = some j)
    (hk : i.container = some k) (hl : j.container = some l) (e : k.name = l.name) : a = b := by
  have serves := (h.inOrder hi).serves hk
  have serves' := (h.inOrder hj).serves hl
  rw [serves.name, serves'.name, Deployment.containerName_inj] at e
  rw [← h.exact.key hi, ← h.exact.key hj]
  exact e.1

/-- **In a tidy cluster hosted records and containers are in bijection.** -/
theorem Tidy.bijOn (t : Tidy w) (h : Sound used w) :
    Set.BijOn containerName? w.hosted (some '' w.running) := by
  refine ⟨?_, ?_, ?_⟩
  · rintro i ⟨hi, own⟩
    obtain ⟨k, hk, serves⟩ := (h.inOrder hi).hosted own
    obtain ⟨dep, hdep, -⟩ := serves.created
    refine ⟨k.name, Cluster.mem_names.mpr ?_, ?_⟩
    · rw [hdep]
      exact Option.some_ne_none dep
    · unfold containerName?
      rw [hk]
      rfl
  · rintro i ⟨hi, own⟩ j ⟨hj, own'⟩ e
    obtain ⟨k, hk, -⟩ := (h.inOrder hi).hosted own
    obtain ⟨l, hl, -⟩ := (h.inOrder hj).hosted own'
    unfold containerName? at e
    rw [hk, hl] at e
    have same := h.apart hi hj hk hl (Option.some.inj e)
    rw [same] at hi
    exact Option.some.inj (hi.symm.trans hj)
  · rintro _ ⟨n, hn, rfl⟩
    obtain ⟨i, k, hi, hk, rfl⟩ := t n (Cluster.mem_names.mp hn)
    refine ⟨i, ⟨hi, (h.inOrder hi).access hk⟩, ?_⟩
    unfold containerName?
    rw [hk]
    rfl

/-- **Records match containers.** In every state of every run that starts
    empty, each hosted record names a container that was created with the
    record's service and the port of its spec; two records never name the same
    container; and as long as no edit left a container behind, hosted records
    and containers are in bijection. -/
theorem records_match_containers {clock : Instant} {probe : String → ProbeOutcome}
    {es : List Event} (fresh : FreshIds es) :
    let w := (World.empty clock probe).history es
    (∀ id i, w.registry.find? id = some i → i.access = .hosting →
      ∃ k rc, i.container = some k ∧ w.cluster.containers.get? k.name = some rc ∧
        rc.deployment.service = k.service ∧ rc.deployment.port = k.spec.port) ∧
    (∀ a b i j k l, w.registry.find? a = some i → w.registry.find? b = some j →
      i.container = some k → j.container = some l → k.name = l.name → a = b) ∧
    ((World.empty clock probe).leavesNothing es →
      Set.BijOn containerName? w.hosted (some '' w.running)) := by
  intro w
  have sound : Sound (drawnIds es) w := sound_history fresh
  refine ⟨fun id i hi own => sound.container hi own,
    fun a b i j k l hi hj hk hl e => sound.apart hi hj hk hl e, fun clean => ?_⟩
  have tidy : Tidy w :=
    (tidy_empty clock probe).history es (sound_empty clock probe) fresh clean
  exact tidy.bijOn sound

theorem records_match_containers_sampleRun :
    FreshIds sampleRun ∧ sampleStart.leavesNothing sampleRun ∧
    (sampleStart.history sampleRun).cluster.names =
      ["mcp-00000000000000000000000000000007-1", "mcp-00000000000000000000000000000008"] ∧
    Set.BijOn containerName? (sampleStart.history sampleRun).hosted
      (some '' (sampleStart.history sampleRun).running) := by
  have fresh : FreshIds sampleRun := by decide +kernel
  have clean : sampleStart.leavesNothing sampleRun := by decide +kernel
  exact ⟨fresh, clean, by decide +kernel, (records_match_containers fresh).2.2 clean⟩

end McpFleet.Fleet
