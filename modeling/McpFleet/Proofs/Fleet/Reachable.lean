/-
  File:      McpFleet/Proofs/Fleet/Reachable.lean
  Subject:   The states that a fleet can come to, and what holds in each.

  * `Event`: a request that is served to its end, or something that happens
    around the fleet. New instances come with identifiers that no earlier
    request drew (`FreshIds`).
  * `InOrder`: a hosted record names a container that was created for it; a
    record of another kind has none. `Sound` says so of every record.
  * `Sound.effect`, `Sound.after`, **`Sound.run`**: one request, one event, a
    whole run.
-/
import McpFleet.Proofs.Cluster.Naming
import McpFleet.Proofs.Fleet.Effect

namespace McpFleet.Fleet

/-! ## 1. Events -/

inductive Event where
  | request (cfg : Config) (q : Request)
  /-- An operation of the cluster fails from now on, or no longer does. -/
  | outage (operation : ClusterOperation) (failing : Bool)
  /-- A container reports. -/
  | report (container : String) (r : StatusReport)
  /-- A container writes to its log. -/
  | output (container : String) (lines : List String)
  | directory (d : Directory)
  | clock (now : Instant)
  | probe (p : String → ProbeOutcome)

/-- The cluster after something was done, if that could be done. -/
def World.withOutcome (w : World) : Except ClusterError Cluster → World
  | .ok c => { w with cluster := c }
  | .error _ => w

/-- The state behind an event. -/
def World.after (w : World) : Event → World
  | .request cfg q => (w.serve cfg q).2
  | .outage operation failing => { w with cluster := w.cluster.setFailing operation failing }
  | .report container r => w.withOutcome (w.cluster.setStatus container r)
  | .output container lines => w.withOutcome (w.cluster.appendLogs container lines)
  | .directory d => { w with directory := d }
  | .clock now => { w with clock := now }
  | .probe p => { w with probe := p }

/-- The state behind one event after the other. -/
def World.history (w : World) (es : List Event) : World := es.foldl World.after w

def Event.drawn? : Event → Option Uuid
  | request _ q => q.drawn?
  | _ => none

def drawnIds (es : List Event) : List Uuid := es.filterMap Event.drawn?

/-- No identifier is drawn for two new instances. -/
def FreshIds (es : List Event) : Prop := (drawnIds es).Nodup

instance (es : List Event) : Decidable (FreshIds es) := by unfold FreshIds; infer_instance

/-! ## 2. The invariant -/

/-- The container of a hosted record: named by its instance and generation,
    and created with the service and the port that the record says. -/
structure Serves (c : Cluster) (id : Uuid) (k : Hosting.Container) : Prop where
  name : k.name = Deployment.containerName id k.generation
  service : k.service = Deployment.serviceName id k.generation
  created : ∃ dep, c.source? k.name = some dep ∧ dep.service = k.service ∧ dep.port = k.spec.port

/-- A record and its container agree. -/
structure InOrder (c : Cluster) (i : Instance) : Prop where
  passthrough : i.access ≠ .hosting → i.container = none
  hosted : i.access = .hosting → ∃ k, i.container = some k ∧ Serves c i.id k

/-- Every record agrees with the cluster, and has an identifier that was
    drawn. -/
structure Sound (used : List Uuid) (w : World) : Prop extends Steady w where
  drawn : ∀ {id i}, w.registry.find? id = some i → id ∈ used
  inOrder : ∀ {id i}, w.registry.find? id = some i → InOrder w.cluster i

theorem sound_empty (clock : Instant) (probe : String → ProbeOutcome) :
    Sound [] (World.empty clock probe) where
  reliable := rfl
  exact := Registry.exact_empty
  drawn h := nomatch h
  inOrder h := nomatch h

variable {cfg : Config} {w w' : World} {used : List Uuid} {c c' : Cluster} {id : Uuid}
  {i s : Instance} {k : Hosting.Container}

theorem Sound.widen (h : Sound used w) {used' : List Uuid} (more : used ⊆ used') :
    Sound used' w := { h with drawn := fun hi => more (h.drawn hi) }

theorem InOrder.access (h : InOrder c i) (hk : i.container = some k) : i.access = .hosting :=
  Classical.byContradiction fun other => by
    rw [h.passthrough other] at hk
    cases hk

theorem InOrder.serves (h : InOrder c i) (hk : i.container = some k) : Serves c i.id k := by
  obtain ⟨k', hk', serves⟩ := h.hosted (h.access hk)
  rw [hk] at hk'
  exact Option.some.inj hk' ▸ serves

/-- A cluster in which the container is what it was serves as well. -/
theorem Serves.frame (h : Serves c id k) (same : c'.source? k.name = c.source? k.name) :
    Serves c' id k where
  name := h.name
  service := h.service
  created := by
    rw [same]
    exact h.created

theorem InOrder.frame (h : InOrder c i)
    (same : ∀ k, i.container = some k → c'.source? k.name = c.source? k.name) : InOrder c' i where
  passthrough := h.passthrough
  hosted own := by
    obtain ⟨k, hk, serves⟩ := h.hosted own
    exact ⟨k, hk, serves.frame (same k hk)⟩

/-- Another instance's container has another name. -/
theorem Serves.name_ne (h : Serves c id k) {other : Uuid} (ne : id ≠ other) (g : UInt32) :
    Deployment.containerName other g ≠ k.name := by
  intro e
  rw [h.name, Deployment.containerName_inj] at e
  exact ne e.1.symm

/-- **Putting a record in** keeps the invariant when the record agrees with the
    new cluster, and the containers of the others are what they were. -/
theorem Sound.put (h : Sound used w) {r : Registry} {used' : List Uuid}
    (puts : w.registry.Puts i r) (more : used ⊆ used') (drawn : i.id ∈ used')
    (own : InOrder c i)
    (others : ∀ {j k}, w.registry.find? j.id = some j → j.id ≠ i.id → j.container = some k →
      c.source? k.name = w.cluster.source? k.name) :
    Sound used' { w with registry := r, cluster := c } where
  reliable := h.reliable
  exact := puts.exact
  drawn {id j} hj := by
    rw [puts.find?] at hj
    split at hj
    · rename_i e
      exact e ▸ drawn
    · exact more (h.drawn hj)
  inOrder {id j} hj := by
    rw [puts.find?] at hj
    split at hj
    · exact Option.some.inj hj ▸ own
    · rename_i ne
      obtain rfl : j.id = id := h.exact.key hj
      exact (h.inOrder hj).frame fun k hk => others hj (Ne.symm ne) hk

/-! ## 3. One request -/

/-- A container that was created for a prepared plan serves its record. -/
theorem prepared_serves {d : Definition} {generation : UInt32} {p : HostingPlan}
    {ys : List Exchange} {c₀ : Cluster}
    (prepared : (prepareHosting cfg id d generation).Runs w ys (.ok p) w)
    (made : c₀.create p.deployment = .ok c) :
    p.deployment.container = Deployment.containerName id generation ∧
    ∃ k, p.revision.container = some k ∧ k.generation = generation ∧
      k.name = p.deployment.container ∧ Serves c id k := by
  obtain ⟨-, spec, plan⟩ := runs_prepareHosting prepared
  refine ⟨plan.containerName, _, plan.container, rfl, rfl, plan.containerName, plan.serviceName,
    p.deployment, ?_, rfl, plan.port⟩
  rw [Cluster.source?_create made]
  exact if_pos rfl

/-- A container was created under a name that was free. -/
theorem source?_create_of_some {dep dep' : Deployment} {name : String}
    (made : c.create dep = .ok c') (h : c.source? name = some dep') :
    dep.container ≠ name ∧ c'.source? name = some dep' := by
  obtain ⟨-, free, -⟩ := Cluster.create_eq_ok.mp made
  have ne : dep.container ≠ name := by
    intro e
    subst e
    unfold Cluster.source? at h
    rw [free] at h
    cases h
  refine ⟨ne, ?_⟩
  rw [Cluster.source?_create made, if_neg ne]
  exact h

theorem source?_discard (hk : s.container = some k) {name : String} (ne : k.name ≠ name) :
    (discard c s).source? name = c.source? name := by
  unfold discard
  cases h : c.delete s with
  | ok c' =>
    show c'.source? name = _
    rw [Cluster.source?_delete hk h, if_neg ne]
  | error e => rfl

/-- A created record agrees with the cluster, and other containers are what
    they were. -/
theorem Sound.created (h : Sound used w) {access : Access} {d : Definition} {v : Revision}
    {r : Registry} (planned : Planned cfg w id d 0 access v c)
    (puts : w.registry.Puts (.create id access v w.clock) r) :
    Sound (used ++ [id]) { w with registry := r, cluster := c } := by
  refine h.put puts (List.subset_append_left _ _)
    (List.mem_append_right _ (List.mem_singleton_self _)) ?_ ?_
  · cases planned with
    | passthrough own judged =>
      exact ⟨fun _ => (passthroughRevision_spec judged).2, fun hosted => absurd hosted own⟩
    | hosted prepared made =>
      obtain ⟨-, k, hk, -, -, serves⟩ := prepared_serves prepared made
      exact ⟨fun other => absurd rfl other, fun _ => ⟨k, hk, serves⟩⟩
  · intro j k hj (ne : j.id ≠ id) hk
    cases planned with
    | passthrough own judged => rfl
    | hosted prepared made =>
      obtain ⟨named, -⟩ := prepared_serves prepared made
      have serves := (h.inOrder hj).serves hk
      rw [Cluster.source?_create made, named, if_neg (serves.name_ne ne 0)]

/-- **The container of an edit's record is the replacement**, and it is not
    the replaced one. -/
theorem Replaced.inOrder {d : Definition} {v : Revision} {ys : List Exchange} {w₁ : World}
    {now : Instant} (replaced : Replaced cfg w s d v ys w₁) (old : InOrder w.cluster s) :
    InOrder w₁.cluster (s.revise v now) := by
  cases replaced with
  | passthrough own judged =>
    exact ⟨fun _ => (passthroughRevision_spec judged).2, fun hosted => absurd hosted own⟩
  | hosted own prepared made =>
    obtain ⟨named, k, hk, -, hn, serves⟩ := prepared_serves prepared made
    obtain ⟨k', hk', -, -, dep, hdep, -, -⟩ := old.hosted own
    obtain ⟨ne, -⟩ := source?_create_of_some made hdep
    rw [← hn] at ne
    exact ⟨fun other => absurd own other,
      fun _ => ⟨k, hk, serves.frame (source?_discard hk' (Ne.symm ne))⟩⟩

theorem Sound.edited (h : Sound used w) {d : Definition} {v : Revision} {ys : List Exchange}
    {w₁ : World} {r : Registry} (stored : w.registry.find? id = some s)
    (replaced : Replaced cfg w s d v ys w₁) (puts : w.registry.Puts (s.revise v w.clock) r) :
    Sound used { w with registry := r, cluster := w₁.cluster } := by
  obtain rfl : s.id = id := h.exact.key stored
  have old := h.inOrder stored
  refine h.put puts (List.Subset.refl _) (h.drawn stored) (replaced.inOrder old) ?_
  intro j k hj (ne : j.id ≠ s.id) hk
  have serves := (h.inOrder hj).serves hk
  cases replaced with
  | passthrough own judged => rfl
  | hosted own prepared made =>
    obtain ⟨named, -⟩ := prepared_serves prepared made
    obtain ⟨k', hk', own'⟩ := old.hosted own
    show (discard _ s).source? k.name = _
    rw [source?_discard hk' (by rw [own'.name]; exact serves.name_ne ne _),
      Cluster.source?_create made, named, if_neg (serves.name_ne ne _)]

/-- A record with the same container, apart from what it reports. -/
theorem InOrder.kept (h : InOrder c s) (kept : s.Kept i) : InOrder c i where
  passthrough other := by
    rw [kept.access] at other
    exact kept.container_none (h.passthrough other)
  hosted own := by
    rw [kept.access] at own
    obtain ⟨k, hk, serves⟩ := h.hosted own
    obtain ⟨l, hl, spec, name, service, generation⟩ := kept.container_eq hk
    refine ⟨l, hl, ?_, ?_, ?_⟩
    · rw [name, generation, kept.id]
      exact serves.name
    · rw [service, generation, kept.id]
      exact serves.service
    · rw [name, service, spec]
      exact serves.created

theorem Sound.kept (h : Sound used w) {r : Registry} (stored : w.registry.find? id = some s)
    (kept : s.Kept i) (same : ∀ n, c.source? n = w.cluster.source? n)
    (puts : w.registry.Puts i r) : Sound used { w with registry := r, cluster := c } := by
  obtain rfl : s.id = id := h.exact.key stored
  have old : InOrder c s := (h.inOrder stored).frame fun k _ => same k.name
  exact h.put puts (List.Subset.refl _) (kept.id ▸ h.drawn stored) (old.kept kept)
    fun {_ k} _ _ _ => same k.name

theorem Sound.deleted (h : Sound used w) {r : Registry} (stored : w.registry.find? id = some s)
    (removed : if s.access = .hosting then w.cluster.delete s = .ok c else c = w.cluster)
    (drops : w.registry.Drops id r) : Sound used { w with registry := r, cluster := c } := by
  obtain rfl : s.id = id := h.exact.key stored
  have kept {a : Uuid} {j : Instance} (hj : r.find? a = some j) :
      w.registry.find? j.id = some j ∧ a = j.id ∧ j.id ≠ s.id := by
    rw [drops.find?] at hj
    split at hj
    · cases hj
    · rename_i ne
      obtain rfl : j.id = a := h.exact.key hj
      exact ⟨hj, rfl, Ne.symm ne⟩
  refine ⟨⟨h.reliable, drops.exact⟩, fun hj => ?_, fun hj => ?_⟩
  · obtain ⟨hj', rfl, -⟩ := kept hj
    exact h.drawn hj'
  · obtain ⟨hj', rfl, ne⟩ := kept hj
    refine (h.inOrder hj').frame fun k hk => ?_
    split at removed
    · rename_i own
      obtain ⟨k', hk', own'⟩ := (h.inOrder stored).hosted own
      rw [Cluster.source?_delete hk' removed, own'.name,
        if_neg (((h.inOrder hj').serves hk).name_ne ne _)]
    · rw [removed]

/-- **Every effect of a request keeps the invariant.** -/
theorem Sound.effect (h : Sound used w) {xs : List Exchange} {q : Request} {a : Reply}
    (e : Effect cfg w xs q a w') : Sound (used ++ q.drawn?.toList) w' := by
  have widen {l : List Uuid} {w' : World} (h : Sound used w') : Sound (used ++ l) w' :=
    h.widen (List.subset_append_left _ _)
  cases e with
  | unchanged => exact widen h
  | created _ planned puts => exact h.created planned puts
  | edited stored replaced made puts => exact widen (h.edited stored replaced puts)
  | restarted stored own done marked puts =>
    exact widen (h.kept stored (Instance.kept_markRestarting marked)
      (Cluster.source?_restart done) puts)
  | switched asked stored changed puts =>
    exact widen (h.kept stored (Instance.kept_withStatus? changed) (fun _ => rfl) puts)
  | refreshed stored own asked changed puts =>
    exact widen (h.kept stored (Instance.kept_withReport? changed) (fun _ => rfl) puts)
  | deleted stored removed drops => exact widen (h.deleted stored removed drops)

/-! ## 4. Whole runs -/

theorem Sound.around (h : Sound used w) (hr : w'.registry = w.registry)
    (hf : w'.storeFailing = w.storeFailing) (hs : ∀ n, w'.cluster.source? n = w.cluster.source? n) :
    Sound used w' where
  reliable := hf.trans h.reliable
  exact := by
    rw [hr]
    exact h.exact
  drawn := by
    rw [hr]
    exact h.drawn
  inOrder hi := by
    rw [hr] at hi
    exact (h.inOrder hi).frame fun k _ => hs k.name

theorem source?_withOutcome {o : Except ClusterError Cluster}
    (h : ∀ {c}, o = .ok c → ∀ n, c.source? n = w.cluster.source? n) (n : String) :
    (w.withOutcome o).cluster.source? n = w.cluster.source? n := by
  cases o with
  | ok c => exact h rfl n
  | error e => rfl

/-- What a request leaves behind in a sound state. -/
theorem Sound.served (h : Sound used w) {q : Request}
    (fresh : ∀ id, q.drawn? = some id → id ∉ used) :
    Ends cfg w (Program.exchanges (q.task cfg) w) q (fun b => b) (w.serve cfg q).1
      (w.serve cfg q).2 := by
  refine h.toSteady.effect (fun id hid => ?_) (Task.runs_self (q.task cfg) w)
  cases found : w.registry.find? id with
  | none => rfl
  | some i => exact absurd (h.drawn found) (fresh id hid)

/-- What happens around the fleet. -/
def Event.isRequest : Event → Bool
  | request _ _ => true
  | _ => false

/-- Around the fleet no record changes, and no container gets another
    source. -/
theorem after_around (w : World) {e : Event} (around : e.isRequest = false) :
    (w.after e).registry = w.registry ∧ (w.after e).storeFailing = w.storeFailing ∧
    ∀ n, (w.after e).cluster.source? n = w.cluster.source? n := by
  have outcome (o : Except ClusterError Cluster) :
      (w.withOutcome o).registry = w.registry ∧
      (w.withOutcome o).storeFailing = w.storeFailing := by
    cases o <;> exact ⟨rfl, rfl⟩
  cases e with
  | request cfg q => cases around
  | outage | directory | clock | probe => exact ⟨rfl, rfl, fun _ => rfl⟩
  | report container r =>
    obtain ⟨hr, hf⟩ := outcome (w.cluster.setStatus container r)
    exact ⟨hr, hf, source?_withOutcome Cluster.source?_setStatus⟩
  | output container lines =>
    obtain ⟨hr, hf⟩ := outcome (w.cluster.appendLogs container lines)
    exact ⟨hr, hf, source?_withOutcome Cluster.source?_appendLogs⟩

theorem Event.eq_request {e : Event} (h : e.isRequest = true) : ∃ cfg q, e = .request cfg q := by
  cases e with
  | request cfg q => exact ⟨cfg, q, rfl⟩
  | _ => cases h

/-- **Every event keeps the invariant.** -/
theorem Sound.after (h : Sound used w) (e : Event) (fresh : ∀ id, e.drawn? = some id → id ∉ used) :
    Sound (used ++ e.drawn?.toList) (w.after e) := by
  have widen {w' : World} (h : Sound used w') : Sound (used ++ e.drawn?.toList) w' :=
    h.widen (List.subset_append_left _ _)
  cases served : e.isRequest with
  | false =>
    obtain ⟨hr, hf, hs⟩ := after_around w served
    exact widen (h.around hr hf hs)
  | true =>
    obtain ⟨cfg, q, rfl⟩ := e.eq_request served
    rcases h.served fresh with ⟨-, same⟩ | ⟨b, -, effect⟩
    · show Sound _ (w.serve cfg q).2
      rw [same]
      exact widen h
    · exact h.effect effect

theorem drawnIds_cons (e : Event) (es : List Event) :
    drawnIds (e :: es) = e.drawn?.toList ++ drawnIds es := by
  unfold drawnIds
  rw [List.filterMap_cons]
  cases e.drawn? <;> rfl

/-- The next identifier that is drawn is not one of those before. -/
theorem fresh_head {e : Event} {ids : List Uuid} (fresh : (used ++ e.drawn?.toList ++ ids).Nodup) :
    ∀ id, e.drawn? = some id → id ∉ used := by
  intro id hid before
  have apart := (List.nodup_append.mp (List.nodup_append.mp fresh).1).2.2
  exact apart id before id (by rw [hid]; exact List.mem_singleton_self id) rfl

/-- **Every run keeps the invariant.** -/
theorem Sound.history (es : List Event) (h : Sound used w) (fresh : (used ++ drawnIds es).Nodup) :
    Sound (used ++ drawnIds es) (w.history es) := by
  induction es generalizing used w with
  | nil => exact (List.append_nil used).symm ▸ h
  | cons e es ih =>
    rw [drawnIds_cons, ← List.append_assoc] at fresh ⊢
    exact ih (h.after e (fresh_head fresh)) fresh

theorem sound_history {clock : Instant} {probe : String → ProbeOutcome} {es : List Event}
    (fresh : FreshIds es) : Sound (drawnIds es) ((World.empty clock probe).history es) :=
  (sound_empty clock probe).history es fresh

/-! ## 5. A run -/

/-- One environment to run containers in. -/
def sampleDirectory : Directory := .insert .empty ⟨⟨1⟩, "prod", .kubernetes, "apps", .ofJson .null⟩

/-- A hosted instance that speaks server-sent events. -/
def sampleDefinition (name : String) : Definition :=
  ⟨name, .sse, none, some { Hosting.Settings.blank with
    environmentId := 1, port := 8000, image := "tool" }⟩

def sampleStart : World := .empty ⟨0, 0⟩ fun _ => ⟨true, none⟩

/-- Two hosted instances are created; the container of the first is replaced. -/
def sampleRun : List Event :=
  [.directory sampleDirectory,
    .request .default (.create ⟨7⟩ .hosting (sampleDefinition "search")),
    .request .default (.create ⟨8⟩ .hosting (sampleDefinition "files")),
    .request .default (.edit ⟨7⟩ none (sampleDefinition "search-2"))]

end McpFleet.Fleet
