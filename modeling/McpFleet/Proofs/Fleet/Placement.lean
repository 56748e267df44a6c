/-
  File:      McpFleet/Proofs/Fleet/Placement.lean
  Subject:   What a record says of itself and of the container that it names,
             from the moment it is planned.

  * `InPlace`: a record's documents can be read back; its routes are the ones
    that the gateway derives for it; and what its container was created from
    is what its traffic is sent to.
  * `Planned.inPlace`, `Replaced.inPlace`: new and edited records are in place.
  * `InPlace.frame`, `InPlace.kept`: they stay so while their containers get
    no other source, and while they change their state only.
-/
import McpFleet.Proofs.Fleet.Reachable
import McpFleet.Proofs.Gateway
import McpFleet.Proofs.Server.Keys

namespace McpFleet

/-- A deployment is the service that a target names. -/
structure HostingTarget.LeadsTo (t : HostingTarget) (o : Deployment) : Prop where
  service : t.service = o.service
  nameSpace : t.nameSpace = o.nameSpace
  port : t.port = o.port

namespace Fleet

/-! ## 1. Records in place -/

/-- **A record in place.** Its source document is accepted with the record's
    protocol, and its routes are those of the gateway of some allowed
    settings. The container of a hosted record is named by the instance and
    the generation; in a generation that can be relied on, what it was created
    from, if it is there, is where the record's traffic goes. -/
inductive InPlace (allowed : Config → Prop) (sure : UInt32 → Prop) (c : Cluster) (i : Instance) :
    Prop where
  | passthrough {cfg : Config} {s : Server} (settings : allowed cfg) (own : i.access ≠ .hosting)
    (container : i.container = none) (source : Server.ofDocument i.source = .ok s)
    (protocol : s.protocol = i.protocol) (url : s.url? ≠ none)
    (routes : cfg.gateway.routes i.id i.access i.protocol (some s) none =
      .ok ⟨i.target, i.publicProxy⟩) : InPlace allowed sure c i
  | hosted {cfg : Config} {s : Server} {k : Hosting.Container} {t : HostingTarget}
    (settings : allowed cfg) (own : i.access = .hosting) (container : i.container = some k)
    (name : k.name = Deployment.containerName i.id k.generation)
    (source : Server.ofDocument i.source = .ok s) (protocol : s.protocol = i.protocol)
    (key : Server.isKey t.key = true) (token : t.token = k.spec.tokens.head?)
    (routes : cfg.gateway.hostingRoutes i.id i.protocol t = .ok ⟨i.target, i.publicProxy⟩)
    (leads : sure k.generation → ∀ o, c.source? k.name = some o → t.LeadsTo o) :
    InPlace allowed sure c i

/-- A record that was made from a revision. -/
structure Shows (i : Instance) (v : Revision) : Prop where
  protocol : i.protocol = v.protocol
  source : i.source = v.source
  routes : ⟨i.target, i.publicProxy⟩ = v.routes
  container : i.container = v.container

theorem shows_create (id : Uuid) (access : Access) (v : Revision) (now : Instant) :
    Shows (.create id access v now) v := ⟨rfl, rfl, rfl, rfl⟩

theorem shows_revise (s : Instance) (v : Revision) (now : Instant) : Shows (s.revise v now) v :=
  ⟨rfl, rfl, rfl, rfl⟩

variable {allowed : Config → Prop} {sure : UInt32 → Prop} {cfg : Config} {c c' : Cluster}
  {i s : Instance} {d : Definition} {v : Revision} {w w' : World}

/-! ## 2. Planned records -/

theorem passthrough_inPlace (settings : allowed cfg) (own : i.access ≠ .hosting)
    (judged : passthroughRevision cfg.gateway i.access i.id d = .ok v) (shows : Shows i v) :
    InPlace allowed sure c i := by
  obtain ⟨name, s, routes, -, declares, url, routed, rfl⟩ := passthroughRevision_eq_ok.mp judged
  obtain ⟨payload, -, read⟩ := declares.read
  refine .passthrough settings own shows.container ?_ ?_ url ?_
  · rw [shows.source]
    exact Server.ofDocument_of_ofText read
  · rw [shows.protocol]
    exact declares.protocol
  · rw [shows.protocol, shows.routes]
    exact routed

/-- The key of a hosted instance is a service key, whether it comes with its
    document or is made from its name. -/
theorem isKey_hostedKey {name : InstanceName} {server : Option Server}
    (named : InstanceName.ofText d.name = .ok name) (served : hostedServer? d = .ok server) :
    Server.isKey (hostedKey name server) = true := by
  rcases hostedServer?_eq_ok.mp served with ⟨rfl, -, -⟩ | ⟨s, rfl, declares⟩
  · exact isKey_serviceKeyOf (InstanceName.text_ne_empty named)
  · obtain ⟨payload, -, read⟩ := declares.read
    exact (Server.accepts_of_ofDocument (Server.ofDocument_of_ofText read)).key

/-- **The source document of a hosted instance is accepted** with the protocol
    that was declared: it was submitted and judged, or else it is the document
    that was derived for the instance's traffic. -/
theorem ofDocument_hostedSource {g : Gateway} {id : Uuid} {t : HostingTarget} {routes : Routes}
    {server : Option Server} (served : hostedServer? d = .ok server)
    (key : Server.isKey t.key = true) (routed : g.hostingRoutes id d.protocol t = .ok routes) :
    ∃ s, Server.ofDocument (hostedSource routes server) = .ok s ∧ s.protocol = d.protocol := by
  rcases hostedServer?_eq_ok.mp served with ⟨rfl, -, network⟩ | ⟨s, rfl, declares⟩
  · exact ⟨_, Gateway.ofDocument_hostingRoutes key routed, Protocol.upgraded_of_network network⟩
  · obtain ⟨payload, -, read⟩ := declares.read
    exact ⟨s, Server.ofDocument_of_ofText read, declares.protocol⟩

theorem Prepared.inPlace {directory : Directory} {generation : UInt32} {p : HostingPlan}
    (prepared : Prepared cfg directory i.id d generation p) (settings : allowed cfg)
    (own : i.access = .hosting) (shows : Shows i p.revision)
    (made : ∀ o, c.source? p.deployment.container = some o → o = p.deployment) :
    InPlace allowed sure c i := by
  cases prepared with
  | @parts name spec builtin _ server named judged known kind served planned =>
    obtain ⟨dep, routes, requested, routed, rfl⟩ := hostingPlan_eq_ok.mp planned
    obtain ⟨containerName, -, -, -⟩ := Deployment.ofRequest_spec requested
    have key := isKey_hostedKey named served
    obtain ⟨s, source, protocol⟩ := ofDocument_hostedSource served key routed
    refine .hosted (s := s) (t := serviceTarget (hostedKey name server) spec builtin dep) settings
      own shows.container containerName ?_ ?_ key rfl ?_ fun _ o there => ?_
    · rw [shows.source]
      exact source
    · rw [shows.protocol]
      exact protocol
    · rw [shows.protocol, shows.routes]
      exact routed
    · rw [made o there]
      exact ⟨rfl, rfl, rfl⟩

/-! ## 3. Containers that stay what they are -/

/-- A cluster in which the container, if it is there, has the source that it
    had. -/
theorem InPlace.frame (h : InPlace allowed sure c i)
    (same : ∀ k o, i.container = some k →
      k.name = Deployment.containerName i.id k.generation → sure k.generation →
      c'.source? k.name = some o → c.source? k.name = some o) : InPlace allowed sure c' i := by
  cases h with
  | passthrough settings own container source protocol url routes =>
    exact .passthrough settings own container source protocol url routes
  | hosted settings own container name source protocol key token routes leads =>
    exact .hosted settings own container name source protocol key token routes
      fun reliable o there => leads reliable o (same _ o container name reliable there)

/-- A record that is restarted, switched or refreshed stays in place. -/
theorem InPlace.kept (h : InPlace allowed sure c s) (kept : s.Kept i) (told : s.SameDocuments i) :
    InPlace allowed sure c i := by
  cases h with
  | passthrough settings own container source protocol url routes =>
    refine .passthrough settings (kept.access ▸ own) (kept.container_none container)
      (told.source ▸ source) (told.protocol ▸ protocol) url ?_
    rw [kept.id, kept.access, told.protocol, told.target, told.publicProxy]
    exact routes
  | hosted settings own container name source protocol key token routes leads =>
    obtain ⟨l, hl, spec, named, -, generation⟩ := kept.container_eq container
    refine .hosted settings (kept.access ▸ own) hl ?_ (told.source ▸ source)
      (told.protocol ▸ protocol) key ?_ ?_ ?_
    · rw [named, generation, kept.id]
      exact name
    · rw [spec]
      exact token
    · rw [kept.id, told.protocol, told.target, told.publicProxy]
      exact routes
    · rw [generation, named]
      exact leads

/-- Removing a container gives no other one a source. -/
theorem source?_of_delete (h : c.delete s = .ok c') {n : String} {o : Deployment}
    (there : c'.source? n = some o) : c.source? n = some o := by
  obtain ⟨k, hk, -, -⟩ := Cluster.delete_eq_ok.mp h
  rw [Cluster.source?_delete hk h] at there
  split at there
  · cases there
  · exact there

theorem source?_of_discard {n : String} {o : Deployment}
    (there : (discard c s).source? n = some o) : c.source? n = some o := by
  unfold discard at there
  cases h : c.delete s with
  | ok c' =>
    rw [h] at there
    exact source?_of_delete h there
  | error e =>
    rw [h] at there
    exact there

/-- Taking a record's container away, if it has one, gives none a source. -/
theorem source?_of_removed
    (removed : if s.access = .hosting then c.delete s = .ok c' else c' = c) {n : String}
    {o : Deployment} (there : c'.source? n = some o) : c.source? n = some o := by
  split at removed
  · exact source?_of_delete removed there
  · exact removed ▸ there

/-- A new container is the only one that gets a source. -/
theorem source?_of_create {dep o : Deployment} {n : String} (made : c.create dep = .ok c')
    (there : c'.source? n = some o) (other : dep.container ≠ n) : c.source? n = some o := by
  rwa [Cluster.source?_create made, if_neg other] at there

theorem source?_created {dep o : Deployment} (made : c.create dep = .ok c')
    (there : c'.source? dep.container = some o) : o = dep := by
  rw [Cluster.source?_create made, if_pos rfl] at there
  exact (Option.some.inj there).symm

/-! ## 4. Plans and replacements -/

/-- A plan for an instance, taken apart: its container is named by the
    instance and the generation. -/
theorem prepared_of_runs {id : Uuid} {generation : UInt32} {p : HostingPlan} {ys : List Exchange}
    (h : (prepareHosting cfg id d generation).Runs w ys (.ok p) w') :
    Prepared cfg w.directory id d generation p ∧
      p.deployment.container = Deployment.containerName id generation := by
  obtain ⟨-, spec, plan⟩ := runs_prepareHosting h
  exact ⟨(yields_prepareHosting.mp (Task.yields_iff_runs.mpr ⟨ys, h⟩)).1, plan.containerName⟩

/-- **A new record is in place.** -/
theorem Planned.inPlace {id : Uuid} {generation : UInt32} {access : Access} {now : Instant}
    (h : Planned cfg w id d generation access v c) (settings : allowed cfg) :
    InPlace allowed sure c (.create id access v now) := by
  cases h with
  | passthrough own judged =>
    exact passthrough_inPlace (i := .create id access v now) settings own judged
      (shows_create id access v now)
  | hosted prepared made =>
    obtain ⟨parts, -⟩ := prepared_of_runs prepared
    exact parts.inPlace (i := .create id .hosting _ now) settings rfl (shows_create _ _ _ _)
      fun o there => source?_created made there

/-- **An edited record is in place**, whether or not the replaced container
    could be removed. -/
theorem Replaced.inPlace {ys : List Exchange} {w₁ : World} {now : Instant}
    (h : Replaced cfg w s d v ys w₁) (settings : allowed cfg) :
    InPlace allowed sure w₁.cluster (s.revise v now) := by
  cases h with
  | passthrough own judged =>
    exact passthrough_inPlace (i := s.revise v now) settings own judged (shows_revise s v now)
  | hosted own prepared made =>
    obtain ⟨parts, -⟩ := prepared_of_runs prepared
    exact parts.inPlace (i := s.revise _ now) settings own (shows_revise _ _ _)
      fun o there => source?_created made (source?_of_discard there)

/-- The container of another name is what it was behind a plan. -/
theorem Planned.source? {id : Uuid} {generation : UInt32} {access : Access}
    (h : Planned cfg w id d generation access v c) {n : String} {o : Deployment}
    (other : Deployment.containerName id generation ≠ n) (there : c.source? n = some o) :
    w.cluster.source? n = some o := by
  cases h with
  | passthrough => exact there
  | hosted prepared made =>
    obtain ⟨-, named⟩ := prepared_of_runs prepared
    exact source?_of_create made there (named ▸ other)

/-- The container of another name is what it was behind a replacement, if it
    is there. -/
theorem Replaced.source? {ys : List Exchange} {w₁ : World} (h : Replaced cfg w s d v ys w₁)
    {n : String} {o : Deployment} (other : Deployment.containerName s.id (nextGeneration s) ≠ n)
    (there : w₁.cluster.source? n = some o) : w.cluster.source? n = some o := by
  cases h with
  | passthrough => exact there
  | hosted own prepared made =>
    obtain ⟨-, named⟩ := prepared_of_runs prepared
    exact source?_of_create made (source?_of_discard there) (named ▸ other)

end Fleet

end McpFleet
