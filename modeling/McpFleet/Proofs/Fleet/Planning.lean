/-
  File:      McpFleet/Proofs/Fleet/Planning.lean
  Subject:   When a definition passes every check, and what it leads to.

  * `passthroughRevision_eq_ok`: a passthrough instance is what its server
    document says, routed by the gateway; it has no container.
  * `hostedServer?_eq_ok`, `hostedSpec_eq_ok`, `hostingPlan_eq_ok`: the parts
    of a hosted definition, check by check.
  * **`yields_prepareHosting`**: a hosted definition is prepared exactly when
    its parts pass (`Prepared`).
  * `hostingPlan_spec`: the container of the revision is the deployment's, and
    both are named by the instance and the generation.
-/
import McpFleet.Fleet.Plan
import McpFleet.Proofs.Checks
import McpFleet.Proofs.Cluster.Operations
import McpFleet.Proofs.Fleet.Calls

namespace McpFleet.Fleet

/-! ## 1. Server documents of a definition -/

/-- A definition whose server document is accepted as `s`, and whose protocol
    is the one that the document implies. -/
structure Definition.Declares (d : Definition) (s : Server) : Prop where
  read : ∃ payload, d.payload? = some payload ∧ Server.ofText payload = .ok s
  protocol : s.protocol = d.protocol

theorem ensureProtocol_eq_ok {p : Protocol} {s : Server} {u : Unit} :
    ensureProtocol p s = .ok u ↔ s.protocol = p := by
  unfold ensureProtocol
  split <;> simp_all

section Passthrough

variable {g : Gateway} {access : Access} {id : Uuid} {d : Definition} {v : Revision}

/-! ## 2. Passthrough -/

/-- **A passthrough instance is planned** exactly when its name is fit for one
    and its document is accepted with a url and the declared protocol. -/
theorem passthroughRevision_eq_ok :
    passthroughRevision g access id d = .ok v ↔
      ∃ name s routes, InstanceName.ofText d.name = .ok name ∧ d.Declares s ∧ s.url? ≠ none ∧
        g.routes id access d.protocol (some s) none = .ok routes ∧
        v = ⟨name, d.protocol, s.document, routes, none⟩ := by
  unfold passthroughRevision
  simp only [bind_eq_ok, mapError_eq_ok]
  constructor
  · intro parts
    obtain ⟨name, named, h⟩ := parts
    split at h
    · rename_i payload given
      obtain ⟨s, read, h⟩ := bind_eq_ok.mp h
      rw [mapError_eq_ok] at read
      by_cases url : s.url? = none
      · simp only [url, Option.isNone_none, if_true, bind_eq_ok, throw_ne_ok, false_and,
          exists_false] at h
      · have there : s.url?.isNone = false := by
          rw [Option.isNone_eq_false_iff]
          exact Option.isSome_iff_ne_none.mpr url
        simp only [there, Bool.false_eq_true, if_false] at h
        obtain ⟨_, implied, h⟩ := bind_eq_ok.mp h
        obtain ⟨routes, routed, h⟩ := bind_eq_ok.mp h
        exact ⟨name, s, routes, named, ⟨⟨payload, given, read⟩, ensureProtocol_eq_ok.mp implied⟩,
          url, mapError_eq_ok.mp routed, (pure_eq_ok.mp h).symm⟩
    · exact absurd h throw_ne_ok
  · intro parts
    obtain ⟨name, s, routes, named, ⟨⟨payload, given, read⟩, implied⟩, url, routed, rfl⟩ := parts
    have there : s.url?.isNone = false := by
      rw [Option.isNone_eq_false_iff]
      exact Option.isSome_iff_ne_none.mpr url
    refine ⟨name, named, ?_⟩
    simp only [given]
    refine bind_eq_ok.mpr ⟨s, mapError_eq_ok.mpr read, ?_⟩
    simp only [there, Bool.false_eq_true, if_false]
    exact bind_eq_ok.mpr ⟨(), ensureProtocol_eq_ok.mpr implied,
      bind_eq_ok.mpr ⟨routes, mapError_eq_ok.mpr routed, rfl⟩⟩

theorem passthroughRevision_spec (h : passthroughRevision g access id d = .ok v) :
    InstanceName.ofText d.name = .ok v.name ∧ v.container = none := by
  obtain ⟨name, s, routes, named, -, -, -, rfl⟩ := passthroughRevision_eq_ok.mp h
  exact ⟨named, rfl⟩

end Passthrough

/-! ## 3. Hosting -/

section Hosting

variable {cfg : Config} {g : Gateway} {id : Uuid} {generation : UInt32} {d : Definition}
  {p : HostingPlan} {w w' : World}

-- The checks of a name stay closed: no argument here looks into them.
attribute [local irreducible] Text.trim

/-- A hosted definition needs no server document unless it declares a local
    process. -/
theorem hostedServer?_eq_ok {server : Option Server} :
    hostedServer? d = .ok server ↔
      (server = none ∧ d.payload? = none ∧ d.protocol ≠ .stdio) ∨
      ∃ s, server = some s ∧ d.Declares s := by
  unfold hostedServer?
  cases given : d.payload? with
  | none =>
    have undeclared (s : Server) : ¬ d.Declares s := by
      intro declares
      obtain ⟨payload, h, -⟩ := declares.read
      rw [given] at h
      cases h
    by_cases process : d.protocol = .stdio
    · simp [process, undeclared]
    · simp [process, undeclared, eq_comm]
  | some payload =>
    simp only [bind_eq_ok, mapError_eq_ok, ensureProtocol_eq_ok, pure_eq_ok]
    constructor
    · intro parts
      obtain ⟨s, read, -, implied, rfl⟩ := parts
      exact .inr ⟨s, rfl, ⟨payload, given, read⟩, implied⟩
    · intro ways
      rcases ways with ⟨-, none, -⟩ | ⟨s, rfl, ⟨other, h, read⟩, implied⟩
      · cases none
      · rw [given] at h
        obtain rfl := Option.some.inj h
        exact ⟨s, read, (), implied, rfl⟩

/-- A local process needs an image that can bridge it. -/
theorem hostedSpec_eq_ok {spec : Hosting.Spec} {builtin : Bool} :
    hostedSpec cfg d = .ok (spec, builtin) ↔
      ∃ settings, d.hosting = some settings ∧ Hosting.Spec.ofSettings settings = .ok spec ∧
        builtin = spec.usesImage cfg.runtimeImages ∧ (d.protocol = .stdio → builtin = true) := by
  unfold hostedSpec
  cases d.hosting with
  | none => simp [throw_ne_ok]
  | some settings =>
    simp only [bind_eq_ok, mapError_eq_ok, Option.some.injEq, exists_eq_left']
    constructor
    · intro parts
      obtain ⟨spec', accepted, h⟩ := parts
      split at h
      · cases h
      · rename_i able
        obtain ⟨rfl, rfl⟩ := Prod.mk.inj (pure_eq_ok.mp h)
        refine ⟨accepted, rfl, fun process => ?_⟩
        simpa [process] using able
    · intro parts
      obtain ⟨accepted, rfl, able⟩ := parts
      refine ⟨spec, accepted, ?_⟩
      have passed : ¬ (d.protocol = .stdio ∧ (!spec.usesImage cfg.runtimeImages) = true) := by
        intro failed
        have image := able failed.1
        rw [image] at failed
        exact absurd failed.2 (by decide)
      rw [if_neg passed]
      rfl

/-- The request for the deployment of a judged definition. -/
def deploymentRequest (id : Uuid) (generation : UInt32) (protocol : Protocol) (spec : Hosting.Spec)
    (server : Option Server) (nameSpace : String) : Deployment.Request where
  id := id
  protocol := protocol
  spec := spec
  launchCommand := (server.bind Server.launch?).map Launch.commandLine
  nameSpace := nameSpace
  generation := generation

/-- The service key of a hosted instance: its document's, or one made from its
    name. -/
def hostedKey (name : InstanceName) : Option Server → String
  | some s => s.key
  | none => serviceKeyOf name

/-- The service that a deployment gives to an instance. -/
def serviceTarget (key : String) (spec : Hosting.Spec) (builtin : Bool) (dep : Deployment) :
    HostingTarget :=
  ⟨key, dep.service, dep.nameSpace, dep.port, builtin, spec.tokens.head?⟩

/-- The document of a hosted instance: its own, or the one that is derived for
    its traffic. -/
def hostedSource (routes : Routes) : Option Server → Document
  | some s => s.document
  | none => routes.target

theorem hostingPlan_eq_ok {name : InstanceName} {protocol : Protocol} {spec : Hosting.Spec}
    {builtin : Bool} {server : Option Server} {nameSpace : String} :
    hostingPlan g id generation name protocol spec builtin server nameSpace = .ok p ↔
      ∃ dep routes,
        Deployment.ofRequest (deploymentRequest id generation protocol spec server nameSpace) =
          .ok dep ∧
        g.hostingRoutes id protocol (serviceTarget (hostedKey name server) spec builtin dep) =
          .ok routes ∧
        p = ⟨⟨name, protocol, hostedSource routes server, routes,
          some (.pending spec dep.container dep.service generation)⟩, dep⟩ := by
  unfold hostingPlan Gateway.routes
  cases server <;>
    simp only [bind_eq_ok, mapError_eq_ok, pure_eq_ok, deploymentRequest, serviceTarget, hostedKey,
      hostedSource, eq_comm (a := p), exists_and_left]

/-- A plan's container is its deployment's, named by instance and
    generation. -/
structure HostingPlan.For (p : HostingPlan) (id : Uuid) (generation : UInt32)
    (spec : Hosting.Spec) : Prop where
  container : p.revision.container =
    some (.pending spec p.deployment.container p.deployment.service generation)
  containerName : p.deployment.container = Deployment.containerName id generation
  serviceName : p.deployment.service = Deployment.serviceName id generation
  port : p.deployment.port = spec.port

theorem hostingPlan_spec {name : InstanceName} {protocol : Protocol} {spec : Hosting.Spec}
    {builtin : Bool} {server : Option Server} {nameSpace : String}
    (h : hostingPlan g id generation name protocol spec builtin server nameSpace = .ok p) :
    p.revision.name = name ∧ p.For id generation spec := by
  obtain ⟨dep, routes, hdep, -, rfl⟩ := hostingPlan_eq_ok.mp h
  obtain ⟨hc, hs, -, hp⟩ := Deployment.ofRequest_spec hdep
  exact ⟨rfl, rfl, hc, hs, hp⟩

theorem readOnly_hostingEnvironment (e : EnvironmentId) : (hostingEnvironment e).ReadOnly := by
  refine .bind (Task.readOnly_findEnvironment e) fun found => ?_
  cases found with
  | none => exact Task.readOnly_throw _
  | some e =>
    show Task.ReadOnly (if _ then _ else _)
    split
    · exact Task.readOnly_pure _
    · exact Task.readOnly_throw _

theorem readOnly_prepareHosting (cfg : Config) (id : Uuid) (d : Definition)
    (generation : UInt32) : (prepareHosting cfg id d generation).ReadOnly :=
  .bind (Task.readOnly_ofExcept _ _) fun _ =>
    .bind (Task.readOnly_ofExcept _ _) fun ⟨_, _⟩ =>
      .bind (readOnly_hostingEnvironment _) fun _ =>
        .bind (Task.readOnly_ofExcept _ _) fun _ => Task.readOnly_ofExcept _ _

/-- Containers run in an environment that the directory knows, of the one kind
    that can run them. -/
theorem yields_hostingEnvironment {id : EnvironmentId} {e : Environment} :
    (hostingEnvironment id).Yields w e w' ↔
      w.directory.find id = .ok (some e) ∧ e.kind = .kubernetes ∧ w' = w := by
  unfold hostingEnvironment
  rw [Task.yields_bind]
  constructor
  · intro parts
    obtain ⟨found, w₁, asked, h⟩ := parts
    obtain ⟨known, rfl⟩ := Task.yields_findEnvironment.mp asked
    cases found with
    | none => exact absurd h Task.not_yields_throw
    | some e' =>
      simp only at h
      split at h
      · rename_i kind
        obtain ⟨rfl, rfl⟩ := Task.yields_pure.mp h
        exact ⟨known, kind, rfl⟩
      · exact absurd h Task.not_yields_throw
  · intro parts
    obtain ⟨known, kind, rfl⟩ := parts
    refine ⟨some e, w', Task.yields_findEnvironment.mpr ⟨known, rfl⟩, ?_⟩
    simp only [if_pos kind]
    exact Task.yields_pure.mpr ⟨rfl, rfl⟩

/-- **A hosted definition whose parts pass every check**, and its plan. -/
inductive Prepared (cfg : Config) (directory : Directory) (id : Uuid) (d : Definition)
    (generation : UInt32) (p : HostingPlan) : Prop where
  | parts {name : InstanceName} {spec : Hosting.Spec} {builtin : Bool} {e : Environment}
    {server : Option Server} (named : InstanceName.ofText d.name = .ok name)
    (judged : hostedSpec cfg d = .ok (spec, builtin))
    (known : directory.find spec.environmentId = .ok (some e)) (kind : e.kind = .kubernetes)
    (served : hostedServer? d = .ok server)
    (planned : hostingPlan cfg.gateway id generation name d.protocol spec builtin server
      e.nameSpace = .ok p) : Prepared cfg directory id d generation p

theorem yields_prepareHosting :
    (prepareHosting cfg id d generation).Yields w p w' ↔
      Prepared cfg w.directory id d generation p ∧ w' = w := by
  unfold prepareHosting
  simp only [Task.yields_bind, Task.yields_ofExcept]
  constructor
  · intro parts
    obtain ⟨name, _, ⟨named, rfl⟩, ⟨spec, builtin⟩, _, ⟨judged, rfl⟩, e, w₁, asked, server, _,
      ⟨served, rfl⟩, planned, rfl⟩ := parts
    obtain ⟨known, kind, rfl⟩ := yields_hostingEnvironment.mp asked
    exact ⟨.parts named judged known kind served planned, rfl⟩
  · intro parts
    obtain ⟨⟨named, judged, known, kind, served, planned⟩, rfl⟩ := parts
    exact ⟨_, w', ⟨named, rfl⟩, (_, _), w', ⟨judged, rfl⟩, _, w',
      yields_hostingEnvironment.mpr ⟨known, kind, rfl⟩, _, w', ⟨served, rfl⟩, planned, rfl⟩

/-- **A prepared plan is for this instance and generation, under the name that
    was asked for.** -/
theorem runs_prepareHosting {w w' : World} {xs : List Exchange}
    (h : (prepareHosting cfg id d generation).Runs w xs (.ok p) w') :
    InstanceName.ofText d.name = .ok p.revision.name ∧ ∃ spec, p.For id generation spec := by
  obtain ⟨⟨named, -, -, -, -, planned⟩, -⟩ := yields_prepareHosting.mp
    (Task.yields_iff_runs.mpr ⟨xs, h⟩)
  obtain ⟨hp, hfor⟩ := hostingPlan_spec planned
  rw [hp]
  exact ⟨named, _, hfor⟩

end Hosting

end McpFleet.Fleet
