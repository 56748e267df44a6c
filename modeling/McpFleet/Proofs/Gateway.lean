/-
  File:      McpFleet/Proofs/Gateway.lean
  Subject:   The documents that the gateway writes are read back as they were
             meant.

  * `ofDocument_endpointDocument_eq`: what a document for an endpoint is read
    as, or why it is refused, whatever it was written for.
  * **`endpoints_read_back`**: it is read back as it was meant exactly when its
    key, its protocol and its url are fit for one.
  * `trimmed?_serviceUrl`, `trimmed?_publicUrl`: the urls of the gateway have
    no blank at their ends, so reading them back leaves them alone.
  * `publicEnd`: what stands behind the base url in a public url.
  * `ofDocument_hostingRoutes`, `ofDocument_publicDocument`: both documents of
    an instance.
  * **`routes_published`**: what is published can be used, but for the proxy of
    a local process.
-/
import McpFleet.Config
import McpFleet.Proofs.Server.Grammar

namespace McpFleet

/-! ## 1. Accepted documents -/

namespace Protocol

theorem upgraded_ne_stdio (p : Protocol) : p.upgraded ≠ .stdio := by cases p <;> decide

theorem isNetwork_iff {p : Protocol} : p.isNetwork = true ↔ p ≠ .stdio := by cases p <;> decide

theorem upgraded_of_network {p : Protocol} (h : p ≠ .stdio) : p.upgraded = p := by
  cases p with
  | stdio => exact absurd rfl h
  | sse | streamableHttp => rfl

end Protocol

namespace Server

/-- What every accepted document gives: itself, a key, and a url exactly when
    its protocol is one of the network. -/
structure Accepts (d : Document) (s : Server) : Prop where
  document : s.document = d
  key : isKey s.key = true
  network : s.url? = none ↔ s.protocol = .stdio

theorem accepts_of_ofDocument {d : Document} {s : Server} (h : ofDocument d = .ok s) :
    Accepts d s := by
  obtain ⟨key, entry, -, good, p, -, e, read, rfl⟩ := ofDocument_eq_ok.mp h
  refine ⟨rfl, good, ?_⟩
  unfold readEndpoint at read
  by_cases process : p = .stdio
  · rw [if_pos process, bind_option_eq_ok] at read
    rcases read with ⟨command, -, h⟩ | ⟨-, h⟩
    · obtain ⟨args, -, h⟩ := bind_eq_ok.mp h
      obtain ⟨env, -, h⟩ := bind_eq_ok.mp h
      obtain rfl := pure_eq_ok.mp h
      exact ⟨fun _ => process, fun _ => rfl⟩
    · exact absurd h throw_ne_ok
  · rw [if_neg process, bind_option_eq_ok] at read
    rcases read with ⟨url, -, h⟩ | ⟨-, h⟩
    · obtain ⟨headers, -, h⟩ := bind_eq_ok.mp h
      obtain rfl := pure_eq_ok.mp h
      exact ⟨fun none => (nomatch none), fun process' => absurd process' process⟩
    · exact absurd h throw_ne_ok

/-- The document that was read from a text is accepted as it stands. -/
theorem ofDocument_of_ofText {text : String} {s : Server} (h : ofText text = .ok s) :
    ofDocument s.document = .ok s := by
  unfold ofText at h
  split at h
  · cases h
  · rw [(accepts_of_ofDocument h).document]
    exact h

/-! ## 2. Documents of one endpoint -/

/-- The headers that carry a token. -/
def bearer : Option String → Dict String String
  | none => .empty
  | some token => .insert .empty "Authorization" ("Bearer " ++ token)

/-- What a document for one network endpoint is read as. -/
def published (key : String) (p : Protocol) (url : String) (token : Option String) : Server where
  key := key
  protocol := p
  fields := ⟨false, false, true, false, true⟩
  endpoint := .remote ⟨url, bearer token⟩
  document := endpointDocument key p url token

@[simp] theorem published_key (key : String) (p : Protocol) (url : String)
    (token : Option String) : (published key p url token).key = key := rfl

/-- The entry of a document for one network endpoint. -/
def endpointEntry (p : Protocol) (url : String) (token : Option String) : Entry :=
  tokenHeaders token ++ [("type", .text p.documentName), ("url", .text url)]

section Endpoint

variable {key url : String} {p : Protocol} {token : Option String}

theorem endpointEntry_get? (p : Protocol) (url : String) (token : Option String) :
    Entries.get? "type" (endpointEntry p url token) = some (.text p.documentName) ∧
    Entries.get? "url" (endpointEntry p url token) = some (.text url) ∧
    textDictField (endpointEntry p url token) "headers" = .ok (bearer token) ∧
    presentFields (endpointEntry p url token) = ⟨false, false, true, false, true⟩ := by
  cases token <;> exact ⟨rfl, rfl, rfl, rfl⟩

theorem inferProtocol_endpointEntry (key url : String) (p : Protocol) (token : Option String) :
    inferProtocol key (endpointEntry p url token) = .ok p := by
  obtain ⟨type, -, -, -⟩ := endpointEntry_get? p url token
  have stated : Says (endpointEntry p url token) "type" p.documentName :=
    ⟨_, type, by cases p <;> decide, by cases p <;> decide⟩
  have names : Names p.documentName p := by
    unfold Names
    cases p <;> decide
  exact inferProtocol_eq_ok.mpr (.type stated names)

/-- The endpoint that is read from such an entry, if its protocol has one. -/
theorem readEndpoint_endpointEntry (p : Protocol) (url : String) (token : Option String) :
    readEndpoint p (endpointEntry p url token) =
      if p = .stdio then .error .missingCommand
      else match Text.trimmed? url with
        | none => .error (.missingUrl p)
        | some u => .ok (.remote ⟨u, bearer token⟩) := by
  obtain ⟨-, location, headers, -⟩ := endpointEntry_get? p url token
  by_cases process : p = .stdio
  · have absent : textField? (endpointEntry p url token) "command" = .ok none := by
      cases token <;> rfl
    unfold readEndpoint
    rw [if_pos process, if_pos process, absent]
    rfl
  · have reached : textField? (endpointEntry p url token) "url" = .ok (Text.trimmed? url) := by
      unfold textField?
      rw [location]
    unfold readEndpoint
    rw [if_neg process, if_neg process, reached]
    cases Text.trimmed? url with
    | none => rfl
    | some u => simp only [bind, Except.bind, headers, pure, Except.pure]

/-- **What a document for an endpoint is read as**, whatever it was written
    for: the first of its parts that is not fit for one is reported, and the
    url is trimmed. -/
theorem ofDocument_endpointDocument_eq (key url : String) (p : Protocol) (token : Option String) :
    ofDocument (endpointDocument key p url token) =
      if isKey key = false then .error (.invalidKey key)
      else if p = .stdio then .error .missingCommand
      else match Text.trimmed? url with
        | none => .error (.missingUrl p)
        | some u =>
          .ok { published key p url token with endpoint := .remote ⟨u, bearer token⟩ } := by
  obtain ⟨-, -, -, present⟩ := endpointEntry_get? p url token
  have sole : soleService (endpointDocument key p url token).tree =
      .ok (key, .object (endpointEntry p url token)) := rfl
  have inferred := inferProtocol_endpointEntry key url p token
  have read := readEndpoint_endpointEntry p url token
  unfold ofDocument
  rw [sole]
  cases good : isKey key with
  | false =>
    simp only [bind, Except.bind, good]
    rfl
  | true =>
    simp only [bind, Except.bind, good, inferred, read, present]
    by_cases process : p = .stdio
    · simp only [if_pos process]
      rfl
    · simp only [if_neg process]
      cases Text.trimmed? url with
      | none => rfl
      | some u => rfl

/-- When such a document is accepted, and as what. -/
theorem ofDocument_endpointDocument_eq_ok {s : Server} :
    ofDocument (endpointDocument key p url token) = .ok s ↔
      isKey key = true ∧ p ≠ .stdio ∧ ∃ u, Text.trimmed? url = some u ∧
        s = { published key p url token with endpoint := .remote ⟨u, bearer token⟩ } := by
  rw [ofDocument_endpointDocument_eq, ite_error_eq_ok, ite_error_eq_ok, Bool.not_eq_false]
  cases Text.trimmed? url with
  | none => simp
  | some u =>
    simp only [Except.ok.injEq, Option.some.injEq, exists_eq_left']
    exact and_congr_right' (and_congr_right' eq_comm)

/-- **A document for an endpoint is read back as that endpoint.** -/
theorem ofDocument_endpointDocument (good : isKey key = true) (network : p ≠ .stdio)
    (trimmed : Text.trimmed? url = some url) :
    ofDocument (endpointDocument key p url token) = .ok (published key p url token) :=
  ofDocument_endpointDocument_eq_ok.mpr ⟨good, network, url, trimmed, rfl⟩

/-- **A document that calls its url a local process is refused**: there is no
    command in it. -/
theorem ofDocument_endpointDocument_stdio (good : isKey key = true) :
    ofDocument (endpointDocument key .stdio url token) = .error .missingCommand := by
  rw [ofDocument_endpointDocument_eq, good, if_neg Bool.noConfusion, if_pos rfl]

theorem entries_bearer (token : Option String) : (bearer token).entries =
    (token.map fun t => ("Authorization", "Bearer " ++ t)).toList := by
  cases token <;> rfl

/-- **What the gateway writes for an endpoint is what is read.** A document for
    an endpoint is read back with its key, its protocol and its url as they
    were written, and with no headers but the token's, if and only if the key
    is a service key, the protocol one of the network, and the url a text with
    no blank at its ends. The stated protocol wins over what the url suggests. -/
theorem endpoints_read_back :
    (∃ s headers, ofDocument (endpointDocument key p url token) = .ok s ∧ s.key = key ∧
        s.protocol = p ∧ s.endpoint = .remote ⟨url, headers⟩ ∧
        headers.entries = (token.map fun t => ("Authorization", "Bearer " ++ t)).toList) ↔
      isKey key = true ∧ p.isNetwork = true ∧ url ≠ "" ∧
        (∀ c, url.toList.head? = some c → Text.isBlank c = false) ∧
        (∀ c, url.toList.getLast? = some c → Text.isBlank c = false) := by
  rw [← Text.trim_eq_self_iff, Protocol.isNetwork_iff]
  constructor
  · rintro ⟨s, headers, read, -, -, endpoint, -⟩
    obtain ⟨good, network, u, found, rfl⟩ := ofDocument_endpointDocument_eq_ok.mp read
    obtain ⟨rfl, -⟩ := Remote.mk.inj (Endpoint.remote.inj endpoint)
    obtain ⟨trimmed, nonempty⟩ := Text.trimmed?_eq_some.mp found
    exact ⟨good, network, nonempty, trimmed⟩
  · rintro ⟨good, network, nonempty, trimmed⟩
    have found : Text.trimmed? url = some url := Text.trimmed?_eq_some.mpr ⟨trimmed, nonempty⟩
    exact ⟨_, bearer token, ofDocument_endpointDocument good network found, rfl, rfl, rfl,
      entries_bearer token⟩

/-- The url speaks of events, but the type is stated. -/
example : (ofDocument (endpointDocument "docs" .streamableHttp "http://docs/sse" none)).map
    (·.protocol) = .ok .streamableHttp := by decide +kernel

end Endpoint

end Server

/-! ## 3. Urls -/

namespace Gateway

variable {g : Gateway} {id : Uuid} {p : Protocol}

/-- A text whose first and last characters are no blanks is left alone. -/
theorem trimmed?_of_ends {front back : String} {a b : Char}
    (first : (front ++ back).toList.head? = some a) (last : back.toList.getLast? = some b)
    (ha : Text.isBlank a = false) (hb : Text.isBlank b = false) :
    Text.trimmed? (front ++ back) = some (front ++ back) := by
  rw [Text.trimmed?_eq_some]
  refine ⟨Text.trim_eq_self (fun c hc => ?_) (fun c hc => ?_), fun empty => ?_⟩
  · rw [first] at hc
    exact Option.some.inj hc ▸ ha
  · rw [String.toList_append, List.getLast?_append, last] at hc
    exact Option.some.inj hc ▸ hb
  · rw [empty] at first
    cases first

theorem getLast?_endpointPath (p : Protocol) :
    ∃ b, (endpointPath p).toList.getLast? = some b ∧ Text.isBlank b = false := by
  cases p <;> exact ⟨_, rfl, by decide⟩

theorem trimmed?_serviceUrl (g : Gateway) (t : HostingTarget) (p : Protocol) :
    Text.trimmed? (g.serviceUrl t p) = some (g.serviceUrl t p) := by
  obtain ⟨b, last, hb⟩ := getLast?_endpointPath p
  refine trimmed?_of_ends (a := 'h') ?_ last (by decide) hb
  simp [String.toList_append]

/-- The gateway is not reached under a url that begins with a blank. -/
def Flush (g : Gateway) : Prop := ∀ c, g.baseUrl.toList.head? = some c → Text.isBlank c = false

theorem trimmed?_publicUrl (flush : g.Flush) (id : Uuid) (p : Protocol) :
    Text.trimmed? (g.publicUrl id p) = some (g.publicUrl id p) := by
  obtain ⟨b, last, hb⟩ := getLast?_endpointPath p.upgraded
  cases cut : g.baseUrl.toList with
  | nil =>
    refine trimmed?_of_ends (a := '/') ?_ last (by decide) hb
    simp [String.toList_append, cut]
  | cons c cs =>
    refine trimmed?_of_ends (a := c) ?_ last (flush c (by rw [cut]; rfl)) hb
    simp [String.toList_append, cut]

/-- A local process is published like the events it is bridged to. -/
theorem publicUrl_upgraded (g : Gateway) (id : Uuid) (p : Protocol) :
    g.publicUrl id p.upgraded = g.publicUrl id p := by
  cases p <;> rfl

/-- What stands behind the base url in a public url. -/
def publicEnd (id : Uuid) (p : Protocol) : List Char :=
  "/mcp/".toList ++ (id.text.toList ++ (endpointPath p.upgraded).toList)

theorem toList_publicUrl (g : Gateway) (id : Uuid) (p : Protocol) :
    (g.publicUrl id p).toList = g.baseUrl.toList ++ publicEnd id p := by
  unfold publicUrl publicEnd
  simp only [String.toList_append, List.append_assoc]

/-! ## 4. Routes -/

theorem hostingRoutes_eq_ok {t : HostingTarget} {r : Routes} :
    g.hostingRoutes id p t = .ok r ↔
      (p = .stdio → t.builtinRuntime = true) ∧
      r = ⟨endpointDocument t.key p.upgraded (g.serviceUrl t p.upgraded) none,
        g.publicDocument id t.key p.upgraded t.token⟩ := by
  unfold hostingRoutes
  cases hb : t.builtinRuntime with
  | true => simp [eq_comm]
  | false =>
    by_cases process : p = .stdio
    · simp [process]
    · simp [process, eq_comm]

/-- The traffic of a passthrough instance goes where its document says; a
    proxy instance is published under the gateway's url. -/
theorem routes_of_passthrough {access : Access} {s : Server} {r : Routes}
    (own : access ≠ .hosting) (h : g.routes id access p (some s) none = .ok r) :
    r.target = s.document ∧
      (access = .proxy → r.publicProxy = g.publicDocument id s.key p none) := by
  cases access with
  | direct =>
    obtain rfl := Except.ok.inj h
    exact ⟨rfl, fun other => nomatch other⟩
  | proxy =>
    obtain rfl := Except.ok.inj h
    exact ⟨rfl, fun _ => rfl⟩
  | hosting => exact absurd rfl own

/-- Traffic of a hosted instance goes to the service of its container. -/
theorem ofDocument_hostingRoutes {t : HostingTarget} {r : Routes} (good : Server.isKey t.key = true)
    (h : g.hostingRoutes id p t = .ok r) :
    Server.ofDocument r.target =
      .ok (Server.published t.key p.upgraded (g.serviceUrl t p.upgraded) none) := by
  obtain ⟨-, rfl⟩ := hostingRoutes_eq_ok.mp h
  exact Server.ofDocument_endpointDocument good p.upgraded_ne_stdio (trimmed?_serviceUrl g t _)

/-- Clients are sent to the gateway. -/
theorem ofDocument_publicDocument (flush : g.Flush) {key : String} {token : Option String}
    (good : Server.isKey key = true) (network : p ≠ .stdio) :
    Server.ofDocument (g.publicDocument id key p token) =
      .ok (Server.published key p (g.publicUrl id p) token) :=
  Server.ofDocument_endpointDocument good network (trimmed?_publicUrl flush id p)

/-! ## 5. Everything that is published -/

/-- What a client of the gateway is to find in a document: an endpoint of the
    network at this url, for the protocol that clients speak. -/
def Reaches (g : Gateway) (id : Uuid) (p : Protocol) (d : Document) : Prop :=
  ∃ s headers, Server.ofDocument d = .ok s ∧ s.protocol = p.upgraded ∧
    s.endpoint = .remote ⟨g.publicUrl id p, headers⟩

theorem reaches_publicDocument (flush : g.Flush) {key : String} {token : Option String}
    (good : Server.isKey key = true) :
    g.Reaches id p (g.publicDocument id key p.upgraded token) := by
  have told : Server.ofDocument (g.publicDocument id key p.upgraded token) = .ok _ :=
    ofDocument_publicDocument flush good p.upgraded_ne_stdio
  rw [publicUrl_upgraded] at told
  exact ⟨_, Server.bearer token, told, rfl, rfl⟩

/-- **What is published can be used, but for one kind.** When the routes of an
    instance can be made from a judged source and a service with a service
    key, the target document is accepted. So is the public document, and
    through the gateway it leads to the gateway's url for the instance. Only a
    proxy of a local process is published with a document that is refused: the
    url is that of the bridged events, the type is the local process's. -/
theorem routes_published (flush : g.Flush) {access : Access} {source : Option Server}
    {target : Option HostingTarget} {r : Routes}
    (judged : ∀ s, source = some s → Server.ofDocument s.document = .ok s)
    (keyed : ∀ t, target = some t → Server.isKey t.key = true)
    (h : g.routes id access p source target = .ok r) :
    (∃ s, Server.ofDocument r.target = .ok s) ∧
      (if access = .proxy ∧ p = .stdio then
        Server.ofDocument r.publicProxy = .error .missingCommand
      else
        (∃ s, Server.ofDocument r.publicProxy = .ok s) ∧
          (access ≠ .direct → g.Reaches id p r.publicProxy)) := by
  cases access with
  | direct =>
    have otherwise : ¬ (Access.direct = .proxy ∧ p = .stdio) := fun both => nomatch both.1
    rw [if_neg otherwise]
    cases source with
    | none => cases h
    | some s =>
      obtain rfl := Except.ok.inj h
      exact ⟨⟨s, judged s rfl⟩, ⟨s, judged s rfl⟩, fun own => absurd rfl own⟩
  | proxy =>
    cases source with
    | none => cases h
    | some s =>
      obtain rfl := Except.ok.inj h
      have good : Server.isKey s.key = true := (Server.accepts_of_ofDocument (judged s rfl)).key
      refine ⟨⟨s, judged s rfl⟩, ?_⟩
      by_cases process : p = .stdio
      · rw [if_pos ⟨rfl, process⟩, process]
        exact Server.ofDocument_endpointDocument_stdio good
      · rw [if_neg fun both => process both.2]
        have reaches : g.Reaches id p (g.publicDocument id s.key p.upgraded none) :=
          reaches_publicDocument flush good
        rw [Protocol.upgraded_of_network process] at reaches
        obtain ⟨t, headers, told, rest⟩ := reaches
        exact ⟨⟨t, told⟩, fun _ => ⟨t, headers, told, rest⟩⟩
  | hosting =>
    have otherwise : ¬ (Access.hosting = .proxy ∧ p = .stdio) := fun both => nomatch both.1
    rw [if_neg otherwise]
    cases target with
    | none => cases h
    | some t =>
      have routes : g.hostingRoutes id p t = .ok r := h
      obtain ⟨-, e⟩ := hostingRoutes_eq_ok.mp routes
      have reaches : g.Reaches id p r.publicProxy := by
        rw [e]
        exact reaches_publicDocument flush (keyed t rfl)
      obtain ⟨s, headers, told, rest⟩ := reaches
      exact ⟨⟨_, ofDocument_hostingRoutes (keyed t rfl) routes⟩, ⟨s, told⟩,
        fun _ => ⟨s, headers, told, rest⟩⟩

def sampleGateway : Gateway := .ofTexts "https://mcp.example.com/" "svc.cluster.local"

theorem flush_sampleGateway : sampleGateway.Flush := by
  intro c hc
  obtain rfl : 'h' = c := Option.some.inj hc
  decide

/-- A service whose image bridges a local process. -/
def sampleService : HostingTarget := ⟨"weather", "mcp-svc-7", "tools", 8000, true, some "secret"⟩

/-- A server of a local process. -/
def sampleProcess : Server where
  key := "weather"
  protocol := .stdio
  fields := ⟨false, true, false, false, false⟩
  endpoint := .launch ⟨"serve", [], .empty⟩
  document := .ofJson (.object [("mcpServers",
    .object [("weather", .object [("command", .text "serve")])])])

theorem judged_sampleProcess : ∀ s, some sampleProcess = some s →
    Server.ofDocument s.document = .ok s := by
  have judged : Server.ofDocument sampleProcess.document = .ok sampleProcess := by decide +kernel
  intro s hs
  obtain rfl := Option.some.inj hs
  exact judged

theorem routes_published_sampleService :
    ∃ r, sampleGateway.routes ⟨7⟩ .hosting .stdio (some sampleProcess) (some sampleService) =
        .ok r ∧
      (∃ s, Server.ofDocument r.target = .ok s) ∧
      (∃ s, Server.ofDocument r.publicProxy = .ok s) ∧
      sampleGateway.Reaches ⟨7⟩ .stdio r.publicProxy := by
  refine ⟨_, rfl, ?_⟩
  have keyed : ∀ t, some sampleService = some t → Server.isKey t.key = true := by
    intro t ht
    obtain rfl := Option.some.inj ht
    decide
  have made : sampleGateway.routes ⟨7⟩ .hosting .stdio (some sampleProcess) (some sampleService) =
      .ok _ := rfl
  obtain ⟨target, told, reaches⟩ :=
    routes_published flush_sampleGateway judged_sampleProcess keyed made
  exact ⟨target, told, reaches (by decide)⟩

/-- **A proxy of a local process is published with a document that nobody can
    use.** -/
theorem proxied_process_not_usable :
    ¬ ∀ (g : Gateway) (id : Uuid) (access : Access) (p : Protocol) (source : Option Server)
      (target : Option HostingTarget) (r : Routes), g.Flush →
      (∀ s, source = some s → Server.ofDocument s.document = .ok s) →
      (∀ t, target = some t → Server.isKey t.key = true) →
      g.routes id access p source target = .ok r → ∃ s, Server.ofDocument r.publicProxy = .ok s := by
  intro usable
  obtain ⟨s, accepted⟩ := usable sampleGateway ⟨7⟩ .proxy .stdio (some sampleProcess) none _
    flush_sampleGateway judged_sampleProcess (fun t ht => nomatch ht) rfl
  have refused : Server.ofDocument (sampleGateway.publicDocument ⟨7⟩ "weather" .stdio none) =
      .error .missingCommand := Server.ofDocument_endpointDocument_stdio (by decide)
  cases accepted.symm.trans refused

end Gateway

end McpFleet
