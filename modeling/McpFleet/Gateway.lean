/-
  File:      McpFleet/Gateway.lean
  Subject:   The gateway that instances are published through, and the two
             documents that it derives for an instance: where its traffic goes
             and what clients are told.

  A direct instance is published as it is. A proxy instance keeps its
  document for the traffic and is published under the gateway's url. A hosted
  instance gets its traffic sent to the service of its container, and is
  published under the gateway's url with its access token.
-/
import McpFleet.Server
import McpFleet.Uuid

namespace McpFleet

/-! ## 1. Documents of one endpoint -/

/-- The headers member of an endpoint that wants a token. -/
def tokenHeaders : Option String → List (String × Json)
  | none => []
  | some token => [("headers", .object [("Authorization", .text ("Bearer " ++ token))])]

/-- A server document for one network endpoint. -/
def endpointTree (key : String) (protocol : Protocol) (url : String) (token : Option String) :
    Json :=
  .object [("mcpServers", .object [(key, .object
    (tokenHeaders token ++ [("type", .text protocol.documentName), ("url", .text url)]))])]

theorem endpointTree_ordered (key : String) (protocol : Protocol) (url : String)
    (token : Option String) : (endpointTree key protocol url token).Ordered := by
  have sole (k : String) {j : Json} (h : j.Ordered) : (Json.object [(k, j)]).Ordered :=
    .object (fun m hm => by rw [List.mem_singleton.mp hm]; exact h) (List.pairwise_singleton _ _)
  refine sole _ (sole _ (.object ?_ ?_))
  · intro m hm
    cases token with
    | none =>
      rcases List.mem_cons.mp hm with e | hm
      · rw [e]; exact .text _
      · rw [List.mem_singleton.mp hm]; exact .text _
    | some t =>
      rcases List.mem_cons.mp hm with e | hm
      · rw [e]; exact sole _ (.text _)
      · rcases List.mem_cons.mp hm with e | hm
        · rw [e]; exact .text _
        · rw [List.mem_singleton.mp hm]; exact .text _
  · cases token with
    | none =>
      refine List.pairwise_cons.mpr ⟨fun m hm => ?_, List.pairwise_singleton _ _⟩
      rw [List.mem_singleton.mp hm]
      exact (by decide : "type" < "url")
    | some t =>
      refine List.pairwise_cons.mpr ⟨fun m hm => ?_, ?_⟩
      · rcases List.mem_cons.mp hm with e | hm
        · rw [e]; exact (by decide : "headers" < "type")
        · rw [List.mem_singleton.mp hm]; exact (by decide : "headers" < "url")
      · refine List.pairwise_cons.mpr ⟨fun m hm => ?_, List.pairwise_singleton _ _⟩
        rw [List.mem_singleton.mp hm]
        exact (by decide : "type" < "url")

/-- The tree of an endpoint as a document; its keys are in order. -/
def endpointDocument (key : String) (protocol : Protocol) (url : String)
    (token : Option String) : Document :=
  ⟨endpointTree key protocol url token, endpointTree_ordered key protocol url token⟩

/-- The end of the path that a protocol is served under. -/
def endpointPath : Protocol → String
  | .stdio => "/sse"
  | .sse => "/sse"
  | .streamableHttp => "/mcp"

/-! ## 2. Routes -/

/-- The documents derived for an instance. -/
structure Routes where
  /-- Where traffic goes. -/
  target : Document
  /-- What clients are told. -/
  publicProxy : Document
deriving DecidableEq

/-- The service that a container was given. -/
structure HostingTarget where
  key : String
  service : String
  nameSpace : String
  port : UInt16
  /-- Whether the image can bridge a local process to the network. -/
  builtinRuntime : Bool
  token : Option String
deriving DecidableEq, Repr

/-- Why an instance cannot be routed. -/
inductive RouteError where
  | missingSource (access : Access)
  | missingTarget
  | stdioNeedsRuntime
deriving DecidableEq, Repr

/-- The wording of a refusal. -/
def RouteError.message : RouteError → String
  | missingSource access => access.name ++ " instances require a validated source configuration"
  | missingTarget => "hosting instances require an allocated container service"
  | stdioNeedsRuntime => "stdio services can only be hosted on the built-in hosting runtime image"

/-! ## 3. The gateway -/

/-- Where clients and the cluster find the instances. -/
structure Gateway where
  /-- Where the gateway is reached, without slashes at the end. -/
  baseUrl : String
  /-- The end of the host names in the cluster, without dots at its ends. -/
  clusterDomain : String
deriving DecidableEq, Repr

namespace Gateway

/-- Cuts slashes off the end. -/
def trimSlashes (s : String) : String := String.ofList (Text.dropEndWhile (· == '/') s.toList)

/-- Cuts dots off both ends. -/
def trimDots (s : String) : String := String.ofList (Text.stripWhile (· == '.') s.toList)

/-- The gateway of a base url and a cluster domain as they are configured. -/
def ofTexts (baseUrl clusterDomain : String) : Gateway :=
  ⟨trimSlashes baseUrl, trimDots clusterDomain⟩

/-- The url that clients of an instance use. -/
def publicUrl (g : Gateway) (id : Uuid) (protocol : Protocol) : String :=
  g.baseUrl ++ "/mcp/" ++ id.text ++ endpointPath protocol.upgraded

/-- The url of a service in the cluster. -/
def serviceUrl (g : Gateway) (t : HostingTarget) (protocol : Protocol) : String :=
  "http://" ++ t.service ++ "." ++ t.nameSpace ++ "." ++ g.clusterDomain ++ ":"
    ++ Text.ofNat t.port.toNat ++ endpointPath protocol

/-- What clients of an instance are told. -/
def publicDocument (g : Gateway) (id : Uuid) (key : String) (protocol : Protocol)
    (token : Option String) : Document :=
  endpointDocument key protocol (g.publicUrl id protocol) token

/-- The routes to a container of its own; a local process is bridged there,
    which takes the runtime image. -/
def hostingRoutes (g : Gateway) (id : Uuid) (protocol : Protocol) (t : HostingTarget) :
    Except RouteError Routes :=
  if protocol = .stdio ∧ !t.builtinRuntime then .error .stdioNeedsRuntime
  else .ok {
    target := endpointDocument t.key protocol.upgraded (g.serviceUrl t protocol.upgraded) none
    publicProxy := g.publicDocument id t.key protocol.upgraded t.token }

/-- **The routes of an instance.** The first two kinds of access start from a
    judged document, hosting from the container's service. -/
def routes (g : Gateway) (id : Uuid) (access : Access) (protocol : Protocol)
    (source : Option Server) (target : Option HostingTarget) : Except RouteError Routes :=
  match access with
  | .direct =>
    match source with
    | some s => .ok ⟨s.document, s.document⟩
    | none => .error (.missingSource .direct)
  | .proxy =>
    match source with
    | some s => .ok ⟨s.document, g.publicDocument id s.key protocol none⟩
    | none => .error (.missingSource .proxy)
  | .hosting =>
    match target with
    | some t => g.hostingRoutes id protocol t
    | none => .error .missingTarget

end Gateway

end McpFleet
