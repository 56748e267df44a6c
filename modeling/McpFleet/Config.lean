/-
  File:      McpFleet/Config.lean
  Subject:   The settings of a fleet: how they are read, what values they may
             have, and the gateway that they describe.

  Every setting has a value for when it is missing; a setting of another name
  is refused. Values are judged in the order of the fields.
-/
import McpFleet.Gateway
import McpFleet.Json.Parser
import McpFleet.Url

namespace McpFleet

/-- The settings of a fleet. -/
structure Config where
  /-- How long a probe of an endpoint may take, in seconds. -/
  probeTimeout : UInt64
  /-- Whether a probe goes on with an HTTP request. -/
  httpProbe : Bool
  publicBaseUrl : String
  clusterDomain : String
  /-- How the addresses of images begin that can bridge a local process. -/
  runtimeImages : List String
  /-- How many lines of a log are shown when no number is asked for. -/
  logTailLines : UInt64
deriving DecidableEq, Repr

/-- Why a configuration is refused. -/
inductive ConfigError where
  | unreadable
  | zeroProbeTimeout
  | probeTimeoutTooLong
  | relativeBaseUrl
  | emptyClusterDomain
  | zeroLogTail
deriving DecidableEq, Repr

namespace ConfigError

/-- Names the field as it is called in a document, and what is wrong. -/
def invalid (field reason : String) : String :=
  "invalid configuration value for " ++ field ++ ": " ++ reason

/-- The wording of a refusal. What a reader of JSON says of a document is left
    out. -/
def message : ConfigError → String
  | unreadable => "invalid configuration document"
  | zeroProbeTimeout => invalid "probe_timeout_secs" "must be positive"
  | probeTimeoutTooLong => invalid "probe_timeout_secs" "must not exceed 300 seconds"
  | relativeBaseUrl => invalid "public_base_url" "must be an absolute URL"
  | emptyClusterDomain => invalid "cluster_domain" "must not be empty"
  | zeroLogTail => invalid "log_tail_lines" "must be positive"

end ConfigError

namespace Config

/-! ## 1. Values for missing settings -/

/-- The settings of a document without fields. -/
def default : Config where
  probeTimeout := 5
  httpProbe := true
  publicBaseUrl := "http://localhost:8080"
  clusterDomain := "svc.cluster.local"
  runtimeImages := ["mcp-hosting-runtime"]
  logTailLines := 100

/-- Probes go no further than a connection. -/
def tcpOnly : Config := { default with httpProbe := false }

/-! ## 2. Judging -/

/-- The longest time for a probe, in seconds. -/
def maxProbeTimeout : UInt64 := 300

/-- Whether a text can be read as a url without another one to start from. -/
def isAbsoluteUrl (s : String) : Bool :=
  match Url.ofText s with
  | .ok _ => true
  | .error _ => false

/-- **Judges the values.** -/
def check (c : Config) : Except ConfigError Unit :=
  if c.probeTimeout = 0 then .error .zeroProbeTimeout
  else if maxProbeTimeout < c.probeTimeout then .error .probeTimeoutTooLong
  else if !isAbsoluteUrl c.publicBaseUrl then .error .relativeBaseUrl
  else if (Gateway.trimDots c.clusterDomain).isEmpty then .error .emptyClusterDomain
  else if c.logTailLines = 0 then .error .zeroLogTail
  else .ok ()

/-! ## 3. Reading -/

/-- Fields that are missing keep their default, and no other field may be
    there. -/
def ofJson? (j : Json) : Option Config := do
  let r ← j.closedRecord? ["probe_timeout_secs", "http_probe", "public_base_url",
    "cluster_domain", "hosting_runtime_images", "log_tail_lines"]
  return {
    probeTimeout := ← r.withDefault "probe_timeout_secs" default.probeTimeout Json.uint64?
    httpProbe := ← r.withDefault "http_probe" default.httpProbe Json.bool?
    publicBaseUrl := ← r.withDefault "public_base_url" default.publicBaseUrl Json.text?
    clusterDomain := ← r.withDefault "cluster_domain" default.clusterDomain Json.text?
    runtimeImages := ← r.withDefault "hosting_runtime_images" default.runtimeImages
      (Json.list? Json.text?)
    logTailLines := ← r.withDefault "log_tail_lines" default.logTailLines Json.uint64? }

/-- Reads and judges settings. -/
def ofText (s : String) : Except ConfigError Config := do
  match (Json.parse? s).bind ofJson? with
  | none => throw .unreadable
  | some c =>
    c.check
    return c

/-! ## 4. What settings describe -/

/-- The gateway of a fleet with these settings. -/
def gateway (c : Config) : Gateway := .ofTexts c.publicBaseUrl c.clusterDomain

end Config

end McpFleet
