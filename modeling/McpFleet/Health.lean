/-
  File:      McpFleet/Health.lean
  Subject:   Evidence that an instance can serve, and the report that is made
             from it.
-/
import McpFleet.Instance.Json
import McpFleet.Url

namespace McpFleet

/-- What a probe of an endpoint found. -/
structure ProbeOutcome where
  reachable : Bool
  detail : Option String
deriving DecidableEq, Repr

namespace ProbeOutcome

/-- The outcome of a probe that failed, with the reason. -/
def unreachable (detail : String) : ProbeOutcome := ⟨false, some detail⟩

end ProbeOutcome

/-- What a probe finds when its deadline is beyond the clock: the url is
    judged, and nothing is connected. -/
def probeWithoutDeadline (url : String) : ProbeOutcome :=
  match Url.ofText url with
  | .error e => .unreachable ("invalid URL: " ++ e.message)
  | .ok u =>
    if u.host.isNone then .unreachable "URL has no host"
    else if u.effectivePort?.isNone then .unreachable "URL has no port"
    else .unreachable "timeout is out of range"

/-- What the health of an instance is judged by. -/
inductive Evidence where
  | container (report : StatusReport)
  | endpoint (outcome : ProbeOutcome)
deriving DecidableEq, Repr

/-- A container says so itself, an endpoint has to be reached. -/
def Evidence.isHealthy : Evidence → Bool
  | container report => report.ready
  | endpoint outcome => outcome.reachable

/-- What a check of an instance has found. -/
structure HealthReport where
  id : Uuid
  access : Access
  status : InstanceStatus
  evidence : Evidence
deriving DecidableEq

/-! ## JSON forms -/

/-- The source of the evidence, and what it says. -/
def Evidence.toJson : Evidence → Json
  | container r =>
    .object [("isReady", .bool r.ready), ("message", Json.ofOption .text r.message),
      ("source", .text "container"), ("status", r.status.toJson)]
  | endpoint o =>
    .object [("detail", Json.ofOption .text o.detail), ("probe_http", .bool o.reachable),
      ("source", .text "endpoint")]

/-- The instance as far as it matters, and the evidence under the key of a
    probe. -/
def HealthReport.toJson (r : HealthReport) : Json :=
  .object [("accessType", r.access.toJson), ("instanceId", r.id.toJson),
    ("probe", r.evidence.toJson), ("status", r.status.toJson)]

end McpFleet
