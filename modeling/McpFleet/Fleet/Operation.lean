/-
  File:      McpFleet/Fleet/Operation.lean
  Subject:   What the fleet can be asked, as programs of calls.

  Every change is written back as one whole record, and is the last call of
  its operation. Creating, editing, restarting and deleting change the
  cluster first.
-/
import McpFleet.Fleet.Plan

namespace McpFleet.Fleet

/-! ## 1. Looking up -/

/-- The stored instance. -/
def get (id : Uuid) : Task Instance := do
  match ← Task.findRecord id with
  | some i => return i
  | none => throw (.notFound id)

/-- Refuses a name that belongs to an instance other than `owner`. -/
def ensureNameFree (name : InstanceName) (owner : Option Uuid) : Task Unit := do
  match ← Task.findRecordByName name with
  | none => return
  | some i => if owner = some i.id then return else throw (.store (.duplicateName name))

/-- The text is judged as a name before anything is looked up. -/
def findByName (name : String) : Task (Option Instance) := do
  let name ← Task.ofExcept (InstanceName.ofText name) .domain
  Task.findRecordByName name

/-- All instances, in the order of a list. -/
def listAll : Task (List Instance) := Task.listRecords

/-! ## 2. Definitions -/

/-- Judges the name, plans, and stores the instance; a container that was
    created stays when the record is not stored. -/
def create (cfg : Config) (id : Uuid) (access : Access) (d : Definition) : Task Instance := do
  let name ← Task.ofExcept (InstanceName.ofText d.name) .domain
  ensureNameFree name none
  let revision ← plan cfg id access d
  let i := Instance.create id access revision (← Task.readClock)
  Task.createRecord i
  return i

/-- Edits an instance; a kind of access that is stated has to be its own. -/
def edit (cfg : Config) (id : Uuid) (stated : Option Access) (d : Definition) :
    Task Instance := do
  let stored ← get id
  if let some requested := stated then
    if requested ≠ stored.access then throw (.accessImmutable stored.access requested)
  let name ← Task.ofExcept (InstanceName.ofText d.name) .domain
  ensureNameFree name (some id)
  let revision ← revise cfg stored d
  let i := stored.revise revision (← Task.readClock)
  Task.updateRecord i
  return i

/-! ## 3. Life -/

/-- Restarts the container of a hosted instance, and stores what that reports.
    -/
def restart (id : Uuid) : Task Instance := do
  let stored ← get id
  if stored.access ≠ .hosting then throw (.restartNotSupported stored.access)
  let message ← Task.restartContainer stored
  let i ← Task.ofExcept (stored.markRestarting message (← Task.readClock)) .domain
  Task.updateRecord i
  return i

/-- Puts an instance into a state of use; one that is in it is left alone. -/
def setStatus (id : Uuid) (status : InstanceStatus) : Task Instance := do
  let stored ← get id
  match stored.withStatus? status (← Task.readClock) with
  | none => return stored
  | some i =>
    Task.updateRecord i
    return i

/-- The instance is not to be used any more. -/
def disable (id : Uuid) : Task Instance := setStatus id .inactive

/-- The instance is to be used again. -/
def enable (id : Uuid) : Task Instance := setStatus id .active

/-- Removes a hosted instance's container, then the record; when the container
    cannot be removed the record stays. -/
def delete (id : Uuid) : Task Unit := do
  let stored ← get id
  if stored.access = .hosting then Task.deleteContainer stored
  Task.deleteRecord id

/-! ## 4. Health -/

/-- The url that a passthrough instance's traffic goes to. -/
def targetUrl? (i : Instance) : Option String :=
  match Server.ofDocument i.target with
  | .ok s => s.url?
  | .error _ => none

/-- Asks the cluster about a hosted instance, and probes the url of another. -/
def check (cfg : Config) (i : Instance) : Task HealthReport := do
  let report (evidence : Evidence) : HealthReport := ⟨i.id, i.access, i.status, evidence⟩
  if i.access = .hosting then
    return report (.container (← Task.containerStatus i))
  else match targetUrl? i with
    | none => return report (.endpoint (.unreachable "target configuration has no url"))
    | some url => return report (.endpoint (← Task.probe url cfg.probeTimeout))

/-- Checks an instance and writes back what its container reports, if that is
    new; a failure to write is passed over. -/
def status (cfg : Config) (id : Uuid) : Task HealthReport := do
  let stored ← get id
  let report ← check cfg stored
  match report.evidence with
  | .endpoint _ => return report
  | .container r =>
    match stored.withReport? r (← Task.readClock) with
    | none => return report
    | some i =>
      let _ ← Task.attempt (Task.updateRecord i)
      return report

/-! ## 5. Descriptions and logs -/

/-- An instance with the name of its environment, if that could be found. -/
structure Description where
  subject : Instance
  environmentName : Option String
deriving DecidableEq

/-- The members of the instance, and the name of its environment. -/
def Description.toJson (d : Description) : Json :=
  .object (d.subject.members ++ [("environmentName", Json.ofOption .text d.environmentName)])

/-- The name of the environment of an instance, if it can be found. -/
def environmentName? (i : Instance) : Task (Option String) := do
  match i.container with
  | none => return none
  | some c =>
    match ← Task.attempt (Task.findEnvironment c.spec.environmentId) with
    | .ok (some e) => return some e.name
    | .ok none => return none
    | .error _ => return none

/-- An instance with the name of its environment; a failed look-up of that is
    passed over. -/
def describe (id : Uuid) : Task Description := do
  let i ← get id
  return ⟨i, ← environmentName? i⟩

/-- The last lines of a container's log. An instance without a container has
    none, and a failing cluster shows none. -/
def logs (cfg : Config) (id : Uuid) (lines : Option Nat) : Task (List String) := do
  let i ← get id
  if i.container.isNone then return []
  let count := lines.getD cfg.logTailLines.toNat
  match ← Task.attempt (Task.containerLogs i count) with
  | .ok ls => return ls
  | .error _ => return []

end McpFleet.Fleet
