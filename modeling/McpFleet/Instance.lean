/-
  File:      McpFleet/Instance.lean
  Subject:   Registered instances and what happens to one during its life.

  Every change other than a refused one sets the time of the last change; the
  identifier, the kind of access and the time of creation never change.
-/
import McpFleet.Gateway
import McpFleet.Hosting
import McpFleet.Instant
import McpFleet.InstanceName

namespace McpFleet

/-- What an edit replaces, and a new instance begins with. -/
structure Revision where
  name : InstanceName
  protocol : Protocol
  source : Document
  routes : Routes
  container : Option Hosting.Container
deriving DecidableEq

/-- A service of the fleet as it is stored. -/
structure Instance where
  id : Uuid
  name : InstanceName
  access : Access
  protocol : Protocol
  /-- The document as it was submitted. -/
  source : Document
  /-- Where traffic goes. -/
  target : Document
  /-- What clients are told. -/
  publicProxy : Document
  status : InstanceStatus
  container : Option Hosting.Container
  message : Option String
  createdAt : Instant
  updatedAt : Instant
deriving DecidableEq

namespace Instance

/-- A new instance, in use from the start. -/
def create (id : Uuid) (access : Access) (r : Revision) (now : Instant) : Instance where
  id := id
  name := r.name
  access := access
  protocol := r.protocol
  source := r.source
  target := r.routes.target
  publicProxy := r.routes.publicProxy
  status := .active
  container := r.container
  message := none
  createdAt := now
  updatedAt := now

/-- The instance after an edit. -/
def revise (i : Instance) (r : Revision) (now : Instant) : Instance :=
  { i with
    name := r.name
    protocol := r.protocol
    source := r.source
    target := r.routes.target
    publicProxy := r.routes.publicProxy
    container := r.container
    message := none
    updatedAt := now }

/-- The instance after its container was asked to start again. -/
def markRestarting (i : Instance) (message : String) (now : Instant) :
    Except DomainError Instance :=
  match i.container with
  | none => .error (.notHosted i.id)
  | some c => .ok { i with
      container := some c.resetToPending
      status := .active
      message := if Text.isBlankText message then none else some message
      updatedAt := now }

/-- The instance in a state of use; `none` when it is in that state already. -/
def withStatus? (i : Instance) (status : InstanceStatus) (now : Instant) : Option Instance :=
  if i.status = status then none else some { i with status, updatedAt := now }

/-- The message after a report: the report's own, or else the one before. -/
def messageAfter (i : Instance) (r : StatusReport) : Option String := r.message.or i.message

/-- Whether a report says something new about the instance's container. -/
def differsFrom (i : Instance) (c : Hosting.Container) (r : StatusReport) : Bool :=
  c.status ≠ r.status || c.ready ≠ r.ready || i.messageAfter r ≠ i.message

/-- The instance after a report; `none` when it says nothing new, or when
    there is no container. -/
def withReport? (i : Instance) (r : StatusReport) (now : Instant) : Option Instance :=
  match i.container with
  | none => none
  | some c =>
    if i.differsFrom c r then
      some { i with
        container := some (c.withReport r)
        message := i.messageAfter r
        updatedAt := now }
    else none

/-- What the container last reported, if there is one. -/
def containerStatus? (i : Instance) : Option ContainerStatus := i.container.map (·.status)

/-- An instance without a container is never ready. -/
def isReady (i : Instance) : Bool :=
  match i.container with
  | none => false
  | some c => c.ready

end Instance

end McpFleet
