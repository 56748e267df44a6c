/-
  File:      McpFleet/Store/Registry.lean
  Subject:   Instances kept in memory, with an index of their names.

  An identifier that is taken is reported before a name that is taken. A
  refused operation changes nothing.
-/
import McpFleet.Store

namespace McpFleet

/-- Instances by identifier, and an index of their names. -/
structure Registry where
  instances : Dict Uuid Instance
  names : Dict InstanceName Uuid
deriving DecidableEq

namespace Registry

/-- The registry without instances. -/
def empty : Registry := ⟨.empty, .empty⟩

/-! ## 1. Changing -/

/-- Adds an instance under an identifier and a name that are both free. -/
def create (r : Registry) (i : Instance) : Except StoreError Registry :=
  if r.instances.contains i.id then .error (.duplicateInstance i.id)
  else if r.names.contains i.name then .error (.duplicateName i.name)
  else .ok ⟨r.instances.insert i.id i, r.names.insert i.name i.id⟩

/-- Whether a name belongs to another instance. -/
def nameTakenByOther (r : Registry) (name : InstanceName) (id : Uuid) : Bool :=
  match r.names.get? name with
  | none => false
  | some owner => owner ≠ id

/-- Replaces an instance; its old name is given free when it has a new one. -/
def update (r : Registry) (i : Instance) : Except StoreError Registry :=
  match r.instances.get? i.id with
  | none => .error (.notFound i.id)
  | some stored =>
    if i.name = stored.name then .ok { r with instances := r.instances.insert i.id i }
    else if r.nameTakenByOther i.name i.id then .error (.duplicateName i.name)
    else .ok ⟨r.instances.insert i.id i, (r.names.erase stored.name).insert i.name i.id⟩

/-- Removes an instance, and its name from the index. -/
def delete (r : Registry) (id : Uuid) : Except StoreError Registry :=
  match r.instances.get? id with
  | none => .error (.notFound id)
  | some stored => .ok ⟨r.instances.erase id, r.names.erase stored.name⟩

/-! ## 2. Looking up -/

/-- The instance under an identifier. -/
def find? (r : Registry) (id : Uuid) : Option Instance := r.instances.get? id

/-- The instance that the index has under a name. -/
def findByName? (r : Registry) (name : InstanceName) : Option Instance :=
  (r.names.get? name).bind r.instances.get?

/-- All instances, by the time of their creation and then by identifier. -/
def list (r : Registry) : List Instance := sortInstances r.instances.values

end Registry

end McpFleet
