/-
  File:      McpFleet/Store.lean
  Subject:   What every store of instances has in common: its errors, its
             operations, and the order in which it lists instances.
-/
import McpFleet.Row

namespace McpFleet

/-! ## 1. Errors -/

/-- Why a store refuses what it is asked, or fails. -/
inductive StoreError where
  | duplicateInstance (id : Uuid)
  | duplicateName (name : InstanceName)
  | notFound (id : Uuid)
  /-- What is stored is no instance. -/
  | invalidData (defect : RowDefect)
  /-- The store failed, with its own words. -/
  | persistence (cause : String)
  /-- The store cannot be reached. -/
  | unreachable
deriving DecidableEq, Repr

/-- The wording of a refusal or a failure. -/
def StoreError.message : StoreError → String
  | duplicateInstance id => "duplicate MCP instance identifier: " ++ id.text
  | duplicateName name => "duplicate MCP instance name: " ++ name.text
  | notFound id => "MCP instance not found: " ++ id.text
  | invalidData defect => "invalid persisted MCP instance data: " ++ defect.message
  | persistence cause => "persistence error: " ++ cause
  | unreachable => "persistence error: no connection"

/-! ## 2. Operations -/

/-- What can be made to fail in a store. -/
inductive StoreOperation where
  | create
  | update
  | delete
  | findById
  | findByName
  | listAll
deriving DecidableEq, Repr

/-- The operation as messages name it. -/
def StoreOperation.name : StoreOperation → String
  | create => "create"
  | update => "update"
  | delete => "delete"
  | findById => "find_by_id"
  | findByName => "find_by_name"
  | listAll => "list_all"

/-! ## 3. The order of a list -/

/-- Whether a list shows the first of two moments and identifiers before the
    second: earlier ones first, and by identifier at the same moment. -/
def listedBefore (t : Instant) (a : Uuid) (u : Instant) (b : Uuid) : Prop :=
  t < u ∨ (t = u ∧ a < b)

instance (t : Instant) (a : Uuid) (u : Instant) (b : Uuid) : Decidable (listedBefore t a u b) := by
  unfold listedBefore; infer_instance

/-- Instances by time of creation, then by identifier. -/
def sortInstances (is : List Instance) : List Instance :=
  is.mergeSort fun i j => !decide (listedBefore j.createdAt j.id i.createdAt i.id)

/-- Rows by time of creation, then by identifier. -/
def sortRows (rs : List Row) : List Row :=
  rs.mergeSort fun r s => !decide (listedBefore s.createdAt s.id r.createdAt r.id)

end McpFleet
