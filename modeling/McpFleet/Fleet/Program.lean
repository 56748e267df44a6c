/-
  File:      McpFleet/Fleet/Program.lean
  Subject:   Operations of the fleet as programs of single calls to its
             collaborators.

  A program is finished or makes one call and goes on with the answer. What
  it does is fixed by the answers alone, so it can be run to its end, cut off
  behind any call, or run in turns with another program.
-/
import McpFleet.Fleet.Error
import McpFleet.Health

namespace McpFleet.Fleet

/-! ## 1. Calls -/

/-- One call to a collaborator; each is one step. -/
inductive Call where
  | createRecord (i : Instance)
  | updateRecord (i : Instance)
  | deleteRecord (id : Uuid)
  | findRecord (id : Uuid)
  | findRecordByName (name : InstanceName)
  | listRecords
  | findEnvironment (id : EnvironmentId)
  | createContainer (d : Deployment)
  | restartContainer (i : Instance)
  | deleteContainer (i : Instance)
  | containerStatus (i : Instance)
  | containerLogs (i : Instance) (lines : Nat)
  | probe (url : String) (timeout : UInt64)
  | readClock

/-- What a call is answered with. -/
@[reducible] def Call.Answer : Call → Type
  | createRecord _ => Except StoreError Unit
  | updateRecord _ => Except StoreError Unit
  | deleteRecord _ => Except StoreError Unit
  | findRecord _ => Except StoreError (Option Instance)
  | findRecordByName _ => Except StoreError (Option Instance)
  | listRecords => Except StoreError (List Instance)
  | findEnvironment _ => Except DirectoryError (Option Environment)
  | createContainer _ => Except ClusterError Unit
  | restartContainer _ => Except ClusterError String
  | deleteContainer _ => Except ClusterError Unit
  | containerStatus _ => Except ClusterError StatusReport
  | containerLogs _ _ => Except ClusterError (List String)
  | probe _ _ => ProbeOutcome
  | readClock => Instant

/-! ## 2. Programs -/

/-- A program that ends with a result, or makes one call and goes on with the
    answer. -/
inductive Program (α : Type) : Type where
  | done (result : α)
  | call (c : Call) (next : c.Answer → Program α)

namespace Program

variable {α β γ : Type}

/-- One program behind the other. -/
def bind (p : Program α) (f : α → Program β) : Program β :=
  match p with
  | done a => f a
  | call c next => call c fun answer => (next answer).bind f

instance : Monad Program where
  pure := done
  bind := bind

/-- The program that makes one call. -/
def ask (c : Call) : Program c.Answer := call c done

@[simp] theorem done_bind (a : α) (f : α → Program β) : (done a).bind f = f a := rfl

@[simp] theorem bind_done (p : Program α) : p.bind done = p := by
  induction p with
  | done a => rfl
  | call c next ih => exact congrArg (call c) (funext ih)

theorem bind_assoc (p : Program α) (f : α → Program β) (g : β → Program γ) :
    (p.bind f).bind g = p.bind fun a => (f a).bind g := by
  induction p with
  | done a => rfl
  | call c next ih => exact congrArg (call c) (funext ih)

instance : LawfulMonad Program :=
  LawfulMonad.mk' Program (fun p => bind_done p) (fun a f => done_bind a f) bind_assoc

end Program

/-- A program that can be refused. -/
abbrev Task (α : Type) : Type := ExceptT Error Program α

namespace Task

variable {α ε : Type}

/-- The task that makes one call that can fail. -/
def ofCall (p : Program (Except ε α)) (wrap : ε → Error) : Task α :=
  ExceptT.mk do return (← p).mapError wrap

/-- The task that makes one call that cannot fail. -/
def ofAnswer (p : Program α) : Task α := ExceptT.mk do return .ok (← p)

/-- The task that is decided without a call. -/
def ofExcept (e : Except ε α) (wrap : ε → Error) : Task α := ExceptT.mk (.done (e.mapError wrap))

/-- Stores a new record. -/
def createRecord (i : Instance) : Task Unit := ofCall (.ask (.createRecord i)) .store

/-- Stores a record in place of the one before. -/
def updateRecord (i : Instance) : Task Unit := ofCall (.ask (.updateRecord i)) .store

/-- Removes a record from the store. -/
def deleteRecord (id : Uuid) : Task Unit := ofCall (.ask (.deleteRecord id)) .store

/-- The record under an identifier. -/
def findRecord (id : Uuid) : Task (Option Instance) := ofCall (.ask (.findRecord id)) .store

/-- The record of a name. -/
def findRecordByName (name : InstanceName) : Task (Option Instance) :=
  ofCall (.ask (.findRecordByName name)) .store

/-- All records, in the order of a list. -/
def listRecords : Task (List Instance) := ofCall (.ask .listRecords) .store

/-- The environment of a number. -/
def findEnvironment (id : EnvironmentId) : Task (Option Environment) :=
  ofCall (.ask (.findEnvironment id)) .directory

/-- Creates the container of a deployment. -/
def createContainer (d : Deployment) : Task Unit := ofCall (.ask (.createContainer d)) .cluster

/-- Restarts the container of an instance; the answer is a message. -/
def restartContainer (i : Instance) : Task String := ofCall (.ask (.restartContainer i)) .cluster

/-- Removes the container of an instance. -/
def deleteContainer (i : Instance) : Task Unit := ofCall (.ask (.deleteContainer i)) .cluster

/-- What the container of an instance last reported. -/
def containerStatus (i : Instance) : Task StatusReport :=
  ofCall (.ask (.containerStatus i)) .cluster

/-- The last lines of the log of an instance. -/
def containerLogs (i : Instance) (lines : Nat) : Task (List String) :=
  ofCall (.ask (.containerLogs i lines)) .cluster

/-- Tries to reach a url, which gives an outcome in any case. -/
def probe (url : String) (timeout : UInt64) : Task ProbeOutcome :=
  ofAnswer (.ask (.probe url timeout))

/-- The time of the call. -/
def readClock : Task Instant := ofAnswer (.ask .readClock)

/-- The task's result, or its refusal as a value. -/
def attempt (t : Task α) : Task (Except Error α) := ExceptT.mk do return .ok (← t.run)

end Task

end McpFleet.Fleet
