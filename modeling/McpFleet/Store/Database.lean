/-
  File:      McpFleet/Store/Database.lean
  Subject:   Instances kept in a database table.

  The table has a primary key, a unique index on names, columns of limited
  width, and times on the microsecond grid; what its columns take and give
  back is a matter of their kind. A statement that is refused changes nothing.
  The store says of every refusal what it means for the instance; all others
  are failures of the database.
-/
import McpFleet.Store.Columns

namespace McpFleet

/-! ## 1. The table -/

/-- Rows by primary key, as they were handed over but for their times. -/
structure Table where
  columns : Columns
  rows : Dict Uuid Row
deriving DecidableEq

namespace Table

/-- The table without rows. -/
def empty (columns : Columns) : Table := ⟨columns, .empty⟩

/-- The constraint of the primary key. -/
def primaryKey : String := "mcp_instances_pkey"

/-- The unique index on names. -/
def nameIndex : String := "idx_mcp_instances_name"

/-- The columns of limited width, in order. -/
def widths (r : Row) : List (String × Nat) :=
  [(r.name, 100), (r.access, 20), (r.protocol, 32), (r.status, 20)]

/-- The first column that is too wide. -/
def checkWidths (r : Row) : Except DatabaseError Unit :=
  match (widths r).find? (fun w => w.2 < w.1.length) with
  | some w => .error (.valueTooLong w.2)
  | none => .ok ()

/-- Whether another row has the name. -/
def nameTaken (t : Table) (r : Row) : Bool :=
  t.rows.entries.any fun e => e.1 ≠ r.id && e.2.name = r.name

/-- Refuses a name that another row has. -/
def checkName (t : Table) (r : Row) : Except DatabaseError Unit :=
  if t.nameTaken r then .error (.duplicateKey nameIndex) else .ok ()

/-- Puts a row in with no check at all. -/
def put (t : Table) (r : Row) : Table := { t with rows := t.rows.insert r.id r.cutTimes }

/-- Adds a row under a new key. -/
def insert (t : Table) (r : Row) : Except DatabaseError Table := do
  t.columns.check r
  checkWidths r
  if t.rows.contains r.id then throw (.duplicateKey primaryKey)
  t.checkName r
  return t.put r

/-- Replaces the row with this key; gives the number of rows changed. -/
def update (t : Table) (r : Row) : Except DatabaseError (Table × Nat) := do
  t.columns.check r
  if t.rows.contains r.id then
    checkWidths r
    t.checkName r
    return (t.put r, 1)
  else return (t, 0)

/-- Removes the row with this key; gives the number of rows removed. -/
def delete (t : Table) (id : Uuid) : Table × Nat :=
  if t.rows.contains id then ({ t with rows := t.rows.erase id }, 1) else (t, 0)

/-- The first row with this name. -/
def findByName? (t : Table) (name : String) : Except DatabaseError (Option Row) := do
  t.columns.checkText name
  return t.rows.values.find? (fun r => r.name = name)

/-- All rows, in the order of a list. -/
def list (t : Table) : List Row := sortRows t.rows.values

end Table

/-! ## 2. The store over it -/

/-- A database with the table, which may be out of reach, and whose next
    statement may be bound to fail. -/
structure Database where
  table : Table
  reachable : Bool
  nextFailure : Option DatabaseError
deriving DecidableEq

namespace Database

/-- An empty table within reach. -/
def empty (columns : Columns := .plain) : Database := ⟨.empty columns, true, none⟩

/-- Runs one statement. -/
def statement {α : Type} (d : Database) (run : Table → Except DatabaseError (Table × α))
    (meaning : DatabaseError → StoreError) : Except StoreError α × Database :=
  if !d.reachable then (.error .unreachable, d)
  else match d.nextFailure with
    | some e => (.error (meaning e), { d with nextFailure := none })
    | none =>
      match run d.table with
      | .error e => (.error (meaning e), d)
      | .ok (t, a) => (.ok a, { d with table := t })

/-- A database error that says nothing about the instance. -/
def failure (e : DatabaseError) : StoreError := .persistence e.message

/-- Whether the unique index on names was violated. -/
def isNameViolation (e : DatabaseError) : Bool :=
  e.code = DatabaseError.uniqueViolation && e.constraint = some Table.nameIndex

/-- A unique violation is a name that is taken or else a key that is taken. -/
def createFailure (i : Instance) (e : DatabaseError) : StoreError :=
  if isNameViolation e then .duplicateName i.name
  else if e.code = DatabaseError.uniqueViolation then .duplicateInstance i.id
  else failure e

/-- A unique violation of the index on names is a name that is taken. -/
def updateFailure (i : Instance) (e : DatabaseError) : StoreError :=
  if isNameViolation e then .duplicateName i.name else failure e

/-- Stores a new instance. -/
def create (d : Database) (i : Instance) : Except StoreError Unit × Database :=
  d.statement (fun t => (t.insert (.ofInstance i)).map (·, ())) (createFailure i)

/-- No row changed means that there is no such instance. -/
def changed (id : Uuid) (result : Except StoreError Nat) : Except StoreError Unit :=
  match result with
  | .error e => .error e
  | .ok 0 => .error (.notFound id)
  | .ok _ => .ok ()

/-- Replaces a stored instance. -/
def update (d : Database) (i : Instance) : Except StoreError Unit × Database :=
  let r := d.statement (fun t => t.update (.ofInstance i)) (updateFailure i)
  (changed i.id r.1, r.2)

/-- Removes a stored instance. -/
def delete (d : Database) (id : Uuid) : Except StoreError Unit × Database :=
  let r := d.statement (fun t => .ok (t.delete id)) failure
  (changed id r.1, r.2)

/-- The instances in rows: first every row is read from its columns, then every
    instance from its row. -/
def readInstances (columns : Columns) (rows : List Row) : Except StoreError (List Instance) := do
  let rows ← rows.mapM columns.readRow
  rows.mapM fun row => row.toInstance.mapError .invalidData

/-- Runs a statement that selects rows, and reads the instances in them. -/
def query (d : Database) (run : Table → Except DatabaseError (List Row)) :
    Except StoreError (List Instance) × Database :=
  let r := d.statement (fun t => (run t).map (t, ·)) failure
  (r.1.bind (readInstances d.table.columns), r.2)

/-- The instance under an identifier. -/
def find (d : Database) (id : Uuid) : Except StoreError (Option Instance) × Database :=
  let r := d.query (fun t => .ok (t.rows.get? id).toList)
  (r.1.map List.head?, r.2)

/-- The instance of a name. -/
def findByName (d : Database) (name : InstanceName) :
    Except StoreError (Option Instance) × Database :=
  let r := d.query (fun t => (t.findByName? name.text).map Option.toList)
  (r.1.map List.head?, r.2)

/-- All instances, in the order of a list. -/
def list (d : Database) : Except StoreError (List Instance) × Database :=
  d.query (fun t => .ok t.list)

end Database

end McpFleet
