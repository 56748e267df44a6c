/-
  File:      McpFleet/Environment.lean
  Subject:   The environments that containers can run in, and the directory
             that knows them.

  A lookup in the directory can fail as a whole; that is an error, while an
  identifier that nothing is stored under is an answer.
-/
import McpFleet.Access
import McpFleet.DomainError
import McpFleet.Json.Shape

namespace McpFleet

/-! ## 1. Identifiers -/

/-- The number of an environment. -/
structure EnvironmentId where
  value : Int64
deriving DecidableEq, Repr

namespace EnvironmentId

instance : SortKey Int where
  irrefl := Int.lt_irrefl
  trans := Int.lt_trans
  connected := Int.lt_trichotomy

instance : SortKey EnvironmentId :=
  SortKey.lift (fun e => e.value.toInt) fun a b h => by
    cases a; cases b; exact congrArg _ (Int64.toInt_inj.mp h)

/-- A positive number is an identifier. -/
def ofInt64 (n : Int64) : Except DomainError EnvironmentId :=
  if n ≤ 0 then .error (.invalidEnvironmentId n) else .ok ⟨n⟩

/-- The number in decimal digits. -/
def text (e : EnvironmentId) : String := Text.ofInt e.value.toInt

/-- The number alone. -/
def toJson (e : EnvironmentId) : Json := .integer e.value.toInt

/-- Any number of 64 bits with a sign, whether an environment can have it or
    not. -/
def ofJson? (j : Json) : Option EnvironmentId := j.int64?.map (⟨·⟩)

end EnvironmentId

/-! ## 2. Environments -/

/-- What runs the containers of an environment. -/
inductive EnvironmentKind where
  | kubernetes
  | docker
deriving DecidableEq, Repr

namespace EnvironmentKind

/-- The name in documents. -/
def name : EnvironmentKind → String
  | kubernetes => "kubernetes"
  | docker => "docker"

/-- What a text may say, in lower case. -/
def options : List (String × EnvironmentKind) :=
  [("kubernetes", kubernetes), ("docker", docker)]

/-- Reads a name in any case and with blanks around it. -/
def ofText (s : String) : Except UnknownName EnvironmentKind :=
  readName "environment type" options s

/-- A kind is written as its name. -/
def toJson (k : EnvironmentKind) : Json := .text k.name

/-- Only the exact names are read from JSON. -/
def ofJson? (j : Json) : Option EnvironmentKind := j.choice? options

end EnvironmentKind

/-- A place where containers run. -/
structure Environment where
  id : EnvironmentId
  name : String
  kind : EnvironmentKind
  /-- The namespace that containers are put in. -/
  nameSpace : String
  config : Document
deriving DecidableEq

namespace Environment

/-- The environment with its configuration as a document inside. -/
def toJson (e : Environment) : Json :=
  .object [("config", e.config.tree), ("environmentType", e.kind.toJson), ("id", e.id.toJson),
    ("name", .text e.name), ("namespace", .text e.nameSpace)]

/-- The fields in the order of the array form. -/
def fields : List String := ["id", "name", "environmentType", "namespace", "config"]

/-- A reader passes over all other fields. -/
def shape : Json.Shape := .ofFields fields []

/-- Every field has to be there. -/
def ofJson? (j : Json) : Option Environment := do
  let r ← j.record? fields
  return ⟨← r.required "id" EnvironmentId.ofJson?, ← r.required "name" Json.text?,
    ← r.required "environmentType" EnvironmentKind.ofJson?, ← r.required "namespace" Json.text?,
    ← r.required "config" Json.document?⟩

end Environment

/-! ## 3. The directory -/

/-- The directory cannot be asked. -/
inductive DirectoryError where
  | unavailable
deriving DecidableEq, Repr

/-- The wording of a failed look-up. -/
def DirectoryError.message : DirectoryError → String
  | unavailable => "environment lookup failed: environment directory unavailable"

/-- The environments that can be looked up, unless none can. -/
structure Directory where
  environments : Dict EnvironmentId Environment
  available : Bool

namespace Directory

/-- No environments, all of which can be looked up. -/
def empty : Directory := ⟨.empty, true⟩

/-- Puts an environment in, in place of one with the same number. -/
def insert (d : Directory) (e : Environment) : Directory :=
  { d with environments := d.environments.insert e.id e }

/-- The environment of a number, if there is one. -/
def find (d : Directory) (id : EnvironmentId) : Except DirectoryError (Option Environment) :=
  if d.available then .ok (d.environments.get? id) else .error .unavailable

end Directory

end McpFleet
