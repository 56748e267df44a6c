/-
  File:      McpFleet/Fleet/Request.lean
  Subject:   Requests to the fleet as data, and the replies to them.

  A request carries all that is needed for it; the identifier of a new
  instance is drawn by whoever makes the request. `Request.task` is the
  program that a request stands for.
-/
import McpFleet.Fleet.Operation

namespace McpFleet.Fleet

/-! ## 1. Requests -/

/-- What the fleet is asked to do. -/
inductive Request where
  | create (id : Uuid) (access : Access) (d : Definition)
  | edit (id : Uuid) (stated : Option Access) (d : Definition)
  | restart (id : Uuid)
  | disable (id : Uuid)
  | enable (id : Uuid)
  | delete (id : Uuid)
  | status (id : Uuid)
  | get (id : Uuid)
  | find (name : String)
  | list
  | describe (id : Uuid)
  | logs (id : Uuid) (lines : Option Nat)
deriving DecidableEq

/-- The instance that a request names. -/
def Request.subject? : Request → Option Uuid
  | create id _ _ => some id
  | edit id _ _ => some id
  | restart id => some id
  | disable id => some id
  | enable id => some id
  | delete id => some id
  | status id => some id
  | get id => some id
  | find _ => none
  | list => none
  | describe id => some id
  | logs id _ => some id

/-! ## 2. Replies -/

/-- What a request that is granted is answered with. -/
inductive Reply where
  /-- The instance as it is stored now. -/
  | stored (i : Instance)
  | removed
  | found (i : Option Instance)
  | listed (is : List Instance)
  | health (r : HealthReport)
  | described (d : Description)
  | logLines (lines : List String)
deriving DecidableEq

/-- **What a request stands for.** -/
def Request.task (cfg : Config) : Request → Task Reply
  | create id access d => .stored <$> Fleet.create cfg id access d
  | edit id stated d => .stored <$> Fleet.edit cfg id stated d
  | restart id => .stored <$> Fleet.restart id
  | disable id => .stored <$> Fleet.disable id
  | enable id => .stored <$> Fleet.enable id
  | delete id => (fun _ => .removed) <$> Fleet.delete id
  | status id => .health <$> Fleet.status cfg id
  | get id => .stored <$> Fleet.get id
  | find name => .found <$> Fleet.findByName name
  | list => .listed <$> Fleet.listAll
  | describe id => .described <$> Fleet.describe id
  | logs id lines => .logLines <$> Fleet.logs cfg id lines

end McpFleet.Fleet
