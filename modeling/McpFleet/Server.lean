/-
  File:      McpFleet/Server.lean
  Subject:   Server documents: a JSON document that describes one MCP server
             under `mcpServers`, and what is read from it.

  A document is judged from the outside in, and the first rule that it breaks
  is reported: one service, a service key, an entry, a protocol, the fields
  that the protocol needs. A field is missing when it is absent, `null` or a
  text of blanks.

  The protocol is the one that `type` or else `transport` names; without
  these, a url with `sse` in it means server-sent events, another url
  streamable HTTP, and a command a local process.
-/
import McpFleet.Access
import McpFleet.Json.Parser

namespace McpFleet

/-! ## 1. What a document says -/

/-- A server that is started as a local process. -/
structure Launch where
  command : String
  args : List String
  env : Dict String String
deriving DecidableEq

/-- A server that is reached over the network. -/
structure Remote where
  url : String
  headers : Dict String String
deriving DecidableEq

/-- How a service is reached. -/
inductive Endpoint where
  | launch (l : Launch)
  | remote (r : Remote)
deriving DecidableEq

/-- Which of the optional fields an entry has, `null` aside. -/
structure PresentFields where
  args : Bool
  command : Bool
  type : Bool
  transport : Bool
  url : Bool
deriving DecidableEq, Repr

/-- A server document with what was read from it. -/
structure Server where
  key : String
  protocol : Protocol
  fields : PresentFields
  endpoint : Endpoint
  document : Document
deriving DecidableEq

/-- The command and its arguments with blanks between them. -/
def Launch.commandLine (l : Launch) : String := Text.joinWithSpace (l.command :: l.args)

/-- The local process of the service, if it is one. -/
def Server.launch? (s : Server) : Option Launch :=
  match s.endpoint with
  | .launch l => some l
  | .remote _ => none

/-- The url of the service, unless it is a local process. -/
def Server.url? (s : Server) : Option String :=
  match s.endpoint with
  | .launch _ => none
  | .remote r => some r.url

/-! ## 2. What can be wrong with one -/

/-- What the value of a field should have been. -/
inductive FieldShape where
  | text
  | texts
  | textDict
deriving DecidableEq, Repr

/-- What an error says of a field with another shape. -/
def FieldShape.requirement : FieldShape → String
  | text => "must be a string"
  | texts => "must be an array of strings"
  | textDict => "must be an object of string values"

/-- Why a document describes no service. -/
inductive ServerError where
  | invalidJson
  | missingServers
  | serversNotObject
  | serviceCount (found : Nat)
  | invalidKey (key : String)
  | entryNotObject (key : String)
  | invalidField (field : String) (shape : FieldShape)
  | undeterminedProtocol (key : String)
  | unsupportedProtocol (given : String)
  | missingUrl (protocol : Protocol)
  | missingCommand
deriving DecidableEq, Repr

/-- The wording of a refusal, with the path of the field. What a reader of
    JSON says of a text is left out. -/
def ServerError.message : ServerError → String
  | invalidJson => "invalid MCP server configuration JSON"
  | missingServers => "configuration must contain a top-level mcpServers key"
  | serversNotObject => "mcpServers must be a JSON object"
  | serviceCount _ => "mcpServers must contain exactly one service."
  | invalidKey key =>
    "service name '" ++ key ++
      "' is invalid (letters, digits, '_' and '-' only, must not start with a digit)"
  | entryNotObject key => "configuration for service '" ++ key ++ "' must be a JSON object"
  | invalidField field shape => "field '" ++ field ++ "' " ++ shape.requirement
  | undeterminedProtocol key => "unable to determine the MCP protocol for service '" ++ key ++ "'"
  | unsupportedProtocol given => "unsupported MCP protocol type: " ++ given
  | missingUrl protocol => protocol.name ++ " services require a non-empty url"
  | missingCommand => "stdio services require a non-empty command"

/-! ## 3. Reading one -/

namespace Server

/-- The members of a service entry. -/
abbrev Entry := List (String × Json)

/-- Letters, digits, `_` and `-`, at least one, and no digit in front. -/
def isKey (s : String) : Bool :=
  match s.toList with
  | [] => false
  | c :: cs => Text.isWordChar c && !Text.isAsciiDigit c && cs.all Text.isWordChar

/-- A field that is null counts as missing, a blank text does not. -/
def presentFields (entry : Entry) : PresentFields :=
  let present (field : String) : Bool :=
    match Entries.get? field entry with
    | none => false
    | some j => !j.isNull
  ⟨present "args", present "command", present "type", present "transport", present "url"⟩

/-- The trimmed text of a field; `none` when the field is missing. -/
def textField? (entry : Entry) (field : String) : Except ServerError (Option String) :=
  match Entries.get? field entry with
  | none => .ok none
  | some .null => .ok none
  | some (.text s) => .ok (Text.trimmed? s)
  | some _ => .error (.invalidField field .text)

/-- The texts of a list field; a missing list is empty. -/
def textsField (entry : Entry) (field : String) : Except ServerError (List String) :=
  match Entries.get? field entry with
  | none => .ok []
  | some .null => .ok []
  | some j =>
    match j.list? Json.text? with
    | some texts => .ok texts
    | none => .error (.invalidField field .texts)

/-- The texts of an object field; a missing object is empty. -/
def textDictField (entry : Entry) (field : String) : Except ServerError (Dict String String) :=
  match Entries.get? field entry with
  | none => .ok .empty
  | some .null => .ok .empty
  | some j =>
    match j.textDict? with
    | some d => .ok d
    | none => .error (.invalidField field .textDict)

/-- The protocol that a field names, if the field is there. -/
def declaredProtocol? (entry : Entry) (field : String) :
    Except ServerError (Option Protocol) := do
  match ← textField? entry field with
  | none => return none
  | some given =>
    match Protocol.ofDocumentName? given with
    | some p => return some p
    | none => throw (.unsupportedProtocol given)

/-- The protocol that a url suggests. -/
def protocolOfUrl (url : String) : Protocol :=
  if Text.contains url "sse" then .sse else .streamableHttp

/-- The protocol of an entry. -/
def inferProtocol (key : String) (entry : Entry) : Except ServerError Protocol := do
  if let some p ← declaredProtocol? entry "type" then return p
  if let some p ← declaredProtocol? entry "transport" then return p
  if let some url ← textField? entry "url" then return protocolOfUrl url
  if let some _ ← textField? entry "command" then return .stdio
  throw (.undeterminedProtocol key)

/-- The endpoint of an entry whose protocol is known. -/
def readEndpoint (protocol : Protocol) (entry : Entry) : Except ServerError Endpoint := do
  if protocol = .stdio then
    match ← textField? entry "command" with
    | none => throw .missingCommand
    | some command =>
      return .launch ⟨command, ← textsField entry "args", ← textDictField entry "env"⟩
  else
    match ← textField? entry "url" with
    | none => throw (.missingUrl protocol)
    | some url => return .remote ⟨url, ← textDictField entry "headers"⟩

/-- The one service of a document: its key and its value. -/
def soleService (j : Json) : Except ServerError (String × Json) :=
  match j.get? "mcpServers" with
  | none => .error .missingServers
  | some (.object [service]) => .ok service
  | some (.object services) => .error (.serviceCount services.length)
  | some _ => .error .serversNotObject

/-- **Judges a document.** -/
def ofDocument (d : Document) : Except ServerError Server := do
  let (key, value) ← soleService d.tree
  if !isKey key then throw (.invalidKey key)
  match value with
  | .object entry =>
    let protocol ← inferProtocol key entry
    let endpoint ← readEndpoint protocol entry
    return ⟨key, protocol, presentFields entry, endpoint, d⟩
  | _ => throw (.entryNotObject key)

/-- Judges the text of a document. -/
def ofText (s : String) : Except ServerError Server :=
  match Json.parse? s with
  | none => .error .invalidJson
  | some j => ofDocument (.ofJson j)

end Server

/-! ## 4. JSON forms -/

/-- One flag for each field. -/
def PresentFields.toJson (f : PresentFields) : Json :=
  .object [("hasArgs", .bool f.args), ("hasCommand", .bool f.command),
    ("hasTransport", .bool f.transport), ("hasType", .bool f.type), ("hasUrl", .bool f.url)]

/-- The fields in the order of the array form. -/
def PresentFields.fields : List String :=
  ["hasArgs", "hasCommand", "hasType", "hasTransport", "hasUrl"]

/-- A reader passes over all other fields. -/
def PresentFields.shape : Json.Shape := .ofFields fields []

/-- Every flag has to be there. -/
def PresentFields.ofJson? (j : Json) : Option PresentFields := do
  let r ← j.record? fields
  return ⟨← r.required "hasArgs" Json.bool?, ← r.required "hasCommand" Json.bool?,
    ← r.required "hasType" Json.bool?, ← r.required "hasTransport" Json.bool?,
    ← r.required "hasUrl" Json.bool?⟩

/-- The command with its arguments and its environment. -/
def Launch.toJson (l : Launch) : Json :=
  .object [("args", Json.ofTexts l.args), ("command", .text l.command),
    ("env", Json.ofTextDict l.env)]

/-- The fields in the order of the array form. -/
def Launch.fields : List String := ["command", "args", "env"]

/-- A reader passes over all other fields. -/
def Launch.shape : Json.Shape := .ofFields fields []

/-- Every field has to be there; none is judged again. -/
def Launch.ofJson? (j : Json) : Option Launch := do
  let r ← j.record? fields
  return ⟨← r.required "command" Json.text?, ← r.required "args" (Json.list? Json.text?),
    ← r.required "env" Json.textDict?⟩

/-- The url with its headers. -/
def Remote.toJson (r : Remote) : Json :=
  .object [("headers", Json.ofTextDict r.headers), ("url", .text r.url)]

/-- The fields in the order of the array form. -/
def Remote.fields : List String := ["url", "headers"]

/-- A reader passes over all other fields. -/
def Remote.shape : Json.Shape := .ofFields fields []

/-- Every field has to be there; none is judged again. -/
def Remote.ofJson? (j : Json) : Option Remote := do
  let r ← j.record? fields
  return ⟨← r.required "url" Json.text?, ← r.required "headers" Json.textDict?⟩

/-- The kind, and the rest beside it. -/
def Endpoint.toJson : Endpoint → Json
  | .launch l => .object [("config", l.toJson), ("kind", .text "stdio")]
  | .remote r => .object [("config", r.toJson), ("kind", .text "network")]

/-- What is passed over depends on the kind. -/
def Endpoint.shape : Json.Shape :=
  .tagged "kind" "config" [("stdio", Launch.shape), ("network", Remote.shape)]

/-- The kind selects how the rest is read. -/
def Endpoint.ofJson? (j : Json) : Option Endpoint := do
  let r ← j.record? ["kind", "config"]
  if ← r.required "kind" (Json.choice? [("stdio", true), ("network", false)]) then
    return .launch (← r.required "config" Launch.ofJson?)
  else
    return .remote (← r.required "config" Remote.ofJson?)

end McpFleet
