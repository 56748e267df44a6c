/-
  File:      McpFleet/Access.lean
  Subject:   How an instance is reached, which protocol its server speaks, and
             the texts of both.

  Names are read without regard to blanks at the ends and to ASCII case; a
  text that is no name is reported as it was given.
-/
import McpFleet.Json.Record
import McpFleet.Text.Ascii
import McpFleet.Text.Blank

namespace McpFleet

/-! ## 1. Names in text -/

/-- A text that names no member of a family of names. -/
structure UnknownName where
  /-- What the text was read as. -/
  family : String
  given : String
deriving DecidableEq, Repr

/-- Quotes the text as it was given, blanks and all. -/
def UnknownName.message (e : UnknownName) : String := "unknown " ++ e.family ++ ": " ++ e.given

/-- Blanks at the ends cut off, A to Z in lower case. -/
def foldName (s : String) : String := Text.lower (Text.trim s)

/-- Reads a name of the family. -/
def readName {α : Type} (family : String) (options : List (String × α)) (s : String) :
    Except UnknownName α :=
  match options.lookup (foldName s) with
  | some a => .ok a
  | none => .error ⟨family, s⟩

/-! ## 2. Access -/

/-- How clients reach an instance. -/
inductive Access where
  /-- At its own address. -/
  | direct
  /-- Through the gateway, in front of a server that runs elsewhere. -/
  | proxy
  /-- Through the gateway, in front of a container that the fleet runs. -/
  | hosting
deriving DecidableEq, Repr

namespace Access

/-- The name in columns and documents. -/
def name : Access → String
  | direct => "direct"
  | proxy => "proxy"
  | hosting => "hosting"

/-- What a text may say, in lower case. -/
def options : List (String × Access) :=
  [("direct", direct), ("proxy", proxy), ("hosting", hosting)]

/-- Reads a name in any case and with blanks around it. -/
def ofText (s : String) : Except UnknownName Access := readName "access type" options s

/-- A kind of access is written as its name. -/
def toJson (a : Access) : Json := .text a.name

/-- Only the exact names are read from JSON. -/
def ofJson? (j : Json) : Option Access := j.choice? options

end Access

/-! ## 3. Protocols -/

/-- The protocol between a client and a server. -/
inductive Protocol where
  | stdio
  | sse
  | streamableHttp
deriving DecidableEq, Repr

namespace Protocol

/-- The name in records and messages. -/
def name : Protocol → String
  | stdio => "stdio"
  | sse => "sse"
  | streamableHttp => "streamable_http"

/-- The name in server documents. -/
def documentName : Protocol → String
  | stdio => "stdio"
  | sse => "sse"
  | streamableHttp => "streamable-http"

/-- The names that server documents use. -/
def documentOptions : List (String × Protocol) :=
  [("stdio", stdio), ("sse", sse), ("streamable-http", streamableHttp),
    ("streamable_http", streamableHttp), ("streamablehttp", streamableHttp),
    ("http", streamableHttp)]

/-- The protocol that a document means by a text. -/
def ofDocumentName? (s : String) : Option Protocol := documentOptions.lookup (foldName s)

/-- Reads what a document may say; any other text is refused. -/
def ofText (s : String) : Except UnknownName Protocol :=
  readName "MCP protocol" documentOptions s

/-- The protocol that clients of the gateway speak: a local process is bridged
    to server-sent events. -/
def upgraded : Protocol → Protocol
  | stdio => sse
  | sse => sse
  | streamableHttp => streamableHttp

/-- Whether a service speaks the protocol at a url. -/
def isNetwork : Protocol → Bool
  | stdio => false
  | _ => true

/-- A protocol is written as its name. -/
def toJson (p : Protocol) : Json := .text p.name

/-- Only the exact names are read from JSON, not what documents may say. -/
def ofJson? (j : Json) : Option Protocol :=
  j.choice? [("stdio", stdio), ("sse", sse), ("streamable_http", streamableHttp)]

end Protocol

end McpFleet
