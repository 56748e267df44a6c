/-
  File:      McpFleet/Url.lean
  Subject:   Absolute URLs as the URL standard reads them: scheme, host and port,
             and why a text is no URL.

  Control characters and blanks at the ends and tabs and line ends anywhere
  are dropped first. A special scheme (http, https, ws, wss, ftp) always has
  a host, behind any number of slashes of either kind; another scheme has one
  behind two slashes. A port that is the scheme's own is not kept.
-/
import McpFleet.Text.Blank
import McpFleet.Url.Host

namespace McpFleet

/-- A url as far as its port. -/
structure Url where
  scheme : String
  host : Option Url.Host
  port : Option UInt16
deriving DecidableEq, Repr

namespace Url

/-! ## 1. Schemes -/

/-- Characters that are cut off both ends. -/
def isControlOrSpace (c : Char) : Bool := c.toNat ≤ 0x20

/-- Characters that are passed over everywhere. -/
def isTabOrLineEnd (c : Char) : Bool := c == '\t' || c == '\n' || c == '\r'

/-- The characters that count. -/
def clean (s : String) : List Char :=
  (Text.stripWhile isControlOrSpace s.toList).filter (fun c => !isTabOrLineEnd c)

/-- What may stand behind the first letter of a scheme. -/
def isSchemeChar (c : Char) : Bool :=
  Text.isAsciiLetter c || Text.isAsciiDigit c || c == '+' || c == '-' || c == '.'

/-- The scheme in lower case, and what follows its colon. -/
def scheme? (cs : List Char) : Option (String × List Char) :=
  match cs with
  | [] => none
  | c :: _ =>
    if !Text.isAsciiLetter c then none
    else match cs.dropWhile isSchemeChar with
      | ':' :: rest =>
        some (String.ofList ((cs.takeWhile isSchemeChar).map Text.lowerChar), rest)
      | _ => none

/-- The port of a special scheme. -/
def defaultPort? (scheme : String) : Option UInt16 :=
  if scheme = "http" ∨ scheme = "ws" then some 80
  else if scheme = "https" ∨ scheme = "wss" then some 443
  else if scheme = "ftp" then some 21
  else none

/-- Special schemes other than `file`. -/
def isSpecial (scheme : String) : Bool := (defaultPort? scheme).isSome

/-! ## 2. Authorities -/

/-- Where the host and its port end. A backslash counts in special schemes. -/
def isPathStart (special : Bool) (c : Char) : Bool :=
  c == '/' || c == '?' || c == '#' || (special && c == '\\')

/-- What stands before the last `@`, if there is one, and what stands behind
    it. -/
def splitCredentials (cs : List Char) : Option (List Char) × List Char :=
  if cs.contains '@' then
    let host := (cs.reverse.takeWhile (· ≠ '@')).reverse
    (some (cs.take (cs.length - host.length - 1)), host)
  else (none, cs)

/-- A user name or a password that is not empty. -/
def hasCredentials (credentials : Option (List Char)) : Bool :=
  match credentials with
  | none => false
  | some cs =>
    match cs.dropWhile (· ≠ ':') with
    | _ :: password => cs.head? ≠ some ':' || !password.isEmpty
    | [] => !cs.isEmpty

/-- Splits at the first colon outside brackets. -/
def splitPort : Bool → List Char → List Char × List Char
  | _, [] => ([], [])
  | inside, c :: cs =>
    if c = ':' ∧ !inside then ([], c :: cs)
    else
      let inside := if c = '[' then true else if c = ']' then false else inside
      let split := splitPort inside cs
      (c :: split.1, split.2)

/-- The port that digits write; there may be none, and of a special scheme its
    own port is not kept. -/
def portOfDigits (scheme : String) (digits : List Char) : Except Error (Option UInt16) :=
  let n := Text.digitsValue digits
  if 0xFFFF < n then .error .invalidPort
  else if digits.isEmpty ∨ defaultPort? scheme = some (.ofNat n) then .ok none
  else .ok (some (.ofNat n))

/-- The port behind a host. -/
def port? (scheme : String) : List Char → Except Error (Option UInt16)
  | ':' :: cs =>
    let digits := cs.takeWhile Text.isAsciiDigit
    match cs.dropWhile Text.isAsciiDigit with
    | [] => portOfDigits scheme digits
    | '\\' :: _ => portOfDigits scheme digits
    | _ :: _ => .error .invalidPort
  | _ => .ok none

/-- Reads the host and the port of a URL whose authority begins here. -/
def readAuthority (scheme : String) (special : Bool) (cs : List Char) : Except Error Url := do
  let authority := cs.takeWhile (fun c => !isPathStart special c)
  let rest := cs.dropWhile (fun c => !isPathStart special c)
  let (credentials, hostPort) := splitCredentials authority
  if credentials = some [] ∧ hostPort.isEmpty ∧ !rest.isEmpty then throw .emptyHost
  let (hostText, portText) := splitPort false hostPort
  let host ← if special then
      if hostText.isEmpty then throw .emptyHost else (specialHost hostText).map some
    else opaqueHost? hostText
  if host.isNone ∧ (!portText.isEmpty ∨ hasCredentials credentials) then throw .emptyHost
  let port ← port? scheme portText
  return ⟨scheme, host, port⟩

/-! ## 3. Files -/

/-- A letter and a colon or a bar: a drive, not a host. -/
def isDriveLetter : List Char → Bool
  | [c, d] => Text.isAsciiLetter c && (d == ':' || d == '|')
  | _ => false

/-- Both slashes separate the segments of a file path. -/
def isSlash (c : Char) : Bool := c == '/' || c == '\\'

/-- The text with `%2e` read as a dot. -/
def readDots : List Char → List Char
  | '%' :: '2' :: c :: cs =>
    if c = 'e' ∨ c = 'E' then '.' :: readDots cs else '%' :: '2' :: readDots (c :: cs)
  | c :: cs => c :: readDots cs
  | [] => []
termination_by cs => cs.length

/-- Takes the last of some segments back, which is given first. One that has
    the form of a drive stays. -/
def takeBack : List (List Char) → List (List Char)
  | [] => []
  | last :: earlier => if isDriveLetter last then last :: earlier else earlier

/-- Whether a path begins with a drive at some moment while its segments are
    taken in. Before these segments stand others, the last one first. -/
def reachesDrive : List (List Char) → List (List Char) → Bool
  | _, [] => false
  | before, segment :: rest =>
    let dots := readDots segment
    if dots = ['.', '.'] then reachesDrive (takeBack before) rest
    else if dots = ['.'] then reachesDrive before rest
    else (before.isEmpty && isDriveLetter segment) || reachesDrive (segment :: before) rest

/-- The segments of a path up to a query or fragment. -/
def segments (cs : List Char) : List (List Char) :=
  let path := (cs.takeWhile (fun c => c ≠ '?' && c ≠ '#')).map fun c => if c = '\\' then '/' else c
  match path with
  | '/' :: path => Text.splitOn '/' path
  | path => Text.splitOn '/' path

/-- The host of a `file` URL: what stands behind two slashes, unless that is
    empty, a drive or `localhost`, or the path begins with a drive. -/
def fileHost? (cs : List Char) : Except Error (Option Host) :=
  match cs with
  | c :: d :: cs =>
    if isSlash c && isSlash d then
      let text := cs.takeWhile (fun c => !isPathStart true c)
      let path := cs.dropWhile (fun c => !isPathStart true c)
      if text.isEmpty || isDriveLetter text then .ok none
      else do
        let host ← specialHost text
        if host = .domain "localhost" ∨ reachesDrive [] (segments path) then return none
        else return some host
    else .ok none
  | _ => .ok none

/-! ## 4. URLs -/

/-- **Reads an absolute URL.** -/
def ofText (s : String) : Except Error Url :=
  match scheme? (clean s) with
  | none => .error .noScheme
  | some (scheme, rest) =>
    if scheme = "file" then (fileHost? rest).map fun host => ⟨scheme, host, none⟩
    else if isSpecial scheme then readAuthority scheme true (rest.dropWhile isSlash)
    else match rest with
      | '/' :: '/' :: rest => readAuthority scheme false rest
      | _ => .ok ⟨scheme, none, none⟩

/-- The port to connect to. -/
def effectivePort? (u : Url) : Option UInt16 := u.port.or (defaultPort? u.scheme)

end Url

end McpFleet
