import Relay.Url.Host
import Relay.Url.Path

/-!
# Addresses

An address (`Url`) is a scheme, perhaps an authority, a path, and perhaps a query and a fragment.
`Url.ofText?` reads one the way browsers do, and `Url.text` writes it:

* controls and spaces around the text and tabs and line ends inside it are dropped;
* the *web schemes* have an authority with a host that is not empty, behind any number of slashes;
  a backslash counts as a slash there, a port that is the scheme's own is left out, and the path
  begins with a slash;
* behind other schemes stands an authority (`//`), a path (`/`) or plain text;
* a file has a host or none, and its path may begin with a drive (`C:`);
* dot segments of a path are resolved, and what a part may not hold is escaped.

`Url.target` is what a request to the address asks for: its path and its query.
-/

namespace Relay

open Url (Host Path)

/-! ## 1. The parts of an address -/

/-- Whom an address goes to. -/
structure Url.Authority where
  user : List Char := []
  password : Option (List Char) := none
  host : Option Host
  port : Option Nat := none
  deriving DecidableEq, Repr

/-- An address. All its parts are in their written form. -/
structure Url where
  scheme : List Char
  authority : Option Url.Authority := none
  path : Path
  query : Option (List Char) := none
  fragment : Option (List Char) := none
  deriving DecidableEq, Repr

namespace Url

/-! ## 2. Writing -/

/-- The user name and the password, with what divides them from the host. -/
def Authority.userinfoText (authority : Authority) : List Char :=
  match authority.user, authority.password with
  | [], none => []
  | user, none => user ++ ['@']
  | user, some password => user ++ ':' :: password ++ ['@']

/-- The host and the port. -/
def Authority.hostText (authority : Authority) : List Char :=
  (authority.host.map Host.text).getD [] ++
    match authority.port with
    | none => []
    | some port => ':' :: Nat.toDigits 10 port

/-- The text of an authority, behind its slashes. -/
def Authority.text (authority : Authority) : List Char :=
  authority.userinfoText ++ authority.hostText

/-- An optional part with the character that leads to it. -/
def partText (mark : Char) : Option (List Char) → List Char
  | none => []
  | some text => mark :: text

/-- What stands between the scheme and the path. -/
def leadText (url : Url) : List Char :=
  match url.authority with
  | some authority => '/' :: '/' :: authority.text
  | none =>
    match url.path with
    | .segments ([] :: _ :: _) => ['/', '.']
    | _ => []

/-- What a request to the address asks for. -/
def target (url : Url) : List Char :=
  url.path.text ++ partText '?' url.query

/-- The text of an address. -/
def chars (url : Url) : List Char :=
  url.scheme ++ ':' :: url.leadText ++ url.target ++ partText '#' url.fragment

/-- The text of an address as a string. -/
def text (url : Url) : String :=
  String.ofList url.chars

/-- Whether the address names a host. -/
def hasHost (url : Url) : Bool :=
  (url.authority.bind Authority.host).isSome

/-! ## 3. Schemes -/

/-- The port of a web scheme. Files have none. -/
def ownPort? (scheme : List Char) : Option Nat :=
  match String.ofList scheme with
  | "http" | "ws" => some 80
  | "https" | "wss" => some 443
  | "ftp" => some 21
  | _ => none

/-- Whether a scheme is a web scheme. -/
def isWeb (scheme : List Char) : Bool :=
  (ownPort? scheme).isSome

/-- The scheme of files. -/
def fileScheme : List Char := "file".toList

/-- Whether a character may stand in a scheme. -/
def isSchemeChar (c : Char) : Bool :=
  c.isAlphanum || c == '+' || c == '-' || c == '.'

/-- The scheme in lower case, and what follows its colon. -/
def readScheme (text : List Char) : Option (List Char × List Char) :=
  let (name, rest) := text.span isSchemeChar
  match name, rest with
  | first :: _, ':' :: rest => if first.isAlpha then some (name.map Char.toLower, rest) else none
  | _, _ => none

/-! ## 4. The authority -/

/-- The text before and behind the last `@`. -/
def splitUserinfo (text : List Char) : Option (List Char × List Char) :=
  if text.contains '@' then
    let behind := (text.reverse.takeWhile (· != '@')).reverse
    some (text.take (text.length - behind.length - 1), behind)
  else none

/-- The user name and the password that a text holds. An empty password counts as none. -/
def readUserinfo (text : List Char) : List Char × Option (List Char) :=
  let (user, rest) := text.span (· != ':')
  (escape inUserinfo user,
    match rest with
    | _ :: c :: more => some (escape inUserinfo (c :: more))
    | _ => none)

/-- The host and what follows it: a colon outside brackets ends it. -/
def splitHost (inBrackets : Bool) : List Char → List Char × List Char
  | [] => ([], [])
  | c :: rest =>
    if c = ':' ∧ !inBrackets then ([], c :: rest)
    else
      let inside := if c = '[' then true else if c = ']' then false else inBrackets
      let (host, behind) := splitHost inside rest
      (c :: host, behind)

/-- The port that digits spell, unless it is the scheme's own, and what follows it. Only a backslash
may follow. A port must not be too large. -/
def readPort (scheme text : List Char) : Option (Option Nat × List Char) :=
  let (digits, rest) := text.span Char.isDigit
  let port := Text.numeralValue 10 digits
  if 65535 < port || !(rest.isEmpty || rest.head? == some '\\') then none
  else if digits.isEmpty || ownPort? scheme == some port then some (none, rest)
  else some (some port, rest)

/-- The host of an address with the scheme. The host of a web address is not empty. -/
def readHost (scheme text : List Char) : Option (Option Host) :=
  if isWeb scheme then
    if text.isEmpty then none else (Host.ofWeb? text).map some
  else if text.isEmpty then some none
  else (Host.ofOther? text).map some

/-- The authority that a text begins with, given whether anything follows the text, and the rest of
the text. -/
def readAuthority (scheme text : List Char) (isFollowed : Bool) :
    Option (Authority × List Char) := do
  let (userinfo, behind) := (splitUserinfo text).getD ([], text)
  if behind.isEmpty && isFollowed && userinfo.isEmpty && text.contains '@' then failure
  let (user, password) := readUserinfo userinfo
  let (hostText, portText) := splitHost false behind
  if hostText.isEmpty && !portText.isEmpty then failure
  let host ← readHost scheme hostText
  if host.isNone && (!user.isEmpty || password.isSome) then failure
  let (port, rest) ← readPort scheme (portText.drop 1)
  some ({ user, password, host, port }, rest)

/-! ## 5. What follows -/

/-- The query and the fragment. -/
def readTail (queryEscaped : Char → Bool) (text : List Char) :
    Option (List Char) × Option (List Char) :=
  let (before, fragment) := text.span (· != '#')
  (match before with
    | [] => none
    | _ :: query => some (escape queryEscaped query),
    match fragment with
    | [] => none
    | _ :: fragment => some (escape inFragment fragment))

/-- Whether a character divides the segments of a web address. -/
def isWebSlash (c : Char) : Bool :=
  c == '/' || c == '\\'

/-- Whether a character ends a path. -/
def endsPath (c : Char) : Bool :=
  c == '?' || c == '#'

/-- The segments behind the authority of a web address. The first slash may be left out. -/
def readWebSegments (text : List Char) : List (List Char) :=
  match text with
  | c :: rest => readSegments isWebSlash (if isWebSlash c then rest else c :: rest)
  | [] => readSegments isWebSlash []

/-- The path of another address, which may be empty. The first slash may be left out. -/
def readOtherPath (text : List Char) : Path :=
  match text with
  | [] => .segments []
  | c :: rest => .segments (readSegments (· == '/') (if c = '/' then rest else c :: rest))

/-! ## 6. Files -/

/-- Segments that begin with a drive, which gets its colon. -/
def withDrive? : List (List Char) → Option (List (List Char))
  | [letter, mark] :: more => if isDrive [letter, mark] then some ([letter, ':'] :: more) else none
  | _ => none

/-- The path of a file. No empty segments stand in front of the others. -/
def filePath (segments : List (List Char)) : Path :=
  match segments.dropWhile List.isEmpty with
  | [] => .segments [[]]
  | trimmed => .segments trimmed

/-- The host and the path of a file, behind two slashes. A drive in the place of the host begins the
path, and a drive at the start of the path takes the host's place. The machine itself is no host. -/
def readFilePlace (text : List Char) : Option (Option Host × Path) := do
  let (hostText, behind) := text.span (fun c => !isWebSlash c)
  let segments := readWebSegments behind
  if isDrive hostText then
    let segments := readWebSegments text
    some (none, filePath ((withDrive? segments).getD segments))
  else if hostText.isEmpty then some (none, filePath segments)
  else
    let host ← Host.ofWeb? hostText
    if host = .name "localhost".toList then some (none, filePath segments)
    else
      match withDrive? segments with
      | some segments => some (none, filePath segments)
      | none => some (some host, filePath segments)

/-! ## 7. Reading -/

/-- Whether a character is dropped around an address. -/
def isBlankAround (c : Char) : Bool :=
  c ≤ ' '

/-- Whether a character is dropped inside an address. -/
def isBlankInside (c : Char) : Bool :=
  c == '\t' || c == '\n' || c == '\r'

/-- The text that is read: without controls and spaces around it, and without tabs and line ends. -/
def strip (text : List Char) : List Char :=
  ((text.dropWhile isBlankAround).reverse.dropWhile isBlankAround).reverse.filter
    (fun c => !isBlankInside c)

/-- Reads a web address behind its scheme. -/
def readWeb (scheme text : List Char) : Option Url := do
  let (authorityText, rest) :=
    (text.dropWhile isWebSlash).span (fun c => !isWebSlash c && !endsPath c)
  let (authority, _) ← readAuthority scheme authorityText (!rest.isEmpty)
  let (path, tail) := rest.span (fun c => !endsPath c)
  let (query, fragment) := readTail inWebQuery tail
  some { scheme, authority := some authority, path := .segments (readWebSegments path)
         query, fragment }

/-- Reads another address behind its scheme. -/
def readOther (scheme text : List Char) : Option Url :=
  match text with
  | '/' :: '/' :: text => do
    let (authorityText, rest) := text.span (fun c => c != '/' && !endsPath c)
    let (authority, left) ← readAuthority scheme authorityText (!rest.isEmpty)
    let (path, tail) := rest.span (fun c => !endsPath c)
    let (query, fragment) := readTail inQuery tail
    some { scheme, authority := some authority, path := readOtherPath (left ++ path)
           query, fragment }
  | text =>
    let (path, tail) := text.span (fun c => !endsPath c)
    let (query, fragment) := readTail inQuery tail
    match path with
    | '/' :: _ => some { scheme, path := readOtherPath path, query, fragment }
    | _ => some { scheme, path := .plain (escape inControls path), query, fragment }

/-- Reads the address of a file behind its scheme. -/
def readFile (text : List Char) : Option Url := do
  let (place, tail) := text.span (fun c => !endsPath c)
  let segments := readWebSegments place
  let (host, path) ← match place with
    | a :: b :: rest =>
      if isWebSlash a && isWebSlash b then readFilePlace rest
      else some (none, filePath ((withDrive? segments).getD segments))
    | _ => some (none, filePath ((withDrive? segments).getD segments))
  let (query, fragment) := readTail inWebQuery tail
  some { scheme := fileScheme, authority := some { host }, path, query, fragment }

/-- Reads an address. -/
def ofChars? (text : List Char) : Option Url := do
  let (scheme, rest) ← readScheme (strip text)
  if isWeb scheme then readWeb scheme rest
  else if scheme = fileScheme then readFile rest
  else readOther scheme rest

/-- Reads an address. -/
def ofText? (text : String) : Option Url :=
  ofChars? text.toList

end Url

end Relay
