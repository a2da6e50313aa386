import Relay.Error
import Relay.Text.Base64
import Relay.Url

/-!
# What goes out

A `Message` is a request on its way to an address. It is built step by step, and a step may refuse:

* `Message.start` reads the address. A user name and a password in it leave it for an
  `Authorization` header;
* `Message.bearer` adds a token, in an `Authorization` header of its own;
* `Message.withJson` adds a body;
* `Message.complete` adds the content type that all messages have and looks whether the address is
  one that messages can be sent to.
-/

namespace Relay.Http

/-! ## 1. Messages -/

/-- What is asked for. -/
inductive Method where
  | get
  | post
  deriving DecidableEq, Repr

/-- The name of a method. -/
def Method.name : Method → String
  | .get => "GET"
  | .post => "POST"

/-- The headers that are set here. -/
inductive HeaderName where
  | authorization
  | contentType
  deriving DecidableEq, Repr

/-- A header. -/
structure Header where
  name : HeaderName
  value : String
  deriving DecidableEq, Repr

/-- A request on its way. -/
structure Message where
  method : Method
  url : Url
  headers : List Header := []
  body : Option String := none
  deriving DecidableEq, Repr

namespace Message

/-- The values of a header, in order. -/
def values (message : Message) (name : HeaderName) : List String :=
  (message.headers.filter (fun header => header.name = name)).map Header.value

/-- Adds a header behind those that are there. -/
def addHeader (message : Message) (name : HeaderName) (value : String) : Message :=
  { message with headers := message.headers ++ [{ name, value }] }

/-- Adds a header unless one of the name is there. -/
def defaultHeader (message : Message) (name : HeaderName) (value : String) : Message :=
  if (message.values name).isEmpty then message.addHeader name value else message

/-! ## 2. Credentials -/

/-- The text that a user name or a password stands for, when it is text. -/
def plainText? (written : List Char) : Option (List Char) :=
  (Text.Utf8.decode (Url.unescape written)).toOption

/-- The credentials of a user name and a password. -/
def basicValue (user : List Char) (password : Option (List Char)) : String :=
  "Basic " ++ String.ofList
    (Text.Base64.encode (Text.Utf8.encode (user ++ ':' :: password.getD [])))

/-- The user name and the password in an authority, when there are any to be used. -/
def credentials? (authority : Url.Authority) : Option (List Char × Option (List Char)) :=
  match plainText? authority.user with
  | none => none
  | some user =>
    let password := authority.password.bind plainText?
    if user.isEmpty && password.isNone then none else some (user, password)

/-- A message to an address. Credentials in the address move to a header. -/
def addressed (method : Method) (url : Url) : Message :=
  match url.authority with
  | none => { method, url }
  | some authority =>
    match credentials? authority with
    | none => { method, url }
    | some (user, password) =>
      let bare := { url with authority := some { authority with user := [], password := none } }
      addHeader { method, url := bare } .authorization (basicValue user password)

/-- Whether a text may be the value of a header: it has no controls but tabs. -/
def isHeaderValue (value : String) : Bool :=
  value.toList.all (fun c => c == '\t' || (0x20 ≤ c.toNat && c.toNat != 0x7F))

/-! ## 3. Building -/

/-- Begins a message to the address that a text spells. -/
def start (method : Method) (address : String) : Except TransportCause Message :=
  match Url.ofText? address with
  | none => .error .unbuildable
  | some url => if url.hasHost then .ok (addressed method url) else .error (.unsupported url.text)

/-- Adds a token. -/
def bearer (token : String) (message : Message) : Except TransportCause Message :=
  let value := "Bearer " ++ token
  if isHeaderValue value then .ok (message.addHeader .authorization value) else .error .unbuildable

/-- The content type of all messages. -/
def jsonType : String := "application/json"

/-- Adds a body in JSON. -/
def withJson (body : String) (message : Message) : Message :=
  { message.defaultHeader .contentType jsonType with body := some body }

/-- An address with a longer text is refused. -/
def maxAddressLength : Nat := 65534

/-- Whether a character may stand in a host that messages are sent to. -/
def isSendableInHost (c : Char) : Bool :=
  !(['"', '\x60', '\x7b', '\x7d'].contains c)

/-- Whether messages can be sent to an address. -/
def isSendable (url : Url) : Bool :=
  let scheme := String.ofList url.scheme
  (scheme == "http" || scheme == "https") && url.chars.length ≤ maxAddressLength &&
    (url.authority.all (fun authority => authority.hostText.all isSendableInHost))

/-- Makes a message ready to be sent. -/
def complete (message : Message) : Except TransportCause Message :=
  if isSendable message.url then .ok (message.defaultHeader .contentType jsonType)
  else .error (.unsupported message.url.text)

/-- Whether the message needs a secure connection. -/
def isSecure (message : Message) : Bool :=
  String.ofList message.url.scheme == "https"

end Message

end Relay.Http
