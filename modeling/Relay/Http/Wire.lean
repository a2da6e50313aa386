import Relay.Http.Exchange

/-!
# Messages and answers on a connection

`Message.bytes` is what is written on a connection for a message, and `Reply.ofBytes` is what the
bytes read from it so far come to:

* an answer begins with a status line and headers, up to an empty line;
* preliminary answers are passed over;
* the body lasts as long as `content-length` says, or until its last chunk, or until the connection
  is closed.

As long as the connection is open, a reply that lacks something is silent or has a body that stalls;
when it is closed, it is dropped or cut short.

A body in a character set of several bytes for a character is read as UTF-8 here.
-/

namespace Relay.Http

/-! ## 1. Writing -/

/-- A line of the head of a message. -/
def headLine (text : String) : List UInt8 :=
  Text.Utf8.encode text.toList ++ [0x0D, 0x0A]

/-- The name of a header as it is written. -/
def HeaderName.text : HeaderName → String
  | .authorization => "authorization"
  | .contentType => "content-type"

/-- The bytes of a message. -/
def Message.bytes (message : Message) : List UInt8 :=
  let host := (message.url.authority.map Url.Authority.hostText).getD []
  let body := Text.Utf8.encode (message.body.getD "").toList
  headLine (message.method.name ++ " " ++ String.ofList message.url.target ++ " HTTP/1.1") ++
    headLine ("host: " ++ String.ofList host) ++
    headLine "accept: */*" ++
    message.headers.flatMap (fun h => headLine (h.name.text ++ ": " ++ h.value)) ++
    headLine ("content-length: " ++ toString body.length) ++
    headLine "connection: close" ++
    headLine "" ++
    body

/-! ## 2. The head of an answer -/

/-- The lines up to the first empty one that has a line before it, and what follows it. Lines and
the line that has been begun are given in reverse. -/
def splitHead (lines : List (List Char)) (line : List Char) :
    List UInt8 → Option (List (List Char) × List UInt8)
  | [] => none
  | b :: rest =>
    if b.toNat = 0x0A then
      let text := (line.dropWhile (· == '\r')).reverse
      if text.isEmpty && !lines.isEmpty then some (lines.reverse, rest)
      else splitHead (text :: lines) [] rest
    else splitHead lines (Char.ofNat b.toNat :: line) rest

/-- The status in a status line, 0 when there is none. -/
def statusOf (line : List Char) : Nat :=
  match (String.ofList line).splitOn " " with
  | version :: code :: _ =>
    if version.startsWith "HTTP/1." && code.length == 3 && code.toList.all Char.isDigit then
      code.toNat?.getD 0
    else 0
  | _ => 0

/-- The value of a header. -/
def headerValue? (name : String) (lines : List (List Char)) : Option (List Char) :=
  lines.findSome? (fun line =>
    let (key, value) := line.span (· != ':')
    if String.ofList (key.map Char.toLower) = name then some (trimBlanks (value.drop 1)) else none)

/-! ## 3. The body of an answer -/

/-- The size of a chunk in the line before it. -/
def chunkSize (line : List Char) : Nat :=
  Text.numeralValue 16 (line.takeWhile Text.isHexDigit)

/-- The line in front of bytes, and what follows it. -/
def splitLine (bytes : List UInt8) : Option (List Char × List UInt8) :=
  match bytes.span (fun b => b.toNat != 0x0A) with
  | (_, []) => none
  | (line, _ :: rest) =>
    some ((line.map (fun b => Char.ofNat b.toNat)).filter (· != '\r'), rest)

/-- The chunks in bytes, and whether the last one is among them. Every chunk uses up a line, so
`bound` need not be greater than the number of bytes. -/
def readChunks : (bound : Nat) → List UInt8 → List (List UInt8) × Bool
  | 0, _ => ([], false)
  | bound + 1, bytes =>
    match splitLine bytes with
    | none => ([], false)
    | some ([], rest) => readChunks bound rest
    | some (line, rest) =>
      let size := chunkSize line
      if size = 0 then ([], true)
      else if rest.length < size then ([rest], false)
      else
        let (pieces, finished) := readChunks bound (rest.drop size)
        (rest.take size :: pieces, finished)

/-- What comes behind the bytes of a body. -/
def endingOf (finished closed : Bool) : Ending :=
  if finished then .complete else if closed then .cut else .stalled

/-- The framing that headers announce, and the body so far. -/
def readBody (closed : Bool) (lines : List (List Char)) (bytes : List UInt8) : Framing × Body :=
  if headerValue? "transfer-encoding" lines = some "chunked".toList then
    let (pieces, finished) := readChunks (bytes.length + 1) bytes
    (.chunked, { pieces, ending := endingOf finished closed })
  else
    match (headerValue? "content-length" lines).bind (fun text => (String.ofList text).toNat?) with
    | some length =>
      (.length,
        { pieces := [bytes.take length], ending := endingOf (length ≤ bytes.length) closed })
    | none => (.close, { pieces := [bytes], ending := endingOf closed closed })

/-! ## 4. The whole answer -/

/-- What bytes come to, where `bound` answers are looked at. -/
def readReply (closed : Bool) : (bound : Nat) → List UInt8 → Reply
  | 0, _ => .dropped
  | bound + 1, bytes =>
    match splitHead [] [] bytes with
    | none => if closed then .dropped else .silent
    | some (lines, rest) =>
      let status := statusOf (lines.headD [])
      let (framing, body) := readBody closed lines rest
      let response : Response :=
        { status, framing, body
          contentType := (headerValue? "content-type" lines).map String.ofList
          multibyte := Text.Utf8.decodeLossy body.bytes }
      if response.hasStatus && response.isPreliminary then readReply closed bound rest
      else .answered response

/-- What the bytes read from a connection come to, given whether it has been closed. -/
def Reply.ofBytes (closed : Bool) (bytes : List UInt8) : Reply :=
  readReply closed (bytes.length + 1) bytes

/-- Whether nothing that is read after a reply can change it. -/
def Reply.isSettled : Reply → Bool
  | .answered response => !response.hasStatus || response.received.ending != .stalled
  | .refused | .dropped => true
  | .silent => false

end Relay.Http
