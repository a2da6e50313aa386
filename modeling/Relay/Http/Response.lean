import Relay.Http.ContentType

/-!
# What comes back

A `Reply` is what a connection to the far end comes to: it is refused, it is closed or left open
without an answer, or a `Response` arrives. A response has a status, a content type and a body that
arrives in pieces (`Body`). The body ends as announced, is cut short, or stalls: then the connection
stays open and nothing more comes.

Responses do not point to other addresses, so none is followed there.
-/

namespace Relay.Http

/-! ## 1. Bodies -/

/-- What comes behind the pieces of a body. -/
inductive Ending where
  /-- The body is complete. -/
  | complete
  /-- The connection is lost. -/
  | cut
  /-- Nothing, and the connection stays open. -/
  | stalled
  deriving DecidableEq, Repr

/-- A body in the pieces in which it arrives. -/
structure Body where
  pieces : List (List UInt8) := []
  ending : Ending := .complete
  deriving DecidableEq, Repr

/-- All bytes of a body that arrive. -/
def Body.bytes (body : Body) : List UInt8 :=
  body.pieces.flatten

/-- How a body is marked off. -/
inductive Framing where
  /-- Its length is announced. -/
  | length
  /-- It comes in chunks, the last of them empty. -/
  | chunked
  /-- It lasts until the connection is closed. -/
  | close
  deriving DecidableEq, Repr

/-! ## 2. Responses -/

/-- An answer of the far end, as it is put on the connection. -/
structure Response where
  status : Nat := 200
  contentType : Option String := none
  framing : Framing := .length
  body : Body := {}
  /-- What the body means when its character set is one of several bytes for a character. The tables
  of these sets are not here, so it may be any text. -/
  multibyte : List Char := []
  deriving DecidableEq, Repr

/-- What a connection comes to. -/
inductive Reply where
  /-- No connection is made. -/
  | refused
  /-- The message is read, and the connection is closed. -/
  | dropped
  /-- The message is read, and nothing happens. -/
  | silent
  /-- The message is read and answered. -/
  | answered (response : Response)
  deriving DecidableEq, Repr

namespace Response

/-- Whether the status line is one: a status has three digits. -/
def hasStatus (response : Response) : Bool :=
  100 ≤ response.status && response.status ≤ 999

/-- Whether another response is to follow: all statuses below 200 announce one, apart from 101. -/
def isPreliminary (response : Response) : Bool :=
  response.status < 200 && response.status != 101

/-- Whether responses with this status have no body. -/
def isBodyless (response : Response) : Bool :=
  [101, 204, 304].contains response.status

/-- The body as it is received: a body that lasts until the connection is closed cannot be cut. -/
def received (response : Response) : Body :=
  if response.isBodyless then {}
  else if response.framing = .close ∧ response.body.ending = .cut then
    { response.body with ending := .complete }
  else response.body

end Response

/-! ## 3. Whole bodies -/

/-- What reading a whole body comes to. -/
inductive Whole where
  | text (text : List Char)
  | cutShort
  /-- It goes on for ever. -/
  | waiting
  deriving DecidableEq, Repr

/-- The text of a body that is read as a whole. -/
def Response.text (response : Response) : List Char :=
  ((charsetOf response.contentType).decodeMarked? response.received.bytes).getD response.multibyte

/-- Reads the whole body as a text. -/
def Response.whole (response : Response) : Whole :=
  match response.received.ending with
  | .complete => .text response.text
  | .cut => .cutShort
  | .stalled => .waiting

end Relay.Http
