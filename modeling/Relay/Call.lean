import Relay.Frame.Reader
import Relay.Http.Exchange
import Relay.Session

/-!
# Calls

A call forwards one request and delivers what comes back, item by item (`Item`): chunks, then an
error or the end. What it needs is settled when it is opened (`Order`); nothing is sent before it is
polled for the first time.

`Call.poll` takes one step. A call may answer nothing, when what it waits for has not come. After an
error or the end, it answers the end for ever. The first step gets a session, and making one does not
fail here: calls go with managers that make their sessions in the default way (`Sessions.obtain`).
Managers whose builds fail, and what asking them comes to, are apart from calls
(`Manager.acquire`).

* A call for a streamed answer delivers the chunks of the lines of the body, as they arrive.
* Any other call delivers the whole body as one chunk.
* An answer with another status than 200 is an error with the body in it.

A call holds a connection while it waits for more (`Call.holdsConnection`). A connection that it
still holds when it delivers an error is given up with the next poll.
-/

namespace Relay

open Http (Message Reply Response)

/-! ## 1. Items -/

/-- What a call delivers. -/
inductive Item where
  | chunk (chunk : Chunk)
  | failed (error : Error)
  | ended

/-- What was settled when a call was opened. -/
structure Order where
  /-- The address, as it was put together. -/
  url : String
  /-- Whether the answer is wanted piece by piece. -/
  stream : Bool
  token : String
  body : String
  deriving DecidableEq, Repr

/-- The message that is sent, if it can be built. -/
def Order.message (order : Order) : Except TransportCause Message := do
  let message ← Message.start .post order.url
  let message ← message.bearer order.token
  .ok (message.withJson order.body)

/-! ## 2. Calls -/

/-- How far a call has come. -/
inductive Progress where
  /-- Nothing has been sent. -/
  | unsent
  /-- A body is being read, and so many chunks have been delivered. -/
  | reading (reader : Frame.Reader) (delivered : Nat)
  /-- What the call waits for never comes. -/
  | waiting
  /-- The only chunk has been delivered. -/
  | answered
  /-- An error has been delivered, while a connection was held or not. -/
  | broken (held : Bool)
  | finished
  deriving DecidableEq, Repr

/-- How far a call has come with a chunk: the only one is out, or fewer than `bound` bytes are left.
-/
def Progress.isBelow (bound : Nat) : Progress → Prop
  | .answered => True
  | .reading reader _ => reader.bytes.length < bound
  | _ => False

/-- A call, and what its connection will come to. -/
structure Call where
  order : Order
  reply : Reply
  progress : Progress := .unsent
  deriving DecidableEq, Repr

/-- What a poll comes to: what is left, the item if there is one, the message that was read by the
far end, and what was logged. -/
structure Polled (σ : Type) where
  call : σ
  sessions : Sessions
  item : Option Item := none
  message : Option Message := none
  log : List Event := []

namespace Call

/-- What a call comes to when it has got so far. -/
structure Turn where
  progress : Progress
  item : Option Item := none
  log : List Event := []

/-- An error, where no connection is held any more. -/
def Turn.ofError (error : Error) (log : List Event) : Turn :=
  { progress := .broken false, item := some (.failed error), log }

/-- Goes on to the next chunk of a streamed body. -/
def read (url : String) (reader : Frame.Reader) (delivered : Nat) : Turn :=
  match reader.next with
  | .chunk chunk reader =>
    { progress := .reading reader (delivered + 1), item := some (.chunk chunk) }
  | .failed e => { progress := .broken reader.holdsConnection, item := some (.failed e) }
  | .ended => { progress := .finished, item := some .ended, log := [.streamEnded url delivered] }
  | .waiting reader => { progress := .reading reader delivered }

/-- Takes a body as one chunk. -/
def takeWhole (response : Response) : Turn :=
  match response.whole with
  | .waiting => { progress := .waiting }
  | .cutShort => .ofError (.decode .cutShort) []
  | .text text =>
    match decodeChunk text with
    | .ok chunk => { progress := .answered, item := some (.chunk chunk) }
    | .error e => .ofError e []

/-- Takes an answer with another status than 200. -/
def takeRefusal (response : Response) : Turn :=
  match response.whole with
  | .waiting => { progress := .waiting }
  | .cutShort => .ofError (.decode .cutShort) []
  | .text text =>
    let body := String.ofList text
    .ofError (.ofResponse response.status body) [.callRefused response.status body]

/-- Takes an answer. -/
def take (order : Order) (response : Response) : Turn :=
  if response.status ≠ 200 then takeRefusal response
  else if order.stream then read order.url (.ofBody response.received) 0
  else takeWhole response

/-- Takes what the connection comes to. -/
def arrive (order : Order) : Http.Arrival → Turn
  | .failure cause => .ofError (.transport cause) []
  | .silence => { progress := .waiting }
  | .response response => take order response

/-- Polls a call. -/
def poll (call : Call) (sessions : Sessions) : Polled Call :=
  match call.progress with
  | .unsent =>
    let got := sessions.obtain
    let exchange := Http.exchange call.order.message call.reply
    let turn := arrive call.order exchange.arrival
    { call := { call with progress := turn.progress }
      sessions := got.sessions
      item := turn.item
      message := exchange.message
      log := got.log ++ .forwarding call.order.url call.order.stream got.session.id :: turn.log }
  | .reading reader delivered =>
    let turn := read call.order.url reader delivered
    { call := { call with progress := turn.progress }, sessions
      item := turn.item, log := turn.log }
  | .waiting => { call, sessions }
  | .answered | .broken _ | .finished =>
    { call := { call with progress := .finished }, sessions, item := some .ended }

/-- Whether a connection is held that the far end keeps open. -/
def holdsConnection (call : Call) : Bool :=
  match call.progress with
  | .reading reader _ => reader.holdsConnection
  | .waiting => true
  | .broken held => held
  | _ => false

/-! ## 3. Every chunk brings a call nearer to its end -/

/-- How many bytes an answer brings at most. -/
def replySize : Reply → Nat
  | .answered response => response.received.bytes.length
  | _ => 0

/-- An upper bound for the chunks that a call has yet to deliver. -/
def size (call : Call) : Nat :=
  match call.progress with
  | .unsent => replySize call.reply + 2
  | .reading reader _ => reader.bytes.length + 1
  | _ => 0

theorem isBelow_of_read {url : String} {reader : Frame.Reader} {delivered : Nat} {chunk : Chunk}
    (h : (read url reader delivered).item = some (.chunk chunk)) :
    (read url reader delivered).progress.isBelow reader.bytes.length := by
  unfold read at h ⊢
  cases hn : reader.next with
  | chunk c after => exact Frame.Reader.length_of_next hn
  | failed e => simp [hn] at h
  | ended => simp [hn] at h
  | waiting after => simp [hn] at h

theorem isBelow_of_takeWhole {response : Response} {chunk : Chunk} {bound : Nat}
    (h : (takeWhole response).item = some (.chunk chunk)) :
    (takeWhole response).progress.isBelow bound := by
  unfold takeWhole at h ⊢
  cases hw : response.whole with
  | waiting => simp [hw] at h
  | cutShort => simp [hw, Turn.ofError] at h
  | text text =>
    cases hd : decodeChunk text with
    | ok c => simp [hd, Progress.isBelow]
    | error e => simp [hw, hd, Turn.ofError] at h

theorem item_takeRefusal (response : Response) (chunk : Chunk) :
    (takeRefusal response).item ≠ some (.chunk chunk) := by
  unfold takeRefusal
  split <;> simp [Turn.ofError]

theorem bytes_ofBody (body : Http.Body) : (Frame.Reader.ofBody body).bytes = body.bytes := by
  simp [Frame.Reader.ofBody, Frame.Reader.bytes, Http.Body.bytes]

theorem isBelow_of_take {order : Order} {response : Response} {chunk : Chunk}
    (h : (take order response).item = some (.chunk chunk)) :
    (take order response).progress.isBelow response.received.bytes.length := by
  unfold take at h ⊢
  by_cases hs : response.status ≠ 200
  · rw [if_pos hs] at h
    exact absurd h (item_takeRefusal _ _)
  · rw [if_neg hs] at h ⊢
    by_cases ho : order.stream = true
    · rw [if_pos ho] at h ⊢
      exact bytes_ofBody response.received ▸ isBelow_of_read h
    · rw [if_neg ho] at h ⊢
      exact isBelow_of_takeWhole h

/-- What arrives in an exchange is what the connection came to. -/
theorem reply_of_exchange {built : Except TransportCause Message} {reply : Reply}
    {response : Response} (h : (Http.exchange built reply).arrival = .response response) :
    reply = .answered response := by
  unfold Http.exchange at h
  split at h
  · cases h
  · rename_i message _
    cases reply with
    | refused => cases h
    | dropped => cases h
    | silent => cases h
    | answered answer =>
      have harrives : answer.arrival message.url.text = .response response := h
      unfold Response.arrival at harrives
      split at harrives
      · cases harrives
      · split at harrives
        · split at harrives <;> cases harrives
        · exact congrArg Reply.answered (Http.Arrival.response.inj harrives)

theorem isBelow_of_arrive {order : Order} {built : Except TransportCause Message} {reply : Reply}
    {chunk : Chunk}
    (h : (arrive order (Http.exchange built reply).arrival).item = some (.chunk chunk)) :
    (arrive order (Http.exchange built reply).arrival).progress.isBelow (replySize reply) := by
  cases ha : (Http.exchange built reply).arrival with
  | failure cause => simp [ha, arrive, Turn.ofError] at h
  | silence => simp [ha, arrive] at h
  | response response =>
    rw [ha] at h
    rw [reply_of_exchange ha]
    exact isBelow_of_take h

theorem size_of_isBelow {call : Call} {progress : Progress} {bound : Nat}
    (h : progress.isBelow bound) : ({ call with progress } : Call).size < bound + 2 := by
  cases progress <;> simp_all [Progress.isBelow, size]
  omega

/-- **A chunk brings a call nearer to its end.** -/
theorem size_poll {call : Call} {sessions : Sessions} {chunk : Chunk}
    (h : (call.poll sessions).item = some (.chunk chunk)) :
    (call.poll sessions).call.size < call.size := by
  obtain ⟨order, reply, progress⟩ := call
  cases progress with
  | unsent => exact size_of_isBelow (isBelow_of_arrive h)
  | reading reader delivered =>
    have hb : (read order.url reader delivered).progress.isBelow reader.bytes.length :=
      isBelow_of_read h
    simp only [poll]
    generalize (read order.url reader delivered).progress = p at hb ⊢
    cases p <;> simp_all [Progress.isBelow, size]
  | waiting => simp [poll] at h
  | answered => simp [poll] at h
  | broken held => simp [poll] at h
  | finished => simp [poll] at h

end Call

end Relay
