import Relay.Call.Guarded

/-!
# Handles of calls

A caller holds a call that can be cancelled or one that cannot (`Handle`), and may take what it
delivers item by item (`poll`), all at once (`drain`), or all or nothing (`collect`).
-/

namespace Relay

/-- A call in the hands of a caller. -/
inductive Handle where
  | plain (call : Call)
  | guarded (call : Guarded)
  deriving DecidableEq, Repr

namespace Handle

/-! ## 1. One item -/

/-- Polls a call. -/
def poll (handle : Handle) (sessions : Sessions) : Polled Handle :=
  match handle with
  | .plain call =>
    let polled := call.poll sessions
    { polled with call := .plain polled.call }
  | .guarded call =>
    let polled := call.poll sessions
    { polled with call := .guarded polled.call }

/-- Fires the token, where there is one. -/
def fire : Handle → Handle
  | .plain call => .plain call
  | .guarded call => .guarded call.fire

/-- Polls a call whose token fires if it would have to wait. -/
def pollThenFire (handle : Handle) (sessions : Sessions) : Polled Handle :=
  let first := handle.poll sessions
  match first.item with
  | some _ => first
  | none =>
    let second := first.call.fire.poll first.sessions
    { second with message := first.message, log := first.log ++ second.log }

/-- Whether a connection is held that the far end keeps open. -/
def holdsConnection : Handle → Bool
  | .plain call => call.holdsConnection
  | .guarded call => call.holdsConnection

/-- An upper bound for the chunks that are yet to be delivered. -/
def size : Handle → Nat
  | .plain call => call.size
  | .guarded call => call.size

theorem size_poll {handle : Handle} {sessions : Sessions} {chunk : Chunk}
    (h : (handle.poll sessions).item = some (.chunk chunk)) :
    (handle.poll sessions).call.size < handle.size := by
  cases handle with
  | plain call => exact Call.size_poll h
  | guarded call => exact Guarded.size_poll h

/-! ## 2. All items -/

/-- Where polling stops. -/
inductive Stop where
  | ended
  | failed (error : Error)
  /-- There is nothing more for now. -/
  | waiting
  deriving DecidableEq, Repr

/-- What polling again and again comes to. -/
structure Drained where
  call : Handle
  sessions : Sessions
  chunks : List Chunk := []
  stop : Stop
  messages : List Http.Message := []
  log : List Event := []

/-- Polls until there is no more chunk. -/
def drain (handle : Handle) (sessions : Sessions) : Drained :=
  let polled := handle.poll sessions
  let messages := polled.message.toList
  match _h : polled.item with
  | some (.chunk chunk) =>
    let rest := polled.call.drain polled.sessions
    { rest with
      chunks := chunk :: rest.chunks
      messages := messages ++ rest.messages
      log := polled.log ++ rest.log }
  | some (.failed e) =>
    { call := polled.call, sessions := polled.sessions, stop := .failed e, messages
      log := polled.log }
  | some .ended =>
    { call := polled.call, sessions := polled.sessions, stop := .ended, messages
      log := polled.log }
  | none =>
    { call := polled.call, sessions := polled.sessions, stop := .waiting, messages
      log := polled.log }
termination_by handle.size
decreasing_by exact size_poll _h

/-- All chunks of a drained call, or its error: none of them counts when an error follows. Nothing,
when it would have to wait. -/
def Drained.collected (drained : Drained) : Option (Except Error (List Chunk)) :=
  match drained.stop with
  | .ended => some (.ok drained.chunks)
  | .failed e => some (.error e)
  | .waiting => none

end Handle

end Relay
