import Relay.Call

/-!
# Cancellation

A guarded call goes with a token that may fire (`Guarded.fire`). Before each poll of the call
inside, the token is looked at first: once it has fired, the next answer is `Error.cancelled`, even
when a chunk is ready, unless the call is finished already.

The call inside is kept until the poll that follows the last item.
-/

namespace Relay

/-- How far a guarded call has come. -/
inductive Phase where
  | running
  /-- An error has been delivered; the call inside is still kept. -/
  | spent
  | finished
  deriving DecidableEq, Repr

/-- A call that can be cancelled. -/
structure Guarded where
  call : Call
  fired : Bool := false
  phase : Phase := .running
  deriving DecidableEq, Repr

namespace Guarded

/-- Fires the token. -/
def fire (guarded : Guarded) : Guarded :=
  { guarded with fired := true }

/-- How far the guarded call has come when the call inside has answered. -/
def phaseAfter : Option Item → Phase
  | some (.failed _) => .spent
  | some .ended => .finished
  | _ => .running

/-- Polls a guarded call. -/
def poll (guarded : Guarded) (sessions : Sessions) : Polled Guarded :=
  match guarded.phase with
  | .running =>
    if guarded.fired then
      { call := { guarded with phase := .spent }, sessions, item := some (.failed .cancelled) }
    else
      let polled := guarded.call.poll sessions
      { polled with call := { guarded with call := polled.call, phase := phaseAfter polled.item } }
  | .spent | .finished =>
    { call := { guarded with phase := .finished }, sessions, item := some .ended }

/-- Whether a connection is held that the far end keeps open. -/
def holdsConnection (guarded : Guarded) : Bool :=
  guarded.phase != .finished && guarded.call.holdsConnection

/-- An upper bound for the chunks that are yet to be delivered. -/
def size (guarded : Guarded) : Nat :=
  guarded.call.size

theorem size_poll {guarded : Guarded} {sessions : Sessions} {chunk : Chunk}
    (h : (guarded.poll sessions).item = some (.chunk chunk)) :
    (guarded.poll sessions).call.size < guarded.size := by
  unfold poll at h ⊢
  cases hp : guarded.phase with
  | running =>
    by_cases hf : guarded.fired = true
    · simp [hp, hf] at h
    · simp only [hp, hf] at h ⊢
      exact Call.size_poll h
  | spent => simp [hp] at h
  | finished => simp [hp] at h

end Guarded

end Relay
