import Relay.Proofs.Call.Handle
import Relay.Proofs.Call.Progress

/-!
# Guarded calls without their guard

As long as its token has not fired, a guarded call does what a plain one would do. The plain one is
`Guarded.bare`; taking the guard away and polling can be done in any order (`Handle.bare_poll`,
`Handle.bare_drain`).
-/

namespace Relay

namespace Guarded

/-- The plain call that a guarded one amounts to, as long as no token fires. Behind the last item,
it has got as far as the plain call would have, though the call inside is not polled any more. -/
def bare (guarded : Guarded) : Call :=
  match guarded.phase with
  | .running => guarded.call
  | .spent => { guarded.call with progress := .broken guarded.call.holdsConnection }
  | .finished => { guarded.call with progress := .finished }

@[simp] theorem holdsConnection_bare (guarded : Guarded) :
    guarded.bare.holdsConnection = guarded.holdsConnection := by
  obtain ⟨call, fired, phase⟩ := guarded
  cases phase <;> rfl

/-- Behind an answer, the guarded call amounts to the call inside. -/
theorem bare_of_fits (call : Call) (item : Option Item) (h : call.progress.Fits item) :
    ({ call, phase := phaseAfter item } : Guarded).bare = call := by
  obtain ⟨order, reply, progress⟩ := call
  rcases item with _ | (chunk | e | _)
  · rfl
  · rfl
  · obtain ⟨held, rfl⟩ := h.broken e rfl
    rfl
  · obtain rfl := h.finished rfl
    rfl

theorem bare_poll {guarded : Guarded} (h : guarded.fired = false) (sessions : Sessions) :
    guarded.bare.poll sessions =
      { guarded.poll sessions with call := (guarded.poll sessions).call.bare } := by
  obtain ⟨call, fired, phase⟩ := guarded
  obtain rfl : fired = false := h
  cases phase with
  | spent => rfl
  | finished => rfl
  | running =>
    have hbare := bare_of_fits (call.poll sessions).call _ (call.fits_poll sessions)
    simp only [bare, poll, Bool.false_eq_true, if_false] at hbare ⊢
    rw [hbare]

@[simp] theorem fired_poll (guarded : Guarded) (sessions : Sessions) :
    (guarded.poll sessions).call.fired = guarded.fired := by
  obtain ⟨call, fired, phase⟩ := guarded
  cases phase with
  | spent => rfl
  | finished => rfl
  | running => cases fired <;> rfl

end Guarded

namespace Handle

/-- A call without its guard, if it has one. -/
def bare : Handle → Handle
  | .plain call => .plain call
  | .guarded call => .plain call.bare

/-- Whether no token of a call has fired. -/
def Unfired : Handle → Prop
  | .plain _ => True
  | .guarded call => call.fired = false

variable {handle : Handle}

@[simp] theorem holdsConnection_bare (handle : Handle) :
    handle.bare.holdsConnection = handle.holdsConnection := by
  cases handle with
  | plain call => rfl
  | guarded call => exact call.holdsConnection_bare

theorem Unfired.poll (sessions : Sessions) (h : handle.Unfired) :
    (handle.poll sessions).call.Unfired := by
  cases handle with
  | plain call => trivial
  | guarded call => exact (call.fired_poll sessions).trans h

/-- **A call without its guard is polled as the call with it.** -/
theorem bare_poll (h : handle.Unfired) (sessions : Sessions) :
    handle.bare.poll sessions =
      { handle.poll sessions with call := (handle.poll sessions).call.bare } := by
  cases handle with
  | plain call => rfl
  | guarded call =>
    have hpoll := Guarded.bare_poll h sessions
    simp only [bare, poll, hpoll]

/-- A call without its guard is drained as the call with it. -/
theorem bare_drain (h : handle.Unfired) (sessions : Sessions) :
    handle.bare.drain sessions =
      { handle.drain sessions with call := (handle.drain sessions).call.bare } := by
  induction handle, sessions using drain_induction with
  | chunk handle sessions chunk hi ih =>
    have hpoll := bare_poll h sessions
    have hbare : (handle.bare.poll sessions).item = some (.chunk chunk) := by rw [hpoll]; exact hi
    rw [drain_of_chunk hi, drain_of_chunk hbare, hpoll]
    simp only [ih (h.poll sessions)]
  | stop handle sessions stop hi =>
    have hpoll := bare_poll h sessions
    have hbare : (handle.bare.poll sessions).item = stop.item? := by rw [hpoll]; exact hi
    rw [drain_of_stop stop hi, drain_of_stop stop hbare, hpoll]

end Handle

end Relay
