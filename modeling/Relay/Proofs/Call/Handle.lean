import Relay.Call.Handle

/-!
# Polling again and again

A draining is a row of polls, up to the first that brings no chunk (`Handle.drain_of_chunk`,
`Handle.drain_of_stop`). So what every poll keeps, a draining keeps (`Handle.keeps_drain`), and so
does a poll whose token may fire, if the firing keeps it too (`Handle.keeps_pollThenFire`).
-/

namespace Relay.Handle

/-- The item that a stop is delivered as; none where nothing comes. -/
def Stop.item? : Stop → Option Item
  | .ended => some .ended
  | .failed e => some (.failed e)
  | .waiting => none

section Drain

variable {handle : Handle} {sessions : Sessions}

/-- A draining that gets a chunk goes on. -/
theorem drain_of_chunk {chunk : Chunk} (h : (handle.poll sessions).item = some (.chunk chunk)) :
    handle.drain sessions =
      let polled := handle.poll sessions
      let rest := polled.call.drain polled.sessions
      { rest with
        chunks := chunk :: rest.chunks
        messages := polled.message.toList ++ rest.messages
        log := polled.log ++ rest.log } := by
  rw [drain]
  split <;> simp_all

/-- A draining that gets none comes to a stop. -/
theorem drain_of_stop (stop : Stop) (h : (handle.poll sessions).item = stop.item?) :
    handle.drain sessions =
      let polled := handle.poll sessions
      { call := polled.call, sessions := polled.sessions, stop
        messages := polled.message.toList, log := polled.log } := by
  rw [drain]
  cases stop <;> split <;> simp_all [Stop.item?]

/-- Either a poll brings a chunk, or a stop. -/
theorem chunk_or_stop (item : Option Item) :
    (∃ chunk, item = some (.chunk chunk)) ∨ ∃ stop : Stop, item = stop.item? := by
  cases item with
  | none => exact .inr ⟨.waiting, rfl⟩
  | some item =>
    cases item with
    | chunk chunk => exact .inl ⟨chunk, rfl⟩
    | failed e => exact .inr ⟨.failed e, rfl⟩
    | ended => exact .inr ⟨.ended, rfl⟩

/-- Induction along the polls of a draining. -/
theorem drain_induction {motive : Handle → Sessions → Prop}
    (chunk : ∀ (handle : Handle) (sessions : Sessions) (chunk : Chunk),
      (handle.poll sessions).item = some (.chunk chunk) →
      motive (handle.poll sessions).call (handle.poll sessions).sessions → motive handle sessions)
    (stop : ∀ (handle : Handle) (sessions : Sessions) (stop : Stop),
      (handle.poll sessions).item = stop.item? → motive handle sessions)
    (handle : Handle) (sessions : Sessions) : motive handle sessions := by
  fun_induction drain handle sessions with
  | case1 handle sessions polled messages c hi rest ih => exact chunk handle sessions c hi ih
  | case2 handle sessions polled messages e hi => exact stop handle sessions (.failed e) hi
  | case3 handle sessions polled messages hi => exact stop handle sessions .ended hi
  | case4 handle sessions polled messages hi => exact stop handle sessions .waiting hi

/-- A token has no time to fire when a poll answers at once. -/
theorem pollThenFire_of_answered (h : (handle.poll sessions).item ≠ none) :
    handle.pollThenFire sessions = handle.poll sessions := by
  obtain ⟨item, hitem⟩ := Option.ne_none_iff_exists'.mp h
  simp only [pollThenFire, hitem]

/-- When nothing comes, the token fires, and the call is polled once more. -/
theorem pollThenFire_of_none (h : (handle.poll sessions).item = none) :
    handle.pollThenFire sessions =
      let first := handle.poll sessions
      let second := first.call.fire.poll first.sessions
      { second with message := first.message, log := first.log ++ second.log } := by
  simp only [pollThenFire, h]

end Drain

section Keeps

variable (Kind : Handle → Prop) (hpoll : ∀ {handle : Handle} (sessions : Sessions),
  Kind handle → Kind (handle.poll sessions).call)

include hpoll

/-- **What every poll keeps, a draining keeps.** -/
theorem keeps_drain {handle : Handle} (h : Kind handle) (sessions : Sessions) :
    Kind (handle.drain sessions).call := by
  induction handle, sessions using drain_induction with
  | chunk handle sessions chunk hi ih =>
    rw [drain_of_chunk hi]
    exact ih (hpoll sessions h)
  | stop handle sessions stop hi =>
    rw [drain_of_stop stop hi]
    exact hpoll sessions h

theorem keeps_pollThenFire (hfire : ∀ {handle : Handle}, Kind handle → Kind handle.fire)
    {handle : Handle} (h : Kind handle) (sessions : Sessions) :
    Kind (handle.pollThenFire sessions).call := by
  by_cases hi : (handle.poll sessions).item = none
  · rw [pollThenFire_of_none hi]
    exact hpoll _ (hfire (hpoll sessions h))
  · rw [pollThenFire_of_answered hi]
    exact hpoll sessions h

end Keeps

end Relay.Handle
