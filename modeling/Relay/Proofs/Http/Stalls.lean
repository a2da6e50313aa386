import Relay.Http.Exchange

/-!
# Replies that stall

A reply stalls when it keeps its caller waiting for ever, with the connection open
(`Reply.Stalls`). Nothing arrives only where the reply does so (`stalls_of_silence`), and the
message has been read then (`message_of_arrival`).
-/

namespace Relay.Http

/-- Whether a reply keeps its caller waiting for ever: there is no answer, or its body stalls. -/
def Reply.Stalls : Reply → Prop
  | .silent => True
  | .answered response => response.received.ending = .stalled
  | .refused | .dropped => False

/-- A preliminary answer has a body. -/
theorem Response.received_of_preliminary {response : Response}
    (hpreliminary : response.isPreliminary = true) (hending : response.body.ending = .stalled) :
    response.received = response.body := by
  have hbody : response.isBodyless = false := by
    simp only [isPreliminary, Bool.and_eq_true, decide_eq_true_eq, bne_iff_ne] at hpreliminary
    simp only [isBodyless, List.contains_eq_mem, decide_eq_false_iff_not, List.mem_cons,
      List.not_mem_nil, or_false]
    omega
  have huncut : ¬(response.framing = .close ∧ response.body.ending = .cut) := by
    rintro ⟨-, hcut⟩
    cases hending.symm.trans hcut
  rw [received, hbody, if_neg Bool.false_ne_true, if_neg huncut]

/-- Nothing arrives only where the reply stalls. -/
theorem stalls_of_silence {built : Except TransportCause Message} {reply : Reply}
    (h : (exchange built reply).arrival = .silence) : reply.Stalls := by
  unfold exchange at h
  cases hbuilt : built.bind Message.complete with
  | error cause =>
    rw [hbuilt] at h
    cases h
  | ok message =>
    rw [hbuilt] at h
    simp only [Message.send] at h
    cases reply with
    | refused => cases h
    | dropped => cases h
    | silent => trivial
    | answered response =>
      simp only [Response.arrival] at h
      split at h
      · cases h
      · split at h
        next hpreliminary =>
          split at h
          next hending =>
            show response.received.ending = .stalled
            rw [Response.received_of_preliminary hpreliminary hending, hending]
          next => cases h
        next => cases h

/-- The far end has read the message when something else comes than a failure. -/
theorem message_of_arrival {built : Except TransportCause Message} {reply : Reply}
    (h : ∀ cause, (exchange built reply).arrival ≠ .failure cause) :
    ∃ message, (exchange built reply).message = some message := by
  unfold exchange at h ⊢
  cases hbuilt : built.bind Message.complete with
  | error cause =>
    rw [hbuilt] at h
    exact absurd rfl (h cause)
  | ok message =>
    rw [hbuilt] at h
    cases reply with
    | refused => exact absurd rfl (h _)
    | _ => exact ⟨message, rfl⟩

end Relay.Http
