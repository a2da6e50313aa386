import Relay.Call

/-!
# How far a poll gets

How far a call has come, and what it has just answered, fit together (`Progress.Fits`): a call that
has been polled has sent what it has to send, one that has answered with an error is broken, and one
that has answered the end is finished. All that polls come to fits (`Call.fits_poll`).
-/

namespace Relay

/-- Whether a call can have got so far with an answer. -/
structure Progress.Fits (progress : Progress) (item : Option Item) : Prop where
  sent : progress ≠ .unsent
  broken : ∀ e, item = some (.failed e) → ∃ held, progress = .broken held
  finished : item = some .ended → progress = .finished

namespace Call

theorem fits_ofError (error : Error) (log : List Event) :
    (Turn.ofError error log).progress.Fits (Turn.ofError error log).item :=
  ⟨by simp [Turn.ofError], fun _ _ => ⟨false, rfl⟩, by simp [Turn.ofError]⟩

theorem fits_waiting : Progress.waiting.Fits none :=
  ⟨by simp, by simp, by simp⟩

theorem fits_read (url : String) (reader : Frame.Reader) (delivered : Nat) :
    (read url reader delivered).progress.Fits (read url reader delivered).item := by
  unfold read
  cases reader.next with
  | chunk chunk after => exact ⟨by simp, by simp, by simp⟩
  | failed e => exact ⟨by simp, fun _ _ => ⟨_, rfl⟩, by simp⟩
  | ended => exact ⟨by simp, by simp, fun _ => rfl⟩
  | waiting after => exact ⟨by simp, by simp, by simp⟩

theorem fits_takeWhole (response : Http.Response) :
    (takeWhole response).progress.Fits (takeWhole response).item := by
  unfold takeWhole
  cases response.whole with
  | waiting => exact fits_waiting
  | cutShort => exact fits_ofError _ _
  | text text =>
    simp only
    cases decodeChunk text with
    | ok chunk => exact ⟨by simp, by simp, by simp⟩
    | error e => exact fits_ofError _ _

theorem fits_takeRefusal (response : Http.Response) :
    (takeRefusal response).progress.Fits (takeRefusal response).item := by
  unfold takeRefusal
  cases response.whole with
  | waiting => exact fits_waiting
  | cutShort => exact fits_ofError _ _
  | text text => exact fits_ofError _ _

theorem fits_arrive (order : Order) (arrival : Http.Arrival) :
    (arrive order arrival).progress.Fits (arrive order arrival).item := by
  cases arrival with
  | failure cause => exact fits_ofError _ _
  | silence => exact fits_waiting
  | response response =>
    simp only [arrive, take]
    split
    · exact fits_takeRefusal response
    · split
      · exact fits_read _ _ _
      · exact fits_takeWhole response

/-- **What a poll leaves fits what it answers.** -/
theorem fits_poll (call : Call) (sessions : Sessions) :
    (call.poll sessions).call.progress.Fits (call.poll sessions).item := by
  obtain ⟨order, reply, progress⟩ := call
  have hfinished : Progress.finished.Fits (some .ended) := ⟨by simp, by simp, fun _ => rfl⟩
  cases progress with
  | unsent => exact fits_arrive _ _
  | reading reader delivered => exact fits_read _ _ _
  | waiting => exact fits_waiting
  | answered => exact hfinished
  | broken held => exact hfinished
  | finished => exact hfinished

end Call

end Relay
