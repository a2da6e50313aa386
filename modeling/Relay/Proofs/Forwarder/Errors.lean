import Relay.Proofs.Call.Stops
import Relay.Proofs.Forwarder.Stops

/-!
# What the kind of an error tells

A caller decides by the kind of an error what to do about it. When a response has arrived, the error
that a call delivers tells by its kind what went wrong (`Error.Tells`), or the call was cancelled.
There is one exception, and the main statement (`tells_of_response`) finds no other: a connection
that is lost while a body is read as a whole is reported as a text that cannot be decoded. The loss
of the connection is hidden then, and so is a status other than 200.
-/

namespace Relay.Forwarder

section Response

variable {launch : Launch} {order : Order} {response : Http.Response}

/-- **The loss of a connection while the body is read as a whole** is all that a call delivers
then. -/
theorem drained_of_lostWhole
    (horder : launch.forwarder.order launch.state.env launch.request = .ok order)
    (harrives : (Http.exchange order.message launch.reply).arrival = .response response)
    (hlost : response.IsLostWhole launch.request.stream) :
    (effect launch.forwarder launch.opened.state (.drain launch.name)).outcome =
      .drained [] (.failed (.decode .cutShort)) := by
  rw [← stream_of_order launch.forwarder horder] at hlost
  rw [outcome_drain launch.forwarder (Launch.call?_opened_of_order horder), Handle.prospect_new,
    Order.script_of_response harrives, Script.ofResponse_of_lostWhole hlost]
  rfl

/-- **The error of a response tells what went wrong, unless the connection is lost while the body is
read as a whole.**

Whatever is done with a call in a run, an error that it delivers is the cancellation of a call whose
token may have fired, or tells what went wrong; such a loss alone is delivered as another kind. And
a response that neither succeeds nor stalls does bring an error, to a caller who takes all that the
call delivers. -/
theorem tells_of_response
    (horder : launch.forwarder.order launch.state.env launch.request = .ok order)
    (harrives : (Http.exchange order.message launch.reply).arrival = .response response) :
    let stream := launch.request.stream
    (∀ stage ∈ launch.stages, ∀ e,
        (stage.effect launch.forwarder).outcome.error? = some e →
          (e = .cancelled ∧ launch.cancellable = true ∧ launch.Fires) ∨
            (e.Tells stream response ↔ ¬response.IsLostWhole stream) ∧
              (response.IsLostWhole stream → e = .decode .cutShort)) ∧
      (response.received.ending ≠ .stalled → ¬response.Succeeds stream →
        ∃ chunks e, (effect launch.forwarder launch.opened.state (.drain launch.name)).outcome =
          .drained chunks (.failed e)) := by
  rw [← stream_of_order launch.forwarder horder]
  intro stream
  have hstops := Script.stopsBy_ofResponse order response
  constructor
  · intro stage hstage e he
    rcases Launch.stop_of_error horder hstage he with hstop | ⟨hfired, rfl⟩
    · rw [Order.script_of_response harrives] at hstop
      have hlost : response.IsLostWhole stream → e = .decode .cutShort := by
        intro h
        rw [Script.ofResponse_of_lostWhole h] at hstop
        exact (Handle.Stop.failed.inj hstop).symm
      rw [hstop] at hstops
      refine .inr ⟨⟨fun htells h => ?_, Error.tells_of_stopsBy hstops⟩, hlost⟩
      rw [hlost h] at htells
      exact Error.not_tells_of_lostWhole h _ htells
    · exact .inl ⟨rfl, hfired⟩
  · intro hending hsucceeds
    obtain ⟨e, he⟩ := hstops.exists_failed hending hsucceeds
    refine ⟨(Script.ofResponse order response).chunks, e, ?_⟩
    rw [outcome_drain launch.forwarder (Launch.call?_opened_of_order horder), Handle.prospect_new,
      Order.script_of_response harrives, ← he]
    rfl

end Response

/-- A connection that is lost inside a line of a streamed answer, behind a line with a chunk. -/
theorem tells_of_response_lost_line :
    let response : Http.Response :=
      { body := { pieces := ["data:true\n\nda".toUTF8.toList], ending := .cut } }
    let launch : Launch :=
      { forwarder := { baseUrl := "http://far", tokenEnv := "TOKEN" }
        state := {}
        name := "a"
        request := { model := "m", prompt := "p", stream := true, token := some "t" }
        cancellable := false
        reply := .answered response
        after := [.drain "a"] }
    ∃ chunks e, (effect launch.forwarder launch.opened.state (.drain "a")).outcome =
      .drained chunks (.failed e) ∧ e.Tells true response := by
  intro response launch
  let order : Order :=
    { url := "http://far/models/m", stream := true, token := "t", body := launch.request.bodyText }
  have horder : launch.forwarder.order launch.state.env launch.request = .ok order := rfl
  have harrives : (Http.exchange order.message launch.reply).arrival = .response response := by
    cbv
  obtain ⟨htells, hfails⟩ := tells_of_response horder harrives
  have hlost : ¬response.Succeeds true := fun h => Http.Ending.noConfusion h.complete
  have hread : ¬response.IsLostWhole true := fun h => Bool.noConfusion (h.stream_eq rfl)
  obtain ⟨chunks, e, houtcome⟩ := hfails Http.Ending.noConfusion hlost
  have hstage : { state := launch.opened.state, step := .drain "a" } ∈ launch.stages :=
    List.mem_singleton_self _
  refine ⟨chunks, e, houtcome, ?_⟩
  rcases htells _ hstage e (by rw [Stage.effect, houtcome]; rfl) with ⟨-, hguarded, -⟩ | ⟨hiff, -⟩
  · cases hguarded
  · exact hiff.mpr hread

/-- Neither the status of a refusal nor the loss of a connection is told, when the connection is
lost while the body is read as a whole. -/
theorem lost_whole_hidden :
    let refusal : Http.Response :=
      { status := 503, body := { pieces := ["busy".toUTF8.toList], ending := .cut } }
    let answer : Http.Response :=
      { status := 200, body := { pieces := ["[1,".toUTF8.toList], ending := .cut } }
    let launch : Http.Response → Launch := fun response =>
      { forwarder := { baseUrl := "http://far", tokenEnv := "TOKEN" }
        state := {}
        name := "a"
        request := { model := "m", prompt := "p", token := some "t" }
        cancellable := false
        reply := .answered response
        after := [.drain "a"] }
    let reported : Http.Response → Outcome := fun response =>
      (effect (launch response).forwarder (launch response).opened.state (.drain "a")).outcome
    (reported refusal = .drained [] (.failed (.decode .cutShort)) ∧
        ¬(Error.decode .cutShort).Tells false refusal) ∧
      reported answer = .drained [] (.failed (.decode .cutShort)) ∧
        ¬(Error.decode .cutShort).Tells false answer := by
  intro refusal answer launch reported
  let order : Order :=
    { url := "http://far/models/m", stream := false, token := "t"
      body := (launch refusal).request.bodyText }
  have horder : ∀ response, (launch response).forwarder.order (launch response).state.env
      (launch response).request = .ok order := fun _ => rfl
  have hrefusal : refusal.IsLostWhole false := ⟨rfl, .inr rfl⟩
  have hanswer : answer.IsLostWhole false := ⟨rfl, .inr rfl⟩
  refine ⟨⟨?_, Error.not_tells_of_lostWhole hrefusal _⟩, ?_,
    Error.not_tells_of_lostWhole hanswer _⟩
  · exact drained_of_lostWhole (horder refusal) (by cbv) hrefusal
  · exact drained_of_lostWhole (horder answer) (by cbv) hanswer

end Relay.Forwarder
