import Mathlib
import Relay.Proofs.Forwarder.Answers
import Relay.Proofs.Http.Sent

/-!
# Streamed answers

A call for a streamed answer delivers the chunks of the lines of the body in front of the first line
that cannot be decoded, and then stops: with that line's error, with the loss of the connection, or
with the end. The main statement (`answered_of_streamed`) says so of every run that holds such a
call, whatever its caller does with it and whatever else happens in the run. The bytes of the body
decide alone: it does not matter how they are cut into pieces.
-/

namespace Relay

theorem Handle.prospect_new (cancellable : Bool) (order : Order) (reply : Http.Reply) :
    (Handle.new cancellable order reply).prospect = .script (order.script reply) := by
  cases cancellable <;> rfl

/-- A streamed answer that arrives with status 200 delivers what its body does. -/
theorem Order.script_of_streamed {order : Order} {reply : Http.Reply} {response : Http.Response}
    (hstream : order.stream = true) (hstatus : response.status = 200)
    (harrives : (Http.exchange order.message reply).arrival = .response response) :
    order.script reply = .ofBody order.url response.received := by
  simp [Order.script, harrives, Script.ofArrival, Script.ofResponse, hstatus, hstream]

namespace Forwarder

variable (forwarder : Forwarder) (state : State) (name : String) {request : Request}
  {order : Order} (cancellable : Bool) (reply : Http.Reply)

/-- What opening a call comes to, when nothing is refused. -/
theorem effect_openCall (horder : forwarder.order state.env request = .ok order) :
    effect forwarder state (.openCall name request cancellable reply) =
      { state := state.putCall name (.new cancellable order reply), outcome := .opened } := by
  rw [openCall_eq, horder]

theorem stream_of_order {env : Environment} (horder : forwarder.order env request = .ok order) :
    order.stream = request.stream := by
  obtain ⟨token, -, rfl⟩ := eq_of_order horder
  rfl

/-- **A call for a streamed answer delivers the chunks of the lines of the body, and then stops.**

Each step that uses the call answers out of `Script.ofBody`, so that the items it has delivered are
at any time the first of these: the chunks of the lines in front of the first that cannot be
decoded, in order; the error of that line, the loss of the connection, or the end; and then the end
for ever. The end of the stream is logged when the script says so and never else. -/
theorem answered_of_streamed (steps : List Step) {response : Http.Response}
    (horder : forwarder.order state.env request = .ok order) (hstream : request.stream = true)
    (harrives : (Http.exchange order.message reply).arrival = .response response)
    (hstatus : response.status = 200)
    (hfires : cancellable = true →
      ∀ step ∈ steps, step.used? = some name → step.fires = false) :
    let opened := effect forwarder state (.openCall name request cancellable reply)
    let stages := life forwarder name opened.state steps
    let lines := Frame.lines response.received
    let stop := Script.stopOf response.received.ending (Frame.failureOf lines)
    stages.map (fun stage => (stage.effect forwarder).answered) =
        transcript answer (some (.script (.ofBody order.url response.received)))
          (stages.map Stage.step) ∧
      (∃ ends, stages.flatMap (fun stage => (stage.effect forwarder).outcome.items) <+:
        (Frame.chunksOf lines).map .chunk ++ stop.item?.toList ++ List.replicate ends .ended) ∧
      (∀ e, Frame.failureOf lines = some e → ∃ cause, e = .decode cause) := by
  intro opened stages lines stop
  have hcall : opened.state.call? name = some (.new cancellable order reply) := by
    simp only [opened, effect_openCall forwarder state name cancellable reply horder,
      State.call?_putCall_self]
  have hlinked := linked_life forwarder name opened.state steps
  rw [hcall] at hlinked
  have hscript : order.script reply = .ofBody order.url response.received :=
    Order.script_of_streamed ((stream_of_order forwarder horder).trans hstream) hstatus harrives
  -- a call that cannot be cancelled hears no token, and no token of another call fires
  have hanswered := answered_of_linked forwarder (cancellable = false) hlinked
    (fun hplain call hheld => by
      subst hplain
      obtain rfl := Option.some.inj hheld
      exact Handle.deaf_plain _)
    (fun hguarded stage hstage => hfires (by simpa using hguarded) stage.step
      (step_mem_of_life forwarder name hstage) (used_of_linked hlinked stage hstage))
  rw [Option.map_some, Handle.prospect_new, hscript] at hanswered
  refine ⟨hanswered, ?_, fun e => Frame.decode_of_failureOf⟩
  obtain ⟨ends, hitems⟩ := items_of_transcript
    (.script (.ofBody order.url response.received)) (stages.map Stage.step)
  refine ⟨ends, ?_⟩
  rw [← hanswered, List.flatMap_map] at hitems
  refine hitems.trans ((List.prefix_append_right_inj _).mpr ?_)
  by_cases hstop : stop = .waiting
  · exact if_pos hstop ▸ List.nil_prefix
  · exact if_neg hstop ▸ List.prefix_refl _

/-- Two lines with a chunk, the second cut in two by the pieces, and one that is lost with the
connection; the caller takes one item, all that is left, and one more. -/
theorem answered_of_streamed_lost :
    let forwarder : Forwarder := { baseUrl := "http://far", tokenEnv := "TOKEN" }
    let request : Request := { model := "m", prompt := "p", stream := true, token := some "t" }
    let response : Http.Response :=
      { body :=
          { pieces := ["data:true\n\nda", "ta:null\nd"].map (fun s => s.toUTF8.toList)
            ending := .cut } }
    let opening := Step.openCall "a" request true (.answered response)
    let stages := life forwarder "a" (effect forwarder {} opening).state
      [.next "a", .shutdown, .drain "a", .next "a"]
    stages.map (fun stage => (stage.effect forwarder).answered) =
      [(.item (some (.chunk (.bool true))), []),
        (.drained [.null] (.failed (.transport .cutShort)), []), (.item (some .ended), [])] := by
  intro forwarder request response opening stages
  have horder : forwarder.order {} request = .ok
      { url := "http://far/models/m", stream := true, token := "t", body := request.bodyText } :=
    rfl
  have h := (answered_of_streamed forwarder {} "a" true (.answered response)
    [.next "a", .shutdown, .drain "a", .next "a"] horder rfl (by cbv) rfl
    (by simp [Step.used?, Step.fires])).1
  have hsteps : stages.map Stage.step = [.next "a", .drain "a", .next "a"] := by
    rfl
  rw [hsteps] at h
  refine h.trans ?_
  cbv

end Forwarder

end Relay
