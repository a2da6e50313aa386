import Relay.Proofs.Forwarder.Collecting

/-!
# What a response brings

A caller polls a call again and again, drains it, collects it, or uses it bit by bit in a run.
`Launch.Brings` says of chunks and a stop that the call comes to these in each of these ways. When a
response arrives for a call (`Launch.Receives`), it decides what the call brings:

* with status 200, the lines of the body decide when the answer is streamed (`brings_of_frames`),
  and the body as a whole when it is not (`brings_of_whole`);
* with any other status, the call brings an error and nothing else (`brings_of_refusal`). The main
  statement (`refused_alike`) compares the three ways to read such a response: for a streamed
  answer, for one that is not, and for capabilities. They all fail with the same error.
-/

namespace Relay

open Http (Response)

namespace Forwarder

/-! ## 1. Calls for which a response arrives -/

namespace Launch

variable {launch : Launch} {order : Order} {response : Response}

/-- Whether a call is opened, and a response arrives for it. -/
def Receives (launch : Launch) (response : Response) : Prop :=
  ∃ order, launch.forwarder.order launch.state.env launch.request = .ok order ∧
    (Http.exchange order.message launch.reply).arrival = .response response

/-- Whether a call brings chunks and then comes to a stop, however its caller takes them: one by
one, all at once, or among whatever else happens in a run in which its token does not fire. -/
structure Brings (launch : Launch) (chunks : List Chunk) (stop : Handle.Stop) : Prop where
  delivers : Delivers launch.forwarder launch.opened.state launch.name chunks stop
  drained : (effect launch.forwarder launch.opened.state (.drain launch.name)).outcome =
    .drained chunks stop
  collected : (effect launch.forwarder launch.opened.state (.collect launch.name)).outcome =
    .collected (stop.collected chunks)
  answered : (launch.cancellable = true → ¬launch.Fires) →
    ∃ log, launch.stages.map (fun stage => (stage.effect launch.forwarder).answered) =
      transcript answer (some (.script { chunks, stop, log })) (launch.stages.map Stage.step)

/-- **A call brings its script.** -/
theorem brings_of_script
    (horder : launch.forwarder.order launch.state.env launch.request = .ok order) :
    launch.Brings (order.script launch.reply).chunks (order.script launch.reply).stop := by
  have hcall := call?_opened_of_order horder
  have htaken : (Handle.new launch.cancellable order launch.reply).prospect.drain.taken =
      ((order.script launch.reply).chunks, (order.script launch.reply).stop) := by
    rw [Handle.prospect_new]
    rfl
  refine ⟨(delivers_iff launch.forwarder hcall).mpr htaken, ?_, ?_, fun hunfired =>
    ⟨_, answered_of_unfired horder hunfired⟩⟩
  · rw [outcome_drain launch.forwarder hcall, htaken]
  · rw [outcome_collect launch.forwarder hcall, htaken]

/-- What a response brings is settled by itself and by the mode of the call. -/
theorem brings_of_receives (h : launch.Receives response) :
    ∃ order : Order, order.stream = launch.request.stream ∧
      launch.Brings (Script.ofResponse order response).chunks
        (Script.ofResponse order response).stop := by
  obtain ⟨order, horder, harrives⟩ := h
  refine ⟨order, stream_of_order launch.forwarder horder, ?_⟩
  rw [← Order.script_of_response harrives]
  exact brings_of_script horder

/-- A streamed answer brings what its lines carry. -/
theorem brings_of_frames (h : launch.Receives response) (hstream : launch.request.stream = true)
    (hstatus : response.status = 200) :
    launch.Brings (Frame.chunksOf (Frame.lines response.received))
      (Script.stopOf response.received.ending
        (Frame.failureOf (Frame.lines response.received))) := by
  obtain ⟨order, hmode, hbrings⟩ := brings_of_receives h
  rwa [Script.ofResponse, if_neg (not_not_intro hstatus), hmode, hstream] at hbrings

/-- Any other answer brings its body as a whole. -/
theorem brings_of_whole (h : launch.Receives response) (hstream : launch.request.stream = false)
    (hstatus : response.status = 200) :
    launch.Brings (Script.ofWhole response).chunks (Script.ofWhole response).stop := by
  obtain ⟨order, hmode, hbrings⟩ := brings_of_receives h
  rwa [Script.ofResponse, if_neg (not_not_intro hstatus), hmode, hstream,
    if_neg Bool.false_ne_true] at hbrings

/-- A streamed answer stops where the reading of its lines does. -/
theorem stop_of_streamed
    (horder : launch.forwarder.order launch.state.env launch.request = .ok order)
    (harrives : (Http.exchange order.message launch.reply).arrival = .response response)
    (hstream : launch.request.stream = true) (hstatus : response.status = 200) :
    (order.script launch.reply).stop = Script.stopOf response.received.ending
      (Frame.failureOf (Frame.lines response.received)) := by
  rw [Order.script_of_streamed ((stream_of_order launch.forwarder horder).trans hstream) hstatus
    harrives]
  rfl

/-- The end is brought where the script has it, unless an error has been brought before. -/
theorem ended_of_delivers
    (horder : launch.forwarder.order launch.state.env launch.request = .ok order)
    (hafter : ∀ step ∈ launch.after, step.opened? ≠ some launch.name) (hfails : ¬launch.Fails)
    {chunks : List Chunk} (hdelivers : Delivers launch.forwarder
      (reach launch.forwarder launch.opened.state launch.after) launch.name chunks .ended) :
    (order.script launch.reply).stop = .ended := by
  obtain ⟨call, hcall⟩ := open_of_delivers launch.forwarder hdelivers
  have hdrain := (delivers_iff launch.forwarder hcall).mp hdelivers
  obtain ⟨failed, hfailed, htied⟩ := tied_reach horder hafter hcall
  rcases htied.prospect.of_ended hdrain with ⟨-, htrue⟩ | hended
  · exact absurd (hfailed.mp htrue) hfails
  · exact hended

/-- An answer with another status brings no chunk, whatever its body looks like. -/
theorem brings_of_refusal (h : launch.Receives response) (hstatus : response.status ≠ 200) :
    launch.Brings [] (Script.ofRefusal response).stop := by
  obtain ⟨order, -, hbrings⟩ := brings_of_receives h
  rw [Script.ofResponse, if_pos hstatus] at hbrings
  have hchunks : (Script.ofRefusal response).chunks = [] := by
    unfold Script.ofRefusal
    split <;> rfl
  rwa [hchunks] at hbrings

end Launch

/-! ## 2. Other statuses than 200 -/

/-- Capabilities are taken from the response that arrives. -/
theorem result_fetch {baseUrl : String} {reply : Http.Reply} {response : Response}
    (harrives : (Http.exchange (Http.Message.start .get (Caps.address baseUrl)) reply).arrival =
      .response response) :
    (Caps.fetch baseUrl reply).result = (Caps.take (Caps.address baseUrl) response).1 := by
  simp only [Caps.fetch, harrives, Caps.arrive]

/-- What is wrong with a response is the same for calls and for capabilities. -/
theorem exists_refusal {response : Response} (hstatus : response.status ≠ 200)
    (hending : response.received.ending ≠ .stalled) :
    ∃ e : Error, (Script.ofRefusal response).stop = .failed e ∧
      (∀ url, (Caps.take url response).1 = some (.error e)) ∧
      (response.received.ending = .complete → e = .endpoint response.status
        (Text.shorten (String.ofList response.text) 50)) ∧
      (response.received.ending = .cut → e = .decode .cutShort) := by
  cases hcase : response.received.ending with
  | stalled => exact absurd hcase hending
  | complete =>
    have hwhole : response.whole = .text response.text := by
      rw [response.whole_eq, hcase]
    refine ⟨.ofResponse response.status (String.ofList response.text), ?_, fun url => ?_,
      fun _ => rfl, Http.Ending.noConfusion⟩
    · simp only [Script.ofRefusal, hwhole]
    · simp only [Caps.take, hwhole, if_pos hstatus]
  | cut =>
    have hwhole : response.whole = .cutShort := by
      rw [response.whole_eq, hcase]
    refine ⟨.decode .cutShort, ?_, fun url => ?_, Http.Ending.noConfusion, fun _ => rfl⟩
    · simp only [Script.ofRefusal, hwhole]
    · simp only [Caps.take, hwhole]

/-- **A response with another status than 200 is the same error to all who read it.**

Take such a response, with any content type and a body that is complete or cut short. There is one
error that every call brings for which the response arrives, streamed or not, and no chunk; and
every fetching of capabilities for which it arrives fails with this error. If the body is complete,
the error has the status and the shortened text of the body. -/
theorem refused_alike {response : Response} (hstatus : response.status ≠ 200)
    (hending : response.received.ending ≠ .stalled) :
    ∃ e : Error,
      (∀ launch : Launch, launch.Receives response → launch.Brings [] (.failed e)) ∧
        (∀ baseUrl reply,
          (Http.exchange (Http.Message.start .get (Caps.address baseUrl)) reply).arrival =
            .response response → (Caps.fetch baseUrl reply).result = some (.error e)) ∧
        (response.received.ending = .complete → e = .endpoint response.status
          (Text.shorten (String.ofList response.text) 50)) ∧
        (response.received.ending = .cut → e = .decode .cutShort) := by
  obtain ⟨e, hrefusal, hcaps, hcomplete, hcut⟩ := exists_refusal hstatus hending
  refine ⟨e, fun launch hreceives => ?_, fun baseUrl reply harrives => ?_, hcomplete, hcut⟩
  · have hbrings := Launch.brings_of_refusal hreceives hstatus
    rwa [hrefusal] at hbrings
  · rw [result_fetch harrives, hcaps]

/-- A body that looks like a chunk on a line, with Cyrillic letters of one byte behind it, read in the
three ways. -/
theorem refused_alike_cyrillic :
    let response : Response :=
      { status := 503, contentType := some "text/plain; Charset=\"KOI8-R\""
        body := { pieces := ["data:true\n".toUTF8.toList, [0xCF, 0xDB, 0xC9, 0xC2, 0xCB, 0xC1]] } }
    let launch : Bool → Launch := fun stream =>
      { forwarder := { baseUrl := "http://far", tokenEnv := "TOKEN" }
        state := {}
        name := "a"
        request := { model := "m", prompt := "p", stream, token := some "t" }
        cancellable := false
        reply := .answered response
        after := [] }
    let e : Error := .endpoint 503 "data:true ошибка"
    (∀ stream, (launch stream).Brings [] (.failed e)) ∧
      (Caps.fetch "http://far" (.answered response)).result = some (.error e) := by
  intro response launch e
  have hstatus : response.status ≠ 200 := by decide
  obtain ⟨cause, hcalls, hcaps, hcomplete, -⟩ := refused_alike hstatus (by decide)
  have hcharset : Http.charsetOf response.contentType = .oneByte .koi8R := rfl
  have htext : response.text = "data:true\nошибка".toList := by
    rw [Response.text, hcharset]
    cbv
  have hcause : cause = e := by
    rw [hcomplete rfl, htext]
    cbv
  subst hcause
  refine ⟨fun stream => hcalls _ ⟨_, rfl, ?_⟩, hcaps _ _ ?_⟩
  · cbv
  · cbv

end Forwarder

end Relay
