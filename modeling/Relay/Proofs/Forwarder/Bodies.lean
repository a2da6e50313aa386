import Relay.Proofs.Forwarder.Sending
import Relay.Proofs.Frame.Written

/-!
# The body of a request read back

The body that is sent for a call spells the prompt, the parameters and the stream flag of its
request, and nothing else (`read_back_of_sent`). So requests that differ in one of them never send
the same body. It holds of all requests with a body that can be read (`Request.IsLegible`); that
their parameters are proper is no condition on requests that were built from proper values
(`isProper_build`).
-/

namespace Relay

namespace Request

/-! ## 1. Parameters -/

/-- Whether what a step of building sets is proper. -/
def Change.isProper : Change → Bool
  | .parameters object => (Json.Value.object object).isProper
  | .parameter _ value => value.isProper
  | .stream _ => true
  | .token _ => true

theorem isProper_insert {key : String} {value : Json.Value} {object : Json.Object}
    (hvalue : value.isProper = true) (hobject : (Json.Value.object object).isProper = true) :
    (Json.Value.object (Json.Object.insert key value object)).isProper = true := by
  simp only [Json.Value.isProper, Json.properMembers_iff] at hobject ⊢
  obtain ⟨hincreases, hmembers⟩ := hobject
  refine ⟨Json.Object.increases_insert hincreases, fun member hmem => ?_⟩
  rcases Json.Object.mem_insert hmem with rfl | hmem
  · exact hvalue
  · exact hmembers member hmem

theorem isProper_change {request : Request} {change : Change} (hchange : change.isProper = true)
    (h : (Json.Value.object request.parameters).isProper = true) :
    (Json.Value.object (request.change change).parameters).isProper = true := by
  cases change with
  | parameters object => exact hchange
  | parameter key value => exact isProper_insert hchange h
  | stream on => exact h
  | token text => exact h

/-- **A request that is built from proper values has proper parameters.** -/
theorem isProper_build (model prompt : String) {changes : List Change}
    (h : ∀ change ∈ changes, change.isProper = true) :
    (Json.Value.object (build model prompt changes).parameters).isProper = true := by
  have hfold (request : Request)
      (hrequest : (Json.Value.object request.parameters).isProper = true) :
      (Json.Value.object (changes.foldl change request).parameters).isProper = true := by
    induction changes generalizing request with
    | nil => exact hrequest
    | cons first more ih =>
      obtain ⟨hfirst, hmore⟩ := List.forall_mem_cons.mp h
      exact ih hmore _ (isProper_change hfirst hrequest)
  refine hfold (new model prompt) ?_
  simp only [new, Json.Value.isProper, Json.properMembers]

/-! ## 2. Bodies -/

/-- Whether the body of a request can be read: the members of its parameters are in order and its
numbers are integers of 64 bits, and it nests at most 127 deep. -/
structure IsLegible (request : Request) : Prop where
  proper : (Json.Value.object request.parameters).isProper = true
  integral : (Json.Value.object request.parameters).isIntegral = true
  shallow : request.body.depth ≤ 127

namespace IsLegible

variable {request other : Request}

theorem fitsIn_body (h : request.IsLegible) : request.body.FitsIn Json.maxDepth := by
  refine ⟨?_, h.shallow⟩
  have horder : Json.Object.Increases
      [("inputs", .string request.prompt), ("parameters", .object request.parameters),
        ("stream", .bool request.stream)] := by
    simp only [Json.Object.Increases, List.pairwise_cons, List.forall_mem_cons]
    decide
  rw [body, Json.Value.isProper, Json.properMembers_iff]
  refine ⟨horder, ?_⟩
  simp only [List.forall_mem_cons]
  exact ⟨by simp only [Json.Value.isProper], h.proper, by simp only [Json.Value.isProper], by simp⟩

theorem isIntegral_body (h : request.IsLegible) : request.body.isIntegral = true := by
  rw [body, Json.Value.isIntegral, Json.integralMembers_iff]
  simp only [List.forall_mem_cons]
  exact ⟨by simp only [Json.Value.isIntegral], h.integral, by simp only [Json.Value.isIntegral],
    by simp⟩

/-- **The text of a body spells the body.** -/
theorem parse_bodyText (h : request.IsLegible) :
    Json.parse request.bodyText.toList = .ok request.body := by
  rw [bodyText, Json.Value.toText, String.toList_ofList]
  exact Json.parse_text h.fitsIn_body h.isIntegral_body

/-- Behind the mark of a frame, it carries the body. -/
theorem decodeFrame_bodyText (h : request.IsLegible) :
    decodeFrame (Text.Utf8.encode (dataMark ++ request.bodyText.toList)) =
      .ok (some request.body) := by
  rw [bodyText, Json.Value.toText, String.toList_ofList]
  exact decodeFrame_frameOf h.fitsIn_body h.isIntegral_body

/-- **Requests with the same body text ask for the same.** -/
theorem eq_of_bodyText (h : request.IsLegible) (hother : other.IsLegible)
    (htext : request.bodyText = other.bodyText) :
    request.prompt = other.prompt ∧ request.parameters = other.parameters ∧
      request.stream = other.stream := by
  have hread := h.parse_bodyText
  rw [htext, hother.parse_bodyText] at hread
  have hbody : other.body = request.body := Except.ok.inj hread
  simpa [body, eq_comm] using hbody

end IsLegible

end Request

namespace Forwarder

/-! ## 3. What is sent -/

/-- **The body that is sent for a call spells its request.**

Take any run in which a call is opened for a request with a body that can be read. The body of a
message that is sent for the call, read as JSON, is the object with the prompt, the parameters and
the stream flag of the request as its members, and no other; it is read so as a text, and as what a
line of a streamed answer carries.

So whatever is sent for two such requests that differ in their prompts, their parameters or their
stream flags differs in its body, in whatever runs they are sent. -/
theorem read_back_of_sent (launch : Launch) (h : launch.request.IsLegible) :
    let spelled : Json.Value := .object
      [("inputs", .string launch.request.prompt),
       ("parameters", .object launch.request.parameters),
       ("stream", .bool launch.request.stream)]
    (∀ message ∈ launch.sent, ∃ text, message.body = some text ∧
        Json.parse text.toList = .ok spelled ∧
        decodeFrame (Text.Utf8.encode (dataMark ++ text.toList)) = .ok (some spelled)) ∧
      ∀ other : Launch, other.request.IsLegible →
        ∀ message ∈ launch.sent, ∀ message' ∈ other.sent, message.body = message'.body →
          launch.request.prompt = other.request.prompt ∧
            launch.request.parameters = other.request.parameters ∧
            launch.request.stream = other.request.stream := by
  intro spelled
  have hbody {launch : Launch} {message : Http.Message} (hmem : message ∈ launch.sent) :
      message.body = some launch.request.bodyText := by
    obtain ⟨address, token, -, -, htakes⟩ := Launch.takes_of_mem_sent hmem
    exact htakes.body
  refine ⟨fun message hmem => ?_, fun other hother message hmem message' hmem' hsame => ?_⟩
  · exact ⟨launch.request.bodyText, hbody hmem, h.parse_bodyText, h.decodeFrame_bodyText⟩
  · rw [hbody hmem, hbody hmem'] at hsame
    exact h.eq_of_bodyText hother (Option.some.inj hsame)

/-- Quotes and a control character in the prompt and in a key. A prompt that holds the escape of the
control character, letter by letter, goes out with another body. -/
theorem read_back_of_sent_escaped :
    let launch (prompt : String) : Launch :=
      { forwarder := { baseUrl := "http://far", tokenEnv := "TOKEN" }
        state := {}
        name := "a"
        request := .build "m" prompt
          [.parameter "é" (.array [.string "\\", .null]),
            .parameter "\"\t" (.number (.integer 18446744073709551615)), .stream true, .token "t"]
        cancellable := true
        reply := .silent
        after := [.acquire, .next "a"] }
    ∃ message ∈ (launch "\"\u0001").sent,
      (∃ text, message.body = some text ∧ Json.parse text.toList = .ok (.object
        [("inputs", .string "\"\u0001"),
         ("parameters", .object
           [("\"\t", .number (.integer 18446744073709551615)),
            ("é", .array [.string "\\", .null])]),
         ("stream", .bool true)])) ∧
        ∀ message' ∈ (launch "\"\\u0001").sent, message.body ≠ message'.body := by
  intro launch
  have hlegible (prompt : String) : (launch prompt).request.IsLegible := by
    refine ⟨Request.isProper_build _ _ ?_, ?_, ?_⟩
    · simp only [List.forall_mem_cons]
      exact ⟨by decide, by decide, rfl, rfl, by simp⟩
    · cbv
    · cbv
  have hsent : (launch "\"\u0001").sent.length = 1 := by
    cbv
  obtain ⟨message, hmessage⟩ := List.exists_mem_of_length_pos (hsent ▸ Nat.one_pos)
  obtain ⟨hread, hsame⟩ := read_back_of_sent (launch "\"\u0001") (hlegible _)
  obtain ⟨text, hbody, hparse, -⟩ := hread message hmessage
  refine ⟨message, hmessage, ⟨text, hbody, hparse⟩, fun message' hmessage' heq => ?_⟩
  have hprompt := (hsame (launch "\"\\u0001") (hlegible _) message hmessage message' hmessage' heq).1
  exact absurd hprompt (by decide)

end Forwarder

end Relay
