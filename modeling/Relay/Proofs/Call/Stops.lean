import Relay.Proofs.Call.Script
import Relay.Proofs.Text.Utf8

/-!
# What a response stops a call with

When a response arrives, its status, the mode of the call and the way its body ends decide what the
call stops with: `Script.StopsBy` lists what that may be, and `Script.stopsBy_ofResponse` finds it
in the script of every response. From this follows

* that a call comes to the end for the responses that succeed and for no others
  (`Script.StopsBy.eq_ended_iff`, `Order.arrives_of_ended`);
* that an error tells by its kind what went wrong (`Error.Tells`), unless the connection is lost
  while a body is read as a whole (`Error.tells_of_stopsBy`). Such a loss is taken for a text that
  cannot be decoded, whatever the status is (`Script.ofResponse_of_lostWhole`).
-/

namespace Relay

open Http (Response Ending)

/-! ## 1. What cannot be decoded -/

/-- Whether a text is the JSON of a value. -/
def IsJson (text : List Char) : Prop :=
  ∃ value, Json.parse text = .ok value

theorem decodeChunk_cases (text : List Char) :
    IsJson text ∧ (∃ chunk, decodeChunk text = .ok chunk) ∨
      ¬IsJson text ∧ ∃ cause, decodeChunk text = .error (.decode cause) := by
  unfold decodeChunk IsJson
  cases Json.parse text with
  | ok chunk => exact .inl ⟨⟨chunk, rfl⟩, chunk, rfl⟩
  | error fault =>
    refine .inr ⟨?_, .notJson fault, rfl⟩
    rintro ⟨value, hvalue⟩
    cases hvalue

namespace Frame

/-- Whether a line is no text, or its payload is no JSON. -/
def IsCorrupt (line : List UInt8) : Prop :=
  (∀ text, line ≠ Text.Utf8.encode text) ∨
    ∃ text payload, line = Text.Utf8.encode text ∧ Text.trim text = dataMark ++ payload ∧
      ¬IsJson payload

/-- **The lines that are an error are the corrupt ones.** -/
theorem isCorrupt_iff {line : List UInt8} :
    IsCorrupt line ↔ ∃ e, decodeFrame line = .error e := by
  unfold decodeFrame
  cases hdecode : Text.Utf8.decode line with
  | error fault =>
    refine iff_of_true (.inl fun text htext => ?_) ⟨_, rfl⟩
    rw [Text.Utf8.decode_eq_ok_iff.mpr htext] at hdecode
    cases hdecode
  | ok text =>
    have hline : line = Text.Utf8.encode text := Text.Utf8.decode_eq_ok_iff.mp hdecode
    have hcorrupt : IsCorrupt line ↔
        ∃ payload, Text.trim text = dataMark ++ payload ∧ ¬IsJson payload := by
      constructor
      · rintro (hno | ⟨other, payload, hother, hpayload⟩)
        · exact absurd hline (hno text)
        · rw [Text.Utf8.decode_eq_ok_iff.mpr hother] at hdecode
          obtain rfl := Except.ok.inj hdecode
          exact ⟨payload, hpayload⟩
      · rintro ⟨payload, hpayload⟩
        exact .inr ⟨text, payload, hline, hpayload⟩
    rw [hcorrupt]
    simp only [decodeLine]
    by_cases hmark : dataMark.isPrefixOf (Text.trim text) = true
    · obtain ⟨payload, hpayload⟩ := List.isPrefixOf_iff_prefix.mp hmark
      rw [if_pos hmark, ← hpayload, List.drop_left]
      rcases decodeChunk_cases payload with ⟨hjson, chunk, hchunk⟩ | ⟨hjson, cause, hcause⟩
      · rw [hchunk]
        refine iff_of_false ?_ ?_
        · rintro ⟨other, hother, hno⟩
          rw [List.append_cancel_left hother] at hjson
          exact hno hjson
        · rintro ⟨e, he⟩
          cases he
      · rw [hcause]
        exact iff_of_true ⟨payload, rfl, hjson⟩ ⟨_, rfl⟩
    · rw [if_neg hmark]
      refine iff_of_false ?_ ?_
      · rintro ⟨payload, hpayload, -⟩
        exact hmark (List.isPrefixOf_iff_prefix.mpr ⟨payload, hpayload.symm⟩)
      · rintro ⟨e, he⟩
        cases he

/-- Lines bring no failure where none of them is corrupt. -/
theorem failureOf_eq_none_iff {lines : List (List UInt8)} :
    failureOf lines = none ↔ ∀ line ∈ lines, ¬IsCorrupt line := by
  unfold failureOf
  rw [List.findSome?_eq_none_iff, List.forall_mem_map]
  refine forall₂_congr fun line _ => ?_
  rw [isCorrupt_iff]
  cases decodeFrame line with
  | error e => simp
  | ok carried => simp

end Frame

/-! ## 2. Responses that succeed -/

namespace Http.Response

variable (stream : Bool) (response : Response)

/-- Whether what arrives of a body can be decoded: every line of a streamed body, any other as a
whole. -/
def Decodes : Prop :=
  if stream then ∀ line ∈ Frame.lines response.received, ¬Frame.IsCorrupt line
  else IsJson response.text

/-- Whether a response is the answer that a call asks for. -/
structure Succeeds : Prop where
  status : response.status = 200
  complete : response.received.ending = .complete
  decodes : response.Decodes stream

/-- Whether the connection is lost while the body is read as a whole: the body of a streamed answer
is so read when the status is not 200. -/
def IsLostWhole : Prop :=
  response.received.ending = .cut ∧ (response.status ≠ 200 ∨ stream = false)

theorem whole_eq : response.whole = match response.received.ending with
    | .complete => .text response.text
    | .cut => .cutShort
    | .stalled => .waiting := rfl

theorem IsLostWhole.stream_eq {stream : Bool} {response : Response}
    (h : response.IsLostWhole stream) (hstatus : response.status = 200) : stream = false :=
  h.2.resolve_left (not_not_intro hstatus)

end Http.Response

/-! ## 3. What a script of a response stops with -/

/-- What a response may stop a call with, and when it does so. -/
inductive Script.StopsBy (stream : Bool) (response : Response) : Handle.Stop → Prop where
  | ended (h : response.Succeeds stream) : StopsBy stream response .ended
  | refused (hstatus : response.status ≠ 200) (hending : response.received.ending = .complete)
    (body : String) :
    StopsBy stream response (.failed (.ofResponse response.status body))
  /-- The connection is lost between the lines, or inside one. -/
  | lost (hstatus : response.status = 200) (hstream : stream = true)
    (hending : response.received.ending = .cut) (hdecodes : response.Decodes stream) :
    StopsBy stream response (.failed (.transport .cutShort))
  | lostWhole (h : response.IsLostWhole stream) :
    StopsBy stream response (.failed (.decode .cutShort))
  | undecodable (hstatus : response.status = 200) (hdecodes : ¬response.Decodes stream)
    (hending : stream = false → response.received.ending = .complete) (cause : DecodeCause) :
    StopsBy stream response (.failed (.decode cause))
  | waiting (hending : response.received.ending = .stalled) : StopsBy stream response .waiting

namespace Script

variable {stream : Bool} {order : Order} {response : Response}

theorem stopsBy_ofRefusal (h : response.status ≠ 200) :
    StopsBy stream response (ofRefusal response).stop := by
  unfold ofRefusal
  rw [response.whole_eq]
  cases hending : response.received.ending with
  | complete => exact .refused h hending _
  | cut => exact .lostWhole ⟨hending, .inl h⟩
  | stalled => exact .waiting hending

theorem stopsBy_ofWhole (h : response.status = 200) :
    StopsBy false response (ofWhole response).stop := by
  unfold ofWhole
  rw [response.whole_eq]
  cases hending : response.received.ending with
  | complete =>
    rcases decodeChunk_cases response.text with ⟨hjson, chunk, hchunk⟩ | ⟨hjson, cause, hcause⟩
    · simp only [hchunk]
      exact .ended ⟨h, hending, hjson⟩
    · have hno : ¬response.Decodes false := hjson
      simp only [hcause]
      exact .undecodable h hno (fun _ => hending) cause
  | cut => exact .lostWhole ⟨hending, .inr rfl⟩
  | stalled => exact .waiting hending

theorem stopsBy_ofBody (h : response.status = 200) (url : String) :
    StopsBy true response (ofBody url response.received).stop := by
  show StopsBy true response
    (stopOf response.received.ending (Frame.failureOf (Frame.lines response.received)))
  cases hfailure : Frame.failureOf (Frame.lines response.received) with
  | some e =>
    obtain ⟨cause, rfl⟩ := Frame.decode_of_failureOf hfailure
    have hno : ¬response.Decodes true := fun hdecodes => by
      rw [Frame.failureOf_eq_none_iff.mpr hdecodes] at hfailure
      cases hfailure
    exact .undecodable h hno Bool.noConfusion cause
  | none =>
    have hdecodes : response.Decodes true := Frame.failureOf_eq_none_iff.mp hfailure
    cases hending : response.received.ending with
    | complete => exact .ended ⟨h, hending, hdecodes⟩
    | cut => exact .lost h rfl hending hdecodes
    | stalled => exact .waiting hending

/-- **What a response stops a call with**: its status, the mode of the call and the way its body
ends decide. -/
theorem stopsBy_ofResponse (order : Order) (response : Response) :
    StopsBy order.stream response (ofResponse order response).stop := by
  unfold ofResponse
  by_cases hstatus : response.status = 200
  · rw [if_neg (not_not_intro hstatus)]
    cases order.stream with
    | true => exact stopsBy_ofBody hstatus order.url
    | false => exact stopsBy_ofWhole hstatus
  · rw [if_pos hstatus]
    exact stopsBy_ofRefusal hstatus

/-- **A connection that is lost while a body is read as a whole is taken for a text that cannot be
decoded**, whatever the status is. -/
theorem ofResponse_of_lostWhole (h : response.IsLostWhole order.stream) :
    ofResponse order response = { stop := .failed (.decode .cutShort) } := by
  have hwhole : response.whole = .cutShort := by
    rw [response.whole_eq, h.1]
  unfold ofResponse
  by_cases hstatus : response.status = 200
  · rw [if_neg (not_not_intro hstatus), h.stream_eq hstatus]
    simp only [ofWhole, hwhole, Bool.false_eq_true, if_false]
  · rw [if_pos hstatus]
    simp only [ofRefusal, hwhole]

/-- A response that neither succeeds nor stalls brings an error. -/
theorem StopsBy.exists_failed {stop : Handle.Stop} (hstops : StopsBy stream response stop)
    (hending : response.received.ending ≠ .stalled) (h : ¬response.Succeeds stream) :
    ∃ e, stop = .failed e := by
  cases hstops with
  | ended hsucceeds => exact absurd hsucceeds h
  | waiting hstalled => exact absurd hstalled hending
  | refused | lost | lostWhole | undecodable => exact ⟨_, rfl⟩

/-- The responses that succeed are those for which a call comes to its end. -/
theorem StopsBy.eq_ended_iff {stop : Handle.Stop} (hstops : StopsBy stream response stop) :
    stop = .ended ↔ response.Succeeds stream := by
  constructor
  · rintro rfl
    cases hstops with
    | ended h => exact h
  · intro h
    cases hstops with
    | ended => rfl
    | refused hstatus => exact absurd h.status hstatus
    | lost hstatus hstream hending hdecodes => cases hending.symm.trans h.complete
    | lostWhole hlost => cases hlost.1.symm.trans h.complete
    | undecodable hstatus hdecodes => exact absurd h.decodes hdecodes
    | waiting hending => cases hending.symm.trans h.complete

end Script

/-- A call delivers what the response does that arrives for it. -/
theorem Order.script_of_response {order : Order} {reply : Http.Reply} {response : Response}
    (h : (Http.exchange order.message reply).arrival = .response response) :
    order.script reply = .ofResponse order response := by
  rw [Order.script, h]
  rfl

/-- **A call only comes to its end when a response has arrived that succeeds.** -/
theorem Order.arrives_of_ended {order : Order} {reply : Http.Reply}
    (h : (order.script reply).stop = .ended) :
    ∃ response, (Http.exchange order.message reply).arrival = .response response ∧
      response.Succeeds order.stream := by
  cases harrival : (Http.exchange order.message reply).arrival with
  | failure cause =>
    rw [Order.script, harrival] at h
    cases h
  | silence =>
    rw [Order.script, harrival] at h
    cases h
  | response response =>
    rw [Order.script_of_response harrival] at h
    exact ⟨response, rfl, (Script.stopsBy_ofResponse order response).eq_ended_iff.mp h⟩

/-! ## 4. Errors that tell what went wrong -/

/-- Whether the kind of an error tells what went wrong with a response.

A status other than 200 is told before all else. A connection that is lost is told as the loss of
the connection, if no line in front of the loss is corrupt. What cannot be decoded has arrived:
lines that are complete, or the whole body. -/
structure Error.Tells (stream : Bool) (response : Response) (e : Error) : Prop where
  refused : response.status ≠ 200 → ∃ snippet, e = .endpoint response.status snippet
  lost : response.status = 200 → response.received.ending = .cut →
    (stream = true → response.Decodes stream) → ∃ cause, e = .transport cause
  undecodable : ∀ cause, e = .decode cause → response.status = 200 ∧ ¬response.Decodes stream ∧
    (stream = false → response.received.ending = .complete)

namespace Error

variable {stream : Bool} {response : Response} {e : Error}

/-- **The error of a response tells what went wrong**, when no connection is lost while the body is
read as a whole. -/
theorem tells_of_stopsBy (h : Script.StopsBy stream response (.failed e))
    (hread : ¬response.IsLostWhole stream) : e.Tells stream response := by
  cases h with
  | refused hstatus hending body =>
    refine ⟨fun _ => ⟨_, rfl⟩, fun h => absurd h hstatus, fun cause he => ?_⟩
    cases he
  | lost hstatus hstream hending hdecodes =>
    refine ⟨fun h => absurd hstatus h, fun _ _ _ => ⟨_, rfl⟩, fun cause he => ?_⟩
    cases he
  | lostWhole hlost => exact absurd hlost hread
  | undecodable hstatus hdecodes hending cause =>
    refine ⟨fun h => absurd hstatus h, fun _ hcut hlines => ?_,
      fun _ _ => ⟨hstatus, hdecodes, hending⟩⟩
    cases hstream : stream with
    | true => exact absurd (hlines hstream) hdecodes
    | false => cases hcut.symm.trans (hending hstream)

theorem not_tells_of_lostWhole (hlost : response.IsLostWhole stream) (cause : DecodeCause) :
    ¬(Error.decode cause).Tells stream response := by
  intro htells
  obtain ⟨hstatus, -, hcomplete⟩ := htells.undecodable cause rfl
  cases hlost.1.symm.trans (hcomplete (hlost.stream_eq hstatus))

end Error

end Relay
