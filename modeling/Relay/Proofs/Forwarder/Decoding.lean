import Relay.Proofs.Forwarder.Deliveries
import Relay.Proofs.Frame.Spacing

/-!
# How bodies are decoded

Three laws of the bodies that arrive complete with status 200:

* a text is decoded alike on the line of a streamed answer and as a body of its own
  (`alike_in_both_modes`);
* white space around the lines of a streamed body changes nothing of what the call brings
  (`unmoved_by_space`);
* a streamed body that is a text is read by the lines of the text, although only its bytes are
  divided; and only a text is read to a clean end (`read_as_text`).
-/

namespace Relay

open Http (Response)
open Text.Utf8 (encode IsText)
open Text (isBlank)

/-- Whether a response with status 200 brings these bytes, and all of them. -/
structure Http.Response.Holds (response : Response) (bytes : List UInt8) : Prop where
  status : response.status = 200
  complete : response.received.ending = .complete
  bytes : response.received.bytes = bytes

/-- A text in UTF-8 is read as it is. -/
theorem Http.Response.text_of_utf8 {response : Response} {text : List Char}
    (hcharset : Http.charsetOf response.contentType = .utf8)
    (hbytes : response.received.bytes = encode text) (hmark : text.head? ≠ some '\uFEFF') :
    response.text = text := by
  rw [Response.text, hcharset, hbytes, Text.Utf8.decodeMarked?_encode hmark, Option.getD_some]

/-- What is read as a whole, when the body is a text in UTF-8. -/
theorem Script.ofWhole_of_holds {response : Response} {text : List Char}
    (hholds : response.Holds (encode text)) (hcharset : Http.charsetOf response.contentType = .utf8)
    (hmark : text.head? ≠ some '\uFEFF') :
    Script.ofWhole response = match decodeChunk text with
      | .ok chunk => { chunks := [chunk], stop := .ended }
      | .error e => { stop := .failed e } := by
  have htext := Response.text_of_utf8 hcharset hholds.bytes hmark
  have hwhole : response.whole = .text text := by
    rw [response.whole_eq, hholds.complete, htext]
  cases hdecoded : decodeChunk text <;> simp only [Script.ofWhole, hwhole, hdecoded]

/-- Reading lines of text never stops at bytes that are no text. -/
theorem Script.stopOf_failureOfTexts_ne (texts : List (List Char)) (fault : Text.Utf8.Fault) :
    Script.stopOf .complete (Frame.failureOfTexts texts) ≠ .failed (.decode (.notText fault)) := by
  intro h
  cases hfailure : Frame.failureOfTexts texts with
  | none =>
    rw [hfailure] at h
    cases h
  | some e =>
    obtain ⟨cause, rfl⟩ := Frame.notJson_of_failureOfTexts hfailure
    rw [hfailure] at h
    cases h

theorem Script.eq_none_of_stopOf {failure : Option Error}
    (h : Script.stopOf .complete failure = .ended) : failure = none := by
  cases failure with
  | none => rfl
  | some e => cases h

namespace Forwarder

/-! ## 1. On a line, and as a whole -/

/-- **A text is decoded alike on the line of a streamed answer and as a body of its own.**

Take a text on one line that does not begin with a byte order mark and does not end in white space.
A call for a streamed answer, for which it arrives behind the mark of a chunk, and a call for
another answer, for which it arrives as the body, bring the same: the chunk that the text spells and
the end, or the error that says what is wrong with it, and where. -/
theorem alike_in_both_modes {text : List Char} (hline : '\n' ∉ text)
    (hmark : text.head? ≠ some '\uFEFF') (hlast : ∀ c ∈ text.getLast?, Text.isSpace c = false)
    {streamed whole : Launch} {frame document : Response}
    (hstreamed : streamed.Receives frame) (hstream : streamed.request.stream = true)
    (hframe : frame.Holds (encode (dataMark ++ text)) ∨
      frame.Holds (encode (dataMark ++ text) ++ [Frame.newline]))
    (hwhole : whole.Receives document) (hmode : whole.request.stream = false)
    (hdocument : document.Holds (encode text))
    (hcharset : Http.charsetOf document.contentType = .utf8) :
    ∃ chunks stop, streamed.Brings chunks stop ∧ whole.Brings chunks stop ∧
      ((∃ chunk, Json.parse text = .ok chunk ∧ chunks = [chunk] ∧ stop = .ended) ∨
        ∃ fault, Json.parse text = .error fault ∧ chunks = [] ∧
          stop = .failed (.decode (.notJson fault))) := by
  obtain ⟨hstatus, hcomplete, hlines⟩ : frame.status = 200 ∧
      frame.received.ending = .complete ∧
        Frame.lines frame.received = [encode (dataMark ++ text)] := by
    rcases hframe with h | h
    · exact ⟨h.status, h.complete, Frame.lines_of_marked hline h.complete (.inl h.bytes)⟩
    · exact ⟨h.status, h.complete, Frame.lines_of_marked hline h.complete (.inr h.bytes)⟩
  have hframes := Launch.brings_of_frames hstreamed hstream hstatus
  have hbody := Launch.brings_of_whole hwhole hmode hdocument.status
  have hdecoded := decodeFrame_marked hlast
  rw [hlines, hcomplete] at hframes
  rw [Script.ofWhole_of_holds hdocument hcharset hmark] at hbody
  unfold decodeChunk at hdecoded hbody
  cases hparse : Json.parse text with
  | ok chunk =>
    rw [hparse] at hdecoded hbody
    obtain ⟨hchunks, hfailure⟩ := Prod.mk.inj (Frame.carried_of_chunk [] hdecoded)
    rw [hchunks, hfailure] at hframes
    exact ⟨_, _, hframes, hbody, .inl ⟨chunk, rfl, rfl, rfl⟩⟩
  | error fault =>
    rw [hparse] at hdecoded hbody
    obtain ⟨hchunks, hfailure⟩ := Prod.mk.inj (Frame.carried_of_failure [] hdecoded)
    rw [hchunks, hfailure] at hframes
    exact ⟨_, _, hframes, hbody, .inr ⟨fault, rfl, rfl, rfl⟩⟩

/-- White space that JSON does not know, in front of a list that is not closed. -/
theorem alike_in_both_modes_blank :
    let text := "\u00A0[é".toList
    let frame : Response :=
      { body := { pieces := [encode (dataMark ++ text) ++ [Frame.newline]] }, framing := .chunked }
    let document : Response :=
      { contentType := some "application/json; charset=utf-8"
        body := { pieces := [encode text] } }
    let launch : Bool → Response → Launch := fun stream response =>
      { forwarder := { baseUrl := "http://far", tokenEnv := "TOKEN" }
        state := {}
        name := "a"
        request := { model := "m", prompt := "p", stream, token := some "t" }
        cancellable := false
        reply := .answered response
        after := [] }
    let stop : Handle.Stop :=
      .failed (.decode (.notJson { cause := .expectedValue, line := 1, column := 1 }))
    (launch true frame).Brings [] stop ∧ (launch false document).Brings [] stop := by
  have hcharset : Http.charsetOf (some "application/json; charset=utf-8") = .utf8 := rfl
  have hfault : Json.parse "\u00A0[é".toList =
      .error { cause := .expectedValue, line := 1, column := 1 } := by
    cbv
  intro text frame document launch stop
  have hlast : ∀ c ∈ text.getLast?, Text.isSpace c = false := by
    intro c hc
    obtain rfl : 'é' = c := Option.some.inj hc
    decide
  have hline : '\n' ∉ text := by decide
  have hframe : frame.Holds (encode (dataMark ++ text) ++ [Frame.newline]) :=
    ⟨rfl, rfl, List.append_nil _⟩
  have hdocument : document.Holds (encode text) := ⟨rfl, rfl, List.append_nil _⟩
  have hreceives : (launch true frame).Receives frame := ⟨_, rfl, by cbv⟩
  have hreceivesWhole : (launch false document).Receives document := ⟨_, rfl, by cbv⟩
  obtain ⟨chunks, reached, hstreamed, hwhole, hparse⟩ :=
    alike_in_both_modes hline (by decide) hlast hreceives rfl (.inr hframe) hreceivesWhole rfl
      hdocument hcharset
  rcases hparse with ⟨chunk, hchunk, -, -⟩ | ⟨fault, hfailed, rfl, rfl⟩
  · cases hfault.symm.trans hchunk
  · obtain rfl := Except.error.inj (hfault.symm.trans hfailed)
    exact ⟨hstreamed, hwhole⟩

/-! ## 2. White space around lines -/

/-- **White space around the lines of a streamed body changes nothing of what a call brings.**

Of a line: if it is a text, it carries the same with any white space on both sides; if not, it
cannot be decoded with any nor without.

Of a body: take any number of changes of the white space around its lines, none of which puts a newline
there. For both bodies a call brings the same chunks, and then the end, or an error at the
same line. It is the same error if the line is a text. -/
theorem unmoved_by_space :
    (∀ before after : List Char, isBlank before = true → isBlank after = true →
      (∀ text, decodeFrame (encode before ++ encode text ++ encode after) =
        decodeFrame (encode text)) ∧
      ∀ raw, ¬IsText raw → (∃ cause, decodeFrame raw = .error (.decode cause)) ∧
        ∃ cause, decodeFrame (encode before ++ raw ++ encode after) = .error (.decode cause)) ∧
    ∀ (launch other : Launch) (response another : Response) (bytes spaced : List UInt8),
      launch.Receives response → launch.request.stream = true → response.Holds bytes →
      other.Receives another → other.request.stream = true → another.Holds spaced →
      Relation.ReflTransGen Frame.Respacing bytes spaced →
      ∃ chunks failure otherFailure,
        launch.Brings chunks (Script.stopOf .complete failure) ∧
        other.Brings chunks (Script.stopOf .complete otherFailure) ∧
        Frame.FailAlike (Frame.lines response.received) (Frame.lines another.received) failure
          otherFailure := by
  refine ⟨fun before after hbefore hafter => ⟨fun text => ?_, fun raw hraw => ⟨?_, ?_⟩⟩, ?_⟩
  · exact decodeFrame_between hbefore hafter (Text.Utf8.isText_encode text)
  · exact decodeFrame_of_not_isText hraw
  · exact decodeFrame_between_of_not_isText before after hraw
  · intro launch other response another bytes spaced hreceives hstream hholds hother hotherStream
      hspaced hspacing
    rw [← hholds.bytes, ← hspaced.bytes] at hspacing
    have halike := Frame.carryAlike_of_respaced hholds.complete hspaced.complete hspacing
    have hbrings := Launch.brings_of_frames hreceives hstream hholds.status
    have hbringsOther := Launch.brings_of_frames hother hotherStream hspaced.status
    rw [hholds.complete] at hbrings
    rw [hspaced.complete, halike.chunks] at hbringsOther
    exact ⟨_, _, _, hbrings, hbringsOther, halike.failure⟩

/-- A carriage return, and a no-break space in front of the line that fails. -/
theorem unmoved_by_space_before_failure :
    let front := "data: 1".toUTF8.toList
    let last := "data:[".toUTF8.toList
    let bytes := front ++ Frame.newline :: last
    let spaced := (front ++ 0x0D :: [Frame.newline]) ++ encode ['\u00A0'] ++ last
    let launch : List UInt8 → Launch := fun bytes =>
      { forwarder := { baseUrl := "http://far", tokenEnv := "TOKEN" }
        state := {}
        name := "a"
        request := { model := "m", prompt := "p", stream := true, token := some "t" }
        cancellable := false
        reply := .answered { body := { pieces := [bytes] } }
        after := [] }
    ∃ chunks failure otherFailure,
      (launch bytes).Brings chunks (Script.stopOf .complete failure) ∧
      (launch spaced).Brings chunks (Script.stopOf .complete otherFailure) ∧
      Frame.FailAlike (Frame.lines { pieces := [bytes] }) (Frame.lines { pieces := [spaced] })
        failure otherFailure := by
  intro front last bytes spaced launch
  have hspace : Frame.IsInlineSpace ['\u00A0'] := ⟨by decide, by decide⟩
  have hfirst : Frame.Respacing bytes (front ++ 0x0D :: Frame.newline :: last) :=
    .lineEnd front last
  have hsecond : Frame.Respacing (front ++ 0x0D :: Frame.newline :: last) spaced := by
    have h := Frame.Respacing.before hspace (front ++ 0x0D :: [Frame.newline]) last (by simp)
    rwa [List.append_assoc front] at h
  exact unmoved_by_space.2 (launch bytes) (launch spaced) { body := { pieces := [bytes] } }
    { body := { pieces := [spaced] } } bytes spaced ⟨_, rfl, by cbv⟩ rfl
    ⟨rfl, rfl, List.append_nil _⟩ ⟨_, rfl, by cbv⟩ rfl ⟨rfl, rfl, List.append_nil _⟩
    (.tail (.single hfirst) hsecond)

/-! ## 3. Bytes and characters -/

/-- **A streamed body that is a text is read by the lines of the text, and only a text is read to a
clean end.**

If the bytes of the body are those of a text, then its lines are those of the text, a call brings
what these lines carry, and no step in a run reports bytes that are no text. Conversely, if at some
point of a run no step of the call has failed, and nothing is to come but chunks and the end, then
the bytes of the body are those of a text, with all that stands on lines without a chunk. -/
theorem read_as_text {launch : Launch} {response : Response} {bytes : List UInt8}
    (hreceives : launch.Receives response) (hstream : launch.request.stream = true)
    (hholds : response.Holds bytes) :
    (∀ text, bytes = encode text →
      Frame.lines response.received = (Frame.textLines text).map encode ∧
      launch.Brings (Frame.chunksOfTexts (Frame.textLines text))
        (Script.stopOf .complete (Frame.failureOfTexts (Frame.textLines text))) ∧
      ∀ stage ∈ launch.stages, ∀ fault,
        (stage.effect launch.forwarder).outcome.error? ≠ some (.decode (.notText fault))) ∧
    ((∀ step ∈ launch.after, step.opened? ≠ some launch.name) → ¬launch.Fails → ∀ chunks,
      Delivers launch.forwarder (reach launch.forwarder launch.opened.state launch.after)
        launch.name chunks .ended → IsText bytes) := by
  obtain ⟨order, horder, harrives⟩ := id hreceives
  have hstop := Launch.stop_of_streamed horder harrives hstream hholds.status
  rw [hholds.complete] at hstop
  refine ⟨fun text htext => ?_, fun hafter hfails chunks hdelivers => ?_⟩
  · have hlines := Frame.lines_of_text hholds.complete (hholds.bytes.trans htext)
    obtain ⟨hchunks, hfailure⟩ :=
      Prod.mk.inj (Frame.carried_map_encode (Frame.textLines text))
    have hbrings := Launch.brings_of_frames hreceives hstream hholds.status
    rw [hholds.complete, hlines, hchunks, hfailure] at hbrings
    refine ⟨hlines, hbrings, fun stage hstage fault herror => ?_⟩
    rw [hlines, hfailure] at hstop
    rcases Launch.stop_of_error horder hstage herror with hfailed | ⟨-, hcancelled⟩
    · exact Script.stopOf_failureOfTexts_ne _ fault (hstop.symm.trans hfailed)
    · cases hcancelled
  · have hended := hstop.symm.trans (Launch.ended_of_delivers horder hafter hfails hdelivers)
    rw [← hholds.bytes]
    exact Frame.isText_of_failureOf hholds.complete (Script.eq_none_of_stopOf hended)

/-- A character of two bytes, cut in two by the pieces, on a line without a chunk, and one of four
bytes behind the last newline. -/
theorem read_as_text_divided :
    let text := ": é\ndata:true\n😀".toList
    let response : Response :=
      { body := { pieces := [(encode text).take 3, (encode text).drop 3] } }
    let launch : Launch :=
      { forwarder := { baseUrl := "http://far", tokenEnv := "TOKEN" }
        state := {}
        name := "a"
        request := { model := "m", prompt := "p", stream := true, token := some "t" }
        cancellable := false
        reply := .answered response
        after := [] }
    launch.Brings [.bool true] .ended ∧ IsText (encode text) := by
  have hlines : Frame.textLines ": é\ndata:true\n😀".toList =
      [": é".toList, "data:true".toList, "😀".toList] := by
    cbv
  have hnoise : decodeLine ": é".toList = .ok none := rfl
  have hmarked : decodeLine "data:true".toList = .ok (some (.bool true)) := by cbv
  have hlast : decodeLine "😀".toList = .ok none := rfl
  have hdecoded : (Frame.textLines ": é\ndata:true\n😀".toList).map decodeLine =
      [.ok none, .ok (some (.bool true)), .ok none] := by
    rw [hlines, List.map_cons, List.map_cons, List.map_cons, List.map_nil, hnoise, hmarked, hlast]
  intro text response launch
  have hbytes : response.received.bytes = encode text := by
    have hpieces : response.received.bytes =
        [(encode text).take 3, (encode text).drop 3].flatten := rfl
    simp [hpieces]
  have hreceives : launch.Receives response := ⟨_, rfl, by cbv⟩
  obtain ⟨hread, hclean⟩ := read_as_text hreceives rfl ⟨rfl, rfl, hbytes⟩
  have hbrings := (hread text rfl).2.1
  rw [Frame.chunksOfTexts, Frame.failureOfTexts, hdecoded] at hbrings
  have hfails : ¬launch.Fails := by
    rintro ⟨stage, hstage, -⟩
    cases hstage
  exact ⟨hbrings, hclean (List.forall_mem_nil _) hfails _ hbrings.delivers⟩

end Forwarder

end Relay
