import Relay.Proofs.Forwarder.Streaming
import Relay.Proofs.Frame.Written

/-!
# Chunks there and back

A streamed answer that was written frame by frame delivers what it was written for, and every chunk
that is delivered at all can be written that way again (`round_trip_of_frames`).

* A chunk that can be expected of a call has been read from a text (`spelled_prospect`), and no run
  delivers another one (`spelled_run`). So it is proper, and nests no deeper than a text may.
* What is written for such a chunk, without numbers that are no integers, carries it.
-/

namespace Relay

/-! ## 1. What can be delivered -/

/-- Whether a chunk has been read from a text. -/
def Spelled (chunk : Chunk) : Prop :=
  ∃ text, Json.parse text = .ok chunk

theorem spelled_of_decodeChunk {text : List Char} {chunk : Chunk}
    (h : decodeChunk text = .ok chunk) : Spelled chunk := by
  unfold decodeChunk at h
  cases hparse : Json.parse text with
  | error fault => simp [hparse] at h
  | ok value =>
    simp only [hparse, Except.ok.injEq] at h
    exact ⟨text, h ▸ hparse⟩

theorem spelled_of_decodeFrame {line : List UInt8} {chunk : Chunk}
    (h : decodeFrame line = .ok (some chunk)) : Spelled chunk := by
  unfold decodeFrame at h
  split at h
  · cases h
  · rename_i text _
    simp only [decodeLine] at h
    split at h
    · cases hchunk : decodeChunk ((Text.trim text).drop dataMark.length) with
      | error e => simp [hchunk, Except.map] at h
      | ok carried =>
        simp only [hchunk, Except.map, Except.ok.injEq, Option.some.injEq] at h
        exact h ▸ spelled_of_decodeChunk hchunk
    · cases h

/-- What lines carry has been read. -/
theorem spelled_of_chunksOf {lines : List (List UInt8)} {chunk : Chunk}
    (h : chunk ∈ Frame.chunksOf lines) : Spelled chunk := by
  obtain ⟨carried, hmem, hchunk⟩ := List.mem_filterMap.mp h
  obtain ⟨line, -, hline⟩ := List.mem_map.mp ((List.takeWhile_sublist _).subset hmem)
  subst hline
  cases hdecoded : decodeFrame line with
  | error e => simp [hdecoded, Except.toOption] at hchunk
  | ok decoded =>
    simp only [hdecoded, Except.toOption, Option.join_some] at hchunk
    exact spelled_of_decodeFrame (hdecoded.trans (congrArg _ hchunk))

/-- The chunks that can be expected. -/
def Prospect.chunks : Prospect → List Chunk
  | .script expected => expected.chunks
  | .finished => []

theorem Prospect.mem_of_next {prospect : Prospect} {chunk : Chunk}
    (h : prospect.next.taken = some (.chunk chunk)) : chunk ∈ prospect.chunks := by
  cases prospect with
  | finished => simp [next] at h
  | script script =>
    obtain ⟨chunks, stop, log⟩ := script
    cases chunks with
    | nil => cases stop <;> simp [next, Handle.Stop.item?] at h
    | cons first more =>
      simp only [next, Option.some.injEq, Item.chunk.injEq] at h
      exact h ▸ List.mem_cons_self

theorem spelled_script (order : Order) (reply : Http.Reply) {chunk : Chunk}
    (h : chunk ∈ (order.script reply).chunks) : Spelled chunk := by
  unfold Order.script Script.ofArrival at h
  split at h
  · simp at h
  · simp at h
  · rename_i response _
    unfold Script.ofResponse at h
    split_ifs at h
    · unfold Script.ofRefusal at h
      split at h <;> simp at h
    · exact spelled_of_chunksOf h
    · unfold Script.ofWhole at h
      split at h
      · simp at h
      · simp at h
      · split at h
        · rename_i text _ _ decoded hdecoded
          exact List.mem_singleton.mp h ▸ spelled_of_decodeChunk hdecoded
        · simp at h

/-- **What can be expected of a call has been read.** -/
theorem spelled_prospect (handle : Handle) {chunk : Chunk} (h : chunk ∈ handle.prospect.chunks) :
    Spelled chunk := by
  have hcall (call : Call) (h : chunk ∈ call.prospect.chunks) : Spelled chunk := by
    obtain ⟨order, reply, progress⟩ := call
    cases progress with
    | unsent => exact spelled_script order reply h
    | reading reader delivered => exact spelled_of_chunksOf h
    | _ => cases h
  cases handle with
  | plain call => exact hcall call h
  | guarded call =>
    obtain ⟨inner, fired, phase⟩ := call
    cases phase with
    | running =>
      cases fired with
      | true => cases h
      | false => exact hcall inner h
    | spent => cases h
    | finished => cases h

theorem spelled_poll (handle : Handle) (sessions : Sessions) {chunk : Chunk}
    (h : (handle.poll sessions).item = some (.chunk chunk)) : Spelled chunk :=
  spelled_prospect handle
    (Prospect.mem_of_next ((handle.follows_poll sessions).item.symm.trans h))

namespace Forwarder

/-! ## 2. What is delivered -/

/-- The chunks that a step has delivered. -/
def Outcome.chunks : Outcome → List Chunk
  | .item (some (.chunk chunk)) => [chunk]
  | .drained chunks _ => chunks
  | .collected (some (.ok chunks)) => chunks
  | _ => []

theorem Outcome.mem_delivered_of_chunks {outcome : Outcome} {chunk : Chunk}
    (h : chunk ∈ outcome.chunks) : .chunk chunk ∈ outcome.delivered := by
  unfold chunks at h
  split at h
  · exact List.mem_singleton.mp h ▸ List.mem_singleton_self _
  · exact List.mem_append_left _ (List.mem_map_of_mem h)
  · exact List.mem_map_of_mem h
  · cases h

/-- **Every chunk that a run delivers has been read.** -/
theorem spelled_run (forwarder : Forwarder) (state : State) (steps : List Step) {report : Report}
    {chunk : Chunk} (hreport : report ∈ run forwarder state steps)
    (h : chunk ∈ report.outcome.chunks) : Spelled chunk := by
  have hpoll (handle : Handle) (sessions : Sessions) :
      ∀ item ∈ (handle.poll sessions).item, ∀ carried, item = .chunk carried → Spelled carried := by
    rintro item hitem carried rfl
    exact spelled_poll handle sessions hitem
  exact forall_run _ hpoll forwarder state steps hreport _ (Outcome.mem_delivered_of_chunks h)
    chunk rfl

/-! ## 3. There and back -/

/-- What a body of frames delivers: the chunks that they were written for, and the end. -/
theorem script_of_written (url : String) {body : Http.Body} {chunks : List Chunk}
    (hbytes : body.bytes = bodyOf chunks) (hcomplete : body.ending = .complete)
    (h : ∀ chunk ∈ chunks, chunk.FitsIn Json.maxDepth ∧ chunk.isIntegral = true) :
    Script.ofBody url body =
      { chunks, stop := .ended, log := [.streamEnded url chunks.length] } := by
  have hcarried : Frame.carried (Frame.lines body) = (chunks, none) := by
    rw [Frame.lines, hbytes, hcomplete, ← Frame.segments_nil]
    exact Frame.carried_bodyOf h
  obtain ⟨hchunks, hfailure⟩ := Prod.mk.inj hcarried
  simp only [Script.ofBody, Script.ofLines, hchunks, hfailure, hcomplete, Script.stopOf, if_true,
    Nat.zero_add]

/-- **What is written frame by frame is delivered, and what is delivered can be written so.**

Take chunks that are proper, whose numbers are integers, and that nest at most 127 deep. A call for
a streamed answer whose body was written for them, and arrives complete with status 200, delivers
these chunks and the end: at once to a caller who drains or collects it, and item by item to one who
does not, whatever else happens in the run.

Conversely, take any step of any run. A chunk that it delivers is proper and nests at most 127 deep;
and if its numbers are integers, what is written for it carries it. -/
theorem round_trip_of_frames (forwarder : Forwarder) (state : State) (steps : List Step) :
    (∀ (chunks : List Chunk) (name : String) (request : Request) (cancellable : Bool)
        (reply : Http.Reply) (order : Order) (response : Http.Response),
      (∀ chunk ∈ chunks, chunk.isProper = true ∧ chunk.depth ≤ 127 ∧ chunk.isIntegral = true) →
      forwarder.order state.env request = .ok order → request.stream = true →
      (Http.exchange order.message reply).arrival = .response response → response.status = 200 →
      response.received.bytes = bodyOf chunks → response.received.ending = .complete →
      let opened := effect forwarder state (.openCall name request cancellable reply)
      let stages := life forwarder name opened.state steps
      (effect forwarder opened.state (.drain name)).outcome = .drained chunks .ended ∧
      (effect forwarder opened.state (.collect name)).outcome = .collected (some (.ok chunks)) ∧
      ((cancellable = true → ∀ step ∈ steps, step.used? = some name → step.fires = false) →
        stages.map (fun stage => (stage.effect forwarder).answered) =
          transcript answer
            (some (.script
              { chunks, stop := .ended, log := [.streamEnded order.url chunks.length] }))
            (stages.map Stage.step))) ∧
    ∀ report ∈ run forwarder state steps, ∀ chunk ∈ report.outcome.chunks,
      chunk.isProper = true ∧ chunk.depth ≤ 127 ∧
        (chunk.isIntegral = true → decodeFrame (frameOf chunk) = .ok (some chunk)) := by
  refine ⟨?_, fun report hreport chunk hchunk => ?_⟩
  · intro chunks name request cancellable reply order response hchunks horder hstream harrives
      hstatus hbytes hcomplete opened stages
    have hcall : opened.state.call? name = some (.new cancellable order reply) := by
      simp only [opened, effect_openCall forwarder state name cancellable reply horder,
        State.call?_putCall_self]
    have hwritten : order.script reply =
        { chunks, stop := .ended, log := [.streamEnded order.url chunks.length] } :=
      (Order.script_of_streamed ((stream_of_order forwarder horder).trans hstream) hstatus
        harrives).trans (script_of_written order.url hbytes hcomplete fun chunk hmem =>
          ⟨⟨(hchunks chunk hmem).1, (hchunks chunk hmem).2.1⟩, (hchunks chunk hmem).2.2⟩)
    have hdrain := (Handle.new cancellable order reply).follows_drain opened.state.sessions
    have htaken := hdrain.taken
    rw [Handle.prospect_new, hwritten] at htaken
    obtain ⟨hdrained, hstop⟩ := Prod.mk.inj htaken
    refine ⟨?_, ?_, fun hfires => ?_⟩
    · rw [effect_drain forwarder hcall, hdrained, hstop]
    · rw [effect_collect forwarder hcall, Handle.Drained.collected_eq, hdrained, hstop]
      rfl
    · have hlinked := linked_life forwarder name opened.state steps
      rw [hcall] at hlinked
      -- a call that cannot be cancelled hears no token, and no token of another call fires
      have hanswered := answered_of_linked forwarder (cancellable = false) hlinked
        (fun hplain call hheld => by
          subst hplain
          obtain rfl := Option.some.inj hheld
          exact Handle.deaf_plain _)
        (fun hguarded stage hstage => hfires (by simpa using hguarded) stage.step
          (step_mem_of_life forwarder name hstage) (used_of_linked hlinked stage hstage))
      rwa [Option.map_some, Handle.prospect_new, hwritten] at hanswered
  · obtain ⟨text, htext⟩ := spelled_run forwarder state steps hreport hchunk
    have hfits : chunk.FitsIn Json.maxDepth := Json.fits_of_parse htext
    exact ⟨hfits.1, hfits.2, decodeFrame_frameOf hfits⟩

/-- A control character, a quote in a key and the ends of the two ranges, cut inside a character. -/
theorem round_trip_of_frames_escaped :
    let forwarder : Forwarder := { baseUrl := "http://far", tokenEnv := "TOKEN" }
    let request : Request := { model := "m", prompt := "p", stream := true, token := some "t" }
    let chunks : List Chunk := [.object [("\"", .string "\n\u0001é")],
      .array [.number (.integer (-9223372036854775808)),
        .number (.integer 18446744073709551615)]]
    let response : Http.Response :=
      { body := { pieces := [(bodyOf chunks).take 20, (bodyOf chunks).drop 20] } }
    let opened := effect forwarder {} (.openCall "a" request true (.answered response))
    (effect forwarder opened.state (.drain "a")).outcome = .drained chunks .ended := by
  intro forwarder request chunks response opened
  have horder : forwarder.order {} request = .ok
      { url := "http://far/models/m", stream := true, token := "t", body := request.bodyText } :=
    rfl
  have hbytes : response.received.bytes = bodyOf chunks := by
    have hpieces : response.received.bytes =
        [(bodyOf chunks).take 20, (bodyOf chunks).drop 20].flatten := rfl
    simp [hpieces]
  exact ((round_trip_of_frames forwarder {} []).1 chunks "a" request true (.answered response) _
    response (by decide) horder rfl (by cbv) rfl hbytes rfl).1

end Forwarder

end Relay
