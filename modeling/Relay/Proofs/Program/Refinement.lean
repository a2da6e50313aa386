import Relay.Program
import Relay.Proofs.Forwarder.Collecting
import Relay.Proofs.Forwarder.Refusals
import Relay.Proofs.Forwarder.Sending
import Relay.Proofs.Http.Stalls
import Relay.Proofs.Json.RoundTrip

/-!
# The program and the library

The program adds nothing to the library: what it sends and prints is what a call of the library
sends and delivers, and how it exits is how this call stops.

* `Program.Ready` says that a setting passes all guards in front of the call, and
  `Program.library` is the call as any user of the library would make it.
* `Program.finish` turns what has been taken of a call into lines, an exit code and a complaint
  (`output_finish`, `exitCode_finish_iff`, `complaint_of_failed`). A line is the text of one chunk,
  and no text has a line end in it, so the lines are found again in what is written
  (`splitOn_written`).
* The call is taken to its stop, and only an answer that stalls has none
  (`Order.stalls_of_waiting`).

The main statement is `Program.refines_library`.
-/

namespace Relay

/-! ## 1. Calls that wait -/

/-- **A call only waits where the reply stalls.** -/
theorem Order.stalls_of_waiting {order : Order} {reply : Http.Reply}
    (h : (order.script reply).stop = .waiting) : reply.Stalls := by
  cases harrival : (Http.exchange order.message reply).arrival with
  | failure cause =>
    rw [Order.script, harrival] at h
    cases h
  | silence => exact Http.stalls_of_silence harrival
  | response response =>
    have hstops := Script.stopsBy_ofResponse order response
    rw [← Order.script_of_response harrival, h] at hstops
    rw [Call.reply_of_exchange harrival]
    cases hstops with
    | waiting hending => exact hending

namespace Program

open Forwarder (Launch Delivers)

/-! ## 2. Lines -/

/-- What is written to the output: each line with its end. -/
def Outcome.written (outcome : Outcome) : List Char :=
  outcome.output.flatMap (fun line => line.toList ++ ['\n'])

/-- Lines without a line end in them are found again between the ends. -/
theorem splitOn_flatMap {lines : List (List Char)} (h : ∀ line ∈ lines, '\n' ∉ line) :
    (lines.flatMap (fun line => line ++ ['\n'])).splitOn '\n' = lines ++ [[]] := by
  induction lines with
  | nil => rfl
  | cons line more ih =>
    obtain ⟨hline, hmore⟩ := List.forall_mem_cons.mp h
    have hone : line.splitOn '\n' = [line] := by
      have honly : ∀ l ∈ [line], '\n' ∉ l := by simpa using hline
      simpa using List.splitOn_intercalate '\n' honly (List.cons_ne_nil _ _)
    have hend : ('\n' == '\n') = true := rfl
    have hsplit := List.splitOnP_append_cons (p := (· == '\n')) line
      (more.flatMap (fun line => line ++ ['\n'])) hend
    rw [List.flatMap_cons, List.append_assoc, List.singleton_append]
    refine hsplit.trans ?_
    rw [show line.splitOnP (· == '\n') = [line] from hone]
    exact congrArg (line :: ·) (ih hmore)

/-- **The lines of what is written are the texts of the chunks.** -/
theorem splitOn_written {outcome : Outcome} {chunks : List Chunk}
    (h : outcome.output = chunks.map Json.Value.toText) :
    outcome.written.splitOn '\n' = chunks.map Json.Value.text ++ [[]] := by
  have hlines : ∀ line ∈ chunks.map Json.Value.text, '\n' ∉ line := by
    intro line hline
    obtain ⟨chunk, -, rfl⟩ := List.mem_map.mp hline
    exact Json.newline_not_mem_text chunk
  rw [← splitOn_flatMap hlines, Outcome.written, h, List.flatMap_map, List.flatMap_map]
  simp only [Json.Value.toText, String.toList_ofList]

/-! ## 3. What comes out of a call -/

section Finish

variable (prepared : Prepared) (drained : Handle.Drained)

theorem output_finish : (finish prepared drained).output = drained.chunks.map Json.Value.toText := by
  unfold finish
  cases drained.stop <;> rfl

theorem messages_finish : (finish prepared drained).messages = drained.messages := by
  unfold finish
  cases drained.stop <;> rfl

/-- The program exits with 0 when its call has come to the end, and only then. -/
theorem exitCode_finish_iff : (finish prepared drained).exitCode = 0 ↔ drained.stop = .ended := by
  unfold finish
  cases drained.stop <;> simp [failure]

variable {prepared drained}

theorem complaint_of_ended (h : drained.stop = .ended) :
    (finish prepared drained).complaint = none := by
  rw [finish, h]

/-- An error of the call is what the program says. -/
theorem complaint_of_failed {e : Error} (h : drained.stop = .failed e) :
    (finish prepared drained).exitCode = 1 ∧
      (finish prepared drained).complaint = some ("Error: " ++ e.message) := by
  rw [finish, h]
  exact ⟨rfl, rfl⟩

end Finish

/-! ## 4. The call of the program -/

/-- Whether a setting passes all guards in front of the call: its settings can be loaded and name a
model, its log level is one and can be used as a filter, and its input is a text. -/
structure Ready (setting : Setting) (config : Config) (model prompt : String) : Prop where
  loads : (Config.load setting.source setting.env).result = .ok config
  named : config.defaults.model = some model
  accepted : ∃ shown, threshold (levelText setting.env config) = .ok shown
  reads : setting.input = Text.Utf8.encode prompt.toList

/-- The call of the program as any user of the library makes it: a new forwarder for the endpoint is
asked for the model and the prompt, with the parameters and the flag of the settings, and the call
is polled so many times. -/
def library (setting : Setting) (config : Config) (model prompt : String) (reply : Http.Reply)
    (polls : Nat) : Launch :=
  { forwarder := .ofConfig config.endpoint
    state := { env := setting.env }
    name := "call"
    request := .build model prompt
      [.parameters config.defaults.parameters, .stream config.defaults.stream]
    cancellable := false
    reply
    after := List.replicate polls (.next "call") }

section Ready

variable {setting : Setting} {config : Config} {model prompt : String} {reply : Http.Reply}

/-- A setting that passes the guards leads to the call of the library. -/
theorem prepare_of_ready (h : Ready setting config model prompt) (reply : Http.Reply) :
    let call := library setting config model prompt reply 0
    ∃ prepared : Prepared, prepare setting = .ok prepared ∧
      prepared.call = call.forwarder.order call.state.env call.request := by
  intro call
  obtain ⟨shown, hshown⟩ := h.accepted
  refine ⟨{ threshold := shown, model
            call := call.forwarder.order call.state.env call.request }, ?_, rfl⟩
  simp only [prepare, h.loads, hshown, h.named, h.reads, Text.Utf8.decode_encode,
    String.ofList_toList]
  rfl

theorem run_of_ready (h : Ready setting config model prompt) (reply : Http.Reply) :
    let call := library setting config model prompt reply 0
    ∃ prepared : Prepared, prepared.call = call.forwarder.order call.state.env call.request ∧
      run setting reply = resume prepared reply := by
  intro call
  obtain ⟨prepared, hprepare, hcall⟩ := prepare_of_ready h reply
  exact ⟨prepared, hcall, by rw [run, hprepare]⟩

/-- The program says why the opening of its call is refused, and nothing else comes out. -/
theorem run_of_refused (h : Ready setting config model prompt) {e : Error}
    (hrefused : (Forwarder.ofConfig config.endpoint).order setting.env
      (library setting config model prompt reply 0).request = .error e) :
    ∃ log, run setting reply = failure (.call e) log := by
  obtain ⟨prepared, hcall, hrun⟩ := run_of_ready h reply
  exact ⟨_, by rw [hrun, resume, hcall.trans hrefused]⟩

/-- What comes out of a call that is opened is made of its script. -/
theorem run_of_order (h : Ready setting config model prompt) {order : Order}
    (horder : (Forwarder.ofConfig config.endpoint).order setting.env
      (library setting config model prompt reply 0).request = .ok order) :
    ∃ prepared drained, run setting reply = finish prepared drained ∧
      drained.chunks = (order.script reply).chunks ∧ drained.stop = (order.script reply).stop ∧
      drained.messages = (Http.exchange order.message reply).message.toList := by
  obtain ⟨prepared, hcall, hrun⟩ := run_of_ready h reply
  let fresh := Handle.new false order reply
  have htaken := (fresh.follows_drain {}).taken
  rw [Handle.prospect_new] at htaken
  obtain ⟨hchunks, hstop⟩ := Prod.mk.inj htaken
  refine ⟨prepared, fresh.drain {}, ?_, hchunks, hstop, ?_⟩
  · rw [hrun, resume, hcall.trans horder]
    rfl
  · rw [(fresh.quiet_drain {}).1, Handle.message_new]

/-- **The program refines the library.**

Take any setting that passes the guards in front of the call, and any reply that does not stall; and
take the call that a user of the library makes with the endpoint, the model and the other settings,
for the input. When its opening is refused, the program sends and prints nothing, exits with 1 and
says why. When it is opened, polling it delivers chunks and then an error or the end. The program
sends what this call sends, and prints one line for each of these chunks, in their order, which is
the text of the chunk. It exits with 0 exactly when the call comes to its end. When the call
delivers an error, all chunks in front of it are printed, and the program exits with 1 and says the
error. -/
theorem refines_library (hready : Ready setting config model prompt) (hreply : ¬reply.Stalls) :
    let outcome := run setting reply
    let call := library setting config model prompt reply
    let opened := (call 0).opened
    (∃ e, opened.outcome = .refused e ∧ outcome.messages = [] ∧ outcome.output = [] ∧
      outcome.exitCode = 1 ∧ outcome.complaint = some ("Error: " ++ e.message)) ∨
    opened.outcome = .opened ∧
      ∃ chunks stop, Delivers (call 0).forwarder opened.state (call 0).name chunks stop ∧
        stop ≠ .waiting ∧
        outcome.messages = (call (chunks.length + 1)).sent ∧
        outcome.output = chunks.map Json.Value.toText ∧
        outcome.written.splitOn '\n' = chunks.map Json.Value.text ++ [[]] ∧
        (outcome.exitCode = 0 ↔ stop = .ended) ∧
        (stop = .ended → outcome.complaint = none) ∧
        ∀ e, stop = .failed e →
          outcome.exitCode = 1 ∧ outcome.complaint = some ("Error: " ++ e.message) := by
  intro outcome call opened
  cases horder : (call 0).forwarder.order (call 0).state.env (call 0).request with
  | error e =>
    obtain ⟨log, hrun⟩ := run_of_refused hready horder
    have houtcome : outcome = failure (.call e) log := hrun
    refine .inl ⟨e, ?_, ?_⟩
    · rw [show opened = _ from Launch.opened_of_error horder]
    · rw [houtcome]
      exact ⟨rfl, rfl, rfl, rfl⟩
  | ok order =>
    obtain ⟨prepared, drained, hrun, hchunks, hstop, hmessages⟩ :=
      run_of_order hready horder
    have houtcome : outcome = finish prepared drained := hrun
    have houtput : outcome.output = (order.script reply).chunks.map Json.Value.toText := by
      rw [houtcome, output_finish, hchunks]
    have hdelivers : Delivers (call 0).forwarder opened.state (call 0).name
        (order.script reply).chunks (order.script reply).stop := by
      rw [Forwarder.delivers_iff _ (Launch.call?_opened_of_order horder), Handle.prospect_new]
      rfl
    have hsent := @Launch.sent_of_polled (call ((order.script reply).chunks.length + 1)) order _
      horder List.replicate_succ
    refine .inr ⟨?_, _, _, hdelivers, fun hwaiting => hreply (Order.stalls_of_waiting hwaiting),
      ?_, houtput, splitOn_written houtput, ?_, ?_, ?_⟩
    · rw [show opened = _ from Launch.opened_of_order horder]
    · rw [houtcome, messages_finish, hmessages, hsent]
      rfl
    · rw [houtcome, exitCode_finish_iff, hstop]
    · intro hended
      rw [houtcome, complaint_of_ended (hstop.trans hended)]
    · intro e he
      rw [houtcome]
      exact complaint_of_failed (hstop.trans he)

end Ready

/-- The connection is lost behind two lines with a chunk: both are printed, and the loss is said. -/
theorem refines_library_lost_connection :
    let text := "{endpoint: {base_url: http://far, token_env: T}, defaults: {model: m}}"
    let setting : Setting :=
      { source := fun _ => .ok (Text.Utf8.encode text.toList)
        env := .ofList [("T", Text.Utf8.encode "t".toList)]
        input := Text.Utf8.encode "hi".toList }
    let response : Http.Response :=
      { body := { pieces := ["data:true\ndata:null\nda".toUTF8.toList], ending := .cut } }
    let reply : Http.Reply := .answered response
    let outcome := run setting reply
    outcome.output = ["true", "null"] ∧ outcome.exitCode = 1 := by
  intro text setting response reply outcome
  let config : Config :=
    { endpoint := { baseUrl := "http://far", tokenEnv := "T" }
      defaults := { model := some "m" } }
  have hloads : (Config.load setting.source setting.env).result = .ok config := by
    have hread : (Config.ofYaml text).toOption.map (fun c =>
        (c.endpoint.baseUrl, c.endpoint.tokenEnv, c.logs.level, c.defaults.model,
          c.defaults.stream, c.defaults.parameters.isEmpty)) =
        some ("http://far", "T", "info", some "m", true, true) := by
      decide +kernel
    simp only [Config.load, Config.loadFrom, Config.readFile, setting, Text.Utf8.decode_encode,
      String.ofList_toList]
    cases hyaml : Config.ofYaml text with
    | error e =>
      rw [hyaml] at hread
      cases hread
    | ok found =>
      obtain ⟨⟨baseUrl, tokenEnv⟩, ⟨level⟩, model, stream, parameters⟩ := found
      rw [hyaml] at hread
      simp only [Except.toOption, Option.map_some, Option.some.injEq, Prod.mk.injEq,
        List.isEmpty_iff] at hread
      obtain ⟨rfl, rfl, rfl, rfl, rfl, rfl⟩ := hread
      rfl
  have haccepted : threshold "info" = .ok ⟨3⟩ := by
    have hname : Threshold.parse? "info" = some ⟨3⟩ := by decide +kernel
    have huse : Threshold.ofDirectives? "info" = some ⟨3⟩ := by decide +kernel
    rw [threshold, hname, huse]
  have hready : Ready setting config "m" "hi" :=
    { loads := hloads
      named := rfl
      accepted := ⟨⟨3⟩, haccepted⟩
      reads := rfl }
  have hreply : ¬reply.Stalls := Http.Ending.noConfusion
  let call := library setting config "m" "hi" reply
  let order : Order :=
    { url := "http://far/models/m", stream := true, token := "t"
      body := (call 0).request.bodyText }
  have horder : (call 0).forwarder.order (call 0).state.env (call 0).request = .ok order := by
    have hcredential : (call 0).forwarder.credential (call 0).state.env (call 0).request =
        .ok "t" := by
      cbv
    have hurl : (call 0).forwarder.endpointUrl (call 0).request.model = "http://far/models/m" := by
      cbv
    have hmodel : (call 0).request.model ≠ "" := by decide
    rw [Forwarder.order_of_ok hmodel hcredential, hurl]
    rfl
  have harrives : (Http.exchange order.message reply).arrival = .response response := by
    cbv
  have hscript : order.script reply =
      { chunks := [.bool true, .null], stop := .failed (.transport .cutShort) } := by
    rw [Order.script_of_streamed rfl rfl harrives]
    cbv
  rcases refines_library hready hreply with
    ⟨e, hrefused, -⟩ | ⟨-, chunks, stop, hdelivers, -, -, houtput, -, -, -, hfailed⟩
  · rw [@Launch.opened_of_order (call 0) order horder] at hrefused
    cases hrefused
  · rw [Forwarder.delivers_iff _ (@Launch.call?_opened_of_order (call 0) order horder),
      Handle.prospect_new, show (order.script (call 0).reply) = _ from hscript] at hdelivers
    obtain ⟨rfl, rfl⟩ := Prod.mk.inj hdelivers
    exact ⟨houtput, (hfailed _ rfl).1⟩

end Program

end Relay
