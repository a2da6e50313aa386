import Relay.Proofs.Call.Stops
import Relay.Proofs.Forwarder.Stops

/-!
# All or nothing

Collecting a call takes all that polling it would deliver, or nothing. `Delivers` says what polling
delivers: chunks, and then a stop. The main statement (`all_or_nothing_of_collect`) compares the two
at any point of a run:

* the chunks are collected that polling would deliver in front of a clean end; an error is collected
  where polling would deliver it behind some chunks, and none of these then;
* so chunks are only collected of a response that succeeds, unless the call has delivered an error
  before. Behind that error there is nothing but the end, and the empty list is collected.
-/

namespace Relay

/-! ## 1. Taking all at once, and one by one -/

theorem Http.failure_of_refused (built : Except TransportCause Http.Message) :
    ∃ cause, (Http.exchange built .refused).arrival = .failure cause := by
  unfold Http.exchange
  cases built.bind Http.Message.complete with
  | error cause => exact ⟨cause, rfl⟩
  | ok message => exact ⟨.unsent message.url.text, rfl⟩

namespace Prospect

variable {prospect : Prospect} {chunk : Chunk} {chunks : List Chunk} {stop : Handle.Stop}

theorem drain_eq_stop_iff :
    prospect.drain.taken = ([], stop) ↔ prospect.next.taken = stop.item? := by
  constructor
  · intro h
    cases prospect with
    | script left =>
      obtain ⟨chunks, reached, log⟩ := left
      obtain ⟨rfl, rfl⟩ := Prod.mk.inj h
      rfl
    | finished =>
      obtain rfl : Handle.Stop.ended = stop := congrArg Prod.snd h
      rfl
  · intro h
    rw [drain_of_stop stop h]

theorem drain_eq_chunk_iff :
    prospect.drain.taken = (chunk :: chunks, stop) ↔
      prospect.next.taken = some (.chunk chunk) ∧
        prospect.next.rest.drain.taken = (chunks, stop) := by
  constructor
  · intro h
    cases prospect with
    | script left =>
      obtain ⟨taken, reached, log⟩ := left
      obtain ⟨rfl, rfl⟩ := Prod.mk.inj h
      exact ⟨rfl, rfl⟩
    | finished => cases h
  · rintro ⟨hchunk, hrest⟩
    rw [drain_of_chunk hchunk, hrest]

/-- The end comes where the script has it, or behind an error. -/
theorem Tied.of_ended {fired : Prop} {reached : Handle.Stop} {failed : Bool}
    (h : prospect.Tied fired reached failed) (hdrain : prospect.drain.taken = (chunks, .ended)) :
    chunks = [] ∧ failed = true ∨ reached = .ended := by
  cases prospect with
  | finished =>
    obtain rfl : [] = chunks := congrArg Prod.fst hdrain
    rcases h with hfailed | hended
    · exact .inl ⟨rfl, hfailed⟩
    · exact .inr hended
  | script left =>
    have hended : left.stop = .ended := congrArg Prod.snd hdrain
    obtain ⟨-, hstop⟩ := h
    rw [hended] at hstop
    rcases hstop with hstop | ⟨-, hcancelled⟩
    · exact .inr hstop.symm
    · cases hcancelled

/-- Behind an error there is nothing but the end. -/
theorem Tied.of_failed {fired : Prop} {reached : Handle.Stop}
    (h : prospect.Tied fired reached true) : prospect = .finished := by
  cases prospect with
  | finished => rfl
  | script left => cases h.1

end Prospect

/-- A result tells its stop, and the chunks in front of the end. -/
theorem Handle.Stop.eq_of_collected {stop other : Handle.Stop} {chunks more : List Chunk}
    (h : stop.collected chunks = other.collected more) :
    stop = other ∧ (other = .ended → chunks = more) := by
  cases stop with
  | ended =>
    cases other with
    | ended => exact ⟨rfl, fun _ => Except.ok.inj (Option.some.inj h)⟩
    | failed e => cases h
    | waiting => cases h
  | failed e =>
    cases other with
    | ended => cases h
    | failed cause =>
      obtain rfl := Except.error.inj (Option.some.inj h)
      refine ⟨rfl, fun hended => ?_⟩
      cases hended
    | waiting => cases h
  | waiting =>
    cases other with
    | ended => cases h
    | failed e => cases h
    | waiting =>
      refine ⟨rfl, fun hended => ?_⟩
      cases hended

namespace Forwarder

/-- Whether polling a call delivers chunks, one after the other, and then comes to a stop. -/
def Delivers (forwarder : Forwarder) (state : State) (name : String) (chunks : List Chunk)
    (stop : Handle.Stop) : Prop :=
  (run forwarder state (List.replicate (chunks.length + 1) (.next name))).map Report.outcome =
    chunks.map (fun chunk => .item (some (.chunk chunk))) ++ [.item stop.item?]

section Point

variable (forwarder : Forwarder) {state : State} {name : String} {call : Handle}
  {chunks : List Chunk} {stop : Handle.Stop}

/-- A poll in a run answers what is next, and the rest is left to those behind it. -/
theorem outcomes_next (hcall : state.call? name = some call) (more : List Step) :
    ∃ after : State, ∃ left : Handle, after.call? name = some left ∧
      left.prospect = call.prospect.next.rest ∧
        (run forwarder state (.next name :: more)).map Report.outcome =
          .item call.prospect.next.taken :: (run forwarder after more).map Report.outcome := by
  have hfollows := call.follows_poll state.sessions
  refine ⟨(polled state name call (call.poll state.sessions)).state,
    (call.poll state.sessions).call, State.call?_afterPoll_self _ _ _ _ _, hfollows.rest, ?_⟩
  rw [run, effect_next forwarder hcall, ← hfollows.item]
  rfl

/-- **Polling delivers what a draining would take.** -/
theorem delivers_iff (hcall : state.call? name = some call) :
    Delivers forwarder state name chunks stop ↔ call.prospect.drain.taken = (chunks, stop) := by
  unfold Delivers
  induction chunks generalizing state call with
  | nil =>
    obtain ⟨after, left, -, -, houtcomes⟩ := outcomes_next forwarder hcall []
    show (run forwarder state [.next name]).map Report.outcome = [.item stop.item?] ↔ _
    rw [Prospect.drain_eq_stop_iff, houtcomes]
    simp only [run, List.map_nil, List.cons.injEq, Outcome.item.injEq, and_true]
  | cons chunk more ih =>
    obtain ⟨after, left, hleft, hrest, houtcomes⟩ :=
      outcomes_next forwarder hcall (List.replicate (more.length + 1) (.next name))
    rw [Prospect.drain_eq_chunk_iff, ← hrest, ← ih hleft, List.length_cons,
      List.replicate_succ, houtcomes]
    simp only [List.map_cons, List.cons_append, List.cons.injEq, Outcome.item.injEq]

/-- Only an open call delivers anything. -/
theorem open_of_delivers (h : Delivers forwarder state name chunks stop) :
    ∃ call, state.call? name = some call := by
  cases hcall : state.call? name with
  | some call => exact ⟨call, rfl⟩
  | none =>
    have hclosed := effect_of_closed forwarder (show (Step.next name).used? = some name from rfl) hcall
    unfold Delivers at h
    rw [List.replicate_succ, run, hclosed] at h
    cases chunks <;> cases h

/-- **Collecting takes what polling would deliver.** -/
theorem outcome_of_delivers (h : Delivers forwarder state name chunks stop) :
    (effect forwarder state (.collect name)).outcome = .collected (stop.collected chunks) := by
  obtain ⟨call, hcall⟩ := open_of_delivers forwarder h
  rw [outcome_collect forwarder hcall, (delivers_iff forwarder hcall).mp h]

/-- What is collected tells which stop polling would come to, and which chunks in front of the
end. -/
theorem delivers_of_outcome (stop : Handle.Stop) (chunks : List Chunk)
    (h : (effect forwarder state (.collect name)).outcome =
      .collected (stop.collected chunks)) :
    ∃ taken, Delivers forwarder state name taken stop ∧ (stop = .ended → taken = chunks) := by
  cases hcall : state.call? name with
  | some call =>
    rw [outcome_collect forwarder hcall] at h
    obtain ⟨hstop, htaken⟩ := Handle.Stop.eq_of_collected (Outcome.collected.inj h)
    refine ⟨call.prospect.drain.taken.1, (delivers_iff forwarder hcall).mpr ?_, htaken⟩
    rw [← hstop]
  | none =>
    rw [effect_of_closed forwarder rfl hcall] at h
    cases h

/-- The chunks are collected that polling would deliver in front of the end. -/
theorem collects_chunks_iff :
    (effect forwarder state (.collect name)).outcome = .collected (some (.ok chunks)) ↔
      Delivers forwarder state name chunks .ended := by
  constructor
  · intro h
    obtain ⟨taken, hdelivers, htaken⟩ := delivers_of_outcome forwarder .ended chunks h
    rwa [htaken rfl] at hdelivers
  · intro h
    exact outcome_of_delivers forwarder h

/-- In front of any other stop, no chunk counts. -/
theorem collects_stop_iff (stop : Handle.Stop) (hstop : stop ≠ .ended) :
    (effect forwarder state (.collect name)).outcome = .collected (stop.collected []) ↔
      ∃ chunks, Delivers forwarder state name chunks stop := by
  constructor
  · intro h
    obtain ⟨taken, hdelivers, -⟩ := delivers_of_outcome forwarder stop [] h
    exact ⟨taken, hdelivers⟩
  · rintro ⟨chunks, h⟩
    rw [outcome_of_delivers forwarder h]
    cases stop with
    | ended => exact absurd rfl hstop
    | failed e => rfl
    | waiting => rfl

/-- **Behind an error, the empty list is collected.** -/
theorem outcome_behind_error (hcall : state.call? name = some call) {e : Error}
    (he : call.prospect.next.taken = some (.failed e)) :
    (effect forwarder (effect forwarder state (.next name)).state (.collect name)).outcome =
      .collected (some (.ok [])) := by
  have hfollows := call.follows_poll state.sessions
  have hover : (call.poll state.sessions).call.prospect = .finished :=
    hfollows.rest.trans (Prospect.rest_of_stop (.failed e) he)
  have hleft : (effect forwarder state (.next name)).state.call? name =
      some (call.poll state.sessions).call := by
    rw [effect_next forwarder hcall]
    exact State.call?_afterPoll_self _ _ _ _ _
  rw [outcome_collect forwarder hleft, hover]
  rfl

end Point

/-! ## 2. What is collected in a run -/

/-- **Collecting takes all that polling would deliver, or nothing.**

At any point of a run, whatever has been done with the call before: the chunks are collected that
further polls would deliver in front of a clean end, and no others; the error is collected that they
would deliver behind some chunks; and the collecting waits for ever where they would. An open call
is collected in one of these ways.

Chunks are only collected when a response has arrived that succeeds, with all lines of a streamed
body, or when the call has delivered an error before: then the empty list is collected, and always
so. -/
theorem all_or_nothing_of_collect {launch : Launch} {order : Order}
    (horder : launch.forwarder.order launch.state.env launch.request = .ok order)
    (hafter : ∀ step ∈ launch.after, step.opened? ≠ some launch.name) :
    let point := reach launch.forwarder launch.opened.state launch.after
    let collected := (effect launch.forwarder point (.collect launch.name)).outcome
    let delivers := Delivers launch.forwarder point launch.name
    (∀ chunks, collected = .collected (some (.ok chunks)) ↔ delivers chunks .ended) ∧
      (∀ e, collected = .collected (some (.error e)) ↔ ∃ chunks, delivers chunks (.failed e)) ∧
      (collected = .collected none ↔ ∃ chunks, delivers chunks .waiting) ∧
      ((point.call? launch.name).isSome = true → ∃ result, collected = .collected result ∧
        (launch.Fails → result = some (.ok []))) ∧
      ∀ chunks, collected = .collected (some (.ok chunks)) →
        chunks = [] ∧ launch.Fails ∨
          ∃ response, (Http.exchange order.message launch.reply).arrival = .response response ∧
            response.Succeeds launch.request.stream := by
  intro point collected delivers
  refine ⟨fun chunks => collects_chunks_iff launch.forwarder,
    fun e => collects_stop_iff launch.forwarder (.failed e) Handle.Stop.noConfusion,
    collects_stop_iff launch.forwarder .waiting Handle.Stop.noConfusion, ?_, ?_⟩
  · intro hopen
    obtain ⟨call, hcall⟩ := Option.isSome_iff_exists.mp hopen
    refine ⟨_, outcome_collect launch.forwarder hcall, fun hfails => ?_⟩
    obtain ⟨failed, hfailed, htied⟩ := Launch.tied_reach horder hafter hcall
    rw [hfailed.mpr hfails] at htied
    rw [htied.prospect.of_failed]
    rfl
  · intro chunks h
    have hdelivers := (collects_chunks_iff launch.forwarder).mp h
    obtain ⟨call, hcall⟩ := open_of_delivers launch.forwarder hdelivers
    have hdrain := (delivers_iff launch.forwarder hcall).mp hdelivers
    obtain ⟨failed, hfails, htied⟩ := Launch.tied_reach horder hafter hcall
    rcases htied.prospect.of_ended hdrain with ⟨hnone, hfailed⟩ | hended
    · exact .inl ⟨hnone, hfails.mp hfailed⟩
    · obtain ⟨response, harrives, hsucceeds⟩ := Order.arrives_of_ended hended
      rw [stream_of_order launch.forwarder horder] at hsucceeds
      exact .inr ⟨response, harrives, hsucceeds⟩

/-- Two lines with a chunk, and the caller collects behind the first. -/
theorem all_or_nothing_of_collect_midway :
    let launch : Launch :=
      { forwarder := { baseUrl := "http://far", tokenEnv := "TOKEN" }
        state := {}
        name := "a"
        request := { model := "m", prompt := "p", stream := true, token := some "t" }
        cancellable := true
        reply := .answered { body := { pieces := ["data:true\n\ndata:null".toUTF8.toList] } }
        after := [.next "a", .shutdown] }
    let point := reach launch.forwarder launch.opened.state launch.after
    (effect launch.forwarder point (.collect "a")).outcome = .collected (some (.ok [.null])) := by
  intro launch point
  have horder : launch.forwarder.order launch.state.env launch.request = .ok
      { url := "http://far/models/m", stream := true, token := "t"
        body := launch.request.bodyText } :=
    rfl
  have hafter : ∀ step ∈ launch.after, step.opened? ≠ some launch.name := by
    simp [launch, Step.opened?]
  have h := (all_or_nothing_of_collect horder hafter).1 [.null]
  refine h.mpr ?_
  cbv

/-- Nothing is collected behind an error, although no response has arrived. -/
theorem collected_behind_error :
    let launch : Launch :=
      { forwarder := { baseUrl := "http://far", tokenEnv := "TOKEN" }
        state := {}
        name := "a"
        request := { model := "m", prompt := "p", token := some "t" }
        cancellable := false
        reply := .refused
        after := [.next "a"] }
    let order : Order :=
      { url := "http://far/models/m", stream := false, token := "t"
        body := launch.request.bodyText }
    let point := reach launch.forwarder launch.opened.state launch.after
    launch.forwarder.order launch.state.env launch.request = .ok order ∧
      (effect launch.forwarder point (.collect "a")).outcome = .collected (some (.ok [])) ∧
        ∀ response, (Http.exchange order.message launch.reply).arrival ≠ .response response := by
  intro launch order point
  have horder : launch.forwarder.order launch.state.env launch.request = .ok order := rfl
  obtain ⟨cause, hcause⟩ := Http.failure_of_refused order.message
  have hscript : order.script .refused = { stop := .failed (.transport cause) } := by
    rw [Order.script, hcause]
    rfl
  have hnext : (Handle.new false order .refused).prospect.next.taken =
      some (.failed (.transport cause)) := by
    rw [Handle.prospect_new, hscript]
    rfl
  refine ⟨horder, ?_, fun response harrives => ?_⟩
  · exact outcome_behind_error launch.forwarder (Launch.call?_opened_of_order horder) hnext
  · rw [hcause] at harrives
    cases harrives

end Forwarder

end Relay
