import Relay.Proofs.Call.Progress
import Relay.Proofs.Forwarder.Streaming

/-!
# When a call sends

Opening a call sends nothing. The first poll sends the one message of the call, and no poll after
it sends another (`messages_of_opened`). What is sent was settled when the call was opened: by the
request, and by the environment of that moment. Steps in between change neither.
-/

namespace Relay

/-! ## 1. Calls that send nothing any more -/

theorem Call.message_poll (call : Call) (sessions : Sessions) (h : call.progress ≠ .unsent) :
    (call.poll sessions).message = none := by
  obtain ⟨order, reply, progress⟩ := call
  cases progress <;> first | rfl | exact absurd rfl h

/-- Whether a call has sent its message, or never will. -/
def Handle.Quiet : Handle → Prop
  | .plain call => call.progress ≠ .unsent
  | .guarded call => call.fired = true ∨ call.phase ≠ .running ∨ call.call.progress ≠ .unsent

namespace Handle

variable {handle : Handle} {sessions : Sessions}

/-- **There is nothing to be sent behind a poll.** -/
theorem quiet_poll (handle : Handle) (sessions : Sessions) : (handle.poll sessions).call.Quiet := by
  cases handle with
  | plain call => exact (call.fits_poll sessions).sent
  | guarded call =>
    obtain ⟨inner, fired, phase⟩ := call
    cases phase with
    | spent => exact .inr (.inl (by simp [Guarded.poll]))
    | finished => exact .inr (.inl (by simp [Guarded.poll]))
    | running =>
      cases fired with
      | true => exact .inl rfl
      | false => exact .inr (.inr ((inner.fits_poll sessions).sent))

theorem Quiet.message_poll (h : handle.Quiet) : (handle.poll sessions).message = none := by
  cases handle with
  | plain call => exact call.message_poll sessions h
  | guarded call =>
    obtain ⟨inner, fired, phase⟩ := call
    cases phase with
    | spent => rfl
    | finished => rfl
    | running =>
      cases fired with
      | true => rfl
      | false =>
        rcases h with h | h | h
        · cases h
        · exact absurd rfl h
        · exact inner.message_poll sessions h

theorem Quiet.fire (h : handle.Quiet) : handle.fire.Quiet := by
  cases handle with
  | plain call => exact h
  | guarded call => exact .inl rfl

theorem quiet_pollThenFire (handle : Handle) (sessions : Sessions) :
    (handle.pollThenFire sessions).call.Quiet := by
  by_cases hi : (handle.poll sessions).item = none
  · rw [pollThenFire_of_none hi]
    exact quiet_poll _ _
  · rw [pollThenFire_of_answered hi]
    exact quiet_poll _ _

theorem message_pollThenFire (handle : Handle) (sessions : Sessions) :
    (handle.pollThenFire sessions).message = (handle.poll sessions).message := by
  by_cases hi : (handle.poll sessions).item = none
  · rw [pollThenFire_of_none hi]
  · rw [pollThenFire_of_answered hi]

/-- A draining sends what its first poll sends, and there is nothing to be sent behind it. -/
theorem quiet_drain (handle : Handle) (sessions : Sessions) :
    (handle.drain sessions).messages = (handle.poll sessions).message.toList ∧
      (handle.drain sessions).call.Quiet := by
  induction handle, sessions using drain_induction with
  | chunk handle sessions chunk hi ih =>
    obtain ⟨hmessages, hquiet⟩ := ih
    rw [drain_of_chunk hi]
    refine ⟨?_, hquiet⟩
    simp only [hmessages, (handle.quiet_poll sessions).message_poll, Option.toList_none,
      List.append_nil]
  | stop handle sessions stop hi =>
    rw [drain_of_stop stop hi]
    exact ⟨rfl, handle.quiet_poll sessions⟩

theorem message_new (cancellable : Bool) (order : Order) (reply : Http.Reply) :
    ((Handle.new cancellable order reply).poll sessions).message =
      (Http.exchange order.message reply).message := by
  cases cancellable <;> rfl

/-- Firing the token of a new call makes it quiet, when there is a token. -/
theorem fire_new (cancellable : Bool) (order : Order) (reply : Http.Reply) :
    (cancellable = true ∧ (Handle.new cancellable order reply).fire.Quiet) ∨
      (cancellable = false ∧
        (Handle.new cancellable order reply).fire = Handle.new cancellable order reply) := by
  cases cancellable with
  | true => exact .inl ⟨rfl, .inl rfl⟩
  | false => exact .inr ⟨rfl, rfl⟩

end Handle

namespace Forwarder

/-! ## 2. What the steps of a call send -/

/-- Whether a step polls the call that it uses. -/
def Step.polls : Step → Bool
  | .next _ | .nextThenCancel _ | .drain _ | .collect _ => true
  | _ => false

/-- Whether a step keeps a call from sending that has not sent anything. -/
def Step.forestalls (cancellable : Bool) : Step → Bool
  | .drop _ => true
  | .cancel _ => cancellable
  | _ => false

/-- What a step sends that uses a call which has, or has not, yet to send its messages; and whether
they are to be sent then. -/
def sends (cancellable : Bool) (messages : List Http.Message) (unsent : Bool) (step : Step) :
    List Http.Message × Bool :=
  if step.polls then (if unsent then messages else [], false)
  else ([], unsent && !step.forestalls cancellable)

section Sends

variable (cancellable : Bool) (messages : List Http.Message)

/-- What has been sent is not sent again. -/
theorem sends_nothing (steps : List Step) :
    (transcript (sends cancellable messages) false steps).flatten = [] := by
  induction steps with
  | nil => rfl
  | cons step more ih =>
    simp only [transcript, List.flatten_cons, sends]
    split <;> exact ih

theorem sends_once (steps : List Step) :
    (transcript (sends cancellable messages) true steps).flatten = messages ∨
      (transcript (sends cancellable messages) true steps).flatten = [] := by
  induction steps with
  | nil => exact .inr rfl
  | cons step more ih =>
    simp only [transcript, List.flatten_cons, sends]
    split
    · exact .inl (by simp only [sends_nothing, if_true, List.append_nil])
    · cases step.forestalls cancellable with
      | true => exact .inr (sends_nothing cancellable messages more)
      | false => exact ih

end Sends

/-- Whether a call stands as new, or there is none that would send anything. -/
def Awaits (fresh : Handle) (held : Option Handle) : Bool → Prop
  | true => held = some fresh
  | false => ∀ call ∈ held, call.Quiet

section Sending

variable (forwarder : Forwarder) {state : State} {name : String}

/-- **A step sends the message of a call when it is the first to poll it.** -/
theorem messages_of_used (cancellable : Bool) (order : Order) (reply : Http.Reply) {step : Step}
    {unsent : Bool} (hused : step.used? = some name)
    (hheld : Awaits (.new cancellable order reply) (state.call? name) unsent) :
    let sent := (Http.exchange order.message reply).message.toList
    (effect forwarder state step).messages = (sends cancellable sent unsent step).1 ∧
      Awaits (.new cancellable order reply) ((effect forwarder state step).state.call? name)
        (sends cancellable sent unsent step).2 := by
  intro sent
  cases h : state.call? name with
  | none =>
    rw [h] at hheld
    rw [effect_of_closed forwarder hused h]
    cases unsent with
    | true => cases hheld
    | false =>
      refine ⟨?_, ?_⟩
      · simp [sends]
      · simp [sends, Awaits, h]
  | some call =>
    rw [h] at hheld
    have hfirst : (call.poll state.sessions).message.toList = if unsent then sent else [] := by
      cases unsent with
      | true =>
        obtain rfl := Option.some.inj hheld
        rw [Handle.message_new]
        rfl
      | false =>
        rw [(hheld call rfl).message_poll]
        rfl
    rcases Step.eq_of_used hused with rfl | rfl | rfl | rfl | rfl | rfl
    · rw [effect_next forwarder h]
      refine ⟨hfirst, ?_⟩
      simpa [polled, sends, Step.polls, Awaits] using call.quiet_poll state.sessions
    · rw [effect_nextThenCancel forwarder h]
      refine ⟨?_, ?_⟩
      · exact (congrArg Option.toList (call.message_pollThenFire _)).trans hfirst
      · simpa [polled, sends, Step.polls, Awaits] using call.quiet_pollThenFire state.sessions
    · obtain ⟨hmessages, hquiet⟩ := call.quiet_drain state.sessions
      rw [effect_drain forwarder h]
      refine ⟨hmessages.trans hfirst, ?_⟩
      simpa [sends, Step.polls, Awaits] using hquiet
    · rw [effect_collect forwarder h]
      refine ⟨(call.quiet_drain _).1.trans hfirst, ?_⟩
      simp [sends, Step.polls, Awaits]
    · rw [effect_cancel forwarder h]
      refine ⟨rfl, ?_⟩
      cases unsent with
      | true =>
        obtain rfl := Option.some.inj hheld
        rcases Handle.fire_new cancellable order reply with ⟨rfl, hquiet⟩ | ⟨rfl, hsame⟩
        · simpa [sends, Step.polls, Step.forestalls, Awaits] using hquiet
        · simp [sends, Step.polls, Step.forestalls, Awaits, hsame]
      | false => simpa [sends, Step.polls, Awaits] using (hheld call rfl).fire
    · rw [effect_drop forwarder h]
      refine ⟨rfl, ?_⟩
      simp [sends, Step.polls, Step.forestalls, Awaits]

end Sending

/-! ## 3. What a call sends over its whole life -/

section Opened

variable (forwarder : Forwarder) (start : State) (before after : List Step) (name : String)
  {request : Request} {order : Order} (cancellable : Bool) (reply : Http.Reply)

/-- **A call sends at most one message over its whole life, and what it sends was settled when it
was opened.**

Take any run in which a call is opened: whatever comes before, whatever else comes behind. The
opening sends nothing. Of the steps that use the call, the first that polls it sends the message of
the order, unless the call was dropped or cancelled before; no other step sends anything. The
message takes the body of the request to the address of its model, with the token that the request
brings or that was in the environment of the opening. -/
theorem messages_of_opened
    (horder : forwarder.order (reach forwarder start before).env request = .ok order) :
    let state := reach forwarder start before
    let opened := effect forwarder state (.openCall name request cancellable reply)
    let stages := life forwarder name opened.state after
    let sent := (Http.exchange order.message reply).message.toList
    opened.messages = [] ∧
      stages.map (fun stage => (stage.effect forwarder).messages) =
        transcript (sends cancellable sent) true (stages.map Stage.step) ∧
      (stages.flatMap (fun stage => (stage.effect forwarder).messages)).length ≤ 1 ∧
      ∀ message ∈ sent, ∃ address token,
        Url.ofText? (forwarder.endpointUrl request.model) = some address ∧
          forwarder.credential state.env request = .ok token ∧
          message.Takes request.bodyText address token := by
  intro state opened stages sent
  have hopened : opened = { state := state.putCall name (.new cancellable order reply)
                            outcome := .opened } :=
    effect_openCall forwarder state name cancellable reply horder
  have hlinked := linked_life forwarder name opened.state after
  have hheld : Awaits (.new cancellable order reply) (opened.state.call? name) true := by
    simp only [Awaits, hopened, State.call?_putCall_self]
  have hmessages := transcript_of_linked (Awaits (.new cancellable order reply)) hlinked hheld
    fun _ _ _ hused => messages_of_used forwarder cancellable order reply hused
  have hone : sent.length ≤ 1 := by
    simp only [sent]
    cases (Http.exchange order.message reply).message <;> simp
  refine ⟨by rw [hopened], hmessages, ?_, fun message hmessage => ?_⟩
  · rw [List.flatMap_def, hmessages]
    rcases sends_once cancellable sent (stages.map Stage.step) with h | h
    · rw [h]
      exact hone
    · rw [h]
      exact Nat.zero_le 1
  · exact takes_of_sent horder (Option.mem_toList.mp hmessage)

end Opened

/-- The token is replaced and the sessions are shut down between the opening and the first poll: the
message goes out with the token of the opening, and only once. -/
theorem messages_of_opened_late :
    let forwarder : Forwarder := { baseUrl := "http://far", tokenEnv := "TOKEN" }
    let request : Request := { model := "m", prompt := "p" }
    let opening := Step.openCall "a" request true .silent
    let state := reach forwarder {} [.setEnv "TOKEN" (some "old".toUTF8.toList)]
    let stages := life forwarder "a" (effect forwarder state opening).state
      [.setEnv "TOKEN" (some "new".toUTF8.toList), .shutdown, .next "a", .drain "a"]
    stages.map (fun stage => (stage.effect forwarder).messages.map (·.values .authorization)) =
      [[["Bearer old"]], []] := by
  intro forwarder request opening state stages
  have horder : forwarder.order state.env request = .ok
      { url := "http://far/models/m", stream := false, token := "old", body := request.bodyText } :=
    by cbv
  have hmessages := (messages_of_opened forwarder {}
    [.setEnv "TOKEN" (some "old".toUTF8.toList)]
    [.setEnv "TOKEN" (some "new".toUTF8.toList), .shutdown, .next "a", .drain "a"]
    "a" true .silent horder).2.1
  have hvalues := congrArg (List.map (List.map (Http.Message.values · .authorization))) hmessages
  rw [List.map_map] at hvalues
  refine hvalues.trans ?_
  cbv

end Forwarder

end Relay
