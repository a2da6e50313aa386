import Relay.Proofs.Forwarder.Laziness

/-!
# Which steps take a session

A step of a run takes a session when it acquires one, fetches capabilities, or is the first to poll
a call whose token has not fired (`Step.obtains`). Nothing else but a shutdown changes how the
sessions stand (`sessions_effect`), and no other step reports that a call goes out
(`forwarded_effect`).

Whether a call is yet to be polled is read off what has been done with it before (`awaited`), and
not off the call.
-/

namespace Relay

/-- The number of the session that a call goes out through, by a record. -/
def Event.forwarded? : Event → Option Nat
  | .forwarding _ _ id => some id
  | _ => none

/-- How sessions stand when one may have been taken, and the number of the one that was. -/
def Sessions.takenIf (sessions : Sessions) (takes : Bool) : Sessions × List Nat :=
  if takes then (sessions.obtain.sessions, [sessions.obtain.session.id]) else (sessions, [])

/-- Making a session does not send a call. -/
theorem forwarded_obtain (sessions : Sessions) :
    sessions.obtain.log.filterMap Event.forwarded? = [] := by
  cases hlive : sessions.manager.live <;>
    simp [Sessions.obtain, Manager.obtain, hlive, Event.forwarded?]

/-! ## 1. Polls -/

namespace Call

theorem forwarded_read (url : String) (reader : Frame.Reader) (delivered : Nat) :
    (read url reader delivered).log.filterMap Event.forwarded? = [] := by
  unfold read
  cases reader.next <;> rfl

theorem forwarded_take (order : Order) (response : Http.Response) :
    (take order response).log.filterMap Event.forwarded? = [] := by
  unfold take
  split
  · unfold takeRefusal
    cases response.whole <;> rfl
  · split
    · exact forwarded_read _ _ _
    · unfold takeWhole
      cases response.whole with
      | text text => cases hchunk : decodeChunk text <;> simp [hchunk, Turn.ofError]
      | _ => rfl

/-- What comes back is no reason to send a call. -/
theorem forwarded_arrive (order : Order) (arrival : Http.Arrival) :
    (arrive order arrival).log.filterMap Event.forwarded? = [] := by
  cases arrival with
  | response response => exact forwarded_take order response
  | _ => rfl

/-- **The first poll of a call takes a session**, and no other one does. -/
theorem takes_poll (call : Call) (sessions : Sessions) :
    ((call.poll sessions).sessions, (call.poll sessions).log.filterMap Event.forwarded?) =
      sessions.takenIf (call.progress = .unsent) := by
  obtain ⟨order, reply, progress⟩ := call
  cases progress with
  | unsent =>
    simp only [poll, List.filterMap_append, List.filterMap_cons, forwarded_obtain, forwarded_arrive,
      Event.forwarded?]
    rfl
  | reading reader delivered =>
    simp only [poll, forwarded_read]
    rfl
  | _ => rfl

end Call

theorem Caps.forwarded_take (url : String) (response : Http.Response) :
    (Caps.take url response).2.filterMap Event.forwarded? = [] := by
  unfold Caps.take
  cases response.whole with
  | text text => by_cases h : response.status ≠ 200 <;> simp [h, Event.forwarded?]
  | _ => rfl

/-- Fetching capabilities sends no call. -/
theorem Caps.forwarded_fetch (baseUrl : String) (reply : Http.Reply) :
    (Caps.fetch baseUrl reply).log.filterMap Event.forwarded? = [] := by
  simp only [Caps.fetch, List.filterMap_cons, Event.forwarded?]
  cases (Http.exchange (Http.Message.start .get (Caps.address baseUrl)) reply).arrival with
  | response response => exact Caps.forwarded_take _ response
  | _ => rfl

namespace Handle

/-- Whether a call takes a session when it is polled next. -/
def isFresh : Handle → Bool
  | .plain call => call.progress = .unsent
  | .guarded call => call.fired = false ∧ call.phase = .running ∧ call.call.progress = .unsent

theorem isFresh_new (cancellable : Bool) (order : Order) (reply : Http.Reply) :
    (Handle.new cancellable order reply).isFresh = true := by
  cases cancellable <;> rfl

theorem Quiet.isFresh {handle : Handle} (h : handle.Quiet) : handle.isFresh = false := by
  cases handle with
  | plain call => exact decide_eq_false h
  | guarded call =>
    refine decide_eq_false fun ⟨hfired, hphase, hunsent⟩ => ?_
    rcases h with h | h | h
    · rw [hfired] at h
      cases h
    · exact h hphase
    · exact h hunsent

/-- **The poll of a fresh call takes a session**, and no other one does. -/
theorem takes_poll (handle : Handle) (sessions : Sessions) :
    ((handle.poll sessions).sessions, (handle.poll sessions).log.filterMap Event.forwarded?) =
      sessions.takenIf handle.isFresh := by
  cases handle with
  | plain call => exact call.takes_poll sessions
  | guarded call =>
    obtain ⟨inner, fired, phase⟩ := call
    cases phase with
    | spent => simp [poll, Guarded.poll, isFresh, Sessions.takenIf]
    | finished => simp [poll, Guarded.poll, isFresh, Sessions.takenIf]
    | running =>
      cases fired with
      | true => rfl
      | false =>
        have hinner := inner.takes_poll sessions
        simpa [poll, Guarded.poll, isFresh] using hinner

/-- A poll behind another one takes nothing. -/
theorem Quiet.takes_poll {handle : Handle} (h : handle.Quiet) (sessions : Sessions) :
    (handle.poll sessions).sessions = sessions ∧
      (handle.poll sessions).log.filterMap Event.forwarded? = [] := by
  have hpoll := handle.takes_poll sessions
  rw [h.isFresh] at hpoll
  exact Prod.mk.inj hpoll

theorem Quiet.takes_drain {handle : Handle} (h : handle.Quiet) (sessions : Sessions) :
    (handle.drain sessions).sessions = sessions ∧
      (handle.drain sessions).log.filterMap Event.forwarded? = [] := by
  induction handle, sessions using drain_induction with
  | chunk handle sessions chunk hi ih =>
    obtain ⟨hsessions, hlog⟩ := h.takes_poll sessions
    obtain ⟨hrest, hmore⟩ := ih (handle.quiet_poll sessions)
    rw [drain_of_chunk hi]
    refine ⟨hrest.trans hsessions, ?_⟩
    simp only [List.filterMap_append, hlog, hmore, List.append_nil]
  | stop handle sessions stop hi =>
    rw [drain_of_stop stop hi]
    exact h.takes_poll sessions

/-- A draining takes what its first poll takes. -/
theorem takes_drain (handle : Handle) (sessions : Sessions) :
    ((handle.drain sessions).sessions, (handle.drain sessions).log.filterMap Event.forwarded?) =
      sessions.takenIf handle.isFresh := by
  rw [← handle.takes_poll sessions]
  rcases chunk_or_stop (handle.poll sessions).item with ⟨chunk, hi⟩ | ⟨stop, hi⟩
  · obtain ⟨hrest, hmore⟩ :=
      (handle.quiet_poll sessions).takes_drain (handle.poll sessions).sessions
    rw [drain_of_chunk hi]
    simp only [List.filterMap_append, hrest, hmore, List.append_nil]
  · rw [drain_of_stop stop hi]

theorem takes_pollThenFire (handle : Handle) (sessions : Sessions) :
    ((handle.pollThenFire sessions).sessions,
        (handle.pollThenFire sessions).log.filterMap Event.forwarded?) =
      sessions.takenIf handle.isFresh := by
  rw [← handle.takes_poll sessions]
  by_cases hi : (handle.poll sessions).item = none
  · obtain ⟨hrest, hmore⟩ :=
      (handle.quiet_poll sessions).fire.takes_poll (handle.poll sessions).sessions
    rw [pollThenFire_of_none hi]
    simp only [List.filterMap_append, hrest, hmore, List.append_nil]
  · rw [pollThenFire_of_answered hi]

end Handle

namespace Forwarder

/-! ## 2. Steps -/

/-- Whether a step takes a session, when it is known which calls are yet to be polled. -/
def Step.obtains (fresh : String → Bool) : Step → Bool
  | .acquire | .caps _ _ => true
  | .next name | .nextThenCancel name | .drain name | .collect name => fresh name
  | _ => false

/-- Whether a step gives the live session up. -/
def Step.isShutdown : Step → Bool
  | .shutdown => true
  | _ => false

/-- Whether there is a call that takes a session when it is polled next. -/
def State.isFresh (state : State) (name : String) : Bool :=
  (state.call? name).any Handle.isFresh

section Effect

variable (forwarder : Forwarder) (state : State) {name : String}

/-- What is done with a call takes a session if the call is fresh. -/
theorem takes_withCall (act : Handle → Effect)
    (h : ∀ call, ((act call).state.sessions, (act call).log.filterMap Event.forwarded?) =
      state.sessions.takenIf call.isFresh) :
    ((withCall state name act).state.sessions,
        (withCall state name act).log.filterMap Event.forwarded?) =
      state.sessions.takenIf (state.isFresh name) := by
  unfold withCall State.isFresh
  cases state.call? name with
  | none => rfl
  | some call => exact h call

/-- **A step of a run changes how the sessions stand when it takes a session or gives it up**, and
reports that a call goes out when it takes the session to poll the call. -/
theorem takes_effect (step : Step) :
    ((effect forwarder state step).state.sessions =
      if step.isShutdown then state.sessions.shutdown.1
      else (state.sessions.takenIf (step.obtains state.isFresh)).1) ∧
    (effect forwarder state step).log.filterMap Event.forwarded? =
      (state.sessions.takenIf (step.polls && step.obtains state.isFresh)).2 := by
  cases step with
  | openCall name request cancellable reply =>
    rw [openCall_eq]
    cases forwarder.order state.env request <;> exact ⟨rfl, rfl⟩
  | next name | nextThenCancel name | drain name | collect name =>
    refine Prod.mk.inj (takes_withCall state _ fun call => ?_)
    first
    | exact call.takes_poll state.sessions
    | exact call.takes_pollThenFire state.sessions
    | exact call.takes_drain state.sessions
  | cancel name | drop name =>
    simp only [effect, withCall]
    split <;> exact ⟨rfl, rfl⟩
  | acquire => exact ⟨rfl, forwarded_obtain state.sessions⟩
  | shutdown =>
    refine ⟨rfl, ?_⟩
    cases hlive : state.sessions.manager.live <;>
      simp [effect, Sessions.shutdown, Manager.shutdown, hlive, Event.forwarded?, Step.polls,
        Sessions.takenIf]
  | caps baseUrl reply =>
    refine ⟨rfl, ?_⟩
    simp only [effect, List.filterMap_append, forwarded_obtain, Caps.forwarded_fetch]
    rfl
  | lookForClose => exact ⟨rfl, rfl⟩
  | setEnv name value => exact ⟨rfl, rfl⟩
  | url model => exact ⟨rfl, rfl⟩

end Effect

/-! ## 3. Calls that are yet to be polled -/

/-- Whether a call that is opened can be cancelled. -/
def Step.cancellable? : Step → Option Bool
  | .openCall _ _ cancellable _ => some cancellable
  | _ => none

/-- Whether there is a call of the name that is yet to be polled, and whether it can be cancelled,
after one more step. -/
def awaitedAfter (forwarder : Forwarder) (name : String) (awaited : Option Bool) (stage : Stage) :
    Option Bool :=
  if stage.step.used? = some name then
    awaited.filter (fun cancellable =>
      !(stage.step.polls || stage.step.forestalls cancellable))
  else if stage.step.opened? = some name ∧ (stage.effect forwarder).outcome.isOpened then
    stage.step.cancellable?
  else awaited

/-- Whether there is a call of the name that has been opened, and that nothing has kept from taking
a session since: it was neither polled nor dropped, and its token has not fired. If so, whether it
can be cancelled. -/
def awaited (forwarder : Forwarder) (name : String) (earlier : List Stage) : Option Bool :=
  earlier.foldl (awaitedAfter forwarder name) none

/-- A call fits what has been done with it. -/
def Expects (call : Option Handle) : Option Bool → Prop
  | some cancellable => ∃ order reply, call = some (.new cancellable order reply)
  | none => ∀ held ∈ call, held.Quiet

theorem isFresh_of_expects {state : State} {name : String} {awaited : Option Bool}
    (h : Expects (state.call? name) awaited) : state.isFresh name = awaited.isSome := by
  cases awaited with
  | some cancellable =>
    obtain ⟨order, reply, hcall⟩ := h
    simp [State.isFresh, hcall, Handle.isFresh_new]
  | none =>
    unfold State.isFresh
    cases hcall : state.call? name with
    | none => rfl
    | some held => exact (h held hcall).isFresh

/-- A message is yet to be sent until something polls the call or forestalls it. -/
theorem sends_snd (cancellable : Bool) (messages : List Http.Message) (unsent : Bool)
    (step : Step) :
    (sends cancellable messages unsent step).2 =
      (unsent && !(step.polls || step.forestalls cancellable)) := by
  unfold sends
  cases step.polls <;> simp

/-- A call that has been opened is yet to be polled. -/
theorem expects_opened (forwarder : Forwarder) {state : State} {step : Step} {name : String}
    (hopened : step.opened? = some name)
    (hdone : (effect forwarder state step).outcome.isOpened = true) :
    Expects ((effect forwarder state step).state.call? name) step.cancellable? := by
  cases step with
  | openCall other request cancellable reply =>
    obtain rfl : other = name := Option.some.inj hopened
    rw [openCall_eq] at hdone ⊢
    cases horder : forwarder.order state.env request with
    | error e => simp [horder, Outcome.isOpened] at hdone
    | ok order => exact ⟨order, reply, by simp⟩
  | _ => simp [Step.opened?] at hopened

/-- **What is done with a call tells whether it is yet to be polled.** -/
theorem expects_after (forwarder : Forwarder) {name : String} {awaited : Option Bool}
    (stage : Stage)
    (h : Expects (stage.state.call? name) awaited) :
    Expects ((stage.effect forwarder).state.call? name)
      (awaitedAfter forwarder name awaited stage) := by
  unfold awaitedAfter
  by_cases hused : stage.step.used? = some name
  · rw [if_pos hused]
    cases awaited with
    | none =>
      let order : Order := { url := "", stream := false, token := "", body := "" }
      have hquiet : Awaits (.new true order .silent) (stage.state.call? name) false := h
      obtain ⟨-, hafter⟩ := messages_of_used forwarder true order .silent hused hquiet
      rw [sends_snd, Bool.false_and] at hafter
      exact hafter
    | some cancellable =>
      obtain ⟨order, reply, hcall⟩ := h
      have hnew : Awaits (.new cancellable order reply) (stage.state.call? name) true := hcall
      obtain ⟨-, hafter⟩ := messages_of_used forwarder cancellable order reply hused hnew
      rw [sends_snd, Bool.true_and] at hafter
      simp only [Option.filter_some]
      cases hover : stage.step.polls || stage.step.forestalls cancellable with
      | true =>
        rw [hover] at hafter
        exact hafter
      | false =>
        rw [hover] at hafter
        exact ⟨order, reply, hafter⟩
  · rw [if_neg hused]
    by_cases hopened : stage.step.opened? = some name ∧
      (stage.effect forwarder).outcome.isOpened = true
    · rw [if_pos hopened]
      exact expects_opened forwarder hopened.1 hopened.2
    · rw [if_neg hopened, Stage.effect, call?_effect_of_skipped forwarder name hused hopened]
      exact h

end Forwarder

end Relay
