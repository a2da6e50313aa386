import Relay.Proofs.Forwarder.Collecting
import Relay.Proofs.Http.Stalls

/-!
# How long a connection is held

The connection of a call whose reply stalls stays open until the call gives it up. Two marks on what
has been seen of the call decide whether it is open (`Marks`): a message was sent, and an item was
delivered that closes (`Item.closes`), which is the end or the failure of the connection.

* `Handle.Shows` says how a call stands that has been seen so. A poll keeps it, and so do a firing,
  a draining and every step that uses the call (`shows_of_used`), so a life does (`shows_left`).
* With that, the connection is open exactly as long as the call has been polled, has not been given
  up, and has not delivered an item that closes (`connected_iff_of_stalls`).

An error of another kind is the last item of a call too, but it does not close: the connection is
held until the call is polled once more (`connected_behind_error`).
-/

namespace Relay

/-! ## 1. What is seen of a call -/

/-- Whether a connection is given up where an item is delivered: at the end, and where it has failed
itself. -/
def Item.closes : Item → Bool
  | .ended | .failed (.transport _) => true
  | _ => false

/-- What has been seen of a call: whether a message was sent for it, and whether an item was
delivered that closes. -/
structure Marks where
  sent : Bool := false
  closed : Bool := false

namespace Marks

/-- Whether a connection is open. -/
def connected (marks : Marks) : Bool :=
  marks.sent && !marks.closed

/-- What has been seen when messages and items have been added. -/
def after (marks : Marks) (messages : List Http.Message) (items : List Item) : Marks :=
  { sent := marks.sent || !messages.isEmpty, closed := marks.closed || items.any Item.closes }

variable (marks : Marks)

@[simp] theorem after_nil : marks.after [] [] = marks := by
  simp [after]

theorem after_after (messages more : List Http.Message) (items others : List Item) :
    (marks.after messages items).after more others =
      marks.after (messages ++ more) (items ++ others) := by
  have hempty : (messages ++ more).isEmpty = (messages.isEmpty && more.isEmpty) := by
    cases messages <;> rfl
  simp only [after, Bool.or_assoc, hempty, Bool.not_and, List.any_append]

theorem closed_after_ended (messages : List Http.Message) :
    (marks.after messages [.ended]).closed = true := by
  simp [after, Item.closes]

end Marks

/-! ## 2. How a call stands -/

/-- Whether a call of which this has been seen can have got so far, when its reply stalls. -/
def Progress.Shows (marks : Marks) : Progress → Prop
  | .unsent => marks.sent = false ∧ marks.closed = false
  | .reading reader _ => reader.ending = .stalled ∧ marks.connected = true
  | .waiting => marks.connected = true
  | .answered => False
  | .broken held => held = marks.connected
  | .finished => marks.closed = true

/-- Whether this can have been seen of a call. -/
structure Call.Shows (marks : Marks) (call : Call) : Prop where
  stalls : call.reply.Stalls
  progress : call.progress.Shows marks

/-- Whether this can have been seen of a call that can be cancelled. Its token plays no part. -/
def Guarded.Shows (marks : Marks) (guarded : Guarded) : Prop :=
  match guarded.phase with
  | .finished => marks.closed = true
  | _ => guarded.call.Shows marks

/-- Whether this can have been seen of a call. -/
def Handle.Shows (marks : Marks) : Handle → Prop
  | .plain call => call.Shows marks
  | .guarded call => call.Shows marks

namespace Call

variable {marks : Marks}

/-- What has been seen decides whether the connection is open. -/
theorem Shows.holdsConnection {call : Call} (h : call.Shows marks) :
    call.holdsConnection = marks.connected := by
  obtain ⟨order, reply, progress⟩ := call
  obtain ⟨-, hprogress⟩ := h
  cases progress with
  | unsent => simp [Call.holdsConnection, Marks.connected, hprogress.1]
  | reading reader delivered =>
    simp [Call.holdsConnection, Frame.Reader.holdsConnection, hprogress.1, hprogress.2]
  | waiting => exact hprogress.symm
  | answered => exact hprogress.elim
  | broken held => exact hprogress
  | finished => simp [Call.holdsConnection, Marks.connected, show marks.closed = true from hprogress]

/-- Reading on leaves the connection open: a body that stalls has no end. -/
theorem shows_read (url : String) {reader : Frame.Reader} (delivered : Nat)
    (hending : reader.ending = .stalled) (hconnected : marks.connected = true) :
    (read url reader delivered).progress.Shows
      (marks.after [] (read url reader delivered).item.toList) := by
  have hleads := reader.leadsTo_next
  have hopen {item : Item} (hitem : item.closes = false) :
      (marks.after [] [item]).connected = true := by
    simpa [Marks.after, Marks.connected, hitem] using hconnected
  simp only [read]
  cases hnext : reader.next with
  | chunk chunk after =>
    rw [hnext] at hleads
    exact ⟨hleads.1.trans hending, hopen rfl⟩
  | failed e =>
    rw [hnext] at hleads
    have hdecode : ∃ cause, e = .decode cause := by
      rcases hleads with hcarried | ⟨-, hcut, -⟩
      · exact Frame.decode_of_failureOf (congrArg Prod.snd hcarried)
      · cases hending.symm.trans hcut
    obtain ⟨cause, rfl⟩ := hdecode
    have hholds : reader.holdsConnection = true := decide_eq_true hending
    exact hholds.trans (hopen rfl).symm
  | ended =>
    rw [hnext] at hleads
    cases hending.symm.trans hleads.2
  | waiting after =>
    rw [hnext] at hleads
    exact ⟨hleads.2.2.1, by simpa using hconnected⟩

/-- What arrives leaves the connection open, if it is no failure. -/
theorem shows_arrive (order : Order) {reply : Http.Reply} (hstalls : reply.Stalls)
    (hclosed : marks.closed = false) :
    let exchange := Http.exchange order.message reply
    let turn := arrive order exchange.arrival
    turn.progress.Shows (marks.after exchange.message.toList turn.item.toList) := by
  intro exchange turn
  have hopen (harrives : ∀ cause, exchange.arrival ≠ .failure cause) :
      (marks.after exchange.message.toList []).connected = true := by
    obtain ⟨message, hmessage⟩ := Http.message_of_arrival harrives
    simp [Marks.after, Marks.connected, hmessage, exchange, hclosed]
  cases harrival : exchange.arrival with
  | failure cause =>
    simp only [turn, harrival, arrive, Turn.ofError]
    simp [Progress.Shows, Marks.after, Marks.connected, Item.closes]
  | silence =>
    simp only [turn, harrival, arrive]
    exact hopen (by rw [harrival]; exact fun _ => Http.Arrival.noConfusion)
  | response response =>
    have hconnected := hopen (by rw [harrival]; exact fun _ => Http.Arrival.noConfusion)
    have hending : response.received.ending = .stalled := by
      rwa [reply_of_exchange harrival] at hstalls
    have hwhole : response.whole = .waiting := by
      simp only [Http.Response.whole, hending]
    simp only [turn, harrival, arrive, take]
    split
    · simp only [takeRefusal, hwhole]
      exact hconnected
    · split
      · let reader := Frame.Reader.ofBody response.received
        have hread : (read order.url reader 0).progress.Shows
            ((marks.after exchange.message.toList []).after []
              (read order.url reader 0).item.toList) :=
          shows_read order.url 0 hending hconnected
        rwa [Marks.after_after, List.append_nil, List.nil_append] at hread
      · simp only [takeWhole, hwhole]
        exact hconnected

/-- **A poll adds to what has been seen what it sends and answers.** -/
theorem Shows.poll {call : Call} (h : call.Shows marks) (sessions : Sessions) :
    (call.poll sessions).call.Shows
      (marks.after (call.poll sessions).message.toList (call.poll sessions).item.toList) := by
  obtain ⟨order, reply, progress⟩ := call
  obtain ⟨hstalls, hprogress⟩ := h
  cases progress with
  | unsent => exact ⟨hstalls, shows_arrive order hstalls hprogress.2⟩
  | reading reader delivered =>
    exact ⟨hstalls, shows_read order.url delivered hprogress.1 hprogress.2⟩
  | waiting => exact ⟨hstalls, (marks.after_nil).symm ▸ hprogress⟩
  | answered => exact hprogress.elim
  | broken held | finished => exact ⟨hstalls, marks.closed_after_ended []⟩

end Call

namespace Guarded

variable {marks : Marks}

theorem Shows.holdsConnection {guarded : Guarded} (h : guarded.Shows marks) :
    guarded.holdsConnection = marks.connected := by
  obtain ⟨call, fired, phase⟩ := guarded
  cases phase with
  | finished =>
    simp [Guarded.holdsConnection, Marks.connected, show marks.closed = true from h]
  | running | spent => exact (Bool.true_and _).trans (Call.Shows.holdsConnection h)

theorem Shows.poll {guarded : Guarded} (h : guarded.Shows marks) (sessions : Sessions) :
    (guarded.poll sessions).call.Shows
      (marks.after (guarded.poll sessions).message.toList
        (guarded.poll sessions).item.toList) := by
  obtain ⟨call, fired, phase⟩ := guarded
  cases phase with
  | spent | finished => exact marks.closed_after_ended []
  | running =>
    cases fired with
    | true =>
      -- the call inside is not touched, and its connection is still open
      have hcancelled : marks.after [] [.failed .cancelled] = marks := by
        simp [Marks.after, Item.closes]
      show Guarded.Shows (marks.after [] [.failed .cancelled]) _
      rw [hcancelled]
      exact h
    | false =>
      have hpoll : (call.poll sessions).call.Shows
          (marks.after (call.poll sessions).message.toList (call.poll sessions).item.toList) :=
        Call.Shows.poll h sessions
      simp only [Guarded.poll, Bool.false_eq_true, if_false]
      cases hitem : (call.poll sessions).item with
      | none => rwa [hitem] at hpoll
      | some item =>
        rw [hitem] at hpoll
        cases item with
        | ended => exact marks.closed_after_ended _
        | chunk chunk => exact hpoll
        | failed e => exact hpoll

end Guarded

namespace Handle

variable {marks : Marks} {call : Handle}

theorem shows_new (cancellable : Bool) (order : Order) {reply : Http.Reply}
    (hstalls : reply.Stalls) : (Handle.new cancellable order reply).Shows {} := by
  cases cancellable <;> exact ⟨hstalls, rfl, rfl⟩

theorem Shows.holdsConnection (h : call.Shows marks) : call.holdsConnection = marks.connected := by
  cases call with
  | plain call => exact Call.Shows.holdsConnection h
  | guarded call => exact Guarded.Shows.holdsConnection h

theorem Shows.poll (h : call.Shows marks) (sessions : Sessions) :
    (call.poll sessions).call.Shows
      (marks.after (call.poll sessions).message.toList (call.poll sessions).item.toList) := by
  cases call with
  | plain call => exact Call.Shows.poll h sessions
  | guarded call => exact Guarded.Shows.poll h sessions

/-- Firing a token closes nothing. -/
theorem Shows.fire (h : call.Shows marks) : call.fire.Shows marks := by
  cases call <;> exact h

theorem Shows.pollThenFire (h : call.Shows marks) (sessions : Sessions) :
    (call.pollThenFire sessions).call.Shows
      (marks.after (call.pollThenFire sessions).message.toList
        (call.pollThenFire sessions).item.toList) := by
  have hfirst := h.poll sessions
  by_cases hi : (call.poll sessions).item = none
  · -- the second poll sends nothing: there is nothing to be sent behind the first
    let first := call.poll sessions
    have hquiet : (first.call.fire.poll first.sessions).message = none :=
      (call.quiet_poll sessions).fire.message_poll
    have hsecond := hfirst.fire.poll first.sessions
    rw [hquiet, hi, Marks.after_after] at hsecond
    simpa only [pollThenFire_of_none hi, Option.toList_none, List.append_nil,
      List.nil_append] using hsecond
  · simpa only [pollThenFire_of_answered hi] using hfirst

theorem Shows.drain (h : call.Shows marks) (sessions : Sessions) :
    (call.drain sessions).call.Shows
      (marks.after (call.drain sessions).messages (call.drain sessions).items) := by
  induction call, sessions using drain_induction generalizing marks with
  | chunk call sessions chunk hi ih =>
    have hrest := ih (h.poll sessions)
    rw [Marks.after_after, hi] at hrest
    rw [drain_of_chunk hi]
    exact hrest
  | stop call sessions stop hi =>
    have hpoll := h.poll sessions
    rw [hi] at hpoll
    rw [drain_of_stop stop hi]
    exact hpoll

end Handle

namespace Forwarder

/-! ## 3. Steps and lives -/

/-- Whether a step gives a call up. -/
def Step.givesUp : Step → Bool
  | .drop _ | .collect _ => true
  | _ => false

section Steps

variable (forwarder : Forwarder) {state : State} {name : String} {marks : Marks}

/-- **A step adds to what has been seen of the call what it sends and answers.** -/
theorem shows_of_used {step : Step} (hused : step.used? = some name)
    (h : ∀ call ∈ state.call? name, call.Shows marks) :
    let done := effect forwarder state step
    ∀ call ∈ done.state.call? name, call.Shows (marks.after done.messages done.outcome.items) := by
  intro done
  cases hcall : state.call? name with
  | none =>
    simp only [done, effect_of_closed forwarder hused hcall]
    simp [hcall]
  | some call =>
    have hshows := h call hcall
    rcases Step.eq_of_used hused with rfl | rfl | rfl | rfl | rfl | rfl
    · simp only [done, effect_next forwarder hcall, polled, State.call?_afterPoll_self]
      rintro after ⟨⟩
      exact hshows.poll state.sessions
    · simp only [done, effect_nextThenCancel forwarder hcall, polled, State.call?_afterPoll_self]
      rintro after ⟨⟩
      exact hshows.pollThenFire state.sessions
    · simp only [done, effect_drain forwarder hcall, State.call?_afterPoll_self]
      rintro after ⟨⟩
      exact hshows.drain state.sessions
    · simp only [done, effect_collect forwarder hcall, State.call?_eraseCall_self]
      rintro after ⟨⟩
    · simp only [done, effect_cancel forwarder hcall, State.call?_putCall_self]
      rintro after ⟨⟩
      rw [show marks.after [] (Outcome.done).items = marks from marks.after_nil]
      exact hshows.fire
    · simp only [done, effect_drop forwarder hcall, State.call?_eraseCall_self]
      rintro after ⟨⟩

/-- A step that uses a call leaves it open, unless it gives it up. -/
theorem isSome_of_used {step : Step} (hused : step.used? = some name) :
    ((effect forwarder state step).state.call? name).isSome =
      ((state.call? name).isSome && !step.givesUp) := by
  cases hcall : state.call? name with
  | none =>
    rw [effect_of_closed forwarder hused hcall, hcall]
    rfl
  | some call =>
    rcases Step.eq_of_used hused with rfl | rfl | rfl | rfl | rfl | rfl
    · rw [effect_next forwarder hcall, polled, State.call?_afterPoll_self]
      rfl
    · rw [effect_nextThenCancel forwarder hcall, polled, State.call?_afterPoll_self]
      rfl
    · rw [effect_drain forwarder hcall, State.call?_afterPoll_self]
      rfl
    · rw [effect_collect forwarder hcall, State.call?_eraseCall_self]
      rfl
    · rw [effect_cancel forwarder hcall, State.call?_putCall_self]
      rfl
    · rw [effect_drop forwarder hcall, State.call?_eraseCall_self]
      rfl

/-- **A life adds to what has been seen of the call all that it sends and answers.** -/
theorem shows_left {held : Option Handle} {stages : List Stage}
    (hlinked : Linked forwarder name held stages) (h : ∀ call ∈ held, call.Shows marks) :
    ∀ call ∈ left forwarder name held stages,
      call.Shows (marks.after (stages.flatMap fun stage => (stage.effect forwarder).messages)
        (stages.flatMap fun stage => (stage.effect forwarder).outcome.items)) := by
  induction stages generalizing held marks with
  | nil =>
    rw [List.flatMap_nil, List.flatMap_nil, Marks.after_nil]
    exact h
  | cons stage more ih =>
    obtain ⟨hused, rfl, hmore⟩ := hlinked
    rw [List.flatMap_cons, List.flatMap_cons, ← Marks.after_after]
    exact ih hmore (shows_of_used forwarder hused h)

/-- A life leaves the call open, unless a step of it gives it up. -/
theorem isSome_left {held : Option Handle} {stages : List Stage}
    (hlinked : Linked forwarder name held stages) :
    (left forwarder name held stages).isSome =
      (held.isSome && stages.all fun stage => !stage.step.givesUp) := by
  induction stages generalizing held with
  | nil => exact (Bool.and_true _).symm
  | cons stage more ih =>
    obtain ⟨hused, rfl, hmore⟩ := hlinked
    rw [left, ih hmore, List.all_cons, ← Bool.and_assoc]
    exact congrArg (· && _) (isSome_of_used forwarder hused)

end Steps

/-! ## 4. Calls in runs -/

namespace Launch

/-- The state at the end of the run. -/
def reached (launch : Launch) : State :=
  reach launch.forwarder launch.opened.state launch.after

/-- Whether the connection of the call is open at the end of the run. -/
def Connected (launch : Launch) : Prop :=
  ∃ call, launch.reached.call? launch.name = some call ∧ call.holdsConnection = true

/-- What has been seen of the call in the run. -/
def marks (launch : Launch) : Marks :=
  Marks.after {} (launch.stages.flatMap fun stage => (stage.effect launch.forwarder).messages)
    (launch.stages.flatMap fun stage => (stage.effect launch.forwarder).outcome.items)

variable {launch : Launch} {order : Order}

theorem connected_marks_iff :
    launch.marks.connected = true ↔ launch.sent ≠ [] ∧
      ∀ stage ∈ launch.stages, ∀ item ∈ (stage.effect launch.forwarder).outcome.items,
        item.closes = false := by
  have hsent : launch.sent =
      launch.stages.flatMap fun stage => (stage.effect launch.forwarder).messages := by
    rw [sent, messages_opened, List.nil_append]
  rw [hsent, marks, Marks.connected, Marks.after]
  simp only [Bool.false_or, Bool.and_eq_true, Bool.not_eq_true', List.isEmpty_eq_false_iff,
    List.any_eq_false, List.mem_flatMap, Bool.not_eq_true]
  refine and_congr_right fun _ => ?_
  constructor
  · exact fun h stage hstage item hitem => h item ⟨stage, hstage, hitem⟩
  · rintro h item ⟨stage, hstage, hitem⟩
    exact h stage hstage item hitem

section Reached

variable (horder : launch.forwarder.order launch.state.env launch.request = .ok order)
  (hafter : ∀ step ∈ launch.after, step.opened? ≠ some launch.name)
include horder hafter

theorem call?_reached :
    launch.reached.call? launch.name =
      left launch.forwarder launch.name (some (.new launch.cancellable order launch.reply))
        launch.stages := by
  rw [reached, call?_reach launch.forwarder launch.name launch.opened.state hafter,
    ← stages_of_order horder, call?_opened_of_order horder]

/-- The call is open at the end of the run, unless it has been given up. -/
theorem exists_reached_iff :
    (∃ call, launch.reached.call? launch.name = some call) ↔
      ∀ stage ∈ launch.stages, stage.step.givesUp = false := by
  rw [← Option.isSome_iff_exists, call?_reached horder hafter,
    isSome_left launch.forwarder (linked_stages horder)]
  simp

/-- How the call stands at the end of the run. -/
theorem shows_reached (hstalls : launch.reply.Stalls) {call : Handle}
    (hcall : launch.reached.call? launch.name = some call) : call.Shows launch.marks := by
  rw [call?_reached horder hafter] at hcall
  refine shows_left launch.forwarder (linked_stages horder) ?_ call hcall
  rintro fresh ⟨⟩
  exact Handle.shows_new _ _ hstalls

/-- **The connection of a call whose reply stalls is open from its first poll to the step that gives
it up or delivers an item that closes.**

Take any run in which such a call is opened, and no other of its name later. At the end of the run,
its connection is open exactly when a message was sent for it, no step has dropped or collected it,
and no step has delivered its end or a failure of the connection. Nothing else in the run matters:
neither what is done with other calls and with the sessions, nor that its token has fired, nor that
it has delivered a cancellation or a line that cannot be decoded.

Behind any error, one poll more closes. -/
theorem connected_iff_of_stalls (hstalls : launch.reply.Stalls) :
    (launch.Connected ↔
      launch.sent ≠ [] ∧ (∀ stage ∈ launch.stages, stage.step.givesUp = false) ∧
        ∀ stage ∈ launch.stages, ∀ item ∈ (stage.effect launch.forwarder).outcome.items,
          item.closes = false) ∧
      (launch.Fails → ∀ call ∈
        (effect launch.forwarder launch.reached (.next launch.name)).state.call? launch.name,
          call.holdsConnection = false) := by
  constructor
  · rw [and_left_comm, ← connected_marks_iff, ← exists_reached_iff horder hafter]
    constructor
    · rintro ⟨call, hcall, hholds⟩
      exact ⟨⟨call, hcall⟩, (shows_reached horder hafter hstalls hcall).holdsConnection ▸ hholds⟩
    · rintro ⟨⟨call, hcall⟩, hconnected⟩
      exact ⟨call, hcall,
        (shows_reached horder hafter hstalls hcall).holdsConnection.trans hconnected⟩
  · intro hfails
    cases hcall : launch.reached.call? launch.name with
    | none =>
      rw [effect_of_closed launch.forwarder rfl hcall, hcall]
      rintro call ⟨⟩
    | some call =>
      -- nothing but the end is left of a call that has delivered an error
      obtain ⟨failed, hfailed, htied⟩ := tied_reach horder hafter hcall
      rw [hfailed.mpr hfails] at htied
      have hitem : (call.poll launch.reached.sessions).item = some .ended := by
        rw [(call.follows_poll _).item, htied.prospect.of_failed]
        rfl
      have hshows := (shows_reached horder hafter hstalls hcall).poll launch.reached.sessions
      rw [hitem] at hshows
      rw [effect_next launch.forwarder hcall, polled, State.call?_afterPoll_self]
      rintro after ⟨⟩
      rw [hshows.holdsConnection, Marks.connected, Option.toList_some, Marks.closed_after_ended]
      exact Bool.and_false _

end Reached

/-- A call is polled, and its connection outlives a shutdown and another call that is dropped. -/
theorem connected_iff_of_stalls_midway :
    let launch : Launch :=
      { forwarder := { baseUrl := "http://far", tokenEnv := "TOKEN" }
        state := {}
        name := "a"
        request := { model := "m", prompt := "p", stream := true, token := some "t" }
        cancellable := true
        reply := .answered
          { body := { pieces := ["data:true\n".toUTF8.toList], ending := .stalled } }
        after := [.next "a",
          .openCall "b" { model := "m", prompt := "q", token := some "t" } false .silent, .next "b",
          .shutdown, .drop "b", .cancel "a", .acquire] }
    launch.Connected := by
  intro launch
  have horder : launch.forwarder.order launch.state.env launch.request = .ok
      { url := "http://far/models/m", stream := true, token := "t"
        body := launch.request.bodyText } :=
    rfl
  have hafter : ∀ step ∈ launch.after, step.opened? ≠ some launch.name := by
    simp [launch, Step.opened?]
  have hstalls : launch.reply.Stalls := rfl
  refine (connected_iff_of_stalls horder hafter hstalls).1.mpr ⟨?_, ?_, ?_⟩
  · have hsent : launch.sent.length = 1 := by cbv
    exact List.ne_nil_of_length_pos (hsent ▸ Nat.one_pos)
  · have hkept : (launch.stages.all fun stage => !stage.step.givesUp) = true := by cbv
    simpa using hkept
  · have hopen : (launch.stages.all fun stage =>
        (stage.effect launch.forwarder).outcome.items.all fun item => !item.closes) = true := by
      cbv
    simpa using hopen

/-- A cancellation and a line that is no text are the last items of their calls, and the connections
are still open behind them: the far end does not see them closed. -/
theorem connected_behind_error :
    let silent : Launch :=
      { forwarder := { baseUrl := "http://far", tokenEnv := "TOKEN" }
        state := {}
        name := "a"
        request := { model := "m", prompt := "p", token := some "t" }
        cancellable := true
        reply := .silent
        after := [.nextThenCancel "a"] }
    let corrupt : Launch :=
      { silent with
        request := { model := "m", prompt := "p", stream := true, token := some "t" }
        cancellable := false
        reply := .answered
          { body := { pieces := [[0xFF, 0x0A]], ending := .stalled } }
        after := [.next "a"] }
    let seen : Launch → Outcome := fun launch =>
      (effect launch.forwarder launch.reached .lookForClose).outcome
    ((effect silent.forwarder silent.opened.state (.nextThenCancel "a")).outcome =
        .item (some (.failed .cancelled)) ∧ silent.Connected ∧ seen silent = .closed false) ∧
      (effect corrupt.forwarder corrupt.opened.state (.next "a")).outcome =
        .item (some (.failed (.decode (.notText (.invalid 0 1))))) ∧ corrupt.Connected ∧
          seen corrupt = .closed false := by
  intro silent corrupt seen
  have hseen (launch : Launch) (hheld : launch.reached.held = 1) : seen launch = .closed false := by
    show Outcome.closed (0 < launch.reached.kept && launch.reached.held = 0) = .closed false
    rw [hheld]
    exact congrArg Outcome.closed (Bool.and_false _)
  refine ⟨⟨by cbv, ?_, hseen silent (by cbv)⟩, by cbv, ?_, hseen corrupt (by cbv)⟩
  · have hopen : (silent.reached.call? "a").any Handle.holdsConnection = true := by cbv
    simpa [Connected, Option.any_eq_true] using hopen
  · have hopen : (corrupt.reached.call? "a").any Handle.holdsConnection = true := by cbv
    simpa [Connected, Option.any_eq_true] using hopen

end Launch

end Forwarder

end Relay
