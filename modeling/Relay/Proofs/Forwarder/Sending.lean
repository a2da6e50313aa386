import Relay.Proofs.Forwarder.Laziness

/-!
# What is sent for a call

A `Launch` is a call in a run: where it is opened, for which request, and what is done in the run
behind. `Launch.sent` are the messages that are sent for it, by its opening and by the steps that
use it. Each of them takes the body of the request to the address of its model, with the token that
was found at the opening (`takes_of_mem_sent`).
-/

namespace Relay.Forwarder

/-- A call that is opened in a run. -/
structure Launch where
  forwarder : Forwarder
  /-- The state that the opening finds. -/
  state : State
  name : String
  request : Request
  cancellable : Bool
  reply : Http.Reply
  /-- What is done in the run behind the opening, with this call and with all else. -/
  after : List Step

namespace Launch

variable (launch : Launch)

/-- What the opening of the call comes to. -/
def opened : Effect :=
  effect launch.forwarder launch.state
    (.openCall launch.name launch.request launch.cancellable launch.reply)

/-- The steps that use the call. There is none when the opening is refused: a call of the name that
is used then is an earlier one. -/
def stages : List Stage :=
  if launch.opened.outcome.isOpened then
    life launch.forwarder launch.name launch.opened.state launch.after
  else []

/-- The messages that are sent for the call. -/
def sent : List Http.Message :=
  launch.opened.messages ++
    launch.stages.flatMap (fun stage => (stage.effect launch.forwarder).messages)

variable {launch}

/-- An opening sends nothing, whatever it comes to. -/
theorem messages_opened (launch : Launch) : launch.opened.messages = [] := by
  rw [opened, openCall_eq]
  split <;> rfl

/-- What the opening comes to, when nothing is refused. -/
theorem opened_of_order {order : Order}
    (horder : launch.forwarder.order launch.state.env launch.request = .ok order) :
    launch.opened =
      { state := launch.state.putCall launch.name (.new launch.cancellable order launch.reply)
        outcome := .opened } :=
  effect_openCall launch.forwarder launch.state launch.name launch.cancellable launch.reply horder

theorem call?_opened_of_order {order : Order}
    (horder : launch.forwarder.order launch.state.env launch.request = .ok order) :
    launch.opened.state.call? launch.name = some (.new launch.cancellable order launch.reply) := by
  rw [opened_of_order horder]
  exact State.call?_putCall_self _ _ _

/-- The steps that use the call follow one another from its opening on. -/
theorem stages_of_order {order : Order}
    (horder : launch.forwarder.order launch.state.env launch.request = .ok order) :
    launch.stages = life launch.forwarder launch.name launch.opened.state launch.after := by
  rw [stages, opened_of_order horder]
  rfl

theorem linked_stages {order : Order}
    (horder : launch.forwarder.order launch.state.env launch.request = .ok order) :
    Linked launch.forwarder launch.name (some (.new launch.cancellable order launch.reply))
      launch.stages := by
  rw [stages_of_order horder, ← call?_opened_of_order horder]
  exact linked_life launch.forwarder launch.name launch.opened.state launch.after

/-- What is sent for a call, step by step. -/
theorem sent_eq_transcript {order : Order}
    (horder : launch.forwarder.order launch.state.env launch.request = .ok order) :
    launch.sent =
      (transcript (sends launch.cancellable (Http.exchange order.message launch.reply).message.toList)
        true (launch.stages.map Stage.step)).flatten := by
  have hheld : Awaits (.new launch.cancellable order launch.reply)
      (some (.new launch.cancellable order launch.reply)) true := rfl
  have hmessages := transcript_of_linked (Awaits (.new launch.cancellable order launch.reply))
    (linked_stages horder) hheld fun _ _ _ hused =>
      messages_of_used launch.forwarder launch.cancellable order launch.reply hused
  rw [sent, messages_opened, List.nil_append, List.flatMap_def, hmessages]

/-- **All that is sent for a call is the message of its order.** -/
theorem sent_of_order {order : Order}
    (horder : launch.forwarder.order launch.state.env launch.request = .ok order) :
    launch.sent = (Http.exchange order.message launch.reply).message.toList ∨ launch.sent = [] := by
  rw [sent_eq_transcript horder]
  exact sends_once _ _ _

/-- A call that is polled first of all sends the message of its order. -/
theorem sent_of_polled {order : Order} {more : List Step}
    (horder : launch.forwarder.order launch.state.env launch.request = .ok order)
    (hafter : launch.after = .next launch.name :: more) :
    launch.sent = (Http.exchange order.message launch.reply).message.toList := by
  have hstages : ∃ rest, launch.stages.map Stage.step = .next launch.name :: rest := by
    rw [stages_of_order horder, hafter, life, if_pos (by rfl)]
    exact ⟨_, rfl⟩
  obtain ⟨rest, hsteps⟩ := hstages
  rw [sent_eq_transcript horder, hsteps, transcript, List.flatten_cons]
  simp only [sends, Step.polls, if_true, sends_nothing, List.append_nil]

/-- What is sent for a call is sent for its order. -/
theorem order_of_mem_sent {message : Http.Message} (h : message ∈ launch.sent) :
    ∃ order, launch.forwarder.order launch.state.env launch.request = .ok order ∧
      (Http.exchange order.message launch.reply).message = some message := by
  cases horder : launch.forwarder.order launch.state.env launch.request with
  | error e =>
    -- a refused opening leaves no call behind
    have hrefused : launch.opened.outcome = .refused e := by
      rw [opened, openCall_eq, horder]
    have hnone : launch.sent = [] := by
      rw [sent, messages_opened, stages, hrefused]
      rfl
    rw [hnone] at h
    cases h
  | ok order =>
    refine ⟨order, rfl, ?_⟩
    rcases sent_of_order horder with hsent | hsent
    · rw [hsent] at h
      exact Option.mem_toList.mp h
    · rw [hsent] at h
      cases h

/-- **Whatever is sent for a call takes the body of its request** to the address of its model, with
the token that was found when the call was opened. -/
theorem takes_of_mem_sent {message : Http.Message} (h : message ∈ launch.sent) :
    ∃ address token,
      Url.ofText? (launch.forwarder.endpointUrl launch.request.model) = some address ∧
        launch.forwarder.credential launch.state.env launch.request = .ok token ∧
        message.Takes launch.request.bodyText address token := by
  obtain ⟨order, horder, hsent⟩ := order_of_mem_sent h
  exact takes_of_sent horder hsent

end Launch

end Relay.Forwarder
