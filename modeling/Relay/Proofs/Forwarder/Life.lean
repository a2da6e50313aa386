import Relay.Forwarder.Run
import Relay.Proofs.Call.Handle
import Relay.Proofs.Entries

/-!
# The life of a call in a run

A run mixes the steps of many calls with steps that concern none. This file reads off the steps of
ONE call (`life`), each with the state that it finds (`Stage`):

* a step that neither uses nor opens a call leaves the call as it is (`call?_effect_of_ne`), and so
  does an opening that is refused;
* so the steps of a call follow one another as if nothing stood between them: each finds the call
  as the one before has left it (`linked_life`);
* so what holds of single steps of a call, whatever else the state may be, holds of its life
  (`transcript_of_linked`, `forall_of_linked`).
-/

namespace Relay

/-- A call that has just been opened. -/
def Handle.new (cancellable : Bool) (order : Order) (reply : Http.Reply) : Handle :=
  if cancellable then .guarded { call := { order, reply } } else .plain { order, reply }

namespace Forwarder

/-! ## 1. Calls by name -/

namespace State

variable (state : State) {name other : String} (before after : Handle) (sessions : Sessions)

@[simp] theorem call?_eraseCall_self (name : String) : (state.eraseCall name).call? name = none :=
  lookup_erased_self state.calls name

@[simp] theorem call?_putCall_self (name : String) :
    (state.putCall name after).call? name = some after := by
  simp [call?, putCall]

@[simp] theorem call?_afterPoll_self (name : String) :
    (state.afterPoll name before after sessions).call? name = some after :=
  call?_putCall_self state after name

theorem call?_eraseCall_of_ne (h : other ≠ name) :
    (state.eraseCall name).call? other = state.call? other :=
  lookup_erased_of_ne state.calls h

theorem call?_putCall_of_ne (h : other ≠ name) :
    (state.putCall name after).call? other = state.call? other := by
  have hne : (other == name) = false := beq_eq_false_iff_ne.mpr h
  simp only [call?, putCall, List.lookup_cons, hne]
  exact call?_eraseCall_of_ne state h

theorem call?_afterPoll_of_ne (h : other ≠ name) :
    (state.afterPoll name before after sessions).call? other = state.call? other :=
  call?_putCall_of_ne state after h

end State

/-! ## 2. Which call a step is about -/

/-- The call that a step uses. -/
def Step.used? : Step → Option String
  | .next name | .drain name | .collect name | .cancel name | .nextThenCancel name | .drop name =>
    some name
  | _ => none

/-- The call that a step is to open. -/
def Step.opened? : Step → Option String
  | .openCall name _ _ _ => some name
  | _ => none

/-- Whether a step fires a token, or may do so. -/
def Step.fires : Step → Bool
  | .cancel _ | .nextThenCancel _ => true
  | _ => false

/-- Whether a call has been opened. -/
def Outcome.isOpened : Outcome → Bool
  | .opened => true
  | _ => false

section Frame

variable (forwarder : Forwarder) (state : State) {name other : String}

/-- Opening a call settles what it needs, or is refused. -/
theorem openCall_eq (name : String) (request : Request) (cancellable : Bool) (reply : Http.Reply) :
    effect forwarder state (.openCall name request cancellable reply) =
      match forwarder.order state.env request with
      | .error e => { state, outcome := .refused e }
      | .ok order =>
        { state := state.putCall name (.new cancellable order reply), outcome := .opened } := by
  cases cancellable <;>
    simp only [effect, openCall, forward, forwardGuarded] <;>
    cases forwarder.order state.env request <;> rfl

/-- What is done with another call leaves a call as it is, if it does so where that call is open. -/
theorem call?_withCall_of (act : Handle → Effect)
    (h : ∀ call, (act call).state.call? other = state.call? other) :
    (withCall state name act).state.call? other = state.call? other := by
  unfold withCall
  cases state.call? name with
  | none => rfl
  | some call => exact h call

/-- **A step that neither uses nor opens a call leaves it as it is.** -/
theorem call?_effect_of_ne {step : Step} (hused : step.used? ≠ some name)
    (hopened : step.opened? ≠ some name) :
    (effect forwarder state step).state.call? name = state.call? name := by
  cases step with
  | openCall other request cancellable reply =>
    have hne : name ≠ other := fun h => hopened (h ▸ rfl)
    rw [openCall_eq]
    split
    · rfl
    · exact State.call?_putCall_of_ne _ _ hne
  | next other | nextThenCancel other | drain other =>
    have hne : name ≠ other := fun h => hused (h ▸ rfl)
    exact call?_withCall_of state _ fun call => State.call?_afterPoll_of_ne _ _ _ _ hne
  | collect other =>
    have hne : name ≠ other := fun h => hused (h ▸ rfl)
    refine call?_withCall_of state _ fun call => ?_
    rw [State.call?_eraseCall_of_ne _ hne, State.call?_afterPoll_of_ne _ _ _ _ hne]
  | cancel other =>
    have hne : name ≠ other := fun h => hused (h ▸ rfl)
    simp only [effect]
    split
    · rfl
    · exact State.call?_putCall_of_ne _ _ hne
  | drop other =>
    have hne : name ≠ other := fun h => hused (h ▸ rfl)
    exact call?_withCall_of state _ fun call => State.call?_eraseCall_of_ne _ hne
  | lookForClose => rfl
  | acquire => rfl
  | shutdown => rfl
  | setEnv variableName value => rfl
  | url model => rfl
  | caps baseUrl reply => rfl

/-- An opening that is refused leaves everything as it is. -/
theorem state_of_refused {step : Step} (hopened : step.opened? = some name)
    (hrefused : (effect forwarder state step).outcome.isOpened = false) :
    (effect forwarder state step).state = state := by
  cases step with
  | openCall other request cancellable reply =>
    rw [openCall_eq] at hrefused ⊢
    split at hrefused
    · rfl
    · simp [Outcome.isOpened] at hrefused
  | _ => simp [Step.opened?] at hopened

end Frame

/-! ## 3. What a step does with the call that it uses -/

theorem Step.eq_of_used {step : Step} {name : String} (h : step.used? = some name) :
    step = .next name ∨ step = .nextThenCancel name ∨ step = .drain name ∨ step = .collect name ∨
      step = .cancel name ∨ step = .drop name := by
  cases step <;> simp_all [Step.used?]

section Use

variable (forwarder : Forwarder) {state : State} {name : String} {call : Handle}

theorem effect_next (h : state.call? name = some call) :
    effect forwarder state (.next name) = polled state name call (call.poll state.sessions) := by
  simp only [effect, withCall, h]

theorem effect_nextThenCancel (h : state.call? name = some call) :
    effect forwarder state (.nextThenCancel name) =
      polled state name call (call.pollThenFire state.sessions) := by
  simp only [effect, withCall, h]

theorem effect_drain (h : state.call? name = some call) :
    effect forwarder state (.drain name) =
      { state := state.afterPoll name call (call.drain state.sessions).call
          (call.drain state.sessions).sessions
        outcome := .drained (call.drain state.sessions).chunks (call.drain state.sessions).stop
        messages := (call.drain state.sessions).messages
        log := (call.drain state.sessions).log } := by
  simp only [effect, withCall, h]

theorem effect_collect (h : state.call? name = some call) :
    effect forwarder state (.collect name) =
      { state := (state.afterPoll name call (call.drain state.sessions).call
          (call.drain state.sessions).sessions).eraseCall name
        outcome := .collected (call.drain state.sessions).collected
        messages := (call.drain state.sessions).messages
        log := (call.drain state.sessions).log } := by
  simp only [effect, withCall, h]

theorem effect_cancel (h : state.call? name = some call) :
    effect forwarder state (.cancel name) =
      { state := state.putCall name call.fire, outcome := .done } := by
  simp only [effect, h]

theorem effect_drop (h : state.call? name = some call) :
    effect forwarder state (.drop name) = { state := state.eraseCall name, outcome := .done } := by
  simp only [effect, withCall, h]

/-- What a step answers that is to use a call that is not open. -/
def Step.unanswered : Step → Outcome
  | .cancel _ => .done
  | _ => .noSuchCall

/-- A step that is to use a call that is not open leaves everything as it is. -/
theorem effect_of_closed {step : Step} (hused : step.used? = some name)
    (h : state.call? name = none) :
    effect forwarder state step = { state, outcome := step.unanswered } := by
  rcases Step.eq_of_used hused with rfl | rfl | rfl | rfl | rfl | rfl <;>
    simp only [effect, withCall, h, Step.unanswered]

/-- **What every poll of a call keeps, a step that uses the call keeps**, and so does one that fires
its token, if the firing keeps it too. -/
theorem keeps_of_used (Kind : Handle → Prop) {step : Step} (hused : step.used? = some name)
    (hpoll : ∀ {call : Handle} (sessions : Sessions), Kind call → Kind (call.poll sessions).call)
    (hfire : step.fires = true → ∀ {call : Handle}, Kind call → Kind call.fire)
    (hkind : ∀ call ∈ state.call? name, Kind call) :
    ∀ call ∈ (effect forwarder state step).state.call? name, Kind call := by
  cases h : state.call? name with
  | none =>
    rw [effect_of_closed forwarder hused h]
    simp [h]
  | some call =>
    have hcall : Kind call := hkind call h
    rcases Step.eq_of_used hused with rfl | rfl | rfl | rfl | rfl | rfl
    · rw [effect_next forwarder h]
      simpa [polled] using hpoll _ hcall
    · rw [effect_nextThenCancel forwarder h]
      simpa [polled] using Handle.keeps_pollThenFire Kind hpoll (hfire rfl) hcall _
    · rw [effect_drain forwarder h]
      simpa using Handle.keeps_drain Kind hpoll hcall _
    · rw [effect_collect forwarder h]
      simp
    · rw [effect_cancel forwarder h]
      simpa using hfire rfl hcall
    · rw [effect_drop forwarder h]
      simp

end Use

/-! ## 4. The life of a call -/

/-- A step, and the state that it finds. -/
structure Stage where
  state : State
  step : Step

/-- What the step of a stage comes to. -/
def Stage.effect (forwarder : Forwarder) (stage : Stage) : Effect :=
  Forwarder.effect forwarder stage.state stage.step

/-- The state that steps lead to. -/
def reach (forwarder : Forwarder) (state : State) (steps : List Step) : State :=
  steps.foldl (fun state step => (effect forwarder state step).state) state

/-- The steps of a run that use the call of a name, up to the step that opens another call of the
name. -/
def life (forwarder : Forwarder) (name : String) (state : State) : List Step → List Stage
  | [] => []
  | step :: more =>
    let done := effect forwarder state step
    if step.used? = some name then { state, step } :: life forwarder name done.state more
    else if step.opened? = some name ∧ done.outcome.isOpened then []
    else life forwarder name done.state more

/-- Whether stages are about a call, and each finds it as the one before has left it. -/
def Linked (forwarder : Forwarder) (name : String) : Option Handle → List Stage → Prop
  | _, [] => True
  | held, stage :: more =>
    stage.step.used? = some name ∧ stage.state.call? name = held ∧
      Linked forwarder name ((stage.effect forwarder).state.call? name) more

/-- How stages leave a call. -/
def left (forwarder : Forwarder) (name : String) : Option Handle → List Stage → Option Handle
  | held, [] => held
  | _, stage :: more => left forwarder name ((stage.effect forwarder).state.call? name) more

section Life

variable (forwarder : Forwarder) (name : String)

/-- A step that is no part of a life, and does not end it, leaves the call as it is. -/
theorem call?_effect_of_skipped {state : State} {step : Step} (hused : step.used? ≠ some name)
    (hopened : ¬(step.opened? = some name ∧
      (effect forwarder state step).outcome.isOpened = true)) :
    (effect forwarder state step).state.call? name = state.call? name := by
  by_cases h : step.opened? = some name
  · have hrefused : (effect forwarder state step).outcome.isOpened = false := by
      simpa [h] using hopened
    rw [state_of_refused forwarder state h hrefused]
  · exact call?_effect_of_ne forwarder state hused h

/-- **Every step of a life finds the call as the step before has left it.** -/
theorem linked_life (state : State) (steps : List Step) :
    Linked forwarder name (state.call? name) (life forwarder name state steps) := by
  induction steps generalizing state with
  | nil => trivial
  | cons step more ih =>
    simp only [life]
    split
    · rename_i hused
      exact ⟨hused, rfl, ih _⟩
    · rename_i hused
      split
      · trivial
      · rename_i hopened
        rw [← call?_effect_of_skipped forwarder name hused hopened]
        exact ih _

/-- Steps that do not open a call of the name leave the call as its life leaves it. -/
theorem call?_reach (state : State) {steps : List Step}
    (h : ∀ step ∈ steps, step.opened? ≠ some name) :
    (reach forwarder state steps).call? name =
      left forwarder name (state.call? name) (life forwarder name state steps) := by
  induction steps generalizing state with
  | nil => rfl
  | cons step more ih =>
    obtain ⟨hstep, hmore⟩ := List.forall_mem_cons.mp h
    have hreach : (reach forwarder state (step :: more)).call? name =
        left forwarder name ((effect forwarder state step).state.call? name)
          (life forwarder name (effect forwarder state step).state more) := ih _ hmore
    simp only [life, hstep, false_and, if_false]
    split
    · exact hreach
    · rename_i hused
      rw [hreach, call?_effect_of_ne forwarder state hused hstep]

/-- A step of a life is a step of the run. -/
theorem step_mem_of_life {state : State} {steps : List Step} {stage : Stage}
    (h : stage ∈ life forwarder name state steps) : stage.step ∈ steps := by
  induction steps generalizing state with
  | nil => simp [life] at h
  | cons step more ih =>
    simp only [life] at h
    split at h
    · rcases List.mem_cons.mp h with rfl | hmore
      · exact List.mem_cons_self
      · exact List.mem_cons_of_mem _ (ih hmore)
    · split at h
      · simp at h
      · exact List.mem_cons_of_mem _ (ih h)

end Life

/-! ## 5. From a step to a life -/

/-- What a machine answers to steps, one after the other. -/
def transcript {σ ω : Type} (answer : σ → Step → ω × σ) : σ → List Step → List ω
  | _, [] => []
  | s, step :: more => (answer s step).1 :: transcript answer (answer s step).2 more

section Sweep

variable {forwarder : Forwarder} {name : String} {held : Option Handle} {stages : List Stage}

/-- **What a step does to the call at hand, a life does.** A machine that answers as each single
step does, and goes along with the call, answers as the whole life does. -/
theorem transcript_of_linked {σ ω : Type} (Agrees : Option Handle → σ → Prop)
    {seen : Effect → ω} {answer : σ → Step → ω × σ} {s : σ}
    (hlinked : Linked forwarder name held stages) (hagrees : Agrees held s)
    (hstep : ∀ stage ∈ stages, ∀ s, stage.step.used? = some name →
      Agrees (stage.state.call? name) s →
        seen (stage.effect forwarder) = (answer s stage.step).1 ∧
          Agrees ((stage.effect forwarder).state.call? name) (answer s stage.step).2) :
    stages.map (fun stage => seen (stage.effect forwarder)) =
      transcript answer s (stages.map Stage.step) := by
  induction stages generalizing held s with
  | nil => rfl
  | cons stage more ih =>
    obtain ⟨hused, rfl, hmore⟩ := hlinked
    obtain ⟨hseen, hnext⟩ := hstep stage List.mem_cons_self s hused hagrees
    simp only [List.map_cons, transcript, hseen]
    rw [ih hmore hnext fun later hlater => hstep later (List.mem_cons_of_mem _ hlater)]

/-- What holds of every step that finds a call of a kind, where each step leaves one of the kind,
holds of a life. -/
theorem forall_of_linked (Kind : Option Handle → Prop) {Holds : Stage → Prop}
    (hlinked : Linked forwarder name held stages) (hkind : Kind held)
    (hstep : ∀ stage : Stage, stage.step.used? = some name → Kind (stage.state.call? name) →
      Holds stage ∧ Kind ((stage.effect forwarder).state.call? name)) :
    ∀ stage ∈ stages, Holds stage := by
  induction stages generalizing held with
  | nil => simp
  | cons stage more ih =>
    obtain ⟨hused, rfl, hmore⟩ := hlinked
    obtain ⟨hholds, hnext⟩ := hstep stage hused hkind
    exact List.forall_mem_cons.mpr ⟨hholds, ih hmore hnext⟩

theorem used_of_linked (hlinked : Linked forwarder name held stages) :
    ∀ stage ∈ stages, stage.step.used? = some name :=
  forall_of_linked (fun _ => True) hlinked trivial fun _ hused _ => ⟨hused, trivial⟩

end Sweep

end Forwarder

end Relay
