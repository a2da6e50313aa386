import Relay.Proofs.Call.Bare
import Relay.Proofs.Forwarder.Isolation

/-!
# Tokens that never fire

As long as the token of a call does not fire, a run goes as if the call had none. The state without
the guard of the call is `State.bare`; steps that fire no token lead from it to the state without
the guard (`bare_effect_of_used`, `bare_effect_of_ne`), and all that is reported is the same
(`run_bare`).
-/

namespace Relay.Forwarder

/-! ## 1. States without a guard -/

/-- An entry without the guard of its call, if it is the one of the name. -/
def bareEntry (name : String) (entry : String × Handle) : String × Handle :=
  (entry.1, if entry.1 = name then entry.2.bare else entry.2)

namespace State

/-- The state without the guard of a call. -/
def bare (name : String) (state : State) : State :=
  { state with calls := state.calls.map (bareEntry name) }

section Bare

variable (state : State) {name other : String} (before after : Handle) (sessions : Sessions)

@[simp] theorem bare_env (name : String) : (state.bare name).env = state.env := rfl

@[simp] theorem bare_sessions (name : String) : (state.bare name).sessions = state.sessions := rfl

theorem lookup_bare (name other : String) (calls : List (String × Handle)) :
    (calls.map (bareEntry name)).lookup other =
      (calls.lookup other).map (fun call => (bareEntry name (other, call)).2) := by
  induction calls with
  | nil => rfl
  | cons entry more ih =>
    obtain ⟨key, call⟩ := entry
    by_cases h : other = key
    · subst h
      simp [bareEntry]
    · have hne : (other == key) = false := beq_eq_false_iff_ne.mpr h
      simpa [List.lookup_cons, bareEntry, hne] using ih

theorem call?_bare_self (name : String) :
    (state.bare name).call? name = (state.call? name).map Handle.bare := by
  simp [call?, bare, lookup_bare, bareEntry]

theorem call?_bare_of_ne (h : other ≠ name) :
    (state.bare name).call? other = state.call? other := by
  simp [call?, bare, lookup_bare, bareEntry, h]

theorem bare_eraseCall (name other : String) :
    (state.eraseCall other).bare name = (state.bare name).eraseCall other := by
  simp only [bare, eraseCall, List.filter_map]
  rfl

/-- There is no guard left when the call is given up. -/
theorem eraseCall_bare_self (name : String) :
    (state.bare name).eraseCall name = state.eraseCall name := by
  have hsame : ∀ entry ∈ state.calls.filter (fun entry => entry.1 != name),
      bareEntry name entry = entry := by
    intro entry hentry
    have hne : entry.1 ≠ name := by simpa using (List.mem_filter.mp hentry).2
    simp [bareEntry, hne]
  rw [← bare_eraseCall]
  simp only [bare, eraseCall, List.map_congr_left hsame, List.map_id']

theorem bare_putCall_self (name : String) :
    (state.putCall name after).bare name = (state.bare name).putCall name after.bare := by
  simp only [putCall, ← bare_eraseCall]
  simp [bare, bareEntry]

theorem bare_putCall_of_ne (h : other ≠ name) :
    (state.putCall other after).bare name = (state.bare name).putCall other after := by
  simp only [putCall, ← bare_eraseCall]
  simp [bare, bareEntry, h]

/-- A new call takes the place of the old one, with its guard or without. -/
theorem putCall_bare_self (name : String) :
    (state.bare name).putCall name after = state.putCall name after := by
  simp only [putCall, eraseCall_bare_self]
  rfl

theorem bare_afterPoll_self (name : String) :
    (state.afterPoll name before after sessions).bare name =
      (state.bare name).afterPoll name before.bare after.bare sessions := by
  simp only [afterPoll, Handle.holdsConnection_bare, ← bare_putCall_self]
  rfl

theorem bare_afterPoll_of_ne (h : other ≠ name) :
    (state.afterPoll other before after sessions).bare name =
      (state.bare name).afterPoll other before after sessions := by
  simp only [afterPoll, ← bare_putCall_of_ne state after h]
  rfl

@[simp] theorem held_bare (name : String) : (state.bare name).held = state.held := by
  have hentry : (fun entry : String × Handle => entry.2.holdsConnection) ∘ bareEntry name =
      fun entry => entry.2.holdsConnection := by
    funext entry
    simp only [Function.comp_apply, bareEntry]
    split
    · exact entry.2.holdsConnection_bare
    · rfl
  simp only [held, bare, List.filter_map, List.length_map, hentry]

end Bare

end State

/-! ## 2. Steps that fire no token -/

/-- What a step comes to, without the guard of a call. -/
def Effect.bare (name : String) (effect : Effect) : Effect :=
  { effect with state := effect.state.bare name }

section Steps

variable (forwarder : Forwarder) (state : State) {name other : String}

/-- What is done with another call is the same with the guard and without. -/
theorem bare_withCall (act bareAct : Handle → Effect) (h : other ≠ name)
    (hact : ∀ call, bareAct call = (act call).bare name) :
    withCall (state.bare name) other bareAct = (withCall state other act).bare name := by
  unfold withCall
  rw [State.call?_bare_of_ne state h]
  cases state.call? other with
  | none => rfl
  | some call => exact hact call

theorem bare_polled {call : Handle} (polled : Polled Handle) (h : other ≠ name) :
    Forwarder.polled (state.bare name) other call polled =
      (Forwarder.polled state other call polled).bare name := by
  simp only [Forwarder.polled, Effect.bare, State.bare_afterPoll_of_ne _ _ _ _ h]

/-- A step that neither uses nor opens a call does not look at its guard. -/
theorem bare_effect_of_ne {step : Step} (hused : step.used? ≠ some name)
    (hopened : step.opened? ≠ some name) :
    effect forwarder (state.bare name) step = (effect forwarder state step).bare name := by
  cases step with
  | openCall other request cancellable reply =>
    have hne : other ≠ name := fun h => hopened (h ▸ rfl)
    simp only [openCall_eq, State.bare_env]
    split
    · rfl
    · simp only [Effect.bare, State.bare_putCall_of_ne _ _ hne]
  | next other | nextThenCancel other =>
    have hne : other ≠ name := fun h => hused (h ▸ rfl)
    exact bare_withCall state _ _ hne fun call => bare_polled state _ hne
  | drain other =>
    have hne : other ≠ name := fun h => hused (h ▸ rfl)
    refine bare_withCall state _ _ hne fun call => ?_
    simp only [Effect.bare, State.bare_afterPoll_of_ne _ _ _ _ hne, State.bare_sessions]
  | collect other =>
    have hne : other ≠ name := fun h => hused (h ▸ rfl)
    refine bare_withCall state _ _ hne fun call => ?_
    simp only [Effect.bare, State.bare_afterPoll_of_ne _ _ _ _ hne, State.bare_eraseCall,
      State.bare_sessions]
  | cancel other =>
    have hne : other ≠ name := fun h => hused (h ▸ rfl)
    simp only [effect, State.call?_bare_of_ne state hne]
    split
    · rfl
    · simp only [Effect.bare, State.bare_putCall_of_ne _ _ hne]
  | drop other =>
    have hne : other ≠ name := fun h => hused (h ▸ rfl)
    refine bare_withCall state _ _ hne fun call => ?_
    simp only [Effect.bare, State.bare_eraseCall]
  | lookForClose =>
    simp only [effect, State.held_bare]
    rfl
  | acquire => rfl
  | shutdown => rfl
  | setEnv variableName value => rfl
  | url model => rfl
  | caps baseUrl reply => simp only [effect, Effect.bare, State.bare]

/-- An opening does not look at the guard of the call whose place it takes. -/
theorem bare_effect_of_opened {step : Step} (hopened : step.opened? = some name) :
    effect forwarder (state.bare name) step =
      if (effect forwarder state step).outcome.isOpened then effect forwarder state step
      else (effect forwarder state step).bare name := by
  cases step with
  | openCall other request cancellable reply =>
    obtain rfl := Option.some.inj hopened
    simp only [openCall_eq, State.bare_env]
    split
    · rfl
    · rw [State.putCall_bare_self]
      rfl
  | _ => simp [Step.opened?] at hopened

/-- **A step that fires no token does with a call what it does with the call without its guard.** -/
theorem bare_effect_of_used {step : Step} (hused : step.used? = some name)
    (hfires : step.fires = false) (hunfired : ∀ call ∈ state.call? name, call.Unfired) :
    effect forwarder (state.bare name) step = (effect forwarder state step).bare name := by
  cases h : state.call? name with
  | none =>
    have hbare : (state.bare name).call? name = none := by
      simp [State.call?_bare_self, h]
    rw [effect_of_closed forwarder hused h, effect_of_closed forwarder hused hbare]
    rfl
  | some call =>
    have hbare : (state.bare name).call? name = some call.bare := by
      simp [State.call?_bare_self, h]
    have hcall : call.Unfired := hunfired call h
    rcases Step.eq_of_used hused with rfl | rfl | rfl | rfl | rfl | rfl
    · rw [effect_next forwarder h, effect_next forwarder hbare]
      simp only [polled, Effect.bare, State.bare_sessions, Handle.bare_poll hcall,
        State.bare_afterPoll_self]
    · cases hfires
    · rw [effect_drain forwarder h, effect_drain forwarder hbare]
      simp only [Effect.bare, State.bare_sessions, Handle.bare_drain hcall,
        State.bare_afterPoll_self]
    · rw [effect_collect forwarder h, effect_collect forwarder hbare]
      simp only [Effect.bare, State.bare_sessions, Handle.Drained.collected_eq,
        Handle.bare_drain hcall, State.bare_eraseCall, State.bare_afterPoll_self]
    · cases hfires
    · rw [effect_drop forwarder h, effect_drop forwarder hbare]
      simp only [Effect.bare, State.bare_eraseCall]

end Steps

/-! ## 3. Runs in which a token never fires -/

section Runs

variable (forwarder : Forwarder)

/-- **A run in which the token of a call does not fire goes as if the call had no guard.** What
happens when the call is given up, and another one is opened in its place, does not matter. -/
theorem run_bare (state : State) (name : String) (steps : List Step)
    (hunfired : ∀ call ∈ state.call? name, call.Unfired)
    (hfires : ∀ stage ∈ life forwarder name state steps, stage.step.fires = false) :
    run forwarder (state.bare name) steps = run forwarder state steps := by
  induction steps generalizing state with
  | nil => rfl
  | cons step more ih =>
    simp only [life] at hfires
    split at hfires
    · rename_i hused
      obtain ⟨hstep, hmore⟩ := List.forall_mem_cons.mp hfires
      have hbare := bare_effect_of_used forwarder state hused hstep hunfired
      have hafter := keeps_of_used forwarder Handle.Unfired hused Handle.Unfired.poll
        (by simp [hstep]) hunfired
      simp only [run, hbare]
      exact congrArg (List.cons _) (ih _ hafter hmore)
    · rename_i hused
      split at hfires
      · rename_i hopened
        simp only [run, bare_effect_of_opened forwarder state hopened.1, if_pos hopened.2]
      · rename_i hopened
        have hbare : effect forwarder (state.bare name) step =
            (effect forwarder state step).bare name := by
          by_cases h : step.opened? = some name
          · rw [bare_effect_of_opened forwarder state h, if_neg (fun ho => hopened ⟨h, ho⟩)]
          · exact bare_effect_of_ne forwarder state hused h
        have hcall := call?_effect_of_skipped forwarder name hused hopened
        simp only [run, hbare]
        exact congrArg (List.cons _) (ih _ (by rwa [hcall]) hfires)

end Runs

end Relay.Forwarder
