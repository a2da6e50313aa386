import Relay.Proofs.Forwarder.Answers

/-!
# Calls do not meet

What a call delivers and what it sends is its own affair. The sessions that it is polled with show
in the log alone (`Handle.seen_poll`, `Handle.seen_drain`), and nothing else of the state reaches a
call (`seen_of_used`). So a call does the same in any run as in the run that consists of its own
steps, in the environment that its opening saw (`seen_alone`).
-/

namespace Relay

/-! ## 1. Sessions show in the log alone -/

/-- What a poll comes to, apart from sessions and log. -/
def Polled.seen {σ : Type} (polled : Polled σ) : σ × Option Item × Option Http.Message :=
  (polled.call, polled.item, polled.message)

theorem Polled.eq_of_seen {σ : Type} {a b : Polled σ} (h : a.seen = b.seen) :
    a.call = b.call ∧ a.item = b.item ∧ a.message = b.message := by
  simpa [seen] using h

theorem Call.seen_poll (call : Call) (s t : Sessions) :
    (call.poll s).seen = (call.poll t).seen := by
  obtain ⟨order, reply, progress⟩ := call
  cases progress <;> rfl

theorem Guarded.seen_poll (guarded : Guarded) (s t : Sessions) :
    (guarded.poll s).seen = (guarded.poll t).seen := by
  obtain ⟨call, fired, phase⟩ := guarded
  cases phase with
  | spent => rfl
  | finished => rfl
  | running =>
    cases fired with
    | true => rfl
    | false =>
      obtain ⟨hcall, hitem, hmessage⟩ := Polled.eq_of_seen (call.seen_poll s t)
      simp only [poll, Polled.seen, Bool.false_eq_true, if_false, hcall, hitem, hmessage]

namespace Handle

theorem seen_poll (handle : Handle) (s t : Sessions) :
    (handle.poll s).seen = (handle.poll t).seen := by
  cases handle with
  | plain call =>
    obtain ⟨hcall, hitem, hmessage⟩ := Polled.eq_of_seen (call.seen_poll s t)
    simp only [poll, Polled.seen, hcall, hitem, hmessage]
  | guarded call =>
    obtain ⟨hcall, hitem, hmessage⟩ := Polled.eq_of_seen (call.seen_poll s t)
    simp only [poll, Polled.seen, hcall, hitem, hmessage]

theorem seen_pollThenFire (handle : Handle) (s t : Sessions) :
    (handle.pollThenFire s).seen = (handle.pollThenFire t).seen := by
  have hfirst := handle.seen_poll s t
  obtain ⟨hcall, hitem, hmessage⟩ := Polled.eq_of_seen hfirst
  by_cases hi : (handle.poll t).item = none
  · obtain ⟨hcall', hitem', -⟩ := Polled.eq_of_seen
      ((handle.poll t).call.fire.seen_poll (handle.poll s).sessions (handle.poll t).sessions)
    rw [pollThenFire_of_none hi, pollThenFire_of_none (hitem.trans hi)]
    simp only [Polled.seen, hcall, hmessage, hcall', hitem']
  · rw [pollThenFire_of_answered hi, pollThenFire_of_answered (hitem ▸ hi)]
    exact hfirst

/-- What a draining comes to, apart from sessions and log. -/
def Drained.seen (drained : Drained) : Handle × List Chunk × Stop × List Http.Message :=
  (drained.call, drained.chunks, drained.stop, drained.messages)

theorem Drained.eq_of_seen {a b : Drained} (h : a.seen = b.seen) :
    a.call = b.call ∧ a.chunks = b.chunks ∧ a.stop = b.stop ∧ a.messages = b.messages := by
  simpa [seen] using h

theorem seen_drain (handle : Handle) (s t : Sessions) :
    (handle.drain s).seen = (handle.drain t).seen := by
  induction handle, s using drain_induction generalizing t with
  | chunk handle s chunk hi ih =>
    obtain ⟨hcall, hitem, hmessage⟩ := Polled.eq_of_seen (handle.seen_poll s t)
    have hrest := ih (handle.poll t).sessions
    rw [hcall] at hrest
    obtain ⟨hleft, hchunks, hstop, hmessages⟩ := Drained.eq_of_seen hrest
    rw [drain_of_chunk hi, drain_of_chunk (hitem ▸ hi)]
    simp only [Drained.seen, hcall, hmessage, hleft, hchunks, hstop, hmessages]
  | stop handle s stop hi =>
    obtain ⟨hcall, hitem, hmessage⟩ := Polled.eq_of_seen (handle.seen_poll s t)
    rw [drain_of_stop stop hi, drain_of_stop stop (hitem ▸ hi)]
    simp only [Drained.seen, hcall, hmessage]

end Handle

namespace Forwarder

/-! ## 2. A step does the same in any state with the call -/

/-- What a step answers, and what it sends. -/
def Effect.seen (effect : Effect) : Outcome × List Http.Message :=
  (effect.outcome, effect.messages)

/-- What a step is reported to have answered and sent. -/
def Report.seen (report : Report) : Outcome × List Http.Message :=
  (report.outcome, report.messages)

section Congruence

variable (forwarder : Forwarder) {state other : State} {name : String}

theorem seen_polled {call : Handle} {p q : Polled Handle} (h : p.seen = q.seen) :
    (polled state name call p).seen = (polled other name call q).seen ∧
      (polled state name call p).state.call? name =
        (polled other name call q).state.call? name := by
  obtain ⟨hcall, hitem, hmessage⟩ := Polled.eq_of_seen h
  simp only [polled, Effect.seen, State.call?_afterPoll_self, hcall, hitem, hmessage, and_self]

/-- **A step does with a call what it does with it in any other state**: it answers and sends the
same, and leaves the call the same. -/
theorem seen_of_used {step : Step} (hused : step.used? = some name)
    (hsame : state.call? name = other.call? name) :
    (effect forwarder state step).seen = (effect forwarder other step).seen ∧
      (effect forwarder state step).state.call? name =
        (effect forwarder other step).state.call? name := by
  cases h : other.call? name with
  | none =>
    rw [effect_of_closed forwarder hused h, effect_of_closed forwarder hused (hsame.trans h)]
    exact ⟨rfl, hsame⟩
  | some call =>
    rw [h] at hsame
    rcases Step.eq_of_used hused with rfl | rfl | rfl | rfl | rfl | rfl
    · rw [effect_next forwarder h, effect_next forwarder hsame]
      exact seen_polled (call.seen_poll _ _)
    · rw [effect_nextThenCancel forwarder h, effect_nextThenCancel forwarder hsame]
      exact seen_polled (call.seen_pollThenFire _ _)
    · obtain ⟨hcall, hchunks, hstop, hmessages⟩ :=
        Handle.Drained.eq_of_seen (call.seen_drain state.sessions other.sessions)
      rw [effect_drain forwarder h, effect_drain forwarder hsame]
      simp only [Effect.seen, State.call?_afterPoll_self, hcall, hchunks, hstop, hmessages,
        and_self]
    · obtain ⟨-, hchunks, hstop, hmessages⟩ :=
        Handle.Drained.eq_of_seen (call.seen_drain state.sessions other.sessions)
      rw [effect_collect forwarder h, effect_collect forwarder hsame]
      simp only [Effect.seen, State.call?_eraseCall_self, Handle.Drained.collected_eq, hchunks,
        hstop, hmessages, and_self]
    · rw [effect_cancel forwarder h, effect_cancel forwarder hsame]
      simp only [Effect.seen, State.call?_putCall_self, and_self]
    · rw [effect_drop forwarder h, effect_drop forwarder hsame]
      simp only [Effect.seen, State.call?_eraseCall_self, and_self]

/-- Of the state, an opening looks at the environment alone. -/
theorem seen_openCall (state other : State) (henv : state.env = other.env) (request : Request)
    (cancellable : Bool) (reply : Http.Reply) :
    let opening := Step.openCall name request cancellable reply
    (effect forwarder state opening).seen = (effect forwarder other opening).seen ∧
      ((effect forwarder state opening).outcome.isOpened = true →
        (effect forwarder state opening).state.call? name =
          (effect forwarder other opening).state.call? name) := by
  intro opening
  simp only [opening, openCall_eq, henv]
  split
  · exact ⟨rfl, fun h => by simp [Outcome.isOpened] at h⟩
  · exact ⟨rfl, fun _ => by simp only [State.call?_putCall_self]⟩

end Congruence

/-! ## 3. A call alone -/

section Alone

variable (forwarder : Forwarder)

theorem run_eq_transcript (state : State) (steps : List Step) :
    (run forwarder state steps).map Report.seen =
      transcript (fun state step =>
        ((effect forwarder state step).seen, (effect forwarder state step).state)) state steps := by
  induction steps generalizing state with
  | nil => rfl
  | cons step more ih =>
    simp only [run, List.map_cons, transcript, ih]
    rfl

theorem run_append (state : State) (before after : List Step) :
    run forwarder state (before ++ after) =
      run forwarder state before ++ run forwarder (reach forwarder state before) after := by
  induction before generalizing state with
  | nil => rfl
  | cons step more ih =>
    simp only [List.cons_append, run, ih]
    rfl

/-- A life is seen to do what its steps do from any state with the call. -/
theorem seen_of_linked {name : String} {held : Option Handle} {stages : List Stage} {other : State}
    (hlinked : Linked forwarder name held stages) (hsame : held = other.call? name) :
    stages.map (fun stage => (stage.effect forwarder).seen) =
      transcript (fun state step =>
        ((effect forwarder state step).seen, (effect forwarder state step).state)) other
        (stages.map Stage.step) :=
  transcript_of_linked (fun held (other : State) => held = other.call? name) hlinked hsame
    fun _ _ _ hused hheld => seen_of_used forwarder hused hheld

/-- The reports on a life are reports of the run. -/
theorem sublist_life (name : String) (state : State) (steps : List Step) :
    ((life forwarder name state steps).map (fun stage => (stage.effect forwarder).report)).Sublist
      (run forwarder state steps) := by
  induction steps generalizing state with
  | nil => exact List.Sublist.refl _
  | cons step more ih =>
    simp only [life, run]
    split
    · exact (ih _).cons_cons _
    · split
      · exact List.nil_sublist _
      · exact (ih _).cons _

/-- **A call does in a run what it does alone.** Take any run in which a call is opened: whatever
comes before, whatever else comes behind. The opening and the steps that use the call are answered,
and send, as in the run of these steps alone, which begins with the environment that the opening
saw and with nothing else. -/
theorem seen_alone (start : State) (before after : List Step) (name : String) (request : Request)
    (cancellable : Bool) (reply : Http.Reply) :
    let opening := Step.openCall name request cancellable reply
    let state := reach forwarder start before
    let opened := effect forwarder state opening
    let stages := if opened.outcome.isOpened then life forwarder name opened.state after else []
    (opened.report :: stages.map (fun stage => (stage.effect forwarder).report)).Sublist
        (run forwarder start (before ++ opening :: after)) ∧
      (opened.report :: stages.map (fun stage => (stage.effect forwarder).report)).map Report.seen =
        (run forwarder { env := state.env } (opening :: stages.map Stage.step)).map
          Report.seen := by
  intro opening state opened stages
  refine ⟨?_, ?_⟩
  · rw [run_append]
    refine List.Sublist.trans (List.Sublist.cons_cons _ ?_) (List.sublist_append_right _ _)
    by_cases h : opened.outcome.isOpened = true
    · simp only [stages, if_pos h]
      exact sublist_life forwarder name opened.state after
    · simp only [stages, if_neg h, List.map_nil]
      exact List.nil_sublist _
  · let alone : State := { env := state.env }
    obtain ⟨hseen, hcall⟩ :=
      seen_openCall forwarder state alone rfl request cancellable reply
    have hopening : opened.report.seen = (effect forwarder alone opening).report.seen := hseen
    simp only [run, List.map_cons, List.map_map, run_eq_transcript, opened] at hopening ⊢
    rw [hopening]
    refine congrArg _ ?_
    by_cases h : opened.outcome.isOpened = true
    · simp only [stages, if_pos h]
      exact seen_of_linked forwarder (linked_life forwarder name opened.state after) (hcall h)
    · simp only [stages, if_neg h, List.map_nil]
      rfl

end Alone

end Forwarder

end Relay
