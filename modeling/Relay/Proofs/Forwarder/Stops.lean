import Relay.Proofs.Forwarder.Cancellation
import Relay.Proofs.Forwarder.Sending

/-!
# What a call stops with

Where a call stops is settled by what its connection comes to (`Order.script`), unless a token fires
before. This file follows a call through its life with that in mind:

* `Handle.Tied` says how a call stands to the stop of its script, when an error has been delivered
  or has not;
* a poll keeps it (`Handle.Tied.poll`), and so do a draining, a firing and a poll whose token may
  fire; so every step keeps it (`tied_of_used`), and a life does (`tied_left`);
* so an error that a step of the call delivers is the one of the script, or the token has fired.
-/

namespace Relay

/-! ## 1. Errors -/

/-- The error of an item. -/
def Item.error? : Item → Option Error
  | .failed e => some e
  | _ => none

/-- The error that a stop is delivered as. -/
def Handle.Stop.error? (stop : Handle.Stop) : Option Error :=
  stop.item?.bind Item.error?

/-- The error that a step delivers. -/
def Forwarder.Outcome.error? : Forwarder.Outcome → Option Error
  | .item taken => taken.bind Item.error?
  | .drained _ stop => stop.error?
  | .collected (some (.error e)) => some e
  | _ => none

theorem Handle.Stop.error?_collected (stop : Handle.Stop) (chunks : List Chunk) :
    (Forwarder.Outcome.collected (stop.collected chunks)).error? = stop.error? := by
  cases stop <;> rfl

/-! ## 2. What is left of a script -/

namespace Prospect

variable {fired : Prop} {stop : Handle.Stop} {failed : Bool} {prospect : Prospect}

/-- Whether something can be the rest of a script with this stop: as long as no error has been
delivered, it comes to the stop, or to a cancellation if a token has fired. Nothing is left behind
an error, or behind the end. -/
def Tied (fired : Prop) (stop : Handle.Stop) (failed : Bool) : Prospect → Prop
  | .script left =>
    failed = false ∧ (left.stop = stop ∨ fired ∧ left.stop = .failed .cancelled)
  | .finished => failed = true ∨ stop = .ended

/-- What is behind a stop. -/
theorem tied_behind {reached : Handle.Stop}
    (h : reached = stop ∨ fired ∧ reached = .failed .cancelled) :
    (∀ e, reached.error? = some e → stop = .failed e ∨ fired ∧ e = .cancelled) ∧
      (behind reached).Tied fired stop reached.error?.isSome := by
  cases reached with
  | ended =>
    have hstop : stop = .ended := by simpa [eq_comm] using h
    refine ⟨fun e he => ?_, .inr hstop⟩
    cases he
  | waiting =>
    refine ⟨fun e he => ?_, rfl, h⟩
    cases he
  | failed cause =>
    refine ⟨fun e he => ?_, .inl rfl⟩
    obtain rfl : cause = e := Option.some.inj he
    rcases h with rfl | ⟨hfired, hcancelled⟩
    · exact .inl rfl
    · exact .inr ⟨hfired, Handle.Stop.failed.inj hcancelled⟩

/-- What is next, and what is left then. -/
theorem Tied.next (h : prospect.Tied fired stop failed) :
    (∀ e, prospect.next.taken.bind Item.error? = some e →
        stop = .failed e ∨ fired ∧ e = .cancelled) ∧
      prospect.next.rest.Tied fired stop
        (failed || (prospect.next.taken.bind Item.error?).isSome) := by
  cases prospect with
  | finished =>
    refine ⟨fun e he => ?_, ?_⟩
    · cases he
    · rw [show ((Prospect.finished.next.taken.bind Item.error?).isSome) = false from rfl,
        Bool.or_false]
      exact h
  | script script =>
    obtain ⟨chunks, reached, log⟩ := script
    obtain ⟨rfl, hreached⟩ := h
    rw [Bool.false_or]
    cases chunks with
    | nil => exact tied_behind hreached
    | cons chunk more =>
      refine ⟨fun e he => ?_, rfl, hreached⟩
      cases he

/-- What all that can be expected comes to, and what is left then. -/
theorem Tied.drain (h : prospect.Tied fired stop failed) :
    (∀ e, prospect.drain.taken.2.error? = some e → stop = .failed e ∨ fired ∧ e = .cancelled) ∧
      prospect.drain.rest.Tied fired stop (failed || prospect.drain.taken.2.error?.isSome) := by
  cases prospect with
  | finished =>
    refine ⟨fun e he => ?_, ?_⟩
    · cases he
    · rw [show (Prospect.finished.drain.taken.2.error?.isSome) = false from rfl, Bool.or_false]
      exact h
  | script script =>
    obtain ⟨rfl, hreached⟩ := h
    rw [Bool.false_or]
    exact tied_behind hreached

end Prospect

/-! ## 3. Calls and their scripts -/

namespace Handle

/-- How a call stands that was opened for a script with this stop, and can or cannot be cancelled:
what is left of the script can be expected of it, and no error has been delivered while its token
would still do something. -/
structure Tied (cancellable : Bool) (fires : Prop) (stop : Stop) (failed : Bool) (call : Handle) :
    Prop where
  prospect : call.prospect.Tied (cancellable = true ∧ fires) stop failed
  running : call.armed? = some true → failed = false
  guarded : call.armed?.isSome = true → cancellable = true

theorem deaf_of_unarmed {call : Handle} (h : call.armed? = none) : call.Deaf := by
  cases call with
  | plain call => exact deaf_plain call
  | guarded call =>
    obtain ⟨call, fired, phase⟩ := call
    cases fired with
    | true => rfl
    | false => cases h

theorem Fired.armed? {call : Handle} (h : call.Fired) : call.armed? = none := by
  cases call with
  | plain call => rfl
  | guarded call =>
    obtain ⟨call, fired, phase⟩ := call
    obtain rfl : fired = true := h
    rfl

theorem prospect_of_over {call : Handle} (h : call.armed? = some false) :
    call.prospect = .finished := by
  obtain ⟨⟨inner, fired, phase⟩, rfl, rfl, hphase⟩ := eq_of_armed h
  cases phase with
  | running => cases hphase
  | spent => rfl
  | finished => rfl

/-- An item with an error is the last of a call. -/
theorem error?_of_not_last {item : Option Item} (h : item.any Item.isLast = false) :
    item.bind Item.error? = none := by
  rcases item with _ | (chunk | e | _)
  · rfl
  · rfl
  · cases h
  · rfl

section Tied

variable {cancellable : Bool} {fires : Prop} {stop : Stop} {failed : Bool} {call : Handle}

theorem tied_new (cancellable : Bool) (fires : Prop) (order : Order) (reply : Http.Reply) :
    (Handle.new cancellable order reply).Tied cancellable fires (order.script reply).stop
      false := by
  refine ⟨?_, fun _ => rfl, ?_⟩
  · rw [prospect_new]
    exact ⟨rfl, .inl rfl⟩
  · cases cancellable with
    | true => exact fun _ => rfl
    | false =>
      intro h
      cases h

/-- What an item leaves of a token. -/
theorem Tied.of_item (h : call.Tied cancellable fires stop failed) {after : Handle}
    {item : Option Item}
    (hprospect : after.prospect.Tied (cancellable = true ∧ fires) stop
      (failed || (item.bind Item.error?).isSome))
    (harmed : after.armed? = call.armed?.map (· && !item.any Item.isLast)) :
    after.Tied cancellable fires stop (failed || (item.bind Item.error?).isSome) := by
  refine ⟨hprospect, fun hrunning => ?_, fun hsome => h.guarded ?_⟩
  · rw [harmed] at hrunning
    obtain ⟨running, hcall, hboth⟩ := Option.map_eq_some_iff.mp hrunning
    obtain ⟨rfl, hlast⟩ := Bool.and_eq_true_iff.mp hboth
    rw [h.running hcall, error?_of_not_last (by simpa using hlast)]
    rfl
  · rwa [harmed, Option.isSome_map] at hsome

/-- **A poll delivers no other error than the one of the script**, or a cancellation if a token has
fired. -/
theorem Tied.poll (h : call.Tied cancellable fires stop failed) (sessions : Sessions) :
    let item := (call.poll sessions).item
    (∀ e, item.bind Item.error? = some e →
        stop = .failed e ∨ (cancellable = true ∧ fires) ∧ e = .cancelled) ∧
      (call.poll sessions).call.Tied cancellable fires stop
        (failed || (item.bind Item.error?).isSome) := by
  intro item
  have hfollows := call.follows_poll sessions
  obtain ⟨herror, hrest⟩ := h.prospect.next
  rw [← hfollows.item] at herror hrest
  rw [← hfollows.rest] at hrest
  exact ⟨herror, h.of_item hrest (call.armed?_poll sessions)⟩

theorem Tied.drain (h : call.Tied cancellable fires stop failed) (sessions : Sessions) :
    let reached := (call.drain sessions).stop
    (∀ e, reached.error? = some e →
        stop = .failed e ∨ (cancellable = true ∧ fires) ∧ e = .cancelled) ∧
      (call.drain sessions).call.Tied cancellable fires stop
        (failed || reached.error?.isSome) := by
  intro reached
  have hfollows := call.follows_drain sessions
  have hstop : (call.drain sessions).stop = call.prospect.drain.taken.2 :=
    congrArg Prod.snd hfollows.taken
  obtain ⟨herror, hrest⟩ := h.prospect.drain
  rw [← hstop] at herror hrest
  rw [← hfollows.rest] at hrest
  exact ⟨herror, h.of_item hrest (call.armed?_drain sessions)⟩

theorem Tied.fire (h : call.Tied cancellable fires stop failed) (hfires : fires) :
    call.fire.Tied cancellable fires stop failed := by
  cases harmed : call.armed? with
  | none =>
    have hdeaf : call.fire = call := deaf_of_unarmed harmed
    rwa [hdeaf]
  | some running =>
    obtain ⟨hfired, hprospect⟩ := prospect_fire harmed
    have hguarded : cancellable = true := h.guarded (by rw [harmed]; rfl)
    refine ⟨?_, ?_, ?_⟩
    · cases running with
      | true =>
        rw [hprospect]
        exact ⟨h.running harmed, .inr ⟨⟨hguarded, hfires⟩, rfl⟩⟩
      | false =>
        have hover := h.prospect
        rwa [prospect_of_over harmed, show Prospect.finished = call.fire.prospect from
          hprospect.symm] at hover
    · rw [hfired.armed?]
      intro hno
      cases hno
    · exact fun _ => hguarded

theorem Tied.pollThenFire (h : call.Tied cancellable fires stop failed) (hfires : fires)
    (sessions : Sessions) :
    let item := (call.pollThenFire sessions).item
    (∀ e, item.bind Item.error? = some e →
        stop = .failed e ∨ (cancellable = true ∧ fires) ∧ e = .cancelled) ∧
      (call.pollThenFire sessions).call.Tied cancellable fires stop
        (failed || (item.bind Item.error?).isSome) := by
  intro item
  by_cases hi : (call.poll sessions).item = none
  · -- the token fires, and the call is polled once more
    obtain ⟨-, hfirst⟩ := h.poll sessions
    rw [hi] at hfirst
    simp only [Option.bind_none, Option.isSome_none, Bool.or_false] at hfirst
    have hagain := (hfirst.fire hfires).poll (call.poll sessions).sessions
    simp only [item, pollThenFire_of_none hi]
    exact hagain
  · simp only [item, pollThenFire_of_answered hi]
    exact h.poll sessions

end Tied

end Handle

namespace Forwarder

/-! ## 4. Steps and lives -/

section Steps

variable (forwarder : Forwarder) {state : State} {name : String} {cancellable : Bool} {fires : Prop}
  {stop : Handle.Stop} {failed : Bool}

/-- Draining a call answers what can be expected of it. -/
theorem outcome_drain {call : Handle} (hcall : state.call? name = some call) :
    (effect forwarder state (.drain name)).outcome =
      .drained call.prospect.drain.taken.1 call.prospect.drain.taken.2 := by
  rw [effect_drain forwarder hcall, ← (call.follows_drain state.sessions).taken]

/-- Collecting a call takes all of that, or the error. -/
theorem outcome_collect {call : Handle} (hcall : state.call? name = some call) :
    (effect forwarder state (.collect name)).outcome =
      .collected (call.prospect.drain.taken.2.collected call.prospect.drain.taken.1) := by
  rw [effect_collect forwarder hcall, ← (call.follows_drain state.sessions).taken]
  rfl

/-- **A step delivers no other error than the one of the script**, or a cancellation if a token has
fired, and leaves the call tied to its script. -/
theorem tied_of_used {step : Step} (hused : step.used? = some name)
    (hfires : step.fires = true → fires)
    (h : ∀ call ∈ state.call? name, call.Tied cancellable fires stop failed) :
    let done := effect forwarder state step
    (∀ e, done.outcome.error? = some e →
        stop = .failed e ∨ (cancellable = true ∧ fires) ∧ e = .cancelled) ∧
      ∀ call ∈ done.state.call? name, call.Tied cancellable fires stop
        (failed || done.outcome.error?.isSome) := by
  intro done
  cases hcall : state.call? name with
  | none =>
    simp only [done, effect_of_closed forwarder hused hcall]
    refine ⟨fun e he => ?_, fun call hopen => ?_⟩
    · cases step <;> cases he
    · rw [hcall] at hopen
      cases hopen
  | some call =>
    have htied := h call hcall
    rcases Step.eq_of_used hused with rfl | rfl | rfl | rfl | rfl | rfl
    · obtain ⟨herror, hrest⟩ := htied.poll state.sessions
      simp only [done, effect_next forwarder hcall, polled, State.call?_afterPoll_self]
      refine ⟨herror, fun after hafter => ?_⟩
      obtain rfl := Option.some.inj hafter
      exact hrest
    · obtain ⟨herror, hrest⟩ := htied.pollThenFire (hfires rfl) state.sessions
      simp only [done, effect_nextThenCancel forwarder hcall, polled, State.call?_afterPoll_self]
      refine ⟨herror, fun after hafter => ?_⟩
      obtain rfl := Option.some.inj hafter
      exact hrest
    · obtain ⟨herror, hrest⟩ := htied.drain state.sessions
      simp only [done, effect_drain forwarder hcall, State.call?_afterPoll_self]
      refine ⟨herror, fun after hafter => ?_⟩
      obtain rfl := Option.some.inj hafter
      exact hrest
    · obtain ⟨herror, -⟩ := htied.drain state.sessions
      simp only [done, effect_collect forwarder hcall, State.call?_eraseCall_self,
        Handle.Drained.collected_eq, Handle.Stop.error?_collected]
      refine ⟨herror, fun after hafter => ?_⟩
      cases hafter
    · simp only [done, effect_cancel forwarder hcall, State.call?_putCall_self]
      refine ⟨fun e he => ?_, fun after hafter => ?_⟩
      · cases he
      · obtain rfl := Option.some.inj hafter
        simpa [Outcome.error?] using htied.fire (hfires rfl)
    · simp only [done, effect_drop forwarder hcall, State.call?_eraseCall_self]
      refine ⟨fun e he => ?_, fun after hafter => ?_⟩
      · cases he
      · cases hafter

/-- **A life delivers no other error than the one of the script**, or a cancellation if a token has
fired. As long as it has delivered none, the call it leaves comes to the stop of the script. -/
theorem tied_left {held : Option Handle} {stages : List Stage}
    (hlinked : Linked forwarder name held stages)
    (hfires : ∀ stage ∈ stages, stage.step.fires = true → fires)
    (h : ∀ call ∈ held, call.Tied cancellable fires stop failed) :
    (∀ stage ∈ stages, ∀ e, (stage.effect forwarder).outcome.error? = some e →
        stop = .failed e ∨ (cancellable = true ∧ fires) ∧ e = .cancelled) ∧
      ∀ call ∈ left forwarder name held stages, call.Tied cancellable fires stop
        (failed || stages.any (fun stage => (stage.effect forwarder).outcome.error?.isSome)) := by
  induction stages generalizing held failed with
  | nil =>
    refine ⟨by simp, fun call hcall => ?_⟩
    rw [List.any_nil, Bool.or_false]
    exact h call hcall
  | cons stage more ih =>
    obtain ⟨hused, rfl, hmore⟩ := hlinked
    obtain ⟨hfirst, hlater⟩ := List.forall_mem_cons.mp hfires
    obtain ⟨herror, hrest⟩ := tied_of_used forwarder hused hfirst h
    obtain ⟨herrors, hleft⟩ := ih hmore hlater hrest
    refine ⟨List.forall_mem_cons.mpr ⟨herror, herrors⟩, fun call hcall => ?_⟩
    rw [List.any_cons, ← Bool.or_assoc]
    exact hleft call hcall

end Steps

/-! ## 5. Calls in runs -/

namespace Launch

variable {launch : Launch} {order : Order}

/-- Whether a step of the call fires its token, or may do so. -/
def Fires (launch : Launch) : Prop :=
  ∃ stage ∈ launch.stages, stage.step.fires = true

/-- Whether a step of the call delivers an error. -/
def Fails (launch : Launch) : Prop :=
  ∃ stage ∈ launch.stages, ∃ e, (stage.effect launch.forwarder).outcome.error? = some e

theorem tied_stages (horder : launch.forwarder.order launch.state.env launch.request = .ok order) :
    (∀ stage ∈ launch.stages, ∀ e, (stage.effect launch.forwarder).outcome.error? = some e →
        (order.script launch.reply).stop = .failed e ∨
          (launch.cancellable = true ∧ launch.Fires) ∧ e = .cancelled) ∧
      ∀ call ∈ left launch.forwarder launch.name
          (some (.new launch.cancellable order launch.reply)) launch.stages,
        call.Tied launch.cancellable launch.Fires (order.script launch.reply).stop
          (launch.stages.any fun stage =>
            (stage.effect launch.forwarder).outcome.error?.isSome) := by
  have hnew : ∀ call ∈ some (Handle.new launch.cancellable order launch.reply),
      call.Tied launch.cancellable launch.Fires (order.script launch.reply).stop false := by
    intro call hcall
    obtain rfl := Option.some.inj hcall
    exact Handle.tied_new _ _ _ _
  have htied := tied_left launch.forwarder (linked_stages horder)
    (fun stage hstage hfires => ⟨stage, hstage, hfires⟩) hnew
  simpa only [Bool.false_or] using htied

/-- **An error of a call is the one of its script**, or a cancellation. -/
theorem stop_of_error (horder : launch.forwarder.order launch.state.env launch.request = .ok order)
    {stage : Stage} (hstage : stage ∈ launch.stages) {e : Error}
    (he : (stage.effect launch.forwarder).outcome.error? = some e) :
    (order.script launch.reply).stop = .failed e ∨
      (launch.cancellable = true ∧ launch.Fires) ∧ e = .cancelled :=
  (tied_stages horder).1 stage hstage e he

/-- **A call whose token does not fire answers out of its script.** -/
theorem answered_of_unfired
    (horder : launch.forwarder.order launch.state.env launch.request = .ok order)
    (hunfired : launch.cancellable = true → ¬launch.Fires) :
    launch.stages.map (fun stage => (stage.effect launch.forwarder).answered) =
      transcript answer (some (.script (order.script launch.reply)))
        (launch.stages.map Stage.step) := by
  have hanswered := answered_of_linked launch.forwarder (launch.cancellable = false)
    (linked_stages horder)
    (fun hplain call hheld => by
      rw [hplain] at hheld
      obtain rfl := Option.some.inj hheld
      exact Handle.deaf_plain _)
    (fun hguarded stage hstage => Bool.eq_false_iff.mpr fun hfires =>
      hunfired (by simpa using hguarded) ⟨stage, hstage, hfires⟩)
  rwa [Option.map_some, Handle.prospect_new] at hanswered

/-- The items that it delivers are the first of those. -/
theorem items_of_unfired
    (horder : launch.forwarder.order launch.state.env launch.request = .ok order)
    (hunfired : launch.cancellable = true → ¬launch.Fires) :
    ∃ ends, launch.stages.flatMap (fun stage => (stage.effect launch.forwarder).outcome.items) <+:
      (Prospect.script (order.script launch.reply)).items ends := by
  obtain ⟨ends, hitems⟩ := items_of_transcript (.script (order.script launch.reply))
    (launch.stages.map Stage.step)
  rw [← answered_of_unfired horder hunfired, List.flatMap_map] at hitems
  exact ⟨ends, hitems⟩

/-- **How a call stands at the end of a run** that opens no other of its name. -/
theorem tied_reach (horder : launch.forwarder.order launch.state.env launch.request = .ok order)
    (hafter : ∀ step ∈ launch.after, step.opened? ≠ some launch.name) {call : Handle}
    (hcall : (reach launch.forwarder launch.opened.state launch.after).call? launch.name =
      some call) :
    ∃ failed, (failed = true ↔ launch.Fails) ∧
      call.Tied launch.cancellable launch.Fires (order.script launch.reply).stop failed := by
  rw [call?_reach launch.forwarder launch.name launch.opened.state hafter,
    ← stages_of_order horder, call?_opened_of_order horder] at hcall
  refine ⟨_, ?_, (tied_stages horder).2 call hcall⟩
  simp only [List.any_eq_true, Option.isSome_iff_exists, Fails]

end Launch

end Forwarder

end Relay
