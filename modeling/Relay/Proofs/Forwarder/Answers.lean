import Relay.Proofs.Call.Script
import Relay.Proofs.Forwarder.Life

/-!
# What the steps of a call answer

The steps of a call answer out of what can be expected of it (`answer`), whatever other calls and
the sessions do in between (`answered_of_used`). This holds as long as no token fires that could
still do something: of a call that cannot be cancelled, of one whose token has fired
(`Handle.Deaf`), and of any call for the steps that fire no token.

Whether one fires or not, all that a run delivers is what polls have delivered (`forall_run`).
-/

namespace Relay

/-! ## 1. Calls that no token can touch -/

/-- What collecting comes to that takes chunks and then a stop. -/
def Handle.Stop.collected (stop : Handle.Stop) (chunks : List Chunk) :
    Option (Except Error (List Chunk)) :=
  match stop with
  | .ended => some (.ok chunks)
  | .failed e => some (.error e)
  | .waiting => none

theorem Handle.Drained.collected_eq (drained : Handle.Drained) :
    drained.collected = drained.stop.collected drained.chunks := rfl

/-- Whether firing the token of a call changes nothing any more. -/
def Handle.Deaf (call : Handle) : Prop :=
  call.fire = call

namespace Handle

variable {call : Handle} (sessions : Sessions)

theorem deaf_plain (call : Call) : (Handle.plain call).Deaf := rfl

theorem deaf_fire (call : Handle) : call.fire.Deaf := by
  cases call <;> rfl

theorem Deaf.poll (h : call.Deaf) : (call.poll sessions).call.Deaf := by
  cases call with
  | plain call => rfl
  | guarded call =>
    obtain ⟨inner, fired, phase⟩ := call
    obtain rfl : true = fired := congrArg Guarded.fired (Handle.guarded.inj h)
    cases phase <;> rfl

/-- A call that no token can touch is polled as if there were none. -/
theorem Deaf.follows_pollThenFire (h : call.Deaf) :
    (call.pollThenFire sessions).Follows Handle.prospect call.prospect := by
  have hp := call.follows_poll sessions
  by_cases hi : (call.poll sessions).item = none
  · -- nothing comes, also when the call is polled once more
    have hrest := Prospect.rest_of_stop .waiting (hp.item.symm.trans hi)
    have hagain := (call.poll sessions).call.follows_poll (call.poll sessions).sessions
    rw [hp.rest, hrest] at hagain
    simp only [pollThenFire_of_none hi,
      show (call.poll sessions).call.fire = (call.poll sessions).call from h.poll sessions]
    refine ⟨?_, ?_, ?_⟩
    · exact hagain.item.trans (hi.symm.trans hp.item)
    · rw [answerLog_append, hp.log, hagain.log]
      exact List.append_nil _
    · exact hagain.rest.trans hrest.symm
  · rw [pollThenFire_of_answered hi]
    exact hp

end Handle

namespace Forwarder

/-! ## 2. The answers of a call -/

/-- What a step answers that uses a call of which this can be expected (none when the call is not
open), with what is logged about the answer, and what can be expected of the call then. -/
def answer (held : Option Prospect) (step : Step) : (Outcome × List Event) × Option Prospect :=
  match held with
  | none => ((step.unanswered, []), none)
  | some prospect =>
    match step with
    | .next _ | .nextThenCancel _ =>
      ((.item prospect.next.taken, prospect.next.log), some prospect.next.rest)
    | .drain _ =>
      ((.drained prospect.drain.taken.1 prospect.drain.taken.2, prospect.drain.log),
        some prospect.drain.rest)
    | .collect _ =>
      ((.collected (prospect.drain.taken.2.collected prospect.drain.taken.1), prospect.drain.log),
        none)
    | .drop _ => ((.done, []), none)
    | _ => ((.done, []), some prospect)

/-- What a step has answered, with what was logged about the answer. -/
def Effect.answered (effect : Effect) : Outcome × List Event :=
  (effect.outcome, answerLog effect.log)

/-- The items that a step has delivered to a caller who goes on with the call. -/
def Outcome.items : Outcome → List Item
  | .item taken => taken.toList
  | .drained chunks stop => chunks.map .chunk ++ stop.item?.toList
  | _ => []

/-- What can be expected of the call of a name. -/
def State.prospect? (state : State) (name : String) : Option Prospect :=
  (state.call? name).map Handle.prospect

section Answers

variable (forwarder : Forwarder) {state : State} {name : String} {call : Handle}

theorem answered_polled {polled : Polled Handle}
    (h : polled.Follows Handle.prospect call.prospect) :
    (Forwarder.polled state name call polled).answered =
        (.item call.prospect.next.taken, call.prospect.next.log) ∧
      (Forwarder.polled state name call polled).state.prospect? name =
        some call.prospect.next.rest := by
  refine ⟨?_, ?_⟩
  · simp only [Forwarder.polled, Effect.answered, h.item, h.log]
  · simp only [Forwarder.polled, State.prospect?, State.call?_afterPoll_self, Option.map_some,
      h.rest]

/-- **A step that uses a call answers out of what can be expected of it**, when it fires no token
that the call could still hear. -/
theorem answered_of_used {step : Step} (hused : step.used? = some name)
    (hdeaf : step.fires = true → ∀ call ∈ state.call? name, call.Deaf) :
    (effect forwarder state step).answered = (answer (state.prospect? name) step).1 ∧
      (effect forwarder state step).state.prospect? name =
        (answer (state.prospect? name) step).2 := by
  cases h : state.call? name with
  | none =>
    rw [effect_of_closed forwarder hused h]
    simp only [State.prospect?, h, Option.map_none, answer, Effect.answered, answerLog_nil,
      and_self]
  | some call =>
    have hprospect : state.prospect? name = some call.prospect := by
      simp only [State.prospect?, h, Option.map_some]
    rw [hprospect]
    rcases Step.eq_of_used hused with rfl | rfl | rfl | rfl | rfl | rfl
    · rw [effect_next forwarder h]
      exact answered_polled (call.follows_poll _)
    · rw [effect_nextThenCancel forwarder h]
      exact answered_polled (Handle.Deaf.follows_pollThenFire _ (hdeaf rfl call h))
    · have hd := call.follows_drain state.sessions
      rw [effect_drain forwarder h]
      simp only [Effect.answered, State.prospect?, State.call?_afterPoll_self, Option.map_some,
        answer, hd.log, hd.rest, ← hd.taken, and_self]
    · have hd := call.follows_drain state.sessions
      rw [effect_collect forwarder h]
      simp only [Effect.answered, State.prospect?, State.call?_eraseCall_self, Option.map_none,
        answer, Handle.Drained.collected_eq, hd.log, ← hd.taken, and_self]
    · have hfire : call.fire = call := hdeaf rfl call h
      rw [effect_cancel forwarder h]
      simp only [Effect.answered, State.prospect?, State.call?_putCall_self, Option.map_some, hfire,
        answer, answerLog_nil, and_self]
    · rw [effect_drop forwarder h]
      simp only [Effect.answered, State.prospect?, State.call?_eraseCall_self, Option.map_none,
        answer, answerLog_nil, and_self]

/-- **A life answers out of what can be expected of the call at its start**, when no token fires
that the call could still hear. -/
theorem answered_of_linked {held : Option Handle} {stages : List Stage} (mayFire : Prop)
    (hlinked : Linked forwarder name held stages)
    (hdeaf : mayFire → ∀ call ∈ held, call.Deaf)
    (hfires : ¬mayFire → ∀ stage ∈ stages, stage.step.fires = false) :
    stages.map (fun stage => (stage.effect forwarder).answered) =
      transcript answer (held.map Handle.prospect) (stages.map Stage.step) := by
  refine transcript_of_linked
    (fun held prospect => held.map Handle.prospect = prospect ∧
      (mayFire → ∀ call ∈ held, call.Deaf)) hlinked ⟨rfl, hdeaf⟩ ?_
  rintro stage hstage prospect hused ⟨rfl, hheld⟩
  have hstep : stage.step.fires = true → ∀ call ∈ stage.state.call? name, call.Deaf := by
    intro hfire
    refine hheld (Classical.byContradiction fun hno => ?_)
    simp [hfires hno stage hstage] at hfire
  obtain ⟨hanswered, hrest⟩ := answered_of_used forwarder hused hstep
  exact ⟨hanswered, hrest, fun hmay => keeps_of_used forwarder Handle.Deaf hused
    Handle.Deaf.poll (fun _ _ _ => Handle.deaf_fire _) (hheld hmay)⟩

end Answers

end Forwarder

/-! ## 3. The items of a call, one after the other -/

namespace Prospect

/-- The items that can be expected, with the end so many times more behind the stop. -/
def items (ends : Nat) : Prospect → List Item
  | .script { chunks, stop, log := _ } =>
    chunks.map .chunk ++ stop.item?.toList ++
      (if stop = .waiting then [] else List.replicate ends .ended)
  | .finished => List.replicate ends .ended

theorem items_next (prospect : Prospect) (ends : Nat) :
    ∃ more, prospect.next.taken.toList ++ prospect.next.rest.items ends = prospect.items more := by
  cases prospect with
  | script script =>
    obtain ⟨chunks, stop, log⟩ := script
    refine ⟨ends, ?_⟩
    cases chunks with
    | nil => cases stop <;> rfl
    | cons chunk more => rfl
  | finished => exact ⟨ends + 1, rfl⟩

theorem items_drain (prospect : Prospect) (ends : Nat) :
    ∃ more, prospect.drain.taken.1.map .chunk ++ prospect.drain.taken.2.item?.toList ++
      prospect.drain.rest.items ends = prospect.items more := by
  cases prospect with
  | script script =>
    obtain ⟨chunks, stop, log⟩ := script
    refine ⟨ends, ?_⟩
    cases stop <;> rfl
  | finished => exact ⟨ends + 1, rfl⟩

end Prospect

namespace Forwarder

theorem items_of_closed (steps : List Step) :
    (transcript answer none steps).flatMap (fun answered => answered.1.items) = [] := by
  induction steps with
  | nil => rfl
  | cons step more ih =>
    simp only [transcript, answer, List.flatMap_cons, ih, List.append_nil]
    cases step <;> rfl

/-- **Whatever the steps are, they deliver the items that can be expected, in order**: none is left
out, and none comes twice. -/
theorem items_of_transcript (prospect : Prospect) (steps : List Step) :
    ∃ ends, (transcript answer (some prospect) steps).flatMap (fun answered => answered.1.items) <+:
      prospect.items ends := by
  induction steps generalizing prospect with
  | nil => exact ⟨0, List.nil_prefix⟩
  | cons step more ih =>
    simp only [transcript, List.flatMap_cons]
    cases step with
    | next name | nextThenCancel name =>
      obtain ⟨ends, hmore⟩ := ih prospect.next.rest
      obtain ⟨more, hitems⟩ := prospect.items_next ends
      exact ⟨more, hitems ▸ (List.prefix_append_right_inj _).mpr hmore⟩
    | drain name =>
      obtain ⟨ends, hmore⟩ := ih prospect.drain.rest
      obtain ⟨more, hitems⟩ := prospect.items_drain ends
      exact ⟨more, hitems ▸ (List.prefix_append_right_inj _).mpr hmore⟩
    | collect name | drop name =>
      -- the call is given up, and delivers no item any more
      refine ⟨0, ?_⟩
      change (transcript answer none more).flatMap (fun answered => answered.1.items) <+: _
      rw [items_of_closed]
      exact List.nil_prefix
    | _ => exact ih prospect

end Forwarder

/-! ## 4. All that is delivered -/

/-- The items that a draining has taken. -/
def Handle.Drained.items (drained : Handle.Drained) : List Item :=
  drained.chunks.map .chunk ++ drained.stop.item?.toList

/-- The items that a step has delivered, one by one or all together. -/
def Forwarder.Outcome.delivered : Forwarder.Outcome → List Item
  | .collected (some (.ok chunks)) => chunks.map .chunk
  | .collected (some (.error e)) => [.failed e]
  | outcome => outcome.items

/-- What collecting makes of a draining is among the items of it. -/
theorem Handle.Drained.mem_of_collected {drained : Handle.Drained} {item : Item}
    (h : item ∈ (Forwarder.Outcome.collected drained.collected).delivered) :
    item ∈ drained.items := by
  obtain ⟨call, sessions, chunks, stop, messages, log⟩ := drained
  cases stop with
  | ended => exact List.mem_append_left _ h
  | failed e => exact List.mem_append_right _ h
  | waiting => cases h

section Delivered

variable (Kind : Item → Prop) (hpoll : ∀ (handle : Handle) (sessions : Sessions),
  ∀ item ∈ (handle.poll sessions).item, Kind item)

include hpoll

namespace Handle

/-- **What every item of a poll is, every item of a draining is.** -/
theorem forall_drain (handle : Handle) (sessions : Sessions) :
    ∀ item ∈ (handle.drain sessions).items, Kind item := by
  induction handle, sessions using drain_induction with
  | chunk handle sessions chunk hi ih =>
    rw [drain_of_chunk hi]
    exact List.forall_mem_cons.mpr ⟨hpoll handle sessions _ hi, ih⟩
  | stop handle sessions stop hi =>
    rw [drain_of_stop stop hi]
    exact fun item hitem => hpoll handle sessions item (hi.trans (Option.mem_toList.mp hitem))

theorem forall_pollThenFire (handle : Handle) (sessions : Sessions) :
    ∀ item ∈ (handle.pollThenFire sessions).item, Kind item := by
  by_cases hi : (handle.poll sessions).item = none
  · rw [pollThenFire_of_none hi]
    exact hpoll _ _
  · rw [pollThenFire_of_answered hi]
    exact hpoll _ _

end Handle

namespace Forwarder

variable (forwarder : Forwarder) (state : State)

/-- **What every item of a poll is, all that a step delivers is**, and all that a run delivers. -/
theorem forall_effect (step : Step) :
    ∀ item ∈ (effect forwarder state step).outcome.delivered, Kind item := by
  intro item h
  cases step with
  | openCall name request cancellable reply =>
    rw [openCall_eq] at h
    split at h <;> cases h
  | next name =>
    simp only [effect, withCall] at h
    split at h
    · cases h
    · exact hpoll _ _ item (Option.mem_toList.mp h)
  | nextThenCancel name =>
    simp only [effect, withCall] at h
    split at h
    · cases h
    · exact Handle.forall_pollThenFire Kind hpoll _ _ item (Option.mem_toList.mp h)
  | drain name =>
    simp only [effect, withCall] at h
    split at h
    · cases h
    · exact Handle.forall_drain Kind hpoll _ _ item h
  | collect name =>
    simp only [effect, withCall] at h
    split at h
    · cases h
    · exact Handle.forall_drain Kind hpoll _ _ item (Handle.Drained.mem_of_collected h)
  | cancel name | drop name =>
    simp only [effect, withCall] at h
    split at h <;> cases h
  | _ => cases h

theorem forall_run (steps : List Step) {report : Report}
    (hreport : report ∈ run forwarder state steps) :
    ∀ item ∈ report.outcome.delivered, Kind item := by
  induction steps generalizing state with
  | nil => cases hreport
  | cons step more ih =>
    rcases List.mem_cons.mp hreport with rfl | hmore
    · exact forall_effect Kind hpoll forwarder state step
    · exact ih _ hmore

end Forwarder

end Delivered

end Relay
