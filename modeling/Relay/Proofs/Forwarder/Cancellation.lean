import Relay.Proofs.Forwarder.Streaming
import Relay.Proofs.Forwarder.Unfired

/-!
# Tokens that fire

A call that can be cancelled does what a call that cannot would do, until its token fires
(`run_bare`). Then there are two cases: if an error or the end has been delivered, nothing is left
but the end; if not, the next answer is that the call was cancelled. Which case it is can be read
off the items (`armed?_left`). Behind the firing, the call sends and logs nothing, and does not ask
for a session (`hushed_of_fired`). The main statement is `plain_until_cancelled`.
-/

namespace Relay

/-! ## 1. Calls whose token has fired -/

/-- Whether a poll has sent and logged nothing, and left the sessions alone. -/
def Polled.Silent {σ : Type} (polled : Polled σ) (sessions : Sessions) : Prop :=
  polled.message = none ∧ polled.log = [] ∧ polled.sessions = sessions

namespace Handle

/-- Whether a call has a token that has fired. -/
def Fired : Handle → Prop
  | .plain _ => False
  | .guarded call => call.fired = true

variable {handle : Handle}

theorem Fired.deaf (h : handle.Fired) : handle.Deaf := by
  cases handle with
  | plain call => cases h
  | guarded call =>
    obtain ⟨call, fired, phase⟩ := call
    obtain rfl : fired = true := h
    rfl

theorem Fired.fire (h : handle.Fired) : handle.fire.Fired := by
  cases handle with
  | plain call => cases h
  | guarded call => rfl

/-- **A call whose token has fired answers at once, and out of itself.** -/
theorem Fired.silent_poll (h : handle.Fired) (sessions : Sessions) :
    (handle.poll sessions).Silent sessions ∧
      ((handle.poll sessions).item = some (.failed .cancelled) ∨
        (handle.poll sessions).item = some .ended) := by
  cases handle with
  | plain call => cases h
  | guarded call =>
    obtain ⟨call, fired, phase⟩ := call
    obtain rfl : fired = true := h
    cases phase with
    | running => exact ⟨⟨rfl, rfl, rfl⟩, .inl rfl⟩
    | spent => exact ⟨⟨rfl, rfl, rfl⟩, .inr rfl⟩
    | finished => exact ⟨⟨rfl, rfl, rfl⟩, .inr rfl⟩

theorem Fired.poll (sessions : Sessions) (h : handle.Fired) :
    (handle.poll sessions).call.Fired := by
  cases handle with
  | plain call => cases h
  | guarded call => exact (call.fired_poll sessions).trans h

theorem Fired.silent_drain (h : handle.Fired) (sessions : Sessions) :
    (handle.drain sessions).messages = [] ∧ (handle.drain sessions).log = [] ∧
      (handle.drain sessions).sessions = sessions := by
  obtain ⟨⟨hmessage, hlog, hsessions⟩, hitem⟩ := h.silent_poll sessions
  rcases hitem with hi | hi
  · rw [drain_of_stop (.failed .cancelled) hi]
    exact ⟨congrArg Option.toList hmessage, hlog, hsessions⟩
  · rw [drain_of_stop .ended hi]
    exact ⟨congrArg Option.toList hmessage, hlog, hsessions⟩

end Handle

namespace Forwarder

/-- Whether a step has sent and logged nothing, and left the sessions alone. -/
def Effect.Silent (effect : Effect) (sessions : Sessions) : Prop :=
  effect.messages = [] ∧ effect.log = [] ∧ effect.state.sessions = sessions

/-- Whether stages answer out of a prospect, and do nothing else. -/
structure Hushed (forwarder : Forwarder) (prospect : Prospect) (stages : List Stage) : Prop where
  answered : stages.map (fun stage => (stage.effect forwarder).answered) =
    transcript answer (some prospect) (stages.map Stage.step)
  silent : ∀ stage ∈ stages, (stage.effect forwarder).Silent stage.state.sessions

section Fired

variable (forwarder : Forwarder) {state : State} {name : String}

theorem silent_polled {call : Handle} {polled : Polled Handle}
    (h : polled.Silent state.sessions) :
    (Forwarder.polled state name call polled).Silent state.sessions := by
  obtain ⟨hmessage, hlog, hsessions⟩ := h
  exact ⟨congrArg Option.toList hmessage, hlog, hsessions⟩

/-- A step does nothing but answer, when the token of the call has fired. -/
theorem silent_of_used {step : Step} (hused : step.used? = some name)
    (hfired : ∀ call ∈ state.call? name, call.Fired) :
    (effect forwarder state step).Silent state.sessions := by
  cases h : state.call? name with
  | none =>
    rw [effect_of_closed forwarder hused h]
    exact ⟨rfl, rfl, rfl⟩
  | some call =>
    have hcall : call.Fired := hfired call h
    obtain ⟨hpolled, hitem⟩ := hcall.silent_poll state.sessions
    rcases Step.eq_of_used hused with rfl | rfl | rfl | rfl | rfl | rfl
    · rw [effect_next forwarder h]
      exact silent_polled hpolled
    · have hanswered : (call.poll state.sessions).item ≠ none := by
        rcases hitem with hi | hi <;> simp [hi]
      rw [effect_nextThenCancel forwarder h, Handle.pollThenFire_of_answered hanswered]
      exact silent_polled hpolled
    · rw [effect_drain forwarder h]
      exact hcall.silent_drain _
    · rw [effect_collect forwarder h]
      exact hcall.silent_drain _
    · rw [effect_cancel forwarder h]
      exact ⟨rfl, rfl, rfl⟩
    · rw [effect_drop forwarder h]
      exact ⟨rfl, rfl, rfl⟩

/-- **Behind the firing of its token, a call does nothing but answer out of what can be expected of
it.** -/
theorem hushed_of_fired {call : Handle} (h : state.call? name = some call) (hfired : call.Fired)
    (steps : List Step) :
    Hushed forwarder call.prospect (life forwarder name state steps) := by
  have hlinked := linked_life forwarder name state steps
  rw [h] at hlinked
  refine ⟨?_, ?_⟩
  · refine answered_of_linked forwarder True hlinked (fun _ c hc => ?_) (fun hno => ?_)
    · obtain rfl := Option.some.inj hc
      exact hfired.deaf
    · exact absurd trivial hno
  · refine forall_of_linked (fun held => ∀ c ∈ held, c.Fired) hlinked (fun c hc => ?_)
      fun stage hused hheld => ⟨silent_of_used forwarder hused hheld,
        keeps_of_used forwarder Handle.Fired hused Handle.Fired.poll
          (fun _ _ hfired => hfired.fire) hheld⟩
    obtain rfl := Option.some.inj hc
    exact hfired

end Fired

end Forwarder

/-! ## 2. Whether there is something to be cancelled -/

/-- Whether an item is the last of a call. -/
def Item.isLast : Item → Bool
  | .chunk _ => false
  | _ => true

theorem Item.any_isLast_chunks (chunks : List Chunk) :
    (chunks.map Item.chunk).any Item.isLast = false := by
  induction chunks with
  | nil => rfl
  | cons chunk more ih => exact ih

namespace Handle

/-- Of a call whose token may still fire: whether that would have an effect. -/
def armed? : Handle → Option Bool
  | .plain _ => none
  | .guarded call => if call.fired then none else some (call.phase == .running)

variable {handle : Handle} {running : Bool}

theorem eq_of_armed (h : handle.armed? = some running) :
    ∃ call, handle = .guarded call ∧ call.fired = false ∧ (call.phase == .running) = running := by
  cases handle with
  | plain call => cases h
  | guarded call =>
    obtain ⟨call, fired, phase⟩ := call
    cases fired with
    | true => cases h
    | false => exact ⟨_, rfl, rfl, Option.some.inj h⟩

/-- Firing a token ends a call that runs, and does nothing to one that does not. -/
theorem prospect_fire (h : handle.armed? = some running) :
    handle.fire.Fired ∧ handle.fire.prospect =
      if running then .script { stop := .failed .cancelled } else .finished := by
  obtain ⟨⟨call, fired, phase⟩, rfl, rfl, rfl⟩ := eq_of_armed h
  refine ⟨rfl, ?_⟩
  cases phase <;> rfl

/-- **A poll leaves a call running as long as it does not answer with its last item.** -/
theorem armed?_poll (handle : Handle) (sessions : Sessions) :
    (handle.poll sessions).call.armed? =
      handle.armed?.map (· && !(handle.poll sessions).item.any Item.isLast) := by
  cases handle with
  | plain call => rfl
  | guarded call =>
    obtain ⟨call, fired, phase⟩ := call
    cases fired with
    | true => cases phase <;> rfl
    | false =>
      cases phase with
      | spent => rfl
      | finished => rfl
      | running =>
        simp only [poll, Guarded.poll, Bool.false_eq_true, if_false, armed?, Option.map_some]
        rcases (call.poll sessions).item with _ | (chunk | e | _) <;> rfl

theorem armed?_drain (handle : Handle) (sessions : Sessions) :
    (handle.drain sessions).call.armed? =
      handle.armed?.map (· && !((handle.drain sessions).stop.item?.any Item.isLast)) := by
  induction handle, sessions using drain_induction with
  | chunk handle sessions chunk hi ih =>
    have hpoll : (handle.poll sessions).call.armed? = handle.armed? := by
      rw [handle.armed?_poll, hi]
      cases handle.armed? <;> simp [Item.isLast]
    rw [drain_of_chunk hi, ← hpoll]
    exact ih
  | stop handle sessions stop hi =>
    rw [drain_of_stop stop hi, ← hi]
    exact handle.armed?_poll sessions

/-- A token that fires while a poll waits ends the call with the same poll. -/
theorem pollThenFire_of_armed (h : handle.armed? = some running) {sessions : Sessions}
    (hi : (handle.poll sessions).item = none) :
    (handle.pollThenFire sessions).item = some (.failed .cancelled) ∧
      (handle.pollThenFire sessions).message = (handle.poll sessions).message ∧
      (handle.pollThenFire sessions).log = (handle.poll sessions).log ∧
      (handle.pollThenFire sessions).sessions = (handle.poll sessions).sessions ∧
      (handle.pollThenFire sessions).call.Fired ∧
      (handle.pollThenFire sessions).call.prospect = .finished := by
  obtain ⟨⟨call, fired, phase⟩, rfl, rfl, -⟩ := eq_of_armed h
  cases phase with
  | spent => cases hi
  | finished => cases hi
  | running =>
    have hinner : (call.poll sessions).item = none := hi
    have hfirst : (Handle.guarded { call }).poll sessions =
        { call.poll sessions with call := .guarded { call := (call.poll sessions).call } } := by
      simp [poll, Guarded.poll, Guarded.phaseAfter, hinner]
    have hboth : (Handle.guarded { call }).pollThenFire sessions =
        { call := .guarded { call := (call.poll sessions).call, fired := true, phase := .spent }
          sessions := (call.poll sessions).sessions
          item := some (.failed .cancelled)
          message := (call.poll sessions).message
          log := (call.poll sessions).log ++ [] } := by
      rw [pollThenFire_of_none hi, hfirst]
      rfl
    rw [hboth, hfirst]
    exact ⟨rfl, rfl, List.append_nil _, rfl, rfl, rfl⟩

end Handle

namespace Forwarder

/-- Whether a step polls a call once, or until it stops. -/
def Step.takes : Step → Bool
  | .next _ | .drain _ => true
  | _ => false

section Left

variable {forwarder : Forwarder} {name : String} {held : Option Handle} {stages : List Stage}

theorem armed?_of_used (forwarder : Forwarder) (state : State) {step : Step}
    (hused : step.used? = some name) (htakes : step.takes = true) :
    ((effect forwarder state step).state.call? name).bind Handle.armed? =
      ((state.call? name).bind Handle.armed?).map
        (· && !(effect forwarder state step).outcome.items.any Item.isLast) := by
  cases h : state.call? name with
  | none =>
    rw [effect_of_closed forwarder hused h]
    simp [h]
  | some call =>
    rcases Step.eq_of_used hused with rfl | rfl | rfl | rfl | rfl | rfl
    · rw [effect_next forwarder h]
      simp only [polled, State.call?_afterPoll_self, Option.bind_some, call.armed?_poll,
        Outcome.items]
      cases (call.poll state.sessions).item <;> simp
    · cases htakes
    · rw [effect_drain forwarder h]
      simp only [State.call?_afterPoll_self, Option.bind_some, call.armed?_drain, Outcome.items,
        List.any_append, Item.any_isLast_chunks, Bool.false_or]
      cases (call.drain state.sessions).stop.item? <;> simp
    · cases htakes
    · cases htakes
    · cases htakes

/-- **A token can still do something as long as no last item has been delivered.** -/
theorem armed?_left (hlinked : Linked forwarder name held stages)
    (htakes : ∀ stage ∈ stages, stage.step.takes = true) :
    (left forwarder name held stages).bind Handle.armed? =
      (held.bind Handle.armed?).map
        (· && !(stages.flatMap (fun stage => (stage.effect forwarder).outcome.items)).any
          Item.isLast) := by
  induction stages generalizing held with
  | nil => simp [left]
  | cons stage more ih =>
    obtain ⟨hused, rfl, hmore⟩ := hlinked
    obtain ⟨hstep, hrest⟩ := List.forall_mem_cons.mp htakes
    have hone := armed?_of_used forwarder stage.state hused hstep
    rw [left, ih hmore hrest, Stage.effect, hone]
    simp [Function.comp_def, Bool.and_assoc, Stage.effect]

end Left

/-! ## 3. Calls that can be cancelled -/

section Cancellable

variable (forwarder : Forwarder) (state : State) (name : String) {request : Request}
  {order : Order} (reply : Http.Reply)

/-- Opening a call with a token or without leads to the same state, but for the guard. -/
theorem bare_openCall (horder : forwarder.order state.env request = .ok order) :
    effect forwarder state (.openCall name request false reply) =
      (effect forwarder state (.openCall name request true reply)).bare name := by
  simp only [effect_openCall forwarder state name _ reply horder, Effect.bare,
    State.bare_putCall_self, State.putCall_bare_self]
  rfl

/-- A run in which the token of a call never fires goes as if the call had been opened without. -/
theorem run_of_unfired {steps : List Step}
    (horder : forwarder.order state.env request = .ok order)
    (hfires : ∀ stage ∈ life forwarder name
      (effect forwarder state (.openCall name request true reply)).state steps,
      stage.step.fires = false) :
    run forwarder state (.openCall name request true reply :: steps) =
      run forwarder state (.openCall name request false reply :: steps) := by
  have hopened := effect_openCall forwarder state name true reply horder
  have hunfired : ∀ call ∈ (effect forwarder state (.openCall name request true reply)).state.call?
      name, call.Unfired := by
    intro call hcall
    rw [hopened, State.call?_putCall_self] at hcall
    obtain rfl := Option.some.inj hcall
    rfl
  have hrun := run_bare forwarder _ name steps hunfired hfires
  simp only [run, bare_openCall forwarder state name reply horder]
  exact congrArg (List.cons _) hrun.symm

/-- **A call that can be cancelled is a plain call until its token fires, and over then.**

Take any run in which a call is opened that can be cancelled, and then polled in any way
(`before`). Up to here, all that is reported is what is reported when the call cannot be cancelled;
and so it goes on if the token never fires.

* When the token fires between two polls: if an error or the end has been delivered, nothing but the
  end is answered from then on. If not, the next answer is that the call was cancelled, whatever
  else may have arrived, and nothing but the end is answered behind it.
* When the token fires while a poll waits, that poll answers that the call was cancelled. A poll
  that need not wait answers as it would have.

Neither the firing nor a step behind it sends or logs anything, or asks for a session. As the
opening does not either, a token that fires before the first poll leaves no trace at all. -/
theorem plain_until_cancelled (before after : List Step)
    (horder : forwarder.order state.env request = .ok order)
    (hopened : ∀ step ∈ before, step.opened? ≠ some name)
    (htakes : ∀ step ∈ before, step.used? = some name → step.takes = true) :
    let guarded := Step.openCall name request true reply
    let plain := Step.openCall name request false reply
    let opened := effect forwarder state guarded
    let reached := reach forwarder opened.state before
    let items := (life forwarder name opened.state before).flatMap
      (fun stage => (stage.effect forwarder).outcome.items)
    let fired := effect forwarder reached (.cancel name)
    let polled := effect forwarder reached (.next name)
    let waited := effect forwarder reached (.nextThenCancel name)
    run forwarder state (guarded :: before) = run forwarder state (plain :: before) ∧
      (∀ steps, (∀ stage ∈ life forwarder name opened.state steps, stage.step.fires = false) →
        run forwarder state (guarded :: steps) = run forwarder state (plain :: steps)) ∧
      opened.Silent state.sessions ∧ fired.Silent reached.sessions ∧
      Hushed forwarder
        (if items.any Item.isLast then .finished else .script { stop := .failed .cancelled })
        (life forwarder name fired.state after) ∧
      (polled.outcome = .item none →
        waited.outcome = .item (some (.failed .cancelled)) ∧ waited.messages = polled.messages ∧
          waited.log = polled.log ∧ waited.state.sessions = polled.state.sessions ∧
          Hushed forwarder .finished (life forwarder name waited.state after)) ∧
      (polled.outcome ≠ .item none → waited = polled) := by
  intro guarded plain opened reached items fired polled waited
  have hopening : opened =
      { state := state.putCall name (.new true order reply), outcome := .opened } :=
    effect_openCall forwarder state name true reply horder
  have hcall : opened.state.call? name = some (.new true order reply) := by
    rw [hopening, State.call?_putCall_self]
  have hlinked := linked_life forwarder name opened.state before
  have hstages : ∀ stage ∈ life forwarder name opened.state before, stage.step.takes = true :=
    fun stage hstage => htakes _ (step_mem_of_life forwarder name hstage)
      (used_of_linked hlinked stage hstage)
  -- the token may still fire, and would do something unless a last item has been delivered
  have harmed : (reached.call? name).bind Handle.armed? = some (!items.any Item.isLast) := by
    rw [call?_reach forwarder name opened.state hopened, armed?_left hlinked hstages, hcall]
    rfl
  obtain ⟨call, hreached, hcallArmed⟩ := Option.bind_eq_some_iff.mp harmed
  obtain ⟨hfired, hprospect⟩ := Handle.prospect_fire hcallArmed
  refine ⟨?_, ?_, ?_, ?_, ?_, ?_, ?_⟩
  · refine run_of_unfired forwarder state name reply horder fun stage hstage => ?_
    have htake := hstages stage hstage
    cases hstep : stage.step <;> simp_all [Step.takes, Step.fires]
  · exact fun steps => run_of_unfired forwarder state name reply horder
  · rw [hopening]
    exact ⟨rfl, rfl, rfl⟩
  · simp only [fired, effect_cancel forwarder hreached]
    exact ⟨rfl, rfl, rfl⟩
  · have hafter : fired.state.call? name = some call.fire := by
      simp only [fired, effect_cancel forwarder hreached, State.call?_putCall_self]
    have hhushed := hushed_of_fired forwarder hafter hfired after
    rw [hprospect] at hhushed
    cases hlast : items.any Item.isLast <;> simpa [hlast] using hhushed
  · intro hwait
    simp only [polled, waited, effect_next forwarder hreached,
      effect_nextThenCancel forwarder hreached, Forwarder.polled, Outcome.item.injEq] at hwait ⊢
    obtain ⟨hitem, hmessage, hlog, hsessions, hover, hend⟩ :=
      Handle.pollThenFire_of_armed hcallArmed hwait
    refine ⟨hitem, by rw [hmessage], hlog, hsessions, ?_⟩
    rw [← hend]
    exact hushed_of_fired forwarder (State.call?_afterPoll_self _ _ _ _ _) hover after
  · intro hanswer
    simp only [polled, waited, effect_next forwarder hreached,
      effect_nextThenCancel forwarder hreached, Forwarder.polled, ne_eq,
      Outcome.item.injEq] at hanswer ⊢
    rw [Handle.pollThenFire_of_answered hanswer]

end Cancellable

/-- Two chunks have arrived, and the token fires when one of them has been delivered. -/
theorem plain_until_cancelled_midway :
    let forwarder : Forwarder := { baseUrl := "http://far", tokenEnv := "TOKEN" }
    let request : Request := { model := "m", prompt := "p", stream := true, token := some "t" }
    let response : Http.Response :=
      { body := { pieces := ["data:true\ndata:null\n"].map (fun s => s.toUTF8.toList) } }
    let opened := effect forwarder {} (.openCall "a" request true (.answered response))
    let fired := effect forwarder (reach forwarder opened.state [.next "a"]) (.cancel "a")
    (life forwarder "a" fired.state [.next "a", .drain "a"]).map
        (fun stage => (stage.effect forwarder).answered) =
      [(.item (some (.failed .cancelled)), []), (.drained [] .ended, [])] := by
  intro forwarder request response opened fired
  have horder : forwarder.order {} request = .ok
      { url := "http://far/models/m", stream := true, token := "t", body := request.bodyText } :=
    rfl
  have hhushed := (plain_until_cancelled forwarder {} "a" (.answered response) [.next "a"]
    [.next "a", .drain "a"] horder (by simp [Step.opened?]) (by simp [Step.takes])).2.2.2.2.1
  have hitems : ((life forwarder "a" opened.state [.next "a"]).flatMap
      (fun stage => (stage.effect forwarder).outcome.items)).any Item.isLast = false := by
    cbv
  have hsteps : (life forwarder "a" fired.state [.next "a", .drain "a"]).map Stage.step =
      [.next "a", .drain "a"] := by
    rfl
  have hanswered := hhushed.answered
  rw [hitems, hsteps] at hanswered
  refine hanswered.trans ?_
  rfl

end Forwarder

end Relay
