import Mathlib.Data.List.Induction
import Relay.Proofs.Forwarder.Taking

/-!
# One session for each stretch of a run

Shutdowns cut a run into stretches. All steps of a stretch that take a session take the same one,
and steps of different stretches take different ones (`stretches_of_run`). So the sessions that were
made are as many as the stretches in which one was taken; and a call goes out through the session of
the stretch in which it is first polled, whenever it was opened.

The proof goes along the run and keeps what its books say (`Stretched`).
-/

namespace Relay.Forwarder

/-! ## 1. Moments of a run -/

/-- The steps of a run, each with the state that it finds. -/
def stagesOf (forwarder : Forwarder) (state : State) : List Step → List Stage
  | [] => []
  | step :: more => { state, step } :: stagesOf forwarder (effect forwarder state step).state more

/-- A step of a run, and what has been done before. -/
structure Moment where
  earlier : List Stage
  stage : Stage

/-- The moments of a run. -/
def momentsOf (earlier : List Stage) : List Stage → List Moment
  | [] => []
  | stage :: more => { earlier, stage } :: momentsOf (earlier ++ [stage]) more

/-- How many shutdowns there have been, so which stretch the run is in. -/
def stretchAfter (earlier : List Stage) : Nat :=
  earlier.countP (fun stage => stage.step.isShutdown)

namespace Moment

/-- The stretch that a moment is in. -/
def stretch (moment : Moment) : Nat :=
  stretchAfter moment.earlier

/-- Whether a session is taken: one is acquired, or used for capabilities, or this is the first poll
of a call whose token has not fired. -/
def takes (forwarder : Forwarder) (moment : Moment) : Bool :=
  moment.stage.step.obtains (fun name => (awaited forwarder name moment.earlier).isSome)

end Moment

/-- A session that has been taken: in which stretch, and the number of the session. -/
structure Taking where
  stretch : Nat
  id : Nat

/-- The session that is taken at a moment. -/
def Moment.taking? (forwarder : Forwarder) (moment : Moment) : Option Taking :=
  if moment.takes forwarder then
    some { stretch := moment.stretch, id := moment.stage.state.sessions.obtain.session.id }
  else none

/-- Whether one of the sessions was taken in a stretch. -/
def isTaken (takings : List Taking) (stretch : Nat) : Bool :=
  takings.any (fun taking => taking.stretch == stretch)

section Snoc

variable (forwarder : Forwarder)

theorem stagesOf_append (state : State) (steps : List Step) (step : Step) :
    stagesOf forwarder state (steps ++ [step]) =
      stagesOf forwarder state steps ++ [{ state := reach forwarder state steps, step }] := by
  induction steps generalizing state with
  | nil => rfl
  | cons first more ih =>
    simp only [List.cons_append, stagesOf, ih]
    rfl

theorem momentsOf_append (earlier stages : List Stage) (stage : Stage) :
    momentsOf earlier (stages ++ [stage]) =
      momentsOf earlier stages ++ [{ earlier := earlier ++ stages, stage }] := by
  induction stages generalizing earlier with
  | nil => simp [momentsOf]
  | cons first more ih => simp [momentsOf, ih]

theorem reach_append (state : State) (steps : List Step) (step : Step) :
    reach forwarder state (steps ++ [step]) =
      (effect forwarder (reach forwarder state steps) step).state := by
  simp only [reach, List.foldl_append, List.foldl_cons, List.foldl_nil]

theorem awaited_append (name : String) (stages : List Stage) (stage : Stage) :
    awaited forwarder name (stages ++ [stage]) =
      awaitedAfter forwarder name (awaited forwarder name stages) stage := by
  simp only [awaited, List.foldl_append, List.foldl_cons, List.foldl_nil]

theorem stretchAfter_append (stages : List Stage) (stage : Stage) :
    stretchAfter (stages ++ [stage]) =
      stretchAfter stages + if stage.step.isShutdown then 1 else 0 := by
  simp [stretchAfter, List.countP_append, List.countP_cons]

end Snoc

/-! ## 2. The books of a run -/

theorem isTaken_append (takings : List Taking) (taking : Taking) (stretch : Nat) :
    isTaken (takings ++ [taking]) stretch =
      (isTaken takings stretch || taking.stretch == stretch) := by
  simp [isTaken]

theorem mem_snoc {takings : List Taking} {last taking : Taking} :
    taking ∈ takings ++ [last] ↔ taking ∈ takings ∨ taking = last := by
  simp

/-- How sessions stand in the last stretch of a run, when these were taken. -/
structure Books (sessions : Sessions) (last : Nat) (takings : List Taking) : Prop where
  bounded : ∀ taking ∈ takings, taking.stretch ≤ last
  numbered : ∀ taking ∈ takings, taking.id < sessions.supply.nextId
  live : ∀ session ∈ sessions.manager.live, session.id < sessions.supply.nextId
  /-- The live session is the one of the last stretch. -/
  current : ∀ taking ∈ takings,
    (taking.stretch = last ↔ sessions.manager.live.map Session.id = some taking.id)
  same : ∀ a ∈ takings, ∀ b ∈ takings, (a.stretch = b.stretch ↔ a.id = b.id)
  active : sessions.manager.isActive = isTaken takings last
  created : sessions.manager.created =
    (List.range last).countP (isTaken takings) + if sessions.manager.isActive then 1 else 0

namespace Books

variable {sessions : Sessions} {last : Nat} {takings : List Taking}

theorem start (supply : Supply) : Books { supply } 0 [] :=
  ⟨by simp, by simp, by simp, by simp, by simp, rfl, rfl⟩

/-- What is taken in the last stretch makes no difference to the ones before. -/
theorem countP_taken (id : Nat) :
    (List.range last).countP (isTaken (takings ++ [{ stretch := last, id }])) =
      (List.range last).countP (isTaken takings) := by
  refine List.countP_congr fun stretch hmem => ?_
  have hne : last ≠ stretch := Nat.ne_of_gt (List.mem_range.mp hmem)
  simp [isTaken_append, hne]

/-- Taking the live session once more changes nothing. -/
theorem take_of_live (h : Books sessions last takings) {session : Session}
    (hlive : sessions.manager.live = some session) :
    Books sessions last (takings ++ [{ stretch := last, id := session.id }]) := by
  have hactive : sessions.manager.isActive = true := by simp [Manager.isActive, hlive]
  have hsame : ∀ taking ∈ takings, (taking.stretch = last ↔ taking.id = session.id) :=
    fun taking hmem => by simpa [hlive, eq_comm] using h.current taking hmem
  refine ⟨?_, ?_, h.live, ?_, ?_, ?_, ?_⟩
  · simpa [or_imp, forall_and] using h.bounded
  · simpa [or_imp, forall_and, h.live session hlive] using h.numbered
  · simpa [or_imp, forall_and, hlive] using h.current
  · intro a ha b hb
    rcases mem_snoc.mp ha with ha | rfl <;> rcases mem_snoc.mp hb with hb | rfl
    · exact h.same a ha b hb
    · exact hsame a ha
    · exact eq_comm.trans ((hsame b hb).trans eq_comm)
    · simp
  · simp [isTaken_append, hactive]
  · rw [countP_taken]
    exact h.created

/-- A session that is made has a new number, and is the first of its stretch. -/
theorem take_of_none (h : Books sessions last takings) (hlive : sessions.manager.live = none) :
    Books sessions.obtain.sessions last
      (takings ++ [{ stretch := last, id := sessions.supply.nextId }]) := by
  have hactive : sessions.manager.isActive = false := by simp [Manager.isActive, hlive]
  have hearlier : ∀ taking ∈ takings, taking.stretch ≠ last := fun taking hmem heq => by
    simpa [hlive] using (h.current taking hmem).mp heq
  have hless : ∀ taking ∈ takings, taking.id ≠ sessions.supply.nextId := fun taking hmem =>
    Nat.ne_of_lt (h.numbered taking hmem)
  have hobtain : sessions.obtain.sessions =
      { manager := { sessions.manager with
          live := some sessions.supply.session, created := sessions.manager.created + 1 }
        supply := sessions.supply.advance } := by
    simp only [Sessions.obtain, Manager.obtain, hlive, Manager.Obtained.sessions]
  rw [hobtain]
  refine ⟨?_, fun taking hmem => ?_, ?_, fun taking hmem => ?_, ?_, ?_, ?_⟩
  · simpa [or_imp, forall_and] using h.bounded
  · rcases mem_snoc.mp hmem with hmem | rfl
    · exact Nat.lt_succ_of_lt (h.numbered taking hmem)
    · exact Nat.lt_succ_self _
  · rintro session ⟨⟩
    exact Nat.lt_succ_self _
  · rcases mem_snoc.mp hmem with hmem | rfl
    · simp [Supply.session, hearlier taking hmem, Ne.symm (hless taking hmem)]
    · simp [Supply.session]
  · intro a ha b hb
    rcases mem_snoc.mp ha with ha | rfl <;> rcases mem_snoc.mp hb with hb | rfl
    · exact h.same a ha b hb
    · exact iff_of_false (hearlier a ha) (hless a ha)
    · exact iff_of_false (Ne.symm (hearlier b hb)) (Ne.symm (hless b hb))
    · simp
  · simp [isTaken_append, Manager.isActive]
  · have hcreated := h.created
    rw [hactive] at hcreated
    rw [countP_taken]
    simpa [Manager.isActive] using hcreated

/-- **Taking a session keeps the books.** -/
theorem take (h : Books sessions last takings) :
    Books sessions.obtain.sessions last
      (takings ++ [{ stretch := last, id := sessions.obtain.session.id }]) := by
  cases hlive : sessions.manager.live with
  | some session =>
    have hobtain : sessions.obtain =
        { session, manager := sessions.manager, supply := sessions.supply } := by
      simp only [Sessions.obtain, Manager.obtain, hlive]
    rw [hobtain]
    exact h.take_of_live hlive
  | none =>
    have hid : sessions.obtain.session.id = sessions.supply.nextId := by
      simp only [Sessions.obtain, Manager.obtain, hlive, Supply.session]
    rw [hid]
    exact h.take_of_none hlive

/-- **A shutdown begins a new stretch, and keeps the books.** -/
theorem shutdown (h : Books sessions last takings) :
    Books sessions.shutdown.1 (last + 1) takings := by
  have hnew : isTaken takings (last + 1) = false := by
    refine List.any_eq_false.mpr fun taking hmem => ?_
    have := h.bounded taking hmem
    simp
    omega
  refine ⟨fun taking hmem => Nat.le_succ_of_le (h.bounded taking hmem), h.numbered, by
    simp [Sessions.shutdown, Manager.shutdown], fun taking hmem => ?_, h.same, ?_, ?_⟩
  · have := h.bounded taking hmem
    simp [Sessions.shutdown, Manager.shutdown]
    omega
  · simp [Sessions.shutdown, Manager.shutdown, Manager.isActive, hnew]
  · have hcreated := h.created
    rw [h.active] at hcreated
    simp [Sessions.shutdown, Manager.shutdown, Manager.isActive, List.range_succ, hcreated]

end Books

/-! ## 3. Along a run -/

/-- The sessions that have been taken. -/
def takingsOf (forwarder : Forwarder) (stages : List Stage) : List Taking :=
  (momentsOf [] stages).filterMap (Moment.taking? forwarder)

/-- What holds of a state and of the steps that have led to it. -/
structure Stretched (forwarder : Forwarder) (state : State) (stages : List Stage) : Prop where
  expects : ∀ name, Expects (state.call? name) (awaited forwarder name stages)
  books : Books state.sessions (stretchAfter stages) (takingsOf forwarder stages)
  /-- What has been done with a call says what its state says. -/
  seen : ∀ moment ∈ momentsOf [] stages,
    moment.takes forwarder = moment.stage.step.obtains moment.stage.state.isFresh

namespace Stretched

variable {forwarder : Forwarder} {state : State} {stages : List Stage}

theorem takes_eq (h : Stretched forwarder state stages) (step : Step) :
    Moment.takes forwarder { earlier := stages, stage := ⟨state, step⟩ } =
      step.obtains state.isFresh :=
  congrArg step.obtains (funext fun name => (isFresh_of_expects (h.expects name)).symm)

theorem takingsOf_append (h : Stretched forwarder state stages) (step : Step) :
    takingsOf forwarder (stages ++ [⟨state, step⟩]) =
      takingsOf forwarder stages ++
        if step.obtains state.isFresh then
          [{ stretch := stretchAfter stages, id := state.sessions.obtain.session.id }]
        else [] := by
  simp only [takingsOf, momentsOf_append, List.nil_append, List.filterMap_append,
    List.filterMap_cons, List.filterMap_nil, Moment.taking?, h.takes_eq step]
  cases step.obtains state.isFresh <;> rfl

/-- A shutdown takes no session. -/
theorem obtains_of_shutdown {step : Step} {fresh : String → Bool} (h : step.isShutdown = true) :
    step.obtains fresh = false := by
  cases step <;> first | rfl | cases h

/-- **A step keeps the books.** -/
theorem step (h : Stretched forwarder state stages) (step : Step) :
    Stretched forwarder (effect forwarder state step).state (stages ++ [⟨state, step⟩]) := by
  have hsessions := (takes_effect forwarder state step).1
  refine ⟨fun name => ?_, ?_, fun moment hmem => ?_⟩
  · rw [awaited_append]
    exact expects_after forwarder ⟨state, step⟩ (h.expects name)
  · rw [h.takingsOf_append step, stretchAfter_append, hsessions]
    cases hshutdown : step.isShutdown with
    | true =>
      simp only [obtains_of_shutdown hshutdown, if_true, Bool.false_eq_true, if_false,
        List.append_nil]
      exact h.books.shutdown
    | false =>
      cases step.obtains state.isFresh with
      | true => exact h.books.take
      | false =>
        simp only [Bool.false_eq_true, if_false, List.append_nil, Nat.add_zero]
        exact h.books
  · rw [momentsOf_append] at hmem
    rcases List.mem_append.mp hmem with hmem | hmem
    · exact h.seen moment hmem
    · obtain rfl := List.mem_singleton.mp hmem
      exact h.takes_eq step

/-- **Every run keeps the books.** -/
theorem of_run (forwarder : Forwarder) (supply : Supply) (env : Environment) (steps : List Step) :
    Stretched forwarder (reach forwarder { sessions := { supply }, env } steps)
      (stagesOf forwarder { sessions := { supply }, env } steps) := by
  induction steps using List.reverseRecOn with
  | nil =>
    refine ⟨fun name held hheld => ?_, .start supply, fun moment hmem => ?_⟩
    · cases hheld
    · cases hmem
  | append_singleton earlier step ih =>
    rw [reach_append, stagesOf_append]
    exact ih.step step

end Stretched

/-- Nothing but an acquisition answers with a session. -/
theorem eq_acquire_of_session {forwarder : Forwarder} {stage : Stage} {id : Nat}
    (h : (stage.effect forwarder).outcome = .session id) : stage.step = .acquire := by
  obtain ⟨state, step⟩ := stage
  cases step with
  | acquire => rfl
  | openCall name request cancellable reply =>
    simp only [Stage.effect, openCall_eq] at h
    split at h <;> cases h
  | next name | nextThenCancel name | drain name | collect name | drop name | cancel name =>
    simp only [Stage.effect, effect, withCall, polled] at h
    split at h <;> cases h
  | _ => cases h

/-- **There is one session for each stretch of a run in which one is taken.**

Take any run of a forwarder that has no session at first. A session is taken at an acquisition, for
capabilities, and at the first poll of a call whose token has not fired. Two of these take the same
session exactly if no shutdown lies between them. So the sessions that the run has made are as many
as the stretches in which one was taken, and one is live exactly if it was taken since the last
shutdown. A call is reported to go out at its first poll, through the session of that stretch, and
never again; an acquisition answers with the session that it takes. -/
theorem stretches_of_run (forwarder : Forwarder) (supply : Supply) (env : Environment)
    (steps : List Step) :
    let start : State := { sessions := { supply }, env }
    let manager := (reach forwarder start steps).sessions.manager
    let stages := stagesOf forwarder start steps
    let takings := (momentsOf [] stages).filterMap (Moment.taking? forwarder)
    (∀ a ∈ takings, ∀ b ∈ takings, (a.stretch = b.stretch ↔ a.id = b.id)) ∧
    manager.created = (List.range (stretchAfter stages + 1)).countP (isTaken takings) ∧
    manager.isActive = isTaken takings (stretchAfter stages) ∧
    ∀ moment ∈ momentsOf [] stages,
      ((moment.stage.effect forwarder).log.filterMap Event.forwarded? =
        if moment.stage.step.polls then ((moment.taking? forwarder).map Taking.id).toList
        else []) ∧
      ∀ id, (moment.stage.effect forwarder).outcome = .session id →
        moment.taking? forwarder = some { stretch := moment.stretch, id } := by
  intro start manager stages takings
  have h : Stretched forwarder (reach forwarder start steps) stages :=
    .of_run forwarder supply env steps
  refine ⟨h.books.same, ?_, h.books.active, fun moment hmem => ⟨?_, fun id hid => ?_⟩⟩
  · have hcreated := h.books.created
    rw [h.books.active] at hcreated
    rw [List.range_succ, List.countP_append, List.countP_singleton]
    exact hcreated
  · have hforwarded := (takes_effect forwarder moment.stage.state moment.stage.step).2
    rw [← h.seen moment hmem] at hforwarded
    rw [Stage.effect, hforwarded, Moment.taking?]
    cases moment.stage.step.polls <;> cases moment.takes forwarder <;> rfl
  · have hacquire : moment.stage.step = .acquire := eq_acquire_of_session hid
    have htakes := h.seen moment hmem
    simp only [hacquire, Step.obtains] at htakes
    simp only [Stage.effect, hacquire, effect, Outcome.session.injEq] at hid
    simp only [Moment.taking?, htakes, if_true, hid]

/-- A call is opened before a shutdown and first polled behind it: it goes out through the second
session. -/
theorem stretches_of_run_late :
    let forwarder : Forwarder := { baseUrl := "http://far", tokenEnv := "TOKEN" }
    let request : Request := { model := "m", prompt := "p", token := some "t" }
    let start : State := { sessions := { supply := {} }, env := {} }
    let steps : List Step := [.openCall "a" request true .silent, .acquire, .shutdown, .next "a"]
    (momentsOf [] (stagesOf forwarder start steps)).map
        (fun moment => (moment.stage.effect forwarder).log.filterMap Event.forwarded?) =
      [[], [], [], [2]] ∧
      (reach forwarder start steps).sessions.manager.created = 2 := by
  intro forwarder request start steps
  refine ⟨by cbv, ?_⟩
  rw [(stretches_of_run forwarder {} {} steps).2.1]
  cbv

end Relay.Forwarder
