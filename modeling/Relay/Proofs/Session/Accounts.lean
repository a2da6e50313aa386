import Mathlib.Data.List.Induction
import Relay.Proofs.Entries
import Relay.Proofs.Session.Manager
import Relay.Session.Run

/-!
# Accounts of sessions

What a manager has logged tells all about its sessions: each was made and then shut down, one after
the other, and the last one is live if it has not been shut down (`Manager.Accounts`). Whatever
happens in a run, every manager accounts for its own records, and the sessions of all managers
together are numbered in the order in which they were made (`accounts_of_run`).

The step of the argument is `Booked`: what an acquisition or a shutdown does is accounted for by
what it logs.
-/

namespace Relay

/-! ## 1. Records -/

namespace Event

/-- The number of the session that was made. -/
def created? : Event → Option Nat
  | .sessionCreated id => some id
  | _ => none

/-- Whether a session was made. -/
def isCreation (event : Event) : Bool :=
  event.created?.isSome

/-- Whether a session was shut down. -/
def isShutdown : Event → Bool
  | .sessionShutDown _ => true
  | _ => false

end Event

/-- The records of sessions that were made and shut down, one after the other, and of a last one
that is live. -/
def pairedRecords (closed : List Nat) (live : Option Nat) : List Event :=
  closed.flatMap (fun id => [.sessionCreated id, .sessionShutDown id]) ++
    live.toList.map .sessionCreated

section Paired

variable (closed : List Nat) (live : Option Nat)

theorem pairedRecords_shutdown (id : Nat) :
    pairedRecords closed (some id) ++ [.sessionShutDown id] =
      pairedRecords (closed ++ [id]) none := by
  simp [pairedRecords]

theorem countP_isCreation_pairedRecords :
    (pairedRecords closed live).countP Event.isCreation = closed.length + live.toList.length := by
  induction closed with
  | nil => cases live <;> rfl
  | cons id more ih =>
    simp only [pairedRecords, List.flatMap_cons, List.cons_append, List.nil_append,
      List.length_cons] at ih ⊢
    rw [List.countP_cons_of_pos rfl, List.countP_cons_of_neg Bool.false_ne_true, ih]
    omega

theorem countP_isShutdown_pairedRecords :
    (pairedRecords closed live).countP Event.isShutdown = closed.length := by
  induction closed with
  | nil => cases live <;> rfl
  | cons id more ih =>
    simp only [pairedRecords, List.flatMap_cons, List.cons_append, List.nil_append,
      List.length_cons] at ih ⊢
    rw [List.countP_cons_of_neg Bool.false_ne_true, List.countP_cons_of_pos rfl, ih]

theorem getLast?_pairedRecords (id : Nat) :
    (pairedRecords closed live).getLast? = some (.sessionCreated id) ↔ live = some id := by
  cases live with
  | some other => simp [pairedRecords]
  | none =>
    rcases List.eq_nil_or_concat closed with rfl | ⟨earlier, last, rfl⟩
    · simp [pairedRecords]
    · simp [pairedRecords]

end Paired

/-! ## 2. Managers and their records -/

/-- The number of the live session. -/
def Manager.liveId? (manager : Manager) : Option Nat :=
  manager.live.map Session.id

/-- Whether a manager accounts for records, when all numbers below `next` have been given out. -/
structure Manager.Accounts (manager : Manager) (next : Nat) (records : List Event)
    (closed : List Nat) : Prop where
  paired : records = pairedRecords closed manager.liveId?
  /-- Later sessions have greater numbers. -/
  increasing : (closed ++ manager.liveId?.toList).Pairwise (· < ·)
  below : ∀ id ∈ closed ++ manager.liveId?.toList, id < next
  counted : manager.created = closed.length + manager.liveId?.toList.length

namespace Manager

theorem accounts_new (next : Nat) (plan : List Build) :
    ({ plan } : Manager).Accounts next [] [] :=
  ⟨rfl, List.Pairwise.nil, by simp [liveId?], rfl⟩

theorem Accounts.mono {manager : Manager} {next later : Nat} {records : List Event}
    {closed : List Nat} (h : manager.Accounts next records closed) (hle : next ≤ later) :
    manager.Accounts later records closed :=
  ⟨h.paired, h.increasing, fun id hid => Nat.lt_of_lt_of_le (h.below id hid) hle, h.counted⟩

end Manager

/-- Whether a log accounts for what has become of a manager while the next number went from one to
another. -/
structure Booked (manager after : Manager) (next later : Nat) (log : List Event) : Prop where
  accounts : ∀ records closed, manager.Accounts next records closed →
    ∃ closed, after.Accounts later (records ++ log) closed
  /-- The numbers in between are those of the sessions that were made. -/
  numbered : log.filterMap Event.created? = List.range' next (later - next)
  le : next ≤ later

namespace Booked

variable {manager after : Manager} {supply : Supply}

theorem refl (manager : Manager) (next : Nat) : Booked manager manager next next [] :=
  ⟨fun records closed h => ⟨closed, by rwa [List.append_nil]⟩, by simp, Nat.le_refl next⟩

theorem trans {last : Manager} {next later final : Nat} {log more : List Event}
    (h : Booked manager after next later log) (h' : Booked after last later final more) :
    Booked manager last next final (log ++ more) := by
  refine ⟨fun records closed ha => ?_, ?_, Nat.le_trans h.le h'.le⟩
  · obtain ⟨between, hb⟩ := h.accounts records closed ha
    rw [← List.append_assoc]
    exact h'.accounts _ between hb
  · have hle := h.le
    have hle' := h'.le
    rw [List.filterMap_append, h.numbered, h'.numbered,
      show final - next = (later - next) + (final - later) by omega, ← List.range'_append_1,
      Nat.add_sub_cancel' hle]

/-- **An acquisition is accounted for by what it logs.** -/
theorem acquire (manager : Manager) (supply : Supply) :
    Booked manager (manager.acquire supply).manager supply.nextId
      (manager.acquire supply).supply.nextId (manager.acquire supply).log := by
  rcases manager.acquire_cases supply with ⟨session, -, h⟩ | ⟨trouble, hlive, -, h⟩ | ⟨hlive, -, h⟩
  · rw [h]
    exact refl manager supply.nextId
  · rw [h]
    refine ⟨fun records closed ha => ⟨closed, ?_⟩, by simp, Nat.le_refl _⟩
    rw [List.append_nil]
    exact ⟨ha.paired, ha.increasing, ha.below, ha.counted⟩
  · rw [h]
    have hnone : manager.liveId? = none := by simp [Manager.liveId?, hlive]
    have hlive' : (manager.renewed supply).liveId? = some supply.nextId := rfl
    refine ⟨fun records closed ha => ⟨closed, ?_, ?_, ?_, ?_⟩, ?_, ?_⟩
    · rw [ha.paired, hnone, hlive']
      simp [pairedRecords]
    · have hbelow := ha.below
      have hincreasing := ha.increasing
      rw [hnone] at hbelow hincreasing
      refine List.pairwise_append.mpr ⟨by simpa using hincreasing, by simp [hlive'], ?_⟩
      intro id hid new hnew
      obtain rfl : new = supply.nextId := by simpa [hlive'] using hnew
      exact hbelow id (List.mem_append_left _ hid)
    · intro id hid
      rcases List.mem_append.mp hid with hid | hid
      · exact Nat.lt_succ_of_lt (ha.below id (List.mem_append_left _ hid))
      · obtain rfl : id = supply.nextId := by simpa [hlive'] using hid
        exact Nat.lt_succ_self _
    · have hcounted := ha.counted
      rw [hnone] at hcounted
      rw [hlive']
      exact congrArg Nat.succ hcounted
    · simp [Event.created?, Supply.advance]
    · exact Nat.le_succ _

/-- Any number of acquisitions in a row are accounted for by what they log. -/
theorem acquireMany (manager : Manager) (supply : Supply) (count : Nat) :
    let (_, after, supplyAfter, log) := Session.acquireMany manager supply count
    Booked manager after supply.nextId supplyAfter.nextId log := by
  induction count generalizing manager supply with
  | zero => exact refl manager supply.nextId
  | succ count ih => exact (acquire manager supply).trans (ih _ _)

/-- **A shutdown is accounted for by what it logs.** -/
theorem shutdown (manager : Manager) (next : Nat) :
    Booked manager manager.shutdown.1 next next manager.shutdown.2 := by
  cases hlive : manager.live with
  | none =>
    have hsame : manager.shutdown = (manager, []) := by
      obtain ⟨live, created, plan⟩ := manager
      obtain rfl : live = none := hlive
      rfl
    rw [hsame]
    exact refl manager next
  | some session =>
    have hsome : manager.liveId? = some session.id := by simp [Manager.liveId?, hlive]
    have hdown : manager.shutdown =
        ({ manager with live := none }, [.sessionShutDown session.id]) := by
      simp only [Manager.shutdown, hlive]
    rw [hdown]
    refine ⟨fun records closed ha => ⟨closed ++ [session.id], ?_⟩, by simp [Event.created?],
      Nat.le_refl next⟩
    obtain ⟨hpaired, hincreasing, hbelow, hcounted⟩ := ha
    rw [hsome] at hpaired hincreasing hbelow hcounted
    refine ⟨?_, ?_, ?_, ?_⟩
    · rw [hpaired, pairedRecords_shutdown]
      rfl
    · simpa [Manager.liveId?] using hincreasing
    · simpa [Manager.liveId?] using hbelow
    · simpa [Manager.liveId?] using hcounted

end Booked

namespace Session

/-! ## 3. Steps of a run -/

/-- The manager that a step makes. -/
def Step.created? : Step → Option String
  | .create name _ => some name
  | _ => none

/-- The manager that a step works with. -/
def Step.manager? : Step → Option String
  | .acquire name _ | .acquireAll name _ | .shutdown name | .describe name => some name
  | _ => none

/-- What a manager has logged since it was made, out of steps and the reports on them. -/
def recordsOf (name : String) (reported : List (Step × Report)) : List Event :=
  reported.foldl (fun records entry =>
    if entry.1.created? = some name then []
    else if entry.1.manager? = some name then records ++ entry.2.log
    else records) []

/-- Where a run begins whose shared manager has builds that go as planned. -/
def startWith (plan : List Build) : State :=
  { managers := [(globalName, { plan })] }

/-- The state that steps lead to. -/
def reach (state : State) (steps : List Step) : State :=
  steps.foldl (fun state step => (Session.step state step).1) state

theorem lookup_put_self {α : Type} (name : String) (a : α) (entries : List (String × α)) :
    (put name a entries).lookup name = some a := by
  simp [put]

theorem lookup_put_of_ne {α : Type} {name other : String} (a : α) (entries : List (String × α))
    (h : other ≠ name) : (put name a entries).lookup other = entries.lookup other := by
  have hne : (other == name) = false := beq_eq_false_iff_ne.mpr h
  simp only [put, List.lookup_cons, hne]
  exact lookup_erased_of_ne entries h

/-- What is done with a manager concerns no other one, and is accounted for by what is logged. -/
structure Touched (state after : State) (name : String) (log : List Event) : Prop where
  others : ∀ other, other ≠ name → after.manager? other = state.manager? other
  booked : ∃ manager manager', state.manager? name = some manager ∧
    after.manager? name = some manager' ∧
      Booked manager manager' state.supply.nextId after.supply.nextId log

theorem touched_of_put {state after : State} {name : String} {manager manager' : Manager}
    {log : List Event} (hmanager : state.manager? name = some manager)
    (hafter : after.managers = put name manager' state.managers)
    (hbooked : Booked manager manager' state.supply.nextId after.supply.nextId log) :
    Touched state after name log := by
  refine ⟨fun other hne => ?_, manager, manager', hmanager, ?_, hbooked⟩
  · rw [State.manager?, hafter]
    exact lookup_put_of_ne _ _ hne
  · rw [State.manager?, hafter]
    exact lookup_put_self name manager' state.managers

/-- **What a step does with managers.** It makes one, or it works with one, or it leaves all of them
alone and logs nothing. -/
theorem step_cases (state : State) (step : Step) :
    let (after, report) := Session.step state step
    (∃ name plan, step = .create name plan ∧ after = state.putManager name { plan } ∧
      report.log = []) ∨
    (∃ name, step.manager? = some name ∧ Touched state after name report.log) ∨
    (step.created? = none ∧ after.managers = state.managers ∧ after.supply = state.supply ∧
      report.log = []) := by
  cases step with
  | create name plan => exact .inl ⟨name, plan, rfl, rfl, rfl⟩
  | acquire name handle =>
    simp only [Session.step, withManager]
    cases hmanager : state.manager? name with
    | none => exact .inr (.inr ⟨rfl, rfl, rfl, rfl⟩)
    | some manager =>
      have hbooked := Booked.acquire manager state.supply
      refine .inr (.inl ⟨name, rfl, ?_⟩)
      simp only
      cases (manager.acquire state.supply).result with
      | error trouble => exact touched_of_put hmanager rfl hbooked
      | ok session => cases handle <;> exact touched_of_put hmanager rfl hbooked
  | acquireAll name count =>
    simp only [Session.step, withManager]
    cases hmanager : state.manager? name with
    | none => exact .inr (.inr ⟨rfl, rfl, rfl, rfl⟩)
    | some manager =>
      exact .inr (.inl ⟨name, rfl, touched_of_put hmanager rfl
        (Booked.acquireMany manager state.supply count)⟩)
  | shutdown name =>
    simp only [Session.step, withManager]
    cases hmanager : state.manager? name with
    | none => exact .inr (.inr ⟨rfl, rfl, rfl, rfl⟩)
    | some manager =>
      exact .inr (.inl ⟨name, rfl, touched_of_put hmanager rfl
        (Booked.shutdown manager state.supply.nextId)⟩)
  | describe name =>
    simp only [Session.step, withManager]
    cases state.manager? name <;> exact .inr (.inr ⟨rfl, rfl, rfl, rfl⟩)
  | clone handle another =>
    simp only [Session.step]
    cases state.handle? handle <;> exact .inr (.inr ⟨rfl, rfl, rfl, rfl⟩)
  | drop handle => exact .inr (.inr ⟨rfl, rfl, rfl, rfl⟩)
  | compare a b =>
    simp only [Session.step]
    split <;> exact .inr (.inr ⟨rfl, rfl, rfl, rfl⟩)
  | use handle address =>
    simp only [Session.step]
    split
    · exact .inr (.inr ⟨rfl, rfl, rfl, rfl⟩)
    · split <;> exact .inr (.inr ⟨rfl, rfl, rfl, rfl⟩)
  | compareGlobal => exact .inr (.inr ⟨rfl, rfl, rfl, rfl⟩)

/-! ## 4. Runs -/

/-- Whether a state accounts for what has been reported on the way to it. -/
structure Balanced (state : State) (reported : List (Step × Report)) : Prop where
  managers : ∀ name manager, state.manager? name = some manager →
    ∃ closed, manager.Accounts state.supply.nextId (recordsOf name reported) closed
  numbered : (reported.flatMap (fun entry => entry.2.log)).filterMap Event.created? =
    List.range' 1 (state.supply.nextId - 1)
  positive : 1 ≤ state.supply.nextId

theorem recordsOf_append (name : String) (reported : List (Step × Report)) (step : Step)
    (report : Report) :
    recordsOf name (reported ++ [(step, report)]) =
      if step.created? = some name then []
      else if step.manager? = some name then recordsOf name reported ++ report.log
      else recordsOf name reported := by
  simp only [recordsOf, List.foldl_append, List.foldl_cons, List.foldl_nil]

theorem balanced_start (plan : List Build) : Balanced (startWith plan) [] := by
  refine ⟨fun name manager h => ⟨[], ?_⟩, rfl, Nat.le_refl 1⟩
  obtain rfl : { plan } = manager := by
    by_cases hname : name = globalName
    · subst hname
      simpa [State.manager?, startWith] using h
    · have hne : (name == globalName) = false := beq_eq_false_iff_ne.mpr hname
      simp [State.manager?, startWith, List.lookup_cons, hne] at h
  exact Manager.accounts_new _ plan

section Step

variable {state after : State} {reported : List (Step × Report)} {report : Report}

/-- A new manager has no records, and the others keep theirs. -/
theorem Balanced.create (h : Balanced state reported) (name : String) (plan : List Build)
    (hlog : report.log = []) :
    Balanced (state.putManager name { plan }) (reported ++ [(.create name plan, report)]) := by
  refine ⟨fun other manager hmanager => ?_, ?_, h.positive⟩
  · rw [recordsOf_append]
    by_cases hother : other = name
    · subst hother
      obtain rfl : { plan } = manager := by
        simpa [State.manager?, State.putManager, lookup_put_self] using hmanager
      rw [if_pos (show (Step.create other plan).created? = some other from rfl)]
      exact ⟨[], Manager.accounts_new _ plan⟩
    · have hne : (Step.create name plan).created? ≠ some other :=
        fun heq => hother (Option.some.inj heq).symm
      rw [if_neg hne, if_neg (by simp [Step.manager?])]
      refine h.managers other manager ?_
      rwa [State.manager?, State.putManager, lookup_put_of_ne _ _ hother] at hmanager
  · simpa [hlog, State.putManager] using h.numbered

/-- What is done with a manager goes to its own records, and the numbers go on where they were. -/
theorem Balanced.touch (h : Balanced state reported) {step : Step} {name : String}
    (hname : step.manager? = some name) (htouched : Touched state after name report.log) :
    Balanced after (reported ++ [(step, report)]) := by
  obtain ⟨hothers, before, manager', hbefore, hafter, hbooked⟩ := htouched
  have hcreated : step.created? = none := by
    cases step <;> first | rfl | simp [Step.manager?] at hname
  refine ⟨fun other manager hmanager => ?_, ?_, Nat.le_trans h.positive hbooked.le⟩
  · rw [recordsOf_append, if_neg (by simp [hcreated])]
    by_cases hother : other = name
    · subst hother
      obtain rfl : manager' = manager := Option.some.inj (hafter.symm.trans hmanager)
      obtain ⟨closed, ha⟩ := h.managers other before hbefore
      rw [if_pos hname]
      exact hbooked.accounts _ closed ha
    · rw [if_neg (fun heq => hother (Option.some.inj (heq.symm.trans hname)))]
      rw [hothers other hother] at hmanager
      obtain ⟨closed, ha⟩ := h.managers other manager hmanager
      exact ⟨closed, ha.mono hbooked.le⟩
  · have hpositive := h.positive
    have hle := hbooked.le
    simp only [List.flatMap_append, List.filterMap_append, h.numbered, List.flatMap_cons,
      List.flatMap_nil, List.append_nil, hbooked.numbered]
    rw [show after.supply.nextId - 1 =
        (state.supply.nextId - 1) + (after.supply.nextId - state.supply.nextId) by omega,
      ← List.range'_append_1, Nat.add_sub_cancel' hpositive]

/-- What logs nothing and leaves managers and numbers alone changes no account. -/
theorem Balanced.leave (h : Balanced state reported) {step : Step}
    (hcreated : step.created? = none) (hmanagers : after.managers = state.managers)
    (hsupply : after.supply = state.supply) (hlog : report.log = []) :
    Balanced after (reported ++ [(step, report)]) := by
  refine ⟨fun other manager hmanager => ?_, ?_, hsupply ▸ h.positive⟩
  · rw [recordsOf_append, if_neg (by simp [hcreated]), hlog, List.append_nil, ite_self, hsupply]
    exact h.managers other manager (by rwa [State.manager?, hmanagers] at hmanager)
  · simpa [hlog, hsupply] using h.numbered

/-- **A step keeps the balance.** -/
theorem Balanced.step (h : Balanced state reported) (step : Step) :
    Balanced (Session.step state step).1 (reported ++ [(step, (Session.step state step).2)]) := by
  have hcases := step_cases state step
  generalize Session.step state step = done at hcases ⊢
  obtain ⟨after, report⟩ := done
  rcases hcases with ⟨name, plan, rfl, rfl, hlog⟩ | ⟨name, hname, htouched⟩ |
    ⟨hcreated, hmanagers, hsupply, hlog⟩
  · exact h.create name plan hlog
  · exact h.touch hname htouched
  · exact h.leave hcreated hmanagers hsupply hlog

end Step

theorem length_run (state : State) (steps : List Step) :
    (run state steps).length = steps.length := by
  induction steps generalizing state with
  | nil => rfl
  | cons step more ih => simp only [run, List.length_cons, ih]

theorem run_append (state : State) (before after : List Step) :
    run state (before ++ after) = run state before ++ run (reach state before) after := by
  induction before generalizing state with
  | nil => rfl
  | cons step more ih =>
    simp only [List.cons_append, run, ih]
    rfl

/-- **Every run keeps the balance.** -/
theorem balanced_run (plan : List Build) (steps : List Step) :
    Balanced (reach (startWith plan) steps) (steps.zip (run (startWith plan) steps)) := by
  induction steps using List.reverseRecOn with
  | nil => exact balanced_start plan
  | append_singleton earlier step ih =>
    have hreach : reach (startWith plan) (earlier ++ [step]) =
        (Session.step (reach (startWith plan) earlier) step).1 := by
      simp only [reach, List.foldl_append, List.foldl_cons, List.foldl_nil]
    rw [hreach, run_append, List.zip_append (length_run _ _).symm]
    exact ih.step step

/-- **Managers account for their sessions.**

Take any run, with any number of managers whose builds go in any way. In what each manager has
logged, every session is made and then shut down, the next one with a greater number; a last one is
live if it has not been shut down. So the manager counts the sessions that it has made, and is
active as long as its last record is that of a session being made. Of all sessions together, the one
that is made as the k-th has the number k. -/
theorem accounts_of_run (plan : List Build) (steps : List Step) :
    let state := reach (startWith plan) steps
    let reports := run (startWith plan) steps
    let made := (reports.flatMap Report.log).filterMap Event.created?
    (∀ name manager, state.manager? name = some manager →
      let records := recordsOf name (steps.zip reports)
      (∃ closed, records = pairedRecords closed manager.liveId? ∧
        (closed ++ manager.liveId?.toList).Pairwise (· < ·)) ∧
      manager.created = records.countP Event.isCreation ∧
      (manager.isActive = true ↔ ∃ id, records.getLast? = some (.sessionCreated id)) ∧
      manager.created = records.countP Event.isShutdown + if manager.isActive then 1 else 0) ∧
    ∀ k id, made[k]? = some id → id = k + 1 := by
  intro state reports made
  have h := balanced_run plan steps
  refine ⟨fun name manager hmanager => ?_, fun k id hmade => ?_⟩
  · obtain ⟨closed, ha⟩ := h.managers name manager hmanager
    intro records
    have hpaired : records = pairedRecords closed manager.liveId? := ha.paired
    have hactive : manager.isActive = manager.liveId?.isSome := by
      simp [Manager.isActive, Manager.liveId?]
    refine ⟨⟨closed, hpaired, ha.increasing⟩, ?_, ?_, ?_⟩
    · rw [hpaired, countP_isCreation_pairedRecords]
      exact ha.counted
    · simp only [hpaired, getLast?_pairedRecords, hactive, Option.isSome_iff_exists]
    · rw [hpaired, countP_isShutdown_pairedRecords, ha.counted, hactive]
      cases manager.liveId? <;> rfl
  · have hreports : (steps.zip reports).map Prod.snd = reports :=
      List.map_snd_zip (Nat.le_of_eq (length_run _ _))
    have hnumbered : made = List.range' 1 (state.supply.nextId - 1) := by
      rw [← h.numbered]
      simp only [made]
      rw [← hreports, List.flatMap_map]
    rw [hnumbered] at hmade
    obtain ⟨hlt, rfl⟩ := List.getElem?_eq_some_iff.mp hmade
    rw [List.getElem_range', Nat.one_mul, Nat.add_comm]

/-- A build breaks off, the next one succeeds; another manager makes a session in between. -/
theorem accounts_of_run_broken :
    let steps : List Step := [.create "a" [.breaks, .succeeds], .acquire "a" none,
      .acquire globalName none, .acquire "a" (some "x"), .shutdown "a", .acquire "a" none]
    let manager : Manager := { live := some { pool := 2, id := 3 }, created := 2 }
    (reach (startWith []) steps).manager? "a" = some manager ∧
      manager.created = (recordsOf "a" (steps.zip (run (startWith []) steps))).countP
        Event.isCreation ∧
      recordsOf "a" (steps.zip (run (startWith []) steps)) =
        [.sessionCreated 2, .sessionShutDown 2, .sessionCreated 3] := by
  intro steps manager
  have hmanager : (reach (startWith []) steps).manager? "a" = some manager := by decide
  exact ⟨hmanager, ((accounts_of_run [] steps).1 "a" manager hmanager).2.1, by decide⟩

end Session

end Relay
