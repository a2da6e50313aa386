import Relay.Proofs.Session.Steps

/-!
# Failed acquisitions leave no trace

An acquisition whose build goes wrong, or breaks off, takes a build out of the plan and changes
nothing else, and the next acquisition tries the next build (`step_of_troubled`, `Manager.Tries`).

So failed acquisitions can be left out of a run together with their builds. `remainder` is what
stays of the steps, each with what it shows in the whole run (`Sight`). The runs are compared step
by step with `Cleared`: the states are the same but for the plans, out of which those builds are
gone that still go wrong in the rest of the run. The main statement is `unaltered_by_failures`.
-/

namespace Relay

/-! ## 1. Plans without failures -/

/-- What a build comes to. -/
def Build.result (supply : Supply) : Build → Except Manager.Trouble Session
  | .succeeds => .ok supply.session
  | .fails => .error .failed
  | .breaks => .error .broken

/-- A plan without the builds that go wrong among the first so many. -/
def withoutFailures (plan : List Build) (tried : Nat) : List Build :=
  (plan.take tried).filter (fun build => build.trouble?.isNone) ++ plan.drop tried

/-- Whether an acquisition has failed. -/
def isFailure (result : Except Manager.Trouble Session) : Bool :=
  result.toOption.isNone

namespace Manager

/-- The manager with such a plan. -/
def cleared (manager : Manager) (tried : Nat) : Manager :=
  { manager with plan := withoutFailures manager.plan tried }

/-- Whether acquiring tries the next build of the plan: it gets what this build comes to, and the
plan goes on behind it. -/
structure Tries (manager : Manager) (supply : Supply) : Prop where
  result : (manager.acquire supply).result = manager.nextBuild.result supply
  plan : (manager.acquire supply).manager.plan = manager.plan.tail

/-- Where there is no live session, acquiring tries the next build. -/
theorem tries_of_empty {manager : Manager} (supply : Supply) (h : manager.live = none) :
    manager.Tries supply := by
  cases hbuild : manager.nextBuild with
  | succeeds =>
    have hgood : manager.nextBuild.trouble? = none := by rw [hbuild]; rfl
    exact ⟨by rw [acquire_of_success supply h hgood, hbuild]; rfl,
      by rw [acquire_of_success supply h hgood]; rfl⟩
  | fails =>
    have hbad : manager.nextBuild.trouble? = some .failed := by rw [hbuild]; rfl
    exact ⟨by rw [acquire_of_trouble supply h hbad, hbuild]; rfl,
      by rw [acquire_of_trouble supply h hbad]; rfl⟩
  | breaks =>
    have hbad : manager.nextBuild.trouble? = some .broken := by rw [hbuild]; rfl
    exact ⟨by rw [acquire_of_trouble supply h hbad, hbuild]; rfl,
      by rw [acquire_of_trouble supply h hbad]; rfl⟩

section Cleared

variable {manager : Manager} {tried : Nat}

/-- A build that goes wrong is not in the plan that is cleared of it. -/
theorem cleared_of_trouble {trouble : Trouble} (h : manager.nextBuild.trouble? = some trouble) :
    manager.cleared (tried + 1) = manager.spent.cleared tried := by
  obtain ⟨live, created, plan⟩ := manager
  cases plan with
  | nil => cases h
  | cons build more =>
    have hbuild : build.trouble? = some trouble := h
    simp [cleared, spent, withoutFailures, hbuild]

/-- A build that succeeds stays in front. -/
theorem nextBuild_cleared (h : manager.nextBuild.trouble? = none) :
    (manager.cleared (tried + 1)).nextBuild.trouble? = none := by
  obtain ⟨live, created, plan⟩ := manager
  cases plan with
  | nil => rfl
  | cons build more =>
    have hbuild : build.trouble? = none := h
    simp [cleared, nextBuild, withoutFailures, hbuild]

theorem renewed_cleared (supply : Supply) (h : manager.nextBuild.trouble? = none) :
    (manager.cleared (tried + 1)).renewed supply = (manager.renewed supply).cleared tried := by
  obtain ⟨live, created, plan⟩ := manager
  cases plan with
  | nil => simp [cleared, renewed, spent, withoutFailures]
  | cons build more =>
    have hbuild : build.trouble? = none := h
    simp [cleared, renewed, spent, withoutFailures, hbuild]

end Cleared

end Manager

namespace Session

/-! ## 2. Acquisitions in a row -/

theorem length_acquireMany (manager : Manager) (supply : Supply) (count : Nat) :
    (acquireMany manager supply count).1.length = count := by
  induction count generalizing manager supply with
  | zero => rfl
  | succ count ih => simp only [acquireMany, List.length_cons, ih]

/-- How many acquisitions in a row fail. -/
def failuresOf (manager : Manager) (supply : Supply) (count : Nat) : Nat :=
  (acquireMany manager supply count).1.countP isFailure

/-- How many builds are tried in them: those that fail, and those that make a session. -/
def triedOf (manager : Manager) (supply : Supply) (count : Nat) : Nat :=
  failuresOf manager supply count +
    (acquireMany manager supply count).2.2.2.countP Event.isCreation

theorem failuresOf_le (manager : Manager) (supply : Supply) (count : Nat) :
    failuresOf manager supply count ≤ count := by
  have hle := (acquireMany manager supply count).1.countP_le_length (p := isFailure)
  rwa [length_acquireMany] at hle

/-- The first acquisition counts as failed or not, and the others as they do behind it. -/
theorem failuresOf_succ (manager : Manager) (supply : Supply) (count : Nat) :
    let first := manager.acquire supply
    failuresOf manager supply (count + 1) =
      failuresOf first.manager first.supply count + if isFailure first.result then 1 else 0 :=
  List.countP_cons

theorem triedOf_succ (manager : Manager) (supply : Supply) (count : Nat) :
    let first := manager.acquire supply
    triedOf manager supply (count + 1) =
      triedOf first.manager first.supply count + first.log.countP Event.isCreation +
        if isFailure first.result then 1 else 0 := by
  intro first
  have hlog : (acquireMany manager supply (count + 1)).2.2.2 =
      first.log ++ (acquireMany first.manager first.supply count).2.2.2 := rfl
  have hfailed : failuresOf manager supply (count + 1) =
      failuresOf first.manager first.supply count + if isFailure first.result then 1 else 0 :=
    failuresOf_succ manager supply count
  rw [triedOf, hfailed, hlog, List.countP_append, triedOf]
  omega

/-- **Without those that fail, and without their builds, acquisitions come to the same.** -/
theorem acquireMany_cleared (manager : Manager) (supply : Supply) (count rest : Nat) :
    acquireMany (manager.cleared (triedOf manager supply count + rest)) supply
        (count - failuresOf manager supply count) =
      ((acquireMany manager supply count).1.filter (fun result => !isFailure result),
        (acquireMany manager supply count).2.1.cleared rest,
        (acquireMany manager supply count).2.2.1, (acquireMany manager supply count).2.2.2) := by
  induction count generalizing manager supply with
  | zero => simp [acquireMany, triedOf, failuresOf]
  | succ count ih =>
    rw [failuresOf_succ, triedOf_succ]
    rcases manager.acquire_cases supply with
      ⟨session, hlive, h⟩ | ⟨trouble, hlive, hbuild, h⟩ | ⟨hlive, hbuild, h⟩
    · have hfirst : ∀ tried, (manager.cleared tried).acquire supply =
          { result := .ok session, manager := manager.cleared tried, supply } :=
        fun tried => Manager.acquire_of_live supply hlive
      have hgood : isFailure (.ok session) = false := rfl
      have hle := failuresOf_le manager supply count
      simp only [h, hgood, Bool.false_eq_true, if_false, Nat.add_zero, List.countP_nil,
        Nat.succ_sub hle, acquireMany, hfirst, ih, List.filter_cons, Bool.not_false, if_true]
    · have hcleared : ∀ tried, manager.cleared (tried + 1 + rest) =
          manager.spent.cleared (tried + rest) := by
        intro tried
        rw [Nat.add_right_comm]
        exact Manager.cleared_of_trouble hbuild
      have hbad : isFailure (.error trouble) = true := rfl
      simp only [h, hbad, if_true, List.countP_nil, Nat.add_zero, hcleared, Nat.add_sub_add_right,
        ih, acquireMany, List.filter_cons, Bool.not_true, Bool.false_eq_true, if_false,
        List.nil_append]
    · have hfirst : ∀ tried, (manager.cleared (tried + 1 + rest)).acquire supply =
          { result := .ok supply.session, manager := (manager.renewed supply).cleared (tried + rest)
            supply := supply.advance, log := [.sessionCreated supply.nextId] } := by
        intro tried
        rw [Nat.add_right_comm, ← Manager.renewed_cleared supply hbuild]
        exact Manager.acquire_of_success supply hlive (Manager.nextBuild_cleared hbuild)
      have hgood : isFailure (.ok supply.session) = false := rfl
      have hone : [Event.sessionCreated supply.nextId].countP Event.isCreation = 1 := rfl
      have hle := failuresOf_le (manager.renewed supply) supply.advance count
      simp only [h, hgood, hone, Bool.false_eq_true, if_false, Nat.add_zero, Nat.succ_sub hle,
        acquireMany, hfirst, ih, List.filter_cons, Bool.not_false, if_true]

section Single

variable (manager : Manager) (supply : Supply) (rest : Nat)

/-- An acquisition that fails takes its builds out of the plan, and that is all. -/
theorem cleared_of_error {trouble : Manager.Trouble}
    (h : (manager.acquire supply).result = .error trouble) :
    manager.cleared (triedOf manager supply 1 + rest) = manager.spent.cleared rest := by
  have hone := acquireMany_cleared manager supply 1 rest
  obtain ⟨-, hgot⟩ := Manager.acquire_of_error supply h
  simp only [failuresOf, acquireMany, hgot] at hone
  exact (Prod.mk.inj (Prod.mk.inj hone).2).1

/-- An acquisition that gets a session does so without the builds that fail in front of it. -/
theorem acquire_cleared_of_ok {session : Session}
    (h : (manager.acquire supply).result = .ok session) :
    (manager.cleared (triedOf manager supply 1 + rest)).acquire supply =
      { result := .ok session, manager := (manager.acquire supply).manager.cleared rest
        supply := (manager.acquire supply).supply, log := (manager.acquire supply).log } := by
  have hone := acquireMany_cleared manager supply 1 rest
  have hkept : 1 - failuresOf manager supply 1 = 1 := by
    simp [failuresOf, acquireMany, h, isFailure, Except.toOption]
  rw [hkept] at hone
  simp only [acquireMany, h] at hone
  generalize (manager.cleared (triedOf manager supply 1 + rest)).acquire supply = got at hone ⊢
  obtain ⟨result, after, left, log⟩ := got
  simpa [isFailure, Except.toOption] using hone

end Single

/-! ## 3. Runs without failures -/

/-- How many sessions a step asks for. -/
def Step.attempts : Step → Nat
  | .acquire _ _ => 1
  | .acquireAll _ count => count
  | _ => 0

/-- How many of them it does not get. -/
def State.failures (state : State) (step : Step) : Nat :=
  match step.manager?.bind state.manager? with
  | none => 0
  | some manager => failuresOf manager state.supply step.attempts

/-- How many builds it tries. -/
def State.tried (state : State) (step : Step) : Nat :=
  match step.manager?.bind state.manager? with
  | none => 0
  | some manager => triedOf manager state.supply step.attempts

/-- How many builds of a manager are tried in steps, until its name is given to another one. -/
def triedIn (name : String) (state : State) : List Step → Nat
  | [] => 0
  | step :: more =>
    if step.created? = some name then 0
    else
      (if step.manager? = some name then state.tried step else 0) +
        triedIn name (Session.step state step).1 more

/-- A step without so many acquisitions. Nothing is left of a step whose acquisitions are all left
out. -/
def Step.without (step : Step) (failed : Nat) : Option Step :=
  if 0 < failed ∧ failed = step.attempts then none
  else
    match step with
    | .acquireAll name count => some (.acquireAll name (count - failed))
    | step => some step

/-- A step that makes a manager, without the builds of its plan that go wrong in the steps behind
it. -/
def Step.cleared (step : Step) (after : State) (more : List Step) : Step :=
  match step with
  | .create name plan => .create name (withoutFailures plan (triedIn name after more))
  | step => step

/-- What an outcome tells of the acquisitions that get a session. Whether there are others beside
them does not show. -/
def Outcome.ofSuccesses : Outcome → Outcome
  | .acquiredAll _ id => .acquired id
  | outcome => outcome

/-- The live session of a manager, and how many it has made. -/
def standing (manager : Manager) : Option Session × Nat :=
  (manager.live, manager.created)

/-- What a step shows, and what is behind it. Only what is left of the plans is not seen. -/
structure Sight where
  outcome : Outcome
  log : List Event
  /-- The manager that the step names. -/
  named : Option (Option Session × Nat)
  supply : Supply
  handles : List (String × Session)
  managers : String → Option (Option Session × Nat)

/-- What a step shows, by its report and the state behind it. -/
def sight (after : State) (report : Report) : Sight :=
  { outcome := report.outcome.ofSuccesses
    log := report.log
    named := report.manager.map standing
    supply := after.supply
    handles := after.handles
    managers := fun name => (after.manager? name).map standing }

/-- What the steps of a run show. -/
def sights (state : State) : List Step → List Sight
  | [] => []
  | step :: more =>
    let (after, report) := Session.step state step
    sight after report :: sights after more

/-- What stays of a run when all acquisitions that fail are left out, and their builds with them:
the steps, each with what it shows in the whole run. -/
def remainder (state : State) : List Step → List (Step × Sight)
  | [] => []
  | step :: more =>
    let (after, report) := Session.step state step
    match step.without (state.failures step) with
    | none => remainder after more
    | some left => (left.cleared after more, sight after report) :: remainder after more

/-! ## 4. The run and what stays of it -/

theorem triedIn_of_idle {name : String} {state : State} {step : Step} (more : List Step)
    (hcreated : step.created? ≠ some name) (hmanager : step.manager? ≠ some name) :
    triedIn name state (step :: more) = triedIn name (Session.step state step).1 more := by
  rw [triedIn, if_neg hcreated, if_neg hmanager, Nat.zero_add]

theorem triedIn_of_work {name : String} {state : State} {step : Step} {manager : Manager}
    (more : List Step) (hname : step.manager? = some name)
    (hmanager : state.manager? name = some manager) :
    triedIn name state (step :: more) =
      triedOf manager state.supply step.attempts +
        triedIn name (Session.step state step).1 more := by
  have hcreated : step.created? = none := Step.created?_of_manager? hname
  have htried : state.tried step = triedOf manager state.supply step.attempts := by
    rw [State.tried, hname, Option.bind_some, hmanager]
  rw [triedIn, hcreated, if_neg (by simp), if_pos hname, htried]

/-- A step that asks for no session tries no build. -/
theorem triedIn_of_attempts {name : String} {state : State} {step : Step} (more : List Step)
    (hcreated : step.created? ≠ some name) (hattempts : step.attempts = 0) :
    triedIn name state (step :: more) = triedIn name (Session.step state step).1 more := by
  have htried : state.tried step = 0 := by
    rw [State.tried, hattempts]
    split <;> rfl
  rw [triedIn, if_neg hcreated, htried, ite_self, Nat.zero_add]

/-- Whether one state differs from another only in plans, from which the builds are gone that go
wrong in the steps to come. -/
structure Cleared (steps : List Step) (state other : State) : Prop where
  supply : other.supply = state.supply
  handles : other.handles = state.handles
  managers : ∀ name, other.manager? name =
    (state.manager? name).map (·.cleared (triedIn name state steps))

theorem cleared_start (plan : List Build) (steps : List Step) :
    Cleared steps (startWith plan)
      (startWith (withoutFailures plan (triedIn globalName (startWith plan) steps))) := by
  refine ⟨rfl, rfl, fun name => ?_⟩
  by_cases hname : name = globalName
  · subst hname
    simp [State.manager?, startWith, Manager.cleared]
  · have hne : (name == globalName) = false := beq_eq_false_iff_ne.mpr hname
    simp [State.manager?, startWith, List.lookup_cons, hne]

section Step

variable {state other after after' : State} {step : Step} {more : List Step}

/-- States that are alike show the same. -/
theorem sight_of_cleared {report report' : Report} (h : Cleared more after after')
    (houtcome : report'.outcome.ofSuccesses = report.outcome.ofSuccesses)
    (hlog : report'.log = report.log)
    (hnamed : report'.manager.map standing = report.manager.map standing) :
    sight after' report' = sight after report := by
  have hmanagers : (fun name => (after'.manager? name).map standing) =
      fun name => (after.manager? name).map standing := by
    funext name
    rw [h.managers, Option.map_map]
    rfl
  simp only [sight, houtcome, hlog, hnamed, h.supply, h.handles, hmanagers]

/-- A step that leaves managers alone, and tries no build, keeps states alike. -/
theorem Cleared.leave (h : Cleared (step :: more) state other)
    (htried : ∀ name manager, state.manager? name = some manager →
      triedIn name state (step :: more) = triedIn name (Session.step state step).1 more)
    (hafter : (Session.step state step).1.managers = state.managers)
    (hsupply : (Session.step state step).1.supply = state.supply)
    (hafter' : after'.managers = other.managers) (hsupply' : after'.supply = other.supply)
    (hhandles : after'.handles = (Session.step state step).1.handles) :
    Cleared more (Session.step state step).1 after' := by
  refine ⟨by rw [hsupply', h.supply, hsupply], hhandles, fun name => ?_⟩
  have hsame : after'.manager? name = other.manager? name := by rw [State.manager?, hafter']; rfl
  have hsame' : (Session.step state step).1.manager? name = state.manager? name := by
    rw [State.manager?, hafter]; rfl
  rw [hsame, hsame', h.managers]
  cases hmanager : state.manager? name with
  | none => rfl
  | some manager => rw [htried name manager hmanager]

/-- What is done with a manager keeps states alike, if it is done without the builds that go wrong
on the one side. -/
theorem Cleared.work (h : Cleared (step :: more) state other) {name : String} (manager : Manager)
    (hname : step.manager? = some name)
    (hafter : (Session.step state step).1.managers = put name manager state.managers)
    (hmanager : after'.manager? name =
      some (manager.cleared (triedIn name (Session.step state step).1 more)))
    (hothers : ∀ another, another ≠ name → after'.manager? another = other.manager? another)
    (hsupply : after'.supply = (Session.step state step).1.supply)
    (hhandles : after'.handles = (Session.step state step).1.handles) :
    Cleared more (Session.step state step).1 after' := by
  refine ⟨hsupply, hhandles, fun another => ?_⟩
  have hput : (Session.step state step).1.manager? another =
      (put name manager state.managers).lookup another := by rw [State.manager?, hafter]
  by_cases hanother : another = name
  · subst hanother
    rw [hput, lookup_put_self, hmanager, Option.map_some]
  · have hcreated : step.created? ≠ some another := by
      rw [Step.created?_of_manager? hname]
      exact (Option.some_ne_none another).symm
    have hwork : step.manager? ≠ some another := fun heq =>
      hanother (Option.some.inj (heq.symm.trans hname))
    rw [hput, lookup_put_of_ne _ _ hanother, hothers another hanother, h.managers,
      triedIn_of_idle more hcreated hwork]
    rfl

/-- What a step asks of no manager that there is does not fail. -/
theorem failures_of_idle (h : step.manager?.bind state.manager? = none) :
    state.failures step = 0 := by
  rw [State.failures, h]

theorem failures_of_work {name : String} {manager : Manager} (hname : step.manager? = some name)
    (hmanager : state.manager? name = some manager) :
    state.failures step = failuresOf manager state.supply step.attempts := by
  rw [State.failures, hname, Option.bind_some, hmanager]

theorem Step.without_zero (step : Step) : step.without 0 = some step := by
  cases step <;> rfl

/-- Whether what stays of a step does in one state what the step does in the other. -/
def Matches (state other : State) (step : Step) (more : List Step) : Prop :=
  let after := (Session.step state step).1
  match step.without (state.failures step) with
  | none => Cleared more after other
  | some left =>
    let (after', report) := Session.step other (left.cleared after more)
    Cleared more after after' ∧ sight after' report = sight after (Session.step state step).2

/-- A step of which something stays. -/
theorem matches_of_left {left : Step} {report : Report}
    (hleft : step.without (state.failures step) = some left)
    (hstep : Session.step other (left.cleared (Session.step state step).1 more) = (after', report))
    (hcleared : Cleared more (Session.step state step).1 after')
    (houtcome : report.outcome.ofSuccesses = (Session.step state step).2.outcome.ofSuccesses)
    (hlog : report.log = (Session.step state step).2.log)
    (hnamed : report.manager.map standing = (Session.step state step).2.manager.map standing) :
    Matches state other step more := by
  simp only [Matches, hleft, hstep]
  exact ⟨hcleared, sight_of_cleared hcleared houtcome hlog hnamed⟩

theorem matches_of_unknown (h : Cleared (step :: more) state other) {name : String}
    (hname : step.manager? = some name) (hmanager : state.manager? name = none) :
    Matches state other step more := by
  have hother : other.manager? name = none := by rw [h.managers, hmanager]; rfl
  have hstep := step_of_unknown hname hmanager
  have hcreated := Step.created?_of_manager? hname
  have hwhole : step.cleared (Session.step state step).1 more = step := by
    cases step with
    | create => cases hname
    | _ => rfl
  have hcleared : Cleared more (Session.step state step).1 other := by
    refine h.leave (fun another manager hanother => ?_) (by rw [hstep]) (by rw [hstep]) rfl rfl
      (by rw [hstep, h.handles])
    refine triedIn_of_idle more (by simp [hcreated]) fun hwork => ?_
    rw [hname] at hwork
    rw [← Option.some.inj hwork, hmanager] at hanother
    cases hanother
  have hfailures : state.failures step = 0 :=
    failures_of_idle (by rw [hname, Option.bind_some, hmanager])
  refine matches_of_left (by rw [hfailures, Step.without_zero])
    (by rw [hwhole]; exact step_of_unknown hname hother) hcleared ?_ ?_ ?_
  all_goals rw [hstep]

theorem matches_create {name : String} {plan : List Build}
    (h : Cleared (.create name plan :: more) state other) :
    Matches state other (.create name plan) more := by
  let after := (Session.step state (.create name plan)).1
  have hleft : (Step.create name plan).without (state.failures (.create name plan)) =
      some (.create name plan) := rfl
  refine matches_of_left hleft rfl ?_ rfl rfl rfl
  refine ⟨h.supply, h.handles, fun another => ?_⟩
  by_cases hanother : another = name
  · subst hanother
    simp [State.manager?, State.putManager, Session.step, lookup_put_self, Manager.cleared]
  · have hcreated : (Step.create name plan).created? ≠ some another := fun heq =>
      hanother (Option.some.inj heq).symm
    have hsame := h.managers another
    have hwork : (Step.create name plan).manager? ≠ some another := (Option.some_ne_none another).symm
    rw [triedIn_of_idle more hcreated hwork] at hsame
    simpa only [State.manager?, State.putManager, Session.step, lookup_put_of_ne _ _ hanother]
      using hsame

section Known

variable {name : String} {manager : Manager}

/-- On the other side a manager has a plan without the builds that go wrong in the step. -/
theorem Cleared.manager?_eq (h : Cleared (step :: more) state other)
    (hname : step.manager? = some name) (hmanager : state.manager? name = some manager) :
    other.manager? name = some (manager.cleared (triedOf manager state.supply step.attempts +
      triedIn name (Session.step state step).1 more)) := by
  rw [h.managers, hmanager, Option.map_some, triedIn_of_work more hname hmanager]

/-- The results that are left are those of the acquisitions that get a session. -/
theorem ofSuccesses_acquiredAll (results : List (Except Manager.Trouble Session)) :
    (acquiredAll (results.filter (fun result => !isFailure result))).ofSuccesses =
      (acquiredAll results).ofSuccesses := by
  have hsame : (results.filter (fun result => !isFailure result)).filterMap Except.toOption =
      results.filterMap Except.toOption := by
    rw [List.filterMap_filter]
    congr 1
    funext result
    cases result <;> rfl
  unfold acquiredAll
  rw [hsame]
  cases results.filterMap Except.toOption <;> rfl

variable (hmanager : state.manager? name = some manager)
include hmanager

theorem matches_acquire {handle : Option String}
    (h : Cleared (.acquire name handle :: more) state other) :
    Matches state other (.acquire name handle) more := by
  have hother := h.manager?_eq rfl hmanager
  cases hresult : (manager.acquire state.supply).result with
  | error trouble =>
    obtain ⟨-, hgot⟩ := Manager.acquire_of_error state.supply hresult
    have hstep := step_acquire_of_error hmanager handle hgot rfl
    have hcleared : Cleared more (Session.step state (.acquire name handle)).1 other := by
      refine h.work manager.spent rfl ?_ ?_ (fun _ _ => rfl) ?_ ?_
      · rw [hstep]
        rfl
      · rw [hother]
        exact congrArg some (cleared_of_error _ _ _ hresult)
      · rw [hstep]
        exact h.supply
      · rw [hstep]
        exact h.handles
    have hfailures : state.failures (.acquire name handle) = 1 := by
      rw [failures_of_work rfl hmanager, Step.attempts, failuresOf_succ, hresult]
      rfl
    rw [Matches, hfailures]
    exact hcleared
  | ok session =>
    let got := manager.acquire state.supply
    let rest := triedIn name (Session.step state (.acquire name handle)).1 more
    have hstep := step_acquire_of_ok hmanager handle rfl hresult
    have hgot : (manager.cleared (triedOf manager state.supply 1 + rest)).acquire other.supply =
        { result := .ok session, manager := got.manager.cleared rest, supply := got.supply
          log := got.log } := by
      rw [h.supply]
      exact acquire_cleared_of_ok manager state.supply rest hresult
    have hstep' := step_acquire_of_ok hother handle hgot rfl
    have hfailures : state.failures (.acquire name handle) = 0 := by
      rw [failures_of_work rfl hmanager, Step.attempts, failuresOf_succ, hresult]
      rfl
    have hleft : (Step.acquire name handle).without (state.failures (.acquire name handle)) =
        some (.acquire name handle) := by rw [hfailures, Step.without_zero]
    refine matches_of_left hleft hstep'
      (h.work got.manager rfl ?_ ?_ (fun another hne => ?_) ?_ ?_) ?_ ?_ ?_
    · rw [hstep, State.managers_keep]
      rfl
    · rw [State.manager?_keep, State.manager?_leave_self]
    · rw [State.manager?_keep, State.manager?_leave_of_ne _ _ _ _ hne]
    · rw [hstep, State.supply_keep, State.supply_keep]
      rfl
    · rw [hstep, State.handles_keep, State.handles_keep]
      exact congrArg (fun handles => handle.elim handles fun handle => put handle session handles)
        h.handles
    all_goals rw [hstep]
    rfl

theorem matches_acquireAll {count : Nat}
    (h : Cleared (.acquireAll name count :: more) state other) :
    Matches state other (.acquireAll name count) more := by
  have hother := h.manager?_eq rfl hmanager
  let failed := failuresOf manager state.supply count
  let rest := triedIn name (Session.step state (.acquireAll name count)).1 more
  have hfailures : state.failures (.acquireAll name count) = failed :=
    failures_of_work rfl hmanager
  cases hall : acquireMany manager state.supply count with
  | mk results tail =>
    obtain ⟨after, supply, log⟩ := tail
    have hstep := step_acquireAll hmanager hall
    have hgot : acquireMany (manager.cleared (triedOf manager state.supply count + rest))
        other.supply (count - failed) =
          (results.filter (fun result => !isFailure result), after.cleared rest, supply, log) := by
      have hcleared := acquireMany_cleared manager state.supply count rest
      rwa [hall, ← congrArg (acquireMany _) h.supply] at hcleared
    by_cases hnone : 0 < failed ∧ failed = count
    · rw [hnone.2, Nat.sub_self] at hgot
      obtain ⟨-, hrest⟩ := Prod.mk.inj hgot
      obtain ⟨hafter, hrest⟩ := Prod.mk.inj hrest
      obtain ⟨hsupply, -⟩ := Prod.mk.inj hrest
      have hcleared : Cleared more (Session.step state (.acquireAll name count)).1 other := by
        refine h.work after rfl ?_ ?_ (fun _ _ => rfl) ?_ ?_
        · rw [hstep]
          rfl
        · rw [hother]
          exact congrArg some hafter
        · rw [hstep]
          exact hsupply
        · rw [hstep]
          exact h.handles
      have hleft : (Step.acquireAll name count).without failed = none := if_pos hnone
      rw [Matches, hfailures, hleft]
      exact hcleared
    · have hstep' := step_acquireAll hother hgot
      have hleft : (Step.acquireAll name count).without
          (state.failures (.acquireAll name count)) = some (.acquireAll name (count - failed)) := by
        rw [hfailures]
        exact if_neg hnone
      refine matches_of_left hleft hstep'
        (h.work after rfl ?_ ?_ (fun another hne => ?_) ?_ ?_) ?_ ?_ ?_
      · rw [hstep]
        rfl
      · rw [State.manager?_leave_self]
      · rw [State.manager?_leave_of_ne _ _ _ _ hne]
      · rw [hstep]
        rfl
      · rw [hstep]
        exact h.handles
      all_goals rw [hstep]
      · exact ofSuccesses_acquiredAll results
      · rfl

theorem matches_shutdown (h : Cleared (.shutdown name :: more) state other) :
    Matches state other (.shutdown name) more := by
  have hother := h.manager?_eq rfl hmanager
  have hstep := step_shutdown hmanager
  have hstep' := step_shutdown hother
  have hfailures : state.failures (.shutdown name) = 0 := failures_of_work rfl hmanager
  have hleft : (Step.shutdown name).without (state.failures (.shutdown name)) =
      some (.shutdown name) := by rw [hfailures, Step.without_zero]
  refine matches_of_left hleft hstep'
    (h.work manager.shutdown.1 rfl ?_ ?_ (fun another hne => ?_) ?_ ?_) ?_ ?_ ?_
  · rw [hstep]
    rfl
  · rw [State.manager?_leave_self]
    simp [triedOf, failuresOf, acquireMany, Step.attempts]
    rfl
  · rw [State.manager?_leave_of_ne _ _ _ _ hne]
  · rw [hstep]
    exact h.supply
  · rw [hstep]
    exact h.handles
  all_goals rw [hstep]
  · rfl
  · rfl

theorem matches_describe (h : Cleared (.describe name :: more) state other) :
    Matches state other (.describe name) more := by
  have hother := h.manager?_eq rfl hmanager
  have hstep := step_describe hmanager
  have hstep' := step_describe hother
  have hfailures : state.failures (.describe name) = 0 := failures_of_work rfl hmanager
  have hleft : (Step.describe name).without (state.failures (.describe name)) =
      some (.describe name) := by rw [hfailures, Step.without_zero]
  have hcreated (another : String) : (Step.describe name).created? ≠ some another :=
    (Option.some_ne_none another).symm
  refine matches_of_left hleft hstep'
    (h.leave (fun another _ _ => triedIn_of_attempts more (hcreated another) rfl) ?_ ?_ rfl rfl ?_)
      ?_ ?_ ?_
  · rw [hstep]
  · rw [hstep]
  · rw [hstep, h.handles]
  all_goals rw [hstep]
  · rfl
  · rfl

end Known

theorem matches_handles (h : Cleared (step :: more) state other) (hcreated : step.created? = none)
    (hmanager : step.manager? = none) : Matches state other step more := by
  obtain ⟨hstep, hlog, hnamed⟩ := step_of_handles state hcreated hmanager
  obtain ⟨hstep', -, -⟩ := step_of_handles other hcreated hmanager
  obtain ⟨hhandles, hreport⟩ := step_handles_congr hcreated hmanager h.handles
  have hattempts : step.attempts = 0 := by
    cases step with
    | acquire | acquireAll => cases hmanager
    | _ => rfl
  have hwhole : step.cleared (Session.step state step).1 more = step := by
    cases step with
    | create => cases hcreated
    | _ => rfl
  have hfailures : state.failures step = 0 := failures_of_idle (by rw [hmanager]; rfl)
  have hleft : step.without (state.failures step) = some step := by
    rw [hfailures, Step.without_zero]
  refine matches_of_left hleft (by rw [hwhole])
    (h.leave (fun name _ _ => triedIn_of_attempts more (by simp [hcreated]) hattempts)
      ?_ ?_ ?_ ?_ hhandles) ?_ ?_ ?_
  · rw [hstep]
  · rw [hstep]
  · rw [hstep']
  · rw [hstep']
  all_goals rw [hreport]

/-- **What stays of a step does what the step does.** -/
theorem matches_step (h : Cleared (step :: more) state other) : Matches state other step more := by
  cases hname : step.manager? with
  | none =>
    cases hcreated : step.created? with
    | none => exact matches_handles h hcreated hname
    | some name =>
      cases step with
      | create => exact matches_create h
      | _ => cases hcreated
  | some name =>
    cases hmanager : state.manager? name with
    | none => exact matches_of_unknown h hname hmanager
    | some manager =>
      cases step with
      | acquire | acquireAll | shutdown | describe =>
        obtain rfl := Option.some.inj hname
        first
          | exact matches_acquire hmanager h
          | exact matches_acquireAll hmanager h
          | exact matches_shutdown hmanager h
          | exact matches_describe hmanager h
      | _ => cases hname

end Step

/-- **What stays of a run shows what it shows in the run.** -/
theorem sights_remainder {steps : List Step} {state other : State} (h : Cleared steps state other) :
    sights other ((remainder state steps).map Prod.fst) = (remainder state steps).map Prod.snd := by
  induction steps generalizing state other with
  | nil => rfl
  | cons step more ih =>
    have hmatches := matches_step h
    rw [Matches] at hmatches
    rw [remainder]
    cases hleft : step.without (state.failures step) with
    | none =>
      simp only [hleft] at hmatches ⊢
      exact ih hmatches
    | some left =>
      simp only [hleft] at hmatches ⊢
      obtain ⟨hcleared, hsight⟩ := hmatches
      simp only [List.map_cons, sights]
      exact congrArg₂ List.cons hsight (ih hcleared)

/-- What stays is shown in the run, in this order. -/
theorem sublist_remainder (state : State) (steps : List Step) :
    ((remainder state steps).map Prod.snd).Sublist (sights state steps) := by
  induction steps generalizing state with
  | nil => exact List.Sublist.refl _
  | cons step more ih =>
    rw [remainder, sights]
    cases step.without (state.failures step) with
    | none => exact (ih _).cons _
    | some left => exact (ih _).cons_cons _

/-! ## 5. A failed acquisition -/

/-- Whether a step asks a manager for no session, and gives its name to no other one. -/
def Step.Spares (step : Step) (name : String) : Prop :=
  step.created? ≠ some name ∧ (step.manager? = some name → step.attempts = 0)

/-- Whether an acquisition from a manager leaves no trace in what comes of it. -/
structure Traceless (state : State) (name : String) (after : State) (report : Report) : Prop where
  log : report.log = []
  supply : after.supply = state.supply
  handles : after.handles = state.handles
  others : ∀ other, other ≠ name → after.manager? other = state.manager? other
  /-- The manager goes without the build that has been tried, and however the run goes on, the next
  acquisition tries the next build. -/
  own : ∃ manager, state.manager? name = some manager ∧
    let spent := { manager with plan := manager.plan.tail }
    after.manager? name = some spent ∧
    ∀ steps, (∀ step ∈ steps, step.Spares name) →
      (reach after steps).manager? name = some spent ∧ spent.Tries (reach after steps).supply

section Failed

variable {state : State} {name : String} {manager : Manager}

/-- **A failed acquisition takes a build out of the plan, and that is all.** -/
theorem step_of_troubled {handle : Option String} {trouble : Manager.Trouble}
    (h : (Session.step state (.acquire name handle)).2.outcome = .troubled trouble) :
    ∃ manager, state.manager? name = some manager ∧ manager.live = none ∧
      Session.step state (.acquire name handle) =
        (state.leave name manager.spent state.supply,
          { outcome := .troubled trouble, manager := some manager.spent }) := by
  cases hmanager : state.manager? name with
  | none =>
    rw [step_of_unknown rfl hmanager] at h
    cases h
  | some manager =>
    cases hresult : (manager.acquire state.supply).result with
    | error found =>
      obtain ⟨hlive, hgot⟩ := Manager.acquire_of_error state.supply hresult
      have hstep := step_acquire_of_error hmanager handle hgot rfl
      rw [hstep] at h
      cases h
      exact ⟨manager, rfl, hlive, hstep⟩
    | ok session =>
      rw [step_acquire_of_ok hmanager _ rfl hresult] at h
      cases h

/-- A manager without a live session stays as it is as long as it is not asked for one. -/
theorem manager?_step_of_spared {step : Step} (hmanager : state.manager? name = some manager)
    (hlive : manager.live = none) (h : step.Spares name) :
    (Session.step state step).1.manager? name = some manager := by
  obtain ⟨hcreated, hattempts⟩ := h
  by_cases hname : step.manager? = some name
  · have hnone := hattempts hname
    cases step with
    | acquire => cases hnone
    | acquireAll other count =>
      obtain rfl := Option.some.inj hname
      obtain rfl : count = 0 := hnone
      rw [step_acquireAll hmanager rfl, State.manager?_leave_self]
      rfl
    | shutdown other =>
      obtain rfl := Option.some.inj hname
      rw [step_shutdown hmanager, State.manager?_leave_self, Manager.shutdown, ← hlive]
    | describe other =>
      obtain rfl := Option.some.inj hname
      rw [step_describe hmanager, hmanager]
    | _ => cases hname
  · rw [manager?_step_of_other hcreated hname, hmanager]

theorem manager?_reach_of_spared {steps : List Step} (hmanager : state.manager? name = some manager)
    (hlive : manager.live = none) (h : ∀ step ∈ steps, step.Spares name) :
    (reach state steps).manager? name = some manager := by
  induction steps generalizing state with
  | nil => exact hmanager
  | cons step more ih =>
    obtain ⟨hstep, hmore⟩ := List.forall_mem_cons.mp h
    exact ih (manager?_step_of_spared hmanager hlive hstep) hmore

/-- A failed acquisition leaves no trace. -/
theorem traceless_of_troubled {handle : Option String} {trouble : Manager.Trouble}
    (h : (Session.step state (.acquire name handle)).2.outcome = .troubled trouble) :
    Traceless state name (Session.step state (.acquire name handle)).1
      (Session.step state (.acquire name handle)).2 := by
  obtain ⟨manager, hmanager, hlive, hstep⟩ := step_of_troubled h
  rw [hstep]
  have hspent := state.manager?_leave_self name manager.spent state.supply
  refine ⟨rfl, rfl, rfl, fun other hne => State.manager?_leave_of_ne _ _ _ _ hne, manager, hmanager,
    hspent, fun steps hsteps => ⟨?_, ?_⟩⟩
  · exact manager?_reach_of_spared hspent hlive hsteps
  · exact Manager.tries_of_empty _ hlive

end Failed

/-- **Failed acquisitions change nothing.**

Take any run, with any number of managers whose builds go in any way. An acquisition behind it that
fails, or breaks off, leaves no trace: it logs nothing, and leaves alone the numbers, all handles,
all other managers and its own one, but for the plan, out of which the build is taken that has been
tried; so the next acquisition from this manager tries the next build. This holds of every
acquisition, as acquisitions at the same time are acquisitions one after another.

So leave out of the run all acquisitions that fail, and their builds out of the plans. What stays of
the steps shows what it has shown in the run: the same numbers, handles, logs and managers. -/
theorem unaltered_by_failures (plan : List Build) (steps : List Step) :
    let start := startWith plan
    let state := reach start steps
    (∀ name handle trouble,
      let (after, report) := Session.step state (.acquire name handle)
      report.outcome = .troubled trouble → Traceless state name after report) ∧
    (∀ name count,
      let before := Session.step state (.acquireAll name count)
      let last := Session.step before.1 (.acquire name none)
      let whole := Session.step state (.acquireAll name (count + 1))
      whole.1 = last.1 ∧ whole.2.log = before.2.log ++ last.2.log) ∧
    let left := remainder start steps
    let cleared := startWith (withoutFailures plan (triedIn globalName start steps))
    (left.map Prod.snd).Sublist (sights start steps) ∧
      sights cleared (left.map Prod.fst) = left.map Prod.snd := by
  intro start state
  have htraceless (name : String) (handle : Option String) (trouble : Manager.Trouble)
      (h : (Session.step state (.acquire name handle)).2.outcome = .troubled trouble) :=
    traceless_of_troubled h
  exact ⟨htraceless, step_acquireAll_succ state, sublist_remainder start steps,
    sights_remainder (cleared_start plan steps)⟩

/-- One build fails and the next one breaks off, while another manager makes a session. -/
theorem unaltered_by_failures_twice :
    let before : List Step := [.create "a" [.fails, .breaks, .succeeds], .acquire "a" (some "x"),
      .acquire globalName (some "g")]
    let broken : Step := .acquire "a" (some "y")
    let after : List Step := [.shutdown globalName, .acquireAll "a" 2]
    let state := reach (startWith []) before
    (step state broken).2.outcome = .troubled .broken ∧
      (step state broken).1.handles = [("g", { pool := 0, id := 1 })] ∧
      (remainder (startWith []) (before ++ broken :: after)).map Prod.fst =
        [.create "a" [.succeeds], .acquire globalName (some "g"), .shutdown globalName,
          .acquireAll "a" 2] ∧
      (sights (startWith []) [.create "a" [.succeeds], .acquire globalName (some "g"),
        .shutdown globalName, .acquireAll "a" 2]).map Sight.log =
          [[], [.sessionCreated 1], [.sessionShutDown 1], [.sessionCreated 2]] := by
  intro before broken after state
  have htroubled : (step state broken).2.outcome = .troubled .broken := rfl
  have htraceless := (unaltered_by_failures [] before).1 "a" (some "y") .broken htroubled
  have hleft : (remainder (startWith []) (before ++ broken :: after)).map Prod.fst =
      [.create "a" [.succeeds], .acquire globalName (some "g"), .shutdown globalName,
        .acquireAll "a" 2] := by decide
  obtain ⟨-, -, -, hsights⟩ := unaltered_by_failures [] (before ++ broken :: after)
  refine ⟨htroubled, htraceless.handles, hleft, ?_⟩
  rw [hleft] at hsights
  exact (congrArg (List.map Sight.log) hsights).trans rfl

end Session

end Relay
