import Mathlib.Data.List.Flatten
import Relay.Proofs.Session.Steps

/-!
# Handles and their sessions

Every handle goes back to one acquisition (`Origin`), through any number of clones, and every
acquisition to one build of its manager (`Origin.Built`). Both are read off the steps of a run and
what they report, and not off the sessions.

The invariant is `Traced`: a manager has a live session exactly when the run tells of a build behind
which it was not shut down (`liveBuild`), and this is the session whose number is the place of the
build among all builds. So two handles are the same exactly when they go back to one build. The main
statement is `identified_of_run`.
-/

namespace Relay.Session

/-! ## 1. Where handles come from -/

/-- The acquisition that a handle goes back to: the manager, and the place of the step in the
run. -/
structure Origin where
  manager : String
  place : Nat

/-- Where the handles come from when a step at a place has reported. -/
def traceStep (origins : List (String × Origin)) (place : Nat) (entry : Step × Report) :
    List (String × Origin) :=
  match entry.1, entry.2.outcome with
  | .acquire manager (some handle), .acquired _ => put handle { manager, place } origins
  | .clone handle another, .done =>
    match origins.lookup handle with
    | some origin => put another origin origins
    | none => origins
  | .drop handle, _ => remove handle origins
  | _, _ => origins

/-- Where the handles come from that there are behind a run. -/
def origins (reported : List (Step × Report)) : List (String × Origin) :=
  reported.zipIdx.foldl (fun origins entry => traceStep origins entry.2 entry.1) []

namespace Origin

variable (origin : Origin) (reported : List (Step × Report))

/-- Whether the acquisition has got a session with a number. -/
def Acquires (id : Nat) : Prop :=
  ∃ handle report, reported[origin.place]? = some (.acquire origin.manager (some handle), report) ∧
    report.outcome = .acquired id

/-- Whether a step has made the session that the acquisition gets: it is the last one, up to the
acquisition, in which the manager has made a session, and this is its number. -/
structure Built (place id : Nat) : Prop where
  le : place ≤ origin.place
  made : ∃ step report, reported[place]? = some (step, report) ∧
    step.manager? = some origin.manager ∧ report.log = [.sessionCreated id]
  last : ∀ later step report, place < later → later ≤ origin.place →
    reported[later]? = some (step, report) → step.manager? = some origin.manager →
      ∀ id, .sessionCreated id ∉ report.log

/-- Whether a step is between two acquisitions. -/
def Between (p q : Origin) (place : Nat) : Prop :=
  min p.place q.place < place ∧ place < max p.place q.place

/-- Whether two acquisitions are from one manager: its name is not given to another one between
them. -/
def SharesManager (p q : Origin) : Prop :=
  p.manager = q.manager ∧ ∀ place step report, p.Between q place →
    reported[place]? = some (step, report) → step.created? ≠ some p.manager

/-- Whether the manager is shut down between two acquisitions. -/
def ShutBetween (p q : Origin) : Prop :=
  ∃ place report, p.Between q place ∧ reported[place]? = some (.shutdown p.manager, report)

end Origin

/-- Whether a step gives the name of a handle to another one, or gives the handle up. -/
def Rebinds (name : String) (entry : Step × Report) : Prop :=
  match entry.1, entry.2.outcome with
  | .acquire _ (some handle), .acquired _ => handle = name
  | .clone _ another, .done => another = name
  | .drop handle, _ => handle = name
  | _, _ => False

/-! ## 2. Live builds -/

/-- How many sessions have been made. -/
def madeIn (reported : List (Step × Report)) : Nat :=
  (reported.flatMap (fun entry => entry.2.log)).countP Event.isCreation

/-- The session that a step makes at a place of a run. -/
def sessionOf (reported : List (Step × Report)) (place : Nat) : Session :=
  { pool := madeIn (reported.take place), id := madeIn (reported.take place) + 1 }

/-- Whether a step tells that a manager has made a session. -/
def tellsBuild (name : String) (entry : Step × Report) : Bool :=
  entry.1.manager? = some name && entry.2.log.any Event.isCreation

/-- Whether a manager has no session behind a step, whatever it had before. -/
def clears (name : String) (step : Step) : Bool :=
  step.created? = some name || step = .shutdown name

theorem tellsBuild_iff {name : String} {entry : Step × Report} :
    tellsBuild name entry = true ↔
      entry.1.manager? = some name ∧ entry.2.log.any Event.isCreation = true := by
  rw [tellsBuild, Bool.and_eq_true_iff, decide_eq_true_iff]

theorem clears_iff {name : String} {step : Step} :
    clears name step = true ↔ step.created? = some name ∨ step = .shutdown name := by
  rw [clears, Bool.or_eq_true_iff, decide_eq_true_iff, decide_eq_true_iff]

theorem clears_eq_false_iff {name : String} {step : Step} :
    clears name step = false ↔ step.created? ≠ some name ∧ step ≠ .shutdown name := by
  rw [← Bool.not_eq_true, clears_iff, not_or]

/-- The step that has made the live session of a manager, behind a step at a place. -/
def liveBuildStep (name : String) (live : Option Nat) (place : Nat) (entry : Step × Report) :
    Option Nat :=
  if clears name entry.1 then none else if tellsBuild name entry then some place else live

/-- The step that has made the live session of a manager. -/
def liveBuild (name : String) (reported : List (Step × Report)) : Option Nat :=
  reported.zipIdx.foldl (fun live entry => liveBuildStep name live entry.2 entry.1) none

section Append

variable (name : String) (reported : List (Step × Report)) (entry : Step × Report)

theorem origins_append :
    origins (reported ++ [entry]) = traceStep (origins reported) reported.length entry := by
  simp [origins, List.zipIdx_append]

theorem liveBuild_append :
    liveBuild name (reported ++ [entry]) =
      liveBuildStep name (liveBuild name reported) reported.length entry := by
  simp [liveBuild, List.zipIdx_append]

theorem madeIn_append :
    madeIn (reported ++ [entry]) = madeIn reported + entry.2.log.countP Event.isCreation := by
  simp [madeIn]

theorem sessionOf_append {place : Nat} (h : place ≤ reported.length) :
    sessionOf (reported ++ [entry]) place = sessionOf reported place := by
  rw [sessionOf, List.take_append_of_le_length h]
  rfl

end Append

theorem getElem?_concat_eq_some {α : Type} {l : List α} {a b : α} {i : Nat}
    (h : (l ++ [a])[i]? = some b) : l[i]? = some b ∨ i = l.length ∧ b = a := by
  obtain ⟨hi, hb⟩ := List.getElem?_eq_some_iff.mp h
  rw [List.length_append, List.length_singleton] at hi
  rcases Nat.lt_succ_iff_lt_or_eq.mp hi with hlt | rfl
  · exact .inl ((List.getElem?_append_left hlt).symm.trans h)
  · rw [List.getElem?_concat_length] at h
    exact .inr ⟨rfl, (Option.some.inj h).symm⟩

/-- **The live build is the last one, and nothing clears the manager behind it.** -/
theorem liveBuild_eq_some {name : String} {reported : List (Step × Report)} {place : Nat}
    (h : liveBuild name reported = some place) :
    (∃ entry, reported[place]? = some entry ∧ tellsBuild name entry = true) ∧
      ∀ later entry, place ≤ later → reported[later]? = some entry →
        clears name entry.1 = false ∧ (place < later → tellsBuild name entry = false) := by
  induction reported using List.reverseRecOn with
  | nil => cases h
  | append_singleton earlier last ih =>
    rw [liveBuild_append, liveBuildStep] at h
    cases hclears : clears name last.1 with
    | true => simp [hclears] at h
    | false =>
      cases hbuild : tellsBuild name last with
      | true =>
        obtain rfl : earlier.length = place := by simpa [hclears, hbuild] using h
        refine ⟨⟨last, List.getElem?_concat_length, hbuild⟩, fun later entry hlater hentry => ?_⟩
        rcases getElem?_concat_eq_some hentry with hentry | ⟨rfl, rfl⟩
        · exact absurd (List.getElem?_eq_some_iff.mp hentry).1 (Nat.not_lt.mpr hlater)
        · exact ⟨hclears, fun hlt => absurd hlt (Nat.lt_irrefl _)⟩
      | false =>
        obtain ⟨⟨entry, hentry, htells⟩, hlast⟩ := ih (by simpa [hclears, hbuild] using h)
        have hlt := (List.getElem?_eq_some_iff.mp hentry).1
        refine ⟨⟨entry, (List.getElem?_append_left hlt).trans hentry, htells⟩,
          fun later entry hlater hentry => ?_⟩
        rcases getElem?_concat_eq_some hentry with hentry | ⟨-, rfl⟩
        · exact hlast later entry hlater hentry
        · exact ⟨hclears, fun _ => hbuild⟩

/-! ## 3. What a step does with the session of a manager -/

/-- What becomes of the session of a manager, and of the supply: the session is given up, or stays
what it is, or is made. -/
inductive Turn (before after : Manager) (supply left : Supply) (log : List Event) : Bool → Prop
  | given (hlive : after.live = none) (hleft : left = supply)
      (hlog : log.any Event.isCreation = false) : Turn before after supply left log true
  | kept (hlive : after.live = before.live) (hleft : left = supply) (hlog : log = []) :
      Turn before after supply left log false
  | made (hempty : before.live = none) (hlive : after.live = some supply.session)
      (hleft : left = supply.advance) (hlog : log = [.sessionCreated supply.nextId]) :
      Turn before after supply left log false

/-- Acquisitions leave the session, or make one. -/
theorem turn_acquire (manager : Manager) (supply : Supply) :
    Turn manager (manager.acquire supply).manager supply (manager.acquire supply).supply
      (manager.acquire supply).log false := by
  rcases manager.acquire_cases supply with ⟨session, -, h⟩ | ⟨trouble, -, -, h⟩ | ⟨hlive, -, h⟩
  · rw [h]
    exact .kept rfl rfl rfl
  · rw [h]
    exact .kept rfl rfl rfl
  · rw [h]
    exact .made hlive rfl rfl rfl

theorem turn_acquireMany (manager : Manager) (supply : Supply) (count : Nat) :
    let got := acquireMany manager supply count
    Turn manager got.2.1 supply got.2.2.1 got.2.2.2 false := by
  induction count generalizing manager supply with
  | zero => exact .kept rfl rfl rfl
  | succ count ih =>
    have hfirst := turn_acquire manager supply
    have hrest := ih (manager.acquire supply).manager (manager.acquire supply).supply
    simp only [acquireMany] at hrest ⊢
    cases hfirst with
    | kept hlive hleft hlog =>
      cases hrest with
      | kept hlive' hleft' hlog' =>
        exact .kept (hlive'.trans hlive) (hleft'.trans hleft) (by rw [hlog, hlog']; rfl)
      | made hempty' hlive' hleft' hlog' =>
        exact .made (hlive.symm.trans hempty') (hlive'.trans (by rw [hleft]))
          (hleft'.trans (by rw [hleft])) (by rw [hlog, hlog', hleft]; rfl)
    | made hempty hlive hleft hlog =>
      cases hrest with
      | kept hlive' hleft' hlog' =>
        exact .made hempty (hlive'.trans hlive) (hleft'.trans hleft) (by rw [hlog, hlog']; rfl)
      | made hempty' =>
        rw [hlive] at hempty'
        cases hempty'

section Step

variable {state : State} {name : String} {manager : Manager} {step : Step}

/-- **What a step does with the session of its manager.** -/
theorem turn_step (hname : step.manager? = some name) (hmanager : state.manager? name = some manager) :
    ∃ after, (Session.step state step).1.manager? name = some after ∧
      Turn manager after state.supply (Session.step state step).1.supply
        (Session.step state step).2.log (clears name step) := by
  cases step with
  | acquire other handle =>
    obtain rfl := Option.some.inj hname
    have hclears : clears other (.acquire other handle) = false := by simp [clears, Step.created?]
    have hturn := turn_acquire manager state.supply
    refine ⟨(manager.acquire state.supply).manager, ?_⟩
    rw [hclears]
    cases hresult : (manager.acquire state.supply).result with
    | error trouble =>
      rw [step_acquire_of_error hmanager _ rfl hresult]
      exact ⟨State.manager?_leave_self _ _ _ _, hturn⟩
    | ok session =>
      rw [step_acquire_of_ok hmanager _ rfl hresult, State.manager?_keep, State.supply_keep]
      exact ⟨State.manager?_leave_self _ _ _ _, hturn⟩
  | acquireAll other count =>
    obtain rfl := Option.some.inj hname
    have hclears : clears other (.acquireAll other count) = false := by simp [clears, Step.created?]
    rw [hclears, step_acquireAll hmanager rfl]
    exact ⟨_, State.manager?_leave_self _ _ _ _, turn_acquireMany manager state.supply count⟩
  | shutdown other =>
    obtain rfl := Option.some.inj hname
    have hclears : clears other (.shutdown other) = true := clears_iff.mpr (.inr rfl)
    rw [hclears, step_shutdown hmanager]
    refine ⟨_, State.manager?_leave_self _ _ _ _, .given rfl rfl ?_⟩
    cases hlive : manager.live <;> simp [Manager.shutdown, hlive, Event.isCreation, Event.created?]
  | describe other =>
    obtain rfl := Option.some.inj hname
    have hclears : clears other (.describe other) = false := by simp [clears, Step.created?]
    rw [hclears, step_describe hmanager]
    exact ⟨manager, hmanager, .kept rfl rfl rfl⟩
  | _ => cases hname

end Step

/-! ## 4. The invariant -/

/-- Whether a session is the one that the manager had behind an acquisition, and was made at a
place. -/
structure Origin.GoesBack (origin : Origin) (reported : List (Step × Report)) (place : Nat)
    (session : Session) : Prop where
  acquires : origin.Acquires reported session.id
  live : liveBuild origin.manager (reported.take (origin.place + 1)) = some place
  session : session = sessionOf reported place

/-- Whether the sessions of a state are those that the run tells of. -/
structure Traced (state : State) (reported : List (Step × Report)) : Prop where
  supply : state.supply = { nextPool := madeIn reported, nextId := madeIn reported + 1 }
  managers : ∀ name manager, state.manager? name = some manager →
    manager.live = (liveBuild name reported).map (sessionOf reported)
  /-- A session is made where there is none, and has the next number. -/
  builds : ∀ place step report name, reported[place]? = some (step, report) →
    step.manager? = some name → report.log.any Event.isCreation = true →
      liveBuild name (reported.take place) = none ∧
        report.log = [.sessionCreated (sessionOf reported place).id]
  handles : ∀ name session, state.handle? name = some session →
    ∃ origin place, (origins reported).lookup name = some origin ∧
      origin.GoesBack reported place session

theorem traced_start (plan : List Build) : Traced (startWith plan) [] := by
  refine ⟨rfl, fun name manager h => ?_, fun place step report name h => by simp at h,
    fun name session h => by cases h⟩
  have hnew : manager = { plan } := by
    by_cases hname : name = globalName
    · subst hname
      simpa [State.manager?, startWith, eq_comm] using h
    · have hne : (name == globalName) = false := beq_eq_false_iff_ne.mpr hname
      simp [State.manager?, startWith, List.lookup_cons, hne] at h
  rw [hnew]
  rfl

section Step

variable {state : State} {reported : List (Step × Report)} {step : Step}

/-- A step says nothing of managers that it does not name. -/
theorem liveBuild_append_of_other {name : String} (report : Report)
    (hcreated : step.created? ≠ some name) (hname : step.manager? ≠ some name) :
    liveBuild name (reported ++ [(step, report)]) = liveBuild name reported := by
  have hshutdown : step ≠ .shutdown name := fun heq => hname (by rw [heq]; rfl)
  have hclears : clears name step = false := clears_eq_false_iff.mpr ⟨hcreated, hshutdown⟩
  have htells : tellsBuild name (step, report) = false := by simp [tellsBuild, hname]
  rw [liveBuild_append, liveBuildStep, hclears, htells]
  rfl

theorem lt_of_liveBuild {name : String} {place : Nat} (h : liveBuild name reported = some place) :
    place < reported.length := by
  obtain ⟨⟨entry, hentry, -⟩, -⟩ := liveBuild_eq_some h
  exact (List.getElem?_eq_some_iff.mp hentry).1

/-- Sessions of builds that were made stay what they are. -/
theorem map_sessionOf_append (name : String) (entry : Step × Report) :
    (liveBuild name reported).map (sessionOf (reported ++ [entry])) =
      (liveBuild name reported).map (sessionOf reported) := by
  cases hlive : liveBuild name reported with
  | none => rfl
  | some place => exact congrArg some (sessionOf_append _ _ (Nat.le_of_lt (lt_of_liveBuild hlive)))

/-- The next session is the one that a step makes behind the run. -/
theorem sessionOf_length (entry : Step × Report) :
    sessionOf (reported ++ [entry]) reported.length =
      { pool := madeIn reported, id := madeIn reported + 1 } := by
  rw [sessionOf_append _ _ (Nat.le_refl _), sessionOf, List.take_length]

variable (state step) in
theorem log_step_of_quiet (hquiet : ∀ name manager, step.manager? = some name →
    state.manager? name ≠ some manager) :
    (Session.step state step).1.supply = state.supply ∧ (Session.step state step).2.log = [] := by
  cases hname : step.manager? with
  | some name =>
    cases hmanager : state.manager? name with
    | some manager => exact absurd hmanager (hquiet name manager hname)
    | none =>
      rw [step_of_unknown hname hmanager]
      exact ⟨rfl, rfl⟩
  | none =>
    cases hcreated : step.created? with
    | some name =>
      cases step with
      | create => exact ⟨rfl, rfl⟩
      | _ => cases hcreated
    | none =>
      obtain ⟨hstep, hlog, -⟩ := step_of_handles state hcreated hname
      exact ⟨by rw [hstep], hlog⟩

variable (h : Traced state reported)
include h

theorem Traced.supply_step :
    (Session.step state step).1.supply =
      let made := madeIn (reported ++ [(step, (Session.step state step).2)])
      { nextPool := made, nextId := made + 1 } := by
  rw [madeIn_append]
  by_cases hknown : ∃ name manager, step.manager? = some name ∧ state.manager? name = some manager
  · obtain ⟨name, manager, hname, hmanager⟩ := hknown
    obtain ⟨after, -, hturn⟩ := turn_step hname hmanager
    generalize (Session.step state step).1.supply = left at hturn ⊢
    generalize (Session.step state step).2 = report at hturn ⊢
    generalize clears name step = cleared at hturn
    cases hturn with
    | given _ hleft hlog =>
      have hnone : report.log.countP Event.isCreation = 0 := by
        rw [List.countP_eq_zero]
        simpa [List.any_eq_false] using hlog
      simp only [hnone]
      exact hleft.trans h.supply
    | kept _ hleft hlog =>
      simp only [hlog]
      exact hleft.trans h.supply
    | made _ _ hleft hlog =>
      simp only [hlog]
      rw [hleft, h.supply]
      rfl
  · obtain ⟨hsupply, hlog⟩ := log_step_of_quiet state step
      fun name manager hname hmanager => hknown ⟨name, manager, hname, hmanager⟩
    rw [hsupply, hlog, h.supply]
    rfl

theorem Traced.managers_step {name : String} {after : Manager}
    (hafter : (Session.step state step).1.manager? name = some after) :
    let reports := reported ++ [(step, (Session.step state step).2)]
    after.live = (liveBuild name reports).map (sessionOf reports) := by
  intro reports
  by_cases hcreated : step.created? = some name
  · cases step with
    | create other plan =>
      obtain rfl := Option.some.inj hcreated
      have hnew : after = { plan } := by
        simpa [Session.step, State.manager?, State.putManager, lookup_put_self, eq_comm] using hafter
      have hclears : clears other (.create other plan) = true := clears_iff.mpr (.inl rfl)
      rw [hnew, liveBuild_append, liveBuildStep, hclears]
      rfl
    | _ => cases hcreated
  · by_cases hname : step.manager? = some name
    · cases hmanager : state.manager? name with
      | none =>
        rw [step_of_unknown hname hmanager, hmanager] at hafter
        cases hafter
      | some manager =>
        obtain ⟨found, hfound, hturn⟩ := turn_step hname hmanager
        obtain rfl := Option.some.inj (hfound.symm.trans hafter)
        have hbefore := h.managers name manager hmanager
        simp only [reports]
        rw [liveBuild_append, liveBuildStep]
        generalize (Session.step state step).1.supply = left at hturn
        generalize (Session.step state step).2 = report at hturn ⊢
        cases hclears : clears name step with
        | true =>
          rw [hclears] at hturn
          cases hturn with
          | given hlive => exact hlive
        | false =>
          rw [hclears] at hturn
          cases hturn with
          | kept hlive _ hlog =>
            have htells : tellsBuild name (step, report) = false := by simp [tellsBuild, hlog]
            simp only [htells, Bool.false_eq_true, if_false]
            rw [map_sessionOf_append, hlive, hbefore]
          | made _ hlive _ hlog =>
            have htells : tellsBuild name (step, report) = true := by
              simp [tellsBuild, hname, hlog, Event.isCreation, Event.created?]
            simp only [htells, Bool.false_eq_true, if_false, if_true, Option.map_some]
            rw [hlive, sessionOf_length, h.supply]
            rfl
    · rw [manager?_step_of_other hcreated hname] at hafter
      simp only [reports]
      rw [liveBuild_append_of_other _ hcreated hname, map_sessionOf_append,
        h.managers name after hafter]

theorem Traced.builds_step {place : Nat} {entered : Step} {report : Report} {name : String}
    (hentry : (reported ++ [(step, (Session.step state step).2)])[place]? = some (entered, report))
    (hname : entered.manager? = some name) (hmade : report.log.any Event.isCreation = true) :
    let reports := reported ++ [(step, (Session.step state step).2)]
    liveBuild name (reports.take place) = none ∧
      report.log = [.sessionCreated (sessionOf reports place).id] := by
  intro reports
  rcases getElem?_concat_eq_some hentry with hentry | ⟨rfl, heq⟩
  · have hle : place ≤ reported.length := Nat.le_of_lt (List.getElem?_eq_some_iff.mp hentry).1
    simp only [reports]
    rw [List.take_append_of_le_length hle, sessionOf_append _ _ hle]
    exact h.builds place entered report name hentry hname hmade
  · obtain ⟨rfl, rfl⟩ := Prod.mk.inj heq
    cases hmanager : state.manager? name with
    | none =>
      rw [step_of_unknown hname hmanager] at hmade
      cases hmade
    | some manager =>
      obtain ⟨after, -, hturn⟩ := turn_step hname hmanager
      have hbefore := h.managers name manager hmanager
      simp only [reports]
      rw [List.take_append_of_le_length (Nat.le_refl _), List.take_length, sessionOf_length]
      generalize (Session.step state entered).1.supply = left at hturn
      generalize (Session.step state entered).2 = report at hturn hmade ⊢
      generalize clears name entered = cleared at hturn
      cases hturn with
      | given _ _ hlog =>
        rw [hlog] at hmade
        cases hmade
      | kept _ _ hlog =>
        rw [hlog] at hmade
        cases hmade
      | made hempty _ _ hlog =>
        rw [hempty] at hbefore
        refine ⟨Option.map_eq_none_iff.mp hbefore.symm, ?_⟩
        rw [hlog, h.supply]

end Step

/-! ## 5. Handles behind a step -/

section Handles

variable {state : State} {reported : List (Step × Report)} {step : Step} {name : String}

theorem Rebinds.cases {report : Report} (h : Rebinds name (step, report)) :
    (∃ manager id, step = .acquire manager (some name) ∧ report.outcome = .acquired id) ∨
      (∃ handle, step = .clone handle name ∧ report.outcome = .done) ∨ step = .drop name := by
  unfold Rebinds at h
  split at h
  · obtain rfl := h
    exact .inl ⟨_, _, ‹_›, ‹_›⟩
  · obtain rfl := h
    exact .inr (.inl ⟨_, ‹_›, ‹_›⟩)
  · obtain rfl := h
    exact .inr (.inr ‹_›)
  · cases h

/-- Only a step that gives the name of a handle to another one, or gives it up, changes what the
name stands for. -/
theorem handle?_step_of_kept (h : ¬Rebinds name (step, (Session.step state step).2)) :
    (Session.step state step).1.handle? name = state.handle? name := by
  cases step with
  | create other plan => rfl
  | acquire other handle =>
    cases hmanager : state.manager? other with
    | none => rw [step_of_unknown rfl hmanager]
    | some manager =>
      cases hresult : (manager.acquire state.supply).result with
      | error trouble =>
        rw [step_acquire_of_error hmanager _ rfl hresult]
        rfl
      | ok session =>
        rw [step_acquire_of_ok hmanager _ rfl hresult] at h ⊢
        cases handle with
        | none => rfl
        | some handle => exact lookup_put_of_ne _ _ fun heq => h heq.symm
  | acquireAll other count =>
    cases hmanager : state.manager? other with
    | none => rw [step_of_unknown rfl hmanager]
    | some manager =>
      rw [step_acquireAll hmanager rfl]
      rfl
  | shutdown other =>
    cases hmanager : state.manager? other with
    | none => rw [step_of_unknown rfl hmanager]
    | some manager =>
      rw [step_shutdown hmanager]
      rfl
  | describe other =>
    cases hmanager : state.manager? other with
    | none => rw [step_of_unknown rfl hmanager]
    | some manager => rw [step_describe hmanager]
  | clone handle another =>
    simp only [Session.step] at h ⊢
    cases hhandle : state.handle? handle with
    | none => rfl
    | some session =>
      rw [hhandle] at h
      exact lookup_put_of_ne _ _ fun heq => h heq.symm
  | drop handle => exact lookup_erased_of_ne _ fun heq => h heq.symm
  | compare a b =>
    simp only [Session.step]
    split <;> rfl
  | use handle address =>
    simp only [Session.step]
    split
    · rfl
    · split <;> rfl
  | compareGlobal => rfl

theorem lookup_traceStep_of_kept {entry : Step × Report} (h : ¬Rebinds name entry)
    (origins : List (String × Origin)) (place : Nat) :
    (traceStep origins place entry).lookup name = origins.lookup name := by
  obtain ⟨step, report⟩ := entry
  unfold traceStep
  split
  · next hstep houtcome =>
    obtain rfl : step = _ := hstep
    refine lookup_put_of_ne _ _ fun heq => h ?_
    simp only [Rebinds, show report.outcome = _ from houtcome, heq]
  · next hstep houtcome =>
    obtain rfl : step = _ := hstep
    split
    · refine lookup_put_of_ne _ _ fun heq => h ?_
      simp only [Rebinds, show report.outcome = _ from houtcome, heq]
    · rfl
  · next hstep =>
    obtain rfl : step = _ := hstep
    refine lookup_erased_of_ne _ fun heq => h ?_
    simp only [Rebinds, heq]
  · rfl

end Handles

section Run

variable {state : State} {reported : List (Step × Report)}

/-- What a run tells of an origin stays when it goes on. -/
theorem Origin.GoesBack.append {origin : Origin} {place : Nat} {session : Session}
    (h : origin.GoesBack reported place session) (entry : Step × Report) :
    origin.GoesBack (reported ++ [entry]) place session := by
  obtain ⟨⟨handle, report, hentry, houtcome⟩, hlive, hsession⟩ := h
  have hlt := (List.getElem?_eq_some_iff.mp hentry).1
  have hplace := lt_of_liveBuild hlive
  rw [List.length_take] at hplace
  refine ⟨⟨handle, report, (List.getElem?_append_left hlt).trans hentry, houtcome⟩, ?_, ?_⟩
  · rw [List.take_append_of_le_length hlt]
    exact hlive
  · rw [sessionOf_append _ _ (by omega)]
    exact hsession

/-- An acquisition gets the live session of its manager. -/
theorem Traced.goesBack_of_acquired (h : Traced state reported) {name handle : String} {id : Nat}
    (houtcome : (Session.step state (.acquire name (some handle))).2.outcome = .acquired id) :
    let acquisition := Step.acquire name (some handle)
    let origin : Origin := { manager := name, place := reported.length }
    ∃ session place, (Session.step state acquisition).1.handle? handle = some session ∧
      origin.GoesBack (reported ++ [(acquisition, (Session.step state acquisition).2)]) place
        session := by
  intro acquisition origin
  cases hmanager : state.manager? name with
  | none =>
    rw [step_of_unknown rfl hmanager] at houtcome
    cases houtcome
  | some manager =>
    cases hresult : (manager.acquire state.supply).result with
    | error trouble =>
      rw [step_acquire_of_error hmanager _ rfl hresult] at houtcome
      cases houtcome
    | ok session =>
      have hstep := step_acquire_of_ok hmanager (some handle) rfl hresult
      have hafter : (Session.step state (.acquire name (some handle))).1.manager? name =
          some (manager.acquire state.supply).manager := by
        rw [hstep, State.manager?_keep, State.manager?_leave_self]
      have hlive := h.managers_step hafter
      rw [Manager.live_of_ok state.supply hresult] at hlive
      obtain ⟨place, hplace, hsession⟩ := Option.map_eq_some_iff.mp hlive.symm
      refine ⟨session, place, ?_, ⟨handle, _, List.getElem?_concat_length, ?_⟩, ?_, hsession.symm⟩
      · rw [show Session.step state acquisition = _ from hstep]
        exact lookup_put_self _ _ _
      · rw [show Session.step state acquisition = _ from hstep]
      · rw [List.take_of_length_le (by simp [origin])]
        exact hplace

/-- **A step keeps the sessions those that the run tells of.** -/
theorem Traced.next (h : Traced state reported) (step : Step) :
    Traced (Session.step state step).1 (reported ++ [(step, (Session.step state step).2)]) := by
  refine ⟨h.supply_step, fun name after hafter => h.managers_step hafter,
    fun place entered report name hentry hname hmade => h.builds_step hentry hname hmade,
    fun name session hsession => ?_⟩
  rw [origins_append]
  by_cases hrebinds : Rebinds name (step, (Session.step state step).2)
  · rcases hrebinds.cases with ⟨other, id, rfl, houtcome⟩ | ⟨handle, rfl, houtcome⟩ | rfl
    · obtain ⟨got, place, hgot, hgoes⟩ := h.goesBack_of_acquired houtcome
      obtain rfl := Option.some.inj (hgot.symm.trans hsession)
      refine ⟨_, place, ?_, hgoes⟩
      simp only [traceStep, houtcome]
      exact lookup_put_self _ _ _
    · simp only [Session.step] at houtcome hsession
      cases hhandle : state.handle? handle with
      | none =>
        rw [hhandle] at houtcome
        cases houtcome
      | some held =>
        rw [hhandle] at hsession
        obtain rfl : held = session := by
          simpa [State.handle?, State.putHandle, lookup_put_self] using hsession
        obtain ⟨origin, place, horigin, hgoes⟩ := h.handles handle held hhandle
        refine ⟨origin, place, ?_, hgoes.append _⟩
        simp only [traceStep, Session.step, hhandle, horigin]
        exact lookup_put_self _ _ _
    · have hgone : (Session.step state (.drop name)).1.handle? name = none := lookup_erased_self _ name
      rw [hgone] at hsession
      cases hsession
  · rw [handle?_step_of_kept hrebinds] at hsession
    obtain ⟨origin, place, horigin, hgoes⟩ := h.handles name session hsession
    refine ⟨origin, place, ?_, hgoes.append _⟩
    rw [lookup_traceStep_of_kept hrebinds, horigin]

/-- **In every run the sessions are those that it tells of.** -/
theorem traced_run (plan : List Build) (steps : List Step) :
    Traced (reach (startWith plan) steps) (steps.zip (run (startWith plan) steps)) := by
  induction steps using List.reverseRecOn with
  | nil => exact traced_start plan
  | append_singleton earlier step ih =>
    have hreach : reach (startWith plan) (earlier ++ [step]) =
        (Session.step (reach (startWith plan) earlier) step).1 := by
      simp only [reach, List.foldl_append, List.foldl_cons, List.foldl_nil]
    rw [hreach, run_append, List.zip_append (length_run _ _).symm]
    exact ih.next step

end Run

/-! ## 6. Handles of one build -/

theorem madeIn_mono (reported : List (Step × Report)) {a b : Nat} (h : a ≤ b) :
    madeIn (reported.take a) ≤ madeIn (reported.take b) :=
  ((List.take_sublist_take_left h).flatMap _).countP_le

theorem take_succ_of_getElem? {α : Type} {l : List α} {i : Nat} {a : α} (h : l[i]? = some a) :
    l.take (i + 1) = l.take i ++ [a] := by
  rw [List.take_add_one, h, Option.toList_some]

section Apart

variable {state : State} {reported : List (Step × Report)} {name other : String} {i j : Nat}

/-- A build has an effect on the count. -/
theorem madeIn_lt {entry : Step × Report} (hentry : reported[i]? = some entry)
    (hbuild : tellsBuild name entry = true) (h : i < j) :
    madeIn (reported.take i) < madeIn (reported.take j) := by
  have hmade : 0 < entry.2.log.countP Event.isCreation := by
    rw [List.countP_pos_iff, ← List.any_eq_true]
    exact (tellsBuild_iff.mp hbuild).2
  have hnext := madeIn_mono reported (Nat.succ_le_of_lt h)
  rw [Nat.succ_eq_add_one, take_succ_of_getElem? hentry, madeIn_append] at hnext
  omega

/-- **Builds in different places make different sessions.** -/
theorem pool_sessionOf_eq_iff {entry entry' : Step × Report} (hi : reported[i]? = some entry)
    (hentry : tellsBuild name entry = true) (hj : reported[j]? = some entry')
    (hentry' : tellsBuild other entry' = true) :
    (sessionOf reported i).pool = (sessionOf reported j).pool ↔ i = j := by
  refine ⟨fun hpool => ?_, fun h => by rw [h]⟩
  have hsame : madeIn (reported.take i) = madeIn (reported.take j) := hpool
  rcases Nat.lt_trichotomy i j with hlt | heq | hlt
  · exact absurd hsame (Nat.ne_of_lt (madeIn_lt hi hentry hlt))
  · exact heq
  · exact absurd hsame.symm (Nat.ne_of_lt (madeIn_lt hj hentry' hlt))

/-- The step behind which a session is live has told of it. -/
theorem getElem?_of_liveBuild_take {length : Nat}
    (h : liveBuild name (reported.take length) = some i) :
    i < length ∧ ∃ entry, reported[i]? = some entry ∧ tellsBuild name entry = true := by
  obtain ⟨⟨entry, hentry, htells⟩, -⟩ := liveBuild_eq_some h
  have hlt : i < length := by
    have hle := (List.getElem?_eq_some_iff.mp hentry).1
    rw [List.length_take] at hle
    omega
  rw [List.getElem?_take_of_lt hlt] at hentry
  exact ⟨hlt, entry, hentry, htells⟩

/-- **A live build stays live as long as nothing clears the manager.** There is no other one then,
because a session is made only where there is none. -/
theorem Traced.liveBuild_take_of_uncleared (h : Traced state reported) {lo hi : Nat}
    (hlo : liveBuild name (reported.take lo) = some i) (hle : lo ≤ hi)
    (hlength : hi ≤ reported.length)
    (hclears : ∀ place entry, lo ≤ place → place < hi → reported[place]? = some entry →
      clears name entry.1 = false) :
    liveBuild name (reported.take hi) = some i := by
  induction hle with
  | refl => exact hlo
  | @step place hge ih =>
    have hlive : liveBuild name (reported.take place) = some i :=
      ih (Nat.le_of_succ_le hlength)
        fun place entry hge hlt => hclears place entry hge (Nat.lt_succ_of_lt hlt)
    have hentry := List.getElem?_eq_getElem hlength
    have hkept := hclears place _ hge (Nat.lt_succ_self place) hentry
    rw [take_succ_of_getElem? hentry, liveBuild_append, liveBuildStep, hkept]
    cases htells : tellsBuild name reported[place] with
    | false => exact hlive
    | true =>
      obtain ⟨hname, hmade⟩ := tellsBuild_iff.mp htells
      obtain ⟨hnone, -⟩ := h.builds place _ _ name hentry hname hmade
      rw [hlive] at hnone
      cases hnone

end Apart

section Pairs

variable {state : State} {reported : List (Step × Report)} {p q : Origin} {i j : Nat}
  {a b : Session}

theorem Origin.between_comm (p q : Origin) (place : Nat) : p.Between q place ↔ q.Between p place := by
  unfold Origin.Between
  rw [Nat.min_comm, Nat.max_comm]

/-- Whether nothing clears the manager between two acquisitions. -/
def Origin.Uncleared (p q : Origin) (reported : List (Step × Report)) : Prop :=
  ∀ place step report, p.Between q place → reported[place]? = some (step, report) →
    clears p.manager step = false

theorem Origin.GoesBack.manager_eq (hp : p.GoesBack reported i a) (hq : q.GoesBack reported i b) :
    p.manager = q.manager := by
  obtain ⟨-, entry, hentry, hp⟩ := getElem?_of_liveBuild_take hp.live
  obtain ⟨-, entry', hentry', hq⟩ := getElem?_of_liveBuild_take hq.live
  obtain rfl := Option.some.inj (hentry.symm.trans hentry')
  obtain ⟨hpname, -⟩ := tellsBuild_iff.mp hp
  obtain ⟨hqname, -⟩ := tellsBuild_iff.mp hq
  exact Option.some.inj (hpname.symm.trans hqname)

/-- Acquisitions of one manager, the earlier one first. -/
theorem Traced.place_eq_iff_of_le (h : Traced state reported) (hp : p.GoesBack reported i a)
    (hq : q.GoesBack reported j b) (hle : p.place ≤ q.place) (hname : p.manager = q.manager) :
    i = j ↔ p.Uncleared q reported := by
  obtain ⟨handle, report, hacquire, -⟩ := hq.acquires
  have hlength := (List.getElem?_eq_some_iff.mp hacquire).1
  constructor
  · rintro rfl place step report ⟨hgt, hlt⟩ hentry
    rw [Nat.min_eq_left hle] at hgt
    rw [Nat.max_eq_right hle] at hlt
    obtain ⟨hmade, -⟩ := getElem?_of_liveBuild_take hp.live
    obtain ⟨-, hlast⟩ := liveBuild_eq_some hq.live
    have hentry' : (reported.take (q.place + 1))[place]? = some (step, report) := by
      rw [List.getElem?_take_of_lt (Nat.lt_succ_of_lt hlt), hentry]
    rw [hname]
    exact (hlast place _ (by omega) hentry').1
  · intro huncleared
    have hlive : liveBuild p.manager (reported.take (q.place + 1)) = some i := by
      refine h.liveBuild_take_of_uncleared hp.live (Nat.succ_le_succ hle) hlength
        fun place entry hge hlt hentry => ?_
      rcases Nat.lt_succ_iff_lt_or_eq.mp hlt with hlt | rfl
      · refine huncleared place entry.1 entry.2 ⟨?_, ?_⟩ hentry
        · exact Nat.lt_of_le_of_lt (Nat.min_le_left _ _) hge
        · exact Nat.lt_of_lt_of_le hlt (Nat.le_max_right _ _)
      · rw [hacquire] at hentry
        obtain rfl := Option.some.inj hentry
        simp [clears, Step.created?]
    rw [hname, hq.live] at hlive
    exact (Option.some.inj hlive).symm

/-- **Acquisitions go back to one build exactly when they are from one manager that nothing clears
between them.** -/
theorem Traced.place_eq_iff (h : Traced state reported) (hp : p.GoesBack reported i a)
    (hq : q.GoesBack reported j b) : i = j ↔ p.manager = q.manager ∧ p.Uncleared q reported := by
  by_cases hname : p.manager = q.manager
  · rw [and_iff_right hname]
    rcases Nat.le_total p.place q.place with hle | hle
    · exact h.place_eq_iff_of_le hp hq hle hname
    · rw [eq_comm, h.place_eq_iff_of_le hq hp hle hname.symm]
      simp only [Origin.Uncleared, Origin.between_comm p q, hname]
  · refine ⟨?_, fun hboth => absurd hboth.1 hname⟩
    rintro rfl
    exact absurd (hp.manager_eq hq) hname

/-- The session of an acquisition is the one that its build has made. -/
theorem Traced.built (h : Traced state reported) (hp : p.GoesBack reported i a) :
    p.Built reported i a.id := by
  obtain ⟨hlt, ⟨step, report⟩, hentry, htells⟩ := getElem?_of_liveBuild_take hp.live
  obtain ⟨hname, hmade⟩ := tellsBuild_iff.mp htells
  obtain ⟨-, hlog⟩ := h.builds i step report _ hentry hname hmade
  refine ⟨Nat.le_of_lt_succ hlt, ⟨step, report, hentry, hname, ?_⟩, ?_⟩
  · rw [hlog, hp.session]
  · intro later step report hlater hle hentry hname id hmem
    obtain ⟨-, hlast⟩ := liveBuild_eq_some hp.live
    have hentry' : (reported.take (p.place + 1))[later]? = some (step, report) := by
      rw [List.getElem?_take_of_lt (Nat.lt_succ_of_le hle), hentry]
    have hquiet := (hlast later _ (Nat.le_of_lt hlater) hentry').2 hlater
    have htells : tellsBuild p.manager (step, report) = true :=
      tellsBuild_iff.mpr ⟨hname, List.any_eq_true.mpr ⟨_, hmem, rfl⟩⟩
    rw [htells] at hquiet
    cases hquiet

/-- Sessions are the same exactly when they were made in one place. -/
theorem Origin.GoesBack.sameAs_iff (hp : p.GoesBack reported i a) (hq : q.GoesBack reported j b) :
    a.sameAs b = true ↔ i = j := by
  obtain ⟨-, entry, hentry, htells⟩ := getElem?_of_liveBuild_take hp.live
  obtain ⟨-, entry', hentry', htells'⟩ := getElem?_of_liveBuild_take hq.live
  rw [hp.session, hq.session, Session.sameAs, beq_iff_eq]
  exact pool_sessionOf_eq_iff hentry htells hentry' htells'

/-- The number of a session stands for its pool. -/
theorem Origin.GoesBack.sameAs_iff_id (hp : p.GoesBack reported i a)
    (hq : q.GoesBack reported j b) : a.sameAs b = true ↔ a.id = b.id := by
  rw [hp.session, hq.session, Session.sameAs, beq_iff_eq]
  simp only [sessionOf, Nat.add_right_cancel_iff]

theorem Origin.uncleared_iff (hshares : p.SharesManager reported q) :
    p.Uncleared q reported ↔ ¬p.ShutBetween reported q := by
  obtain ⟨-, hkept⟩ := hshares
  constructor
  · rintro huncleared ⟨place, report, hbetween, hentry⟩
    exact (clears_eq_false_iff.mp (huncleared place _ report hbetween hentry)).2 rfl
  · intro hshut place step report hbetween hentry
    have hcreated := hkept place step report hbetween hentry
    have hshutdown : step ≠ .shutdown p.manager := by
      rintro rfl
      exact hshut ⟨place, report, hbetween, hentry⟩
    exact clears_eq_false_iff.mpr ⟨hcreated, hshutdown⟩

theorem Origin.sharesManager_of_uncleared (hname : p.manager = q.manager)
    (huncleared : p.Uncleared q reported) : p.SharesManager reported q := by
  refine ⟨hname, fun place step report hbetween hentry hcreated => ?_⟩
  exact (clears_eq_false_iff.mp (huncleared place step report hbetween hentry)).1 hcreated

end Pairs

/-! ## 7. Handles of a run -/

/-- What building a message to an address with a handle answers, whichever handle it is. -/
def messageTo (address : String) : Outcome :=
  match Http.Message.start .get address with
  | .ok message => .prepared message
  | .error cause => .failed (.transport cause)

theorem outcome_use {state : State} {name : String} {session : Session}
    (h : state.handle? name = some session) (address : String) :
    (Session.step state (.use name address)).2.outcome = messageTo address := by
  simp only [Session.step, h, messageTo]
  cases Http.Message.start .get address <;> rfl

/-- **A handle stays what it is as long as its name is not given to another one, and it is not given
up.** -/
theorem handle?_reach_of_kept {name : String} (state : State) (later : List Step)
    (h : ∀ entry ∈ later.zip (run state later), ¬Rebinds name entry) :
    (reach state later).handle? name = state.handle? name := by
  induction later generalizing state with
  | nil => rfl
  | cons step later ih =>
    have hkept := handle?_step_of_kept (h _ (List.mem_cons_self ..))
    rw [← hkept]
    exact ih _ fun entry hentry => h entry (List.mem_cons_of_mem _ hentry)

/-- **Handles are the same exactly when they go back to one build.** In every state that a run of
any number of managers comes to, any two handles go back to acquisitions, and the acquisitions to the
builds of the sessions that they got. The handles are the same exactly when their numbers are, and
exactly when the builds are one. Handles from one manager are the same exactly when it is not shut
down between the acquisitions, handles from different managers never. And whatever comes next leaves
a handle what it is, and usable, as long as its name is not given to another one, and it is not given
up. -/
theorem identified_of_run (plan : List Build) (steps : List Step) {x y : String} {a b : Session}
    (hx : (reach (startWith plan) steps).handle? x = some a)
    (hy : (reach (startWith plan) steps).handle? y = some b) :
    let state := reach (startWith plan) steps
    let reported := steps.zip (run (startWith plan) steps)
    (∃ p q i j, (origins reported).lookup x = some p ∧ (origins reported).lookup y = some q ∧
      (p.Acquires reported a.id ∧ p.Built reported i a.id) ∧
      (q.Acquires reported b.id ∧ q.Built reported j b.id) ∧
      (a.sameAs b = true ↔ a.id = b.id) ∧
      (a.sameAs b = true ↔ i = j) ∧
      (p.SharesManager reported q → (a.sameAs b = true ↔ ¬p.ShutBetween reported q)) ∧
      (¬p.SharesManager reported q → a.sameAs b = false)) ∧
    ∀ later, (∀ entry ∈ later.zip (run state later), ¬Rebinds x entry) →
      (reach state later).handle? x = some a ∧
      ∀ address, (Session.step (reach state later) (.use x address)).2.outcome =
        messageTo address := by
  intro state reported
  have htraced : Traced state reported := traced_run plan steps
  refine ⟨?_, fun later hkept => ?_⟩
  · obtain ⟨p, i, horigin, hp⟩ := htraced.handles x a hx
    obtain ⟨q, j, horigin', hq⟩ := htraced.handles y b hy
    have hsame : a.sameAs b = true ↔ p.manager = q.manager ∧ p.Uncleared q reported :=
      (hp.sameAs_iff hq).trans (htraced.place_eq_iff hp hq)
    refine ⟨p, q, i, j, horigin, horigin', ⟨hp.acquires, htraced.built hp⟩,
      ⟨hq.acquires, htraced.built hq⟩, hp.sameAs_iff_id hq, hp.sameAs_iff hq,
      fun hshares => ?_, fun hshares => ?_⟩
    · rw [hsame, and_iff_right hshares.1, Origin.uncleared_iff hshares]
    · rw [← Bool.not_eq_true, hsame]
      rintro ⟨hname, huncleared⟩
      exact hshares (Origin.sharesManager_of_uncleared hname huncleared)
  · have hhandle : (reach state later).handle? x = some a :=
      (handle?_reach_of_kept state later hkept).trans hx
    exact ⟨hhandle, fun address => outcome_use hhandle address⟩

/-- A clone of a handle from before a shutdown, and a handle from after it. -/
theorem identified_of_run_shutdown :
    let steps := [.acquire globalName (some "x"), .clone "x" "w", .shutdown globalName, .drop "x",
      .acquire globalName (some "y")]
    let state := reach (startWith []) steps
    let reported := steps.zip (run (startWith []) steps)
    state.handle? "w" = some { pool := 0, id := 1 } ∧
      state.handle? "y" = some { pool := 1, id := 2 } ∧
      (∃ p q i j, (origins reported).lookup "w" = some p ∧ (origins reported).lookup "y" = some q ∧
        p.Built reported i 1 ∧ q.Built reported j 2 ∧ i ≠ j) ∧
      (reach state [.shutdown globalName, .drop "y"]).handle? "w" = some { pool := 0, id := 1 } := by
  intro steps state reported
  have hw : state.handle? "w" = some { pool := 0, id := 1 } := by decide
  have hy : state.handle? "y" = some { pool := 1, id := 2 } := by decide
  obtain ⟨⟨p, q, i, j, hp, hq, hpbuilt, hqbuilt, -, hplaces, -⟩, hlater⟩ :=
    identified_of_run [] steps hw hy
  refine ⟨hw, hy, ⟨p, q, i, j, hp, hq, hpbuilt.2, hqbuilt.2, fun heq => ?_⟩, ?_⟩
  · have hsame := hplaces.mpr heq
    revert hsame
    decide
  · refine (hlater [.shutdown globalName, .drop "y"] fun entry hentry => ?_).1
    simp only [run, List.zip_cons_cons, List.zip_nil_left, List.mem_cons, List.not_mem_nil,
      or_false] at hentry
    rcases hentry with rfl | rfl <;> simp [Rebinds]

end Relay.Session
