import Relay.Proofs.Session.Accounts

/-!
# What steps of a run do

One equation for each step that works with a manager: what it leaves behind and what it reports. A
step that names no manager that is known does nothing (`step_of_unknown`). To ask for several
sessions at the same time is to ask for them one after another (`step_acquireAll_succ`).
-/

namespace Relay.Session

/-! ## 1. States -/

namespace State

/-- The state with a handle, if the handle gets a name. -/
def keep (state : State) (handle : Option String) (session : Session) : State :=
  match handle with
  | some handle => state.putHandle handle session
  | none => state

/-- The state with what is left of a manager and of the supply. -/
def leave (state : State) (name : String) (manager : Manager) (supply : Supply) : State :=
  { state.putManager name manager with supply }

section Lookup

variable (state : State) (name : String) (manager : Manager) (supply : Supply) (session : Session)
  {other : String}

theorem manager?_leave_self : (state.leave name manager supply).manager? name = some manager :=
  lookup_put_self name manager state.managers

theorem manager?_leave_of_ne (h : other ≠ name) :
    (state.leave name manager supply).manager? other = state.manager? other :=
  lookup_put_of_ne manager state.managers h

theorem managers_keep (handle : Option String) :
    (state.keep handle session).managers = state.managers := by
  cases handle <;> rfl

theorem manager?_keep (handle : Option String) :
    (state.keep handle session).manager? other = state.manager? other := by
  rw [manager?, managers_keep]
  rfl

theorem supply_keep (handle : Option String) :
    (state.keep handle session).supply = state.supply := by
  cases handle <;> rfl

theorem handles_keep (handle : Option String) :
    (state.keep handle session).handles =
      handle.elim state.handles (fun handle => put handle session state.handles) := by
  cases handle <;> rfl

end Lookup

end State

/-- A step that works with a manager makes none. -/
theorem Step.created?_of_manager? {step : Step} {name : String} (h : step.manager? = some name) :
    step.created? = none := by
  cases step with
  | create => cases h
  | _ => rfl

/-! ## 2. Steps -/

section Step

variable {state : State} {name : String} {manager : Manager}

theorem step_of_unknown {step : Step} (hname : step.manager? = some name)
    (h : state.manager? name = none) : Session.step state step = (state, { outcome := .unknown }) := by
  cases step with
  | acquire | acquireAll | shutdown | describe =>
    obtain rfl := Option.some.inj hname
    simp only [Session.step, withManager, h]
  | _ => cases hname

variable (h : state.manager? name = some manager)
include h

theorem step_acquire_of_error (handle : Option String) {got : Manager.Acquired}
    {trouble : Manager.Trouble} (hgot : manager.acquire state.supply = got)
    (hresult : got.result = .error trouble) :
    Session.step state (.acquire name handle) =
      (state.leave name got.manager got.supply,
        { outcome := .troubled trouble, log := got.log, manager := some got.manager }) := by
  simp only [Session.step, withManager, h, hgot, hresult]
  rw [← state.manager?_leave_self name got.manager got.supply]
  rfl

theorem step_acquire_of_ok (handle : Option String) {got : Manager.Acquired} {session : Session}
    (hgot : manager.acquire state.supply = got) (hresult : got.result = .ok session) :
    Session.step state (.acquire name handle) =
      ((state.leave name got.manager got.supply).keep handle session,
        { outcome := .acquired session.id, log := got.log, manager := some got.manager }) := by
  simp only [Session.step, withManager, h, hgot, hresult]
  rw [← state.manager?_leave_self name got.manager got.supply]
  cases handle <;> rfl

theorem step_acquireAll {count : Nat} {results : List (Except Manager.Trouble Session)}
    {after : Manager} {supply : Supply} {log : List Event}
    (hgot : acquireMany manager state.supply count = (results, after, supply, log)) :
    Session.step state (.acquireAll name count) =
      (state.leave name after supply,
        { outcome := acquiredAll results, log, manager := some after }) := by
  simp only [Session.step, withManager, h, hgot]
  rw [← state.manager?_leave_self name after supply]
  rfl

theorem step_shutdown :
    Session.step state (.shutdown name) =
      (state.leave name manager.shutdown.1 state.supply,
        { outcome := .done, log := manager.shutdown.2, manager := some manager.shutdown.1 }) := by
  simp only [Session.step, withManager, h]
  rw [← state.manager?_leave_self name manager.shutdown.1 state.supply]
  rfl

theorem step_describe :
    Session.step state (.describe name) =
      (state, { outcome := .description manager.description, manager := some manager }) := by
  simp only [Session.step, withManager, h]

end Step

/-- What is done with others leaves a manager alone. -/
theorem manager?_step_of_other {state : State} {name : String} {step : Step}
    (hcreated : step.created? ≠ some name)
    (hname : step.manager? ≠ some name) :
    (Session.step state step).1.manager? name = state.manager? name := by
  have hcases := step_cases state step
  generalize Session.step state step = done at hcases ⊢
  obtain ⟨after, report⟩ := done
  rcases hcases with ⟨other, plan, rfl, rfl, -⟩ | ⟨other, hother, htouched⟩ | ⟨-, hmanagers, -, -⟩
  · exact lookup_put_of_ne _ _ fun heq => hcreated (congrArg some heq.symm)
  · exact htouched.others name fun heq => hname (heq ▸ hother)
  · exact congrArg (List.lookup name) hmanagers

section Handles

variable {state other : State} {step : Step} (hcreated : step.created? = none)
  (hmanager : step.manager? = none)
include hcreated hmanager

variable (state) in
/-- A step that names no manager changes handles at most, and logs nothing. -/
theorem step_of_handles :
    (Session.step state step).1 =
        { state with handles := (Session.step state step).1.handles } ∧
      (Session.step state step).2.log = [] ∧ (Session.step state step).2.manager = none := by
  cases step with
  | create => cases hcreated
  | acquire | acquireAll | shutdown | describe => cases hmanager
  | clone handle another =>
    simp only [Session.step]
    cases state.handle? handle <;> exact ⟨rfl, rfl, rfl⟩
  | drop handle => exact ⟨rfl, rfl, rfl⟩
  | compare a b =>
    simp only [Session.step]
    split <;> exact ⟨rfl, rfl, rfl⟩
  | use handle address =>
    simp only [Session.step]
    split
    · exact ⟨rfl, rfl, rfl⟩
    · split <;> exact ⟨rfl, rfl, rfl⟩
  | compareGlobal => exact ⟨rfl, rfl, rfl⟩

/-- Handles are all that it looks at. -/
theorem step_handles_congr (h : other.handles = state.handles) :
    (Session.step other step).1.handles = (Session.step state step).1.handles ∧
      (Session.step other step).2 = (Session.step state step).2 := by
  have hhandle (name : String) : other.handle? name = state.handle? name := by
    rw [State.handle?, h]
    rfl
  cases step with
  | create => cases hcreated
  | acquire | acquireAll | shutdown | describe => cases hmanager
  | clone handle another =>
    simp only [Session.step, hhandle]
    cases state.handle? handle with
    | none => exact ⟨h, rfl⟩
    | some session => exact ⟨congrArg (put another session) h, rfl⟩
  | drop handle => exact ⟨congrArg (remove handle) h, rfl⟩
  | compare a b =>
    simp only [Session.step, hhandle]
    split <;> exact ⟨h, rfl⟩
  | use handle address =>
    simp only [Session.step, hhandle]
    split
    · exact ⟨h, rfl⟩
    · split <;> exact ⟨h, rfl⟩
  | compareGlobal => exact ⟨h, rfl⟩

end Handles

/-! ## 3. Acquisitions at the same time -/

theorem put_put {α : Type} (name : String) (a b : α) (entries : List (String × α)) :
    put name b (put name a entries) = put name b entries := by
  simp [put]

theorem State.leave_leave (state : State) (name : String) (between manager : Manager)
    (left supply : Supply) :
    (state.leave name between left).leave name manager supply = state.leave name manager supply := by
  simp only [leave, putManager, put_put]

/-- Acquisitions in a row, with one more behind them. -/
theorem acquireMany_succ (manager : Manager) (supply : Supply) (count : Nat) :
    acquireMany manager supply (count + 1) =
      let before := acquireMany manager supply count
      let last := before.2.1.acquire before.2.2.1
      (before.1 ++ [last.result], last.manager, last.supply, before.2.2.2 ++ last.log) := by
  induction count generalizing manager supply with
  | zero => simp [acquireMany]
  | succ count ih =>
    rw [acquireMany, ih]
    simp only [acquireMany, List.cons_append, List.append_assoc]

/-- **To ask for several sessions at the same time is to ask for them one after another.** -/
theorem step_acquireAll_succ (state : State) (name : String) (count : Nat) :
    let before := Session.step state (.acquireAll name count)
    let last := Session.step before.1 (.acquire name none)
    let whole := Session.step state (.acquireAll name (count + 1))
    whole.1 = last.1 ∧ whole.2.log = before.2.log ++ last.2.log := by
  intro before last whole
  cases h : state.manager? name with
  | none =>
    have hbefore : before = (state, { outcome := .unknown }) := step_of_unknown rfl h
    have hlast : last = (state, { outcome := .unknown }) := by
      simp only [last, hbefore]
      exact step_of_unknown rfl h
    have hwhole : whole = (state, { outcome := .unknown }) := step_of_unknown rfl h
    rw [hbefore, hlast, hwhole]
    exact ⟨rfl, rfl⟩
  | some manager =>
    cases hgot : acquireMany manager state.supply count with
    | mk results rest =>
      obtain ⟨between, supply, log⟩ := rest
      have hbefore : before = _ := step_acquireAll h hgot
      have hall := acquireMany_succ manager state.supply count
      rw [hgot] at hall
      have hwhole : whole = _ := step_acquireAll h hall
      have hbetween := state.manager?_leave_self name between supply
      simp only [last, hwhole, hbefore]
      cases hresult : (between.acquire supply).result with
      | error trouble =>
        rw [step_acquire_of_error hbetween _ rfl hresult, State.leave_leave]
        exact ⟨rfl, rfl⟩
      | ok session =>
        rw [step_acquire_of_ok hbetween _ rfl hresult, State.leave_leave]
        exact ⟨rfl, rfl⟩

end Relay.Session
