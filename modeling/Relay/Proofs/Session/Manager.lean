import Relay.Session

/-!
# What acquiring does

Acquiring gets the live session and changes nothing; where there is none, the next build of the plan
decides (`acquire_of_live`, `acquire_of_trouble`, `acquire_of_success`). There is no other way
(`acquire_cases`).
-/

namespace Relay

/-- What goes wrong when a build goes so. -/
def Build.trouble? : Build → Option Manager.Trouble
  | .succeeds => none
  | .fails => some .failed
  | .breaks => some .broken

namespace Manager

variable {manager : Manager} (supply : Supply)

theorem acquire_of_live {session : Session} (h : manager.live = some session) :
    manager.acquire supply = { result := .ok session, manager, supply } := by
  simp only [acquire, h]

/-- A build that goes wrong leaves nothing behind but what is to come of the plan. -/
theorem acquire_of_trouble {trouble : Trouble} (h : manager.live = none)
    (hbuild : manager.nextBuild.trouble? = some trouble) :
    manager.acquire supply = { result := .error trouble, manager := manager.spent, supply } := by
  obtain ⟨live, created, plan⟩ := manager
  obtain rfl : live = none := h
  rcases plan with _ | ⟨build, plan⟩
  · simp [nextBuild, Build.trouble?] at hbuild
  · cases build <;> simp_all [nextBuild, Build.trouble?, acquire, spent]

/-- The manager with the next session of a supply, just made. -/
def renewed (manager : Manager) (supply : Supply) : Manager :=
  { manager.spent with live := some supply.session, created := manager.created + 1 }

theorem acquire_of_success (h : manager.live = none)
    (hbuild : manager.nextBuild.trouble? = none) :
    manager.acquire supply =
      { result := .ok supply.session, manager := manager.renewed supply, supply := supply.advance
        log := [.sessionCreated supply.nextId] } := by
  obtain ⟨live, created, plan⟩ := manager
  obtain rfl : live = none := h
  rcases plan with _ | ⟨build, plan⟩
  · rfl
  · cases build <;> first | rfl | simp [nextBuild, Build.trouble?] at hbuild

/-- **Acquiring gets the live session, or fails, or makes a new one.** -/
theorem acquire_cases (manager : Manager) (supply : Supply) :
    (∃ session, manager.live = some session ∧
      manager.acquire supply = { result := .ok session, manager, supply }) ∨
    (∃ trouble, manager.live = none ∧ manager.nextBuild.trouble? = some trouble ∧
      manager.acquire supply = { result := .error trouble, manager := manager.spent, supply }) ∨
    (manager.live = none ∧ manager.nextBuild.trouble? = none ∧
      manager.acquire supply =
        { result := .ok supply.session, manager := manager.renewed supply
          supply := supply.advance, log := [.sessionCreated supply.nextId] }) := by
  cases hlive : manager.live with
  | some session => exact .inl ⟨session, rfl, acquire_of_live supply hlive⟩
  | none =>
    cases hbuild : manager.nextBuild.trouble? with
    | some trouble => exact .inr (.inl ⟨trouble, rfl, rfl, acquire_of_trouble supply hlive hbuild⟩)
    | none => exact .inr (.inr ⟨rfl, rfl, acquire_of_success supply hlive hbuild⟩)

/-- A failed acquisition has found no live session, and has changed nothing but the plan. -/
theorem acquire_of_error {trouble : Trouble}
    (h : (manager.acquire supply).result = .error trouble) :
    manager.live = none ∧
      manager.acquire supply = { result := .error trouble, manager := manager.spent, supply } := by
  rcases manager.acquire_cases supply with ⟨session, -, hgot⟩ | ⟨other, hlive, -, hgot⟩ | ⟨-, -, hgot⟩
  · rw [hgot] at h
    cases h
  · rw [hgot] at h
    cases h
    exact ⟨hlive, hgot⟩
  · rw [hgot] at h
    cases h

/-- The session that an acquisition gets is live behind it. -/
theorem live_of_ok {session : Session} (h : (manager.acquire supply).result = .ok session) :
    (manager.acquire supply).manager.live = some session := by
  rcases manager.acquire_cases supply with ⟨other, hlive, hgot⟩ | ⟨trouble, -, -, hgot⟩ | ⟨-, -, hgot⟩
  · rw [hgot] at h ⊢
    cases h
    exact hlive
  · rw [hgot] at h
    cases h
  · rw [hgot] at h ⊢
    cases h
    rfl

end Manager

end Relay
