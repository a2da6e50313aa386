import Mathlib.Data.List.Nodup
import Relay.Proofs.Session.Threads

/-!
# Threads get what they would get one after another

Whatever the schedule is, every thread gets out of a manager what it would get if the threads came
one after another, in the order in which they take the lock (`serial_of_schedule`). With
`inTurn` in the place of the schedule it is plain what threads come to that only acquire: they share
one session, and only those go without it that tried to build it too early (`OneSession`).
-/

namespace Relay

/-! ## 1. Nobody waits for good -/

/-- How many steps a thread that has come so far is away from the end, at most. -/
def Point.left : Point → Nat
  | .waiting => 7
  | .entered => 6
  | .empty => 5
  | .built _ => 4
  | .counted _ => 3
  | .logged _ | .emptied _ => 2
  | .leaving _ | .reporting _ => 1
  | .done _ => 0

theorem left_stride (operation : Operation) (manager : Manager) (supply : Supply) (point : Point) :
    (operation.stride manager supply point).point.left ≤ point.left - 1 := by
  cases point with
  | entered =>
    cases operation with
    | acquire => cases hlive : manager.live <;> simp [Operation.stride, Point.left, hlive]
    | shutdown => simp [Operation.stride, Point.left]
  | empty => cases hbuild : manager.nextBuild <;> simp [Operation.stride, Point.left, hbuild]
  | _ => simp [Operation.stride, Point.left]

theorem Point.eq_done {point : Point} (h : point.left = 0) : ∃ answer, point = .done answer := by
  cases point <;> first | exact ⟨_, rfl⟩ | simp [left] at h

namespace World

variable {ι : Type} [DecidableEq ι] (work : ι → Operation) {world : World ι} {thread : ι}

/-- A thread goes on, unless another one holds the lock. -/
theorem left_advance (h : world.points thread = .waiting → world.holder = none) :
    ((world.advance work thread).points thread).left ≤ (world.points thread).left - 1 := by
  by_cases hwaiting : world.points thread = .waiting
  · rw [advance_of_free work hwaiting (h hwaiting), hwaiting]
    simp [moved_self, Point.left]
  · rw [(went_advance work hwaiting).point]
    exact left_stride _ _ _ _

/-- **A thread gets an answer**, whether or not another one has broken off before. It needs the lock
only, and not a step of another thread. -/
theorem done_of_steps (steps : Nat) (h : world.points thread = .waiting → world.holder = none)
    (hleft : (world.points thread).left ≤ steps) :
    ∃ answer, (world.go work (List.replicate steps thread)).points thread = .done answer := by
  induction steps generalizing world with
  | zero => exact Point.eq_done (Nat.le_zero.mp hleft)
  | succ steps ih =>
    have hnext := left_advance work h
    refine ih (fun hwaiting => ?_) (by omega)
    rw [hwaiting] at hnext
    have hwhole : 7 ≤ (world.points thread).left - 1 := hnext
    cases hpoint : world.points thread <;> simp [hpoint, Point.left] at hwhole

end World

/-! ## 2. Acquiring only -/

/-- The session that an answer holds. -/
def Answer.session? : Answer → Option Session
  | .session got => some got
  | _ => none

theorem Answer.isSome_session? {answer : Answer} :
    answer.session?.isSome = true ↔ ∃ got, answer = .session got := by
  cases answer <;> simp [session?]

section Acquiring

variable {ι : Type} (work : ι → Operation) (manager : Manager) (supply : Supply)

/-- When there is a live session, everyone gets it. -/
theorem inTurn_of_live {session : Session} {threads : List ι}
    (hlive : manager.live = some session) (h : ∀ thread ∈ threads, work thread = .acquire) :
    inTurn work manager supply threads =
        threads.map (fun thread => (thread, { answer := .session session, manager, supply })) ∧
      settled work manager supply threads = (manager, supply) := by
  induction threads with
  | nil => exact ⟨rfl, rfl⟩
  | cons first more ih =>
    obtain ⟨hfirst, hmore⟩ := List.forall_mem_cons.mp h
    obtain ⟨hturns, hsettled⟩ := ih hmore
    have halone : (work first).alone manager supply =
        { answer := .session session, manager, supply } := by
      rw [hfirst, alone_of_live supply hlive]
    refine ⟨by simp only [inTurn, halone, hturns, List.map_cons], ?_⟩
    simp only [settled, List.foldl_cons, halone]
    exact hsettled

/-- What threads come to that only acquire, one after another. -/
structure OneSession (manager after : Manager) (turns : List (ι × Ran)) : Prop where
  session : ∀ turn ∈ turns, ∀ session, turn.2.answer = .session session → after.live = some session
  created : after.created = manager.created +
    if manager.live = none ∧ turns.any (fun turn => turn.2.answer.session?.isSome) then 1 else 0
  troubled : ∀ thread trouble, (∃ ran, (thread, ran) ∈ turns ∧ ran.answer = .troubled trouble) ↔
    ∃ build, (thread, build) ∈ (turnBuilds turns).takeWhile (fun tried => tried.2 ≠ .succeeds) ∧
      build.trouble? = some trouble
  answered : ∀ turn ∈ turns, turn.2.answer ≠ .shutDown

/-- Threads that all get one session, where no build has gone wrong before. -/
theorem oneSession_of_shared {after : Manager} {session : Session} {turns : List (ι × Ran)}
    (hlive : after.live = some session)
    (hcreated : after.created = manager.created + if manager.live = none ∧ turns ≠ [] then 1 else 0)
    (hshared : ∀ turn ∈ turns, turn.2.answer = .session session)
    (hbuilds : (turnBuilds turns).takeWhile (fun tried => tried.2 ≠ .succeeds) = []) :
    OneSession manager after turns := by
  refine ⟨fun turn hturn other hother => ?_, ?_, fun thread trouble => ⟨?_, ?_⟩,
    fun turn hturn hshut => ?_⟩
  · rw [hlive, Answer.session.inj ((hshared turn hturn).symm.trans hother)]
  · have hany : turns.any (fun turn => turn.2.answer.session?.isSome) = true ↔ turns ≠ [] := by
      cases turns with
      | nil => simp
      | cons turn more => simp [hshared turn List.mem_cons_self, Answer.session?]
    simp only [hcreated, hany]
  · rintro ⟨ran, hran, hanswer⟩
    rw [hshared _ hran] at hanswer
    cases hanswer
  · rintro ⟨build, hmem, -⟩
    rw [hbuilds] at hmem
    cases hmem
  · rw [hshared turn hturn] at hshut
    cases hshut

/-- A thread whose build goes wrong, with others behind it. -/
theorem oneSession_of_trouble {after : Manager} {turns : List (ι × Ran)} {trouble : Manager.Trouble}
    {thread : ι} {ran : Ran} (h : OneSession manager.spent after turns)
    (hbuild : manager.nextBuild.trouble? = some trouble) (hanswer : ran.answer = .troubled trouble)
    (htried : ran.build = some manager.nextBuild) :
    OneSession manager after ((thread, ran) :: turns) := by
  have hwrong : manager.nextBuild ≠ .succeeds := fun heq => by
    rw [heq] at hbuild
    cases hbuild
  refine ⟨?_, ?_, fun other reason => ?_, ?_⟩
  · simpa [hanswer] using h.session
  · simp only [List.any_cons, hanswer]
    exact h.created
  · have hmore := h.troubled other reason
    simp only [turnBuilds] at hmore
    simp only [turnBuilds, List.flatMap_cons, htried, Option.toList_some, List.map_cons,
      List.map_nil, List.singleton_append, List.takeWhile_cons, ne_eq, hwrong, not_false_eq_true,
      decide_true, if_true, List.mem_cons, Prod.mk.injEq]
    constructor
    · rintro ⟨got, ⟨rfl, rfl⟩ | hgot, hreason⟩
      · rw [hanswer] at hreason
        cases hreason
        exact ⟨_, .inl ⟨rfl, rfl⟩, hbuild⟩
      · obtain ⟨build, hmem, hkind⟩ := hmore.mp ⟨got, hgot, hreason⟩
        exact ⟨build, .inr hmem, hkind⟩
    · rintro ⟨build, ⟨rfl, rfl⟩ | hmem, hkind⟩
      · rw [hbuild] at hkind
        cases hkind
        exact ⟨_, .inl ⟨rfl, rfl⟩, hanswer⟩
      · obtain ⟨got, hgot, hreason⟩ := hmore.mpr ⟨build, hmem, hkind⟩
        exact ⟨got, .inr hgot, hreason⟩
  · simpa [hanswer] using h.answered

/-- **Threads that only acquire share one session.** -/
theorem oneSession_inTurn {threads : List ι} (h : ∀ thread ∈ threads, work thread = .acquire) :
    OneSession manager (settled work manager supply threads).1
      (inTurn work manager supply threads) := by
  induction threads generalizing manager supply with
  | nil => exact ⟨by simp [inTurn], by simp [inTurn, settled], by simp [inTurn, turnBuilds],
      by simp [inTurn]⟩
  | cons first more ih =>
    obtain ⟨hfirst, hmore⟩ := List.forall_mem_cons.mp h
    cases hlive : manager.live with
    | some session =>
      obtain ⟨hturns, hsettled⟩ := inTurn_of_live work manager supply hlive h
      rw [hturns, hsettled]
      exact oneSession_of_shared manager hlive (by simp [hlive]) (by simp)
        (by simp [turnBuilds, List.flatMap_eq_nil_iff.mpr])
    | none =>
      cases hbuild : manager.nextBuild.trouble? with
      | some trouble =>
        have halone : (work first).alone manager supply = _ :=
          hfirst ▸ alone_of_trouble supply hlive hbuild
        simp only [inTurn, settled, List.foldl_cons, halone]
        exact oneSession_of_trouble manager (ih manager.spent supply hmore) hbuild rfl rfl
      | none =>
        have halone : (work first).alone manager supply = _ :=
          hfirst ▸ alone_of_success supply hlive hbuild
        obtain ⟨hturns, hsettled⟩ := inTurn_of_live work (manager.renewed supply)
          supply.advance rfl hmore
        have hgood : manager.nextBuild = .succeeds := by
          cases h : manager.nextBuild <;> simp [h, Build.trouble?] at hbuild ⊢
        rw [settled] at hsettled
        simp only [inTurn, settled, List.foldl_cons, halone, hturns, hsettled]
        exact oneSession_of_shared manager rfl (by simp [Manager.renewed, hlive]) (by simp)
          (by simp [turnBuilds, List.flatMap_map, hgood])

end Acquiring

/-! ## 3. Any schedule -/

section Schedule

variable {ι : Type} (work : ι → Operation) (manager : Manager) (supply : Supply)

theorem inTurn_threads (threads : List ι) :
    (inTurn work manager supply threads).map Prod.fst = threads := by
  induction threads generalizing manager supply with
  | nil => rfl
  | cons first more ih => simp only [inTurn, List.map_cons, ih]

/-- Every thread has one turn. -/
theorem inTurn_unique {threads : List ι} (h : threads.Nodup) {thread : ι} {ran other : Ran}
    (hran : (thread, ran) ∈ inTurn work manager supply threads)
    (hother : (thread, other) ∈ inTurn work manager supply threads) : ran = other := by
  have hnodup : ((inTurn work manager supply threads).map Prod.fst).Nodup := by
    rwa [inTurn_threads]
  exact congrArg Prod.snd (List.inj_on_of_nodup_map hnodup hran hother rfl)

namespace World

variable [DecidableEq ι] {work manager supply} {world : World ι}

/-- **A thread that is through has got what it gets in its turn.** -/
theorem Sound.answered (h : Sound work manager supply world) {thread : ι} {answer : Answer}
    (hdone : world.points thread = .done answer) :
    ∃ ran, (thread, ran) ∈ inTurn work manager supply world.taken ∧ ran.answer = answer ∧
      ran.log = world.logOf thread := by
  have hwaiting : world.points thread ≠ .waiting := by simp [hdone]
  have htaken := h.taken_of_not_waiting hwaiting
  obtain ⟨ran, hran, hanswer, hlog⟩ := h.turns thread htaken
  refine ⟨ran, hran, ?_, ?_⟩
  · simp only [hanswer, restOf, hdone, Point.rest]
  · simp only [hlog, restOf, hdone, Point.rest, List.append_nil]

/-- When nobody holds the lock, all answers of threads that only acquire are there. -/
theorem Sound.done_iff (h : Sound work manager supply world) (hholder : world.holder = none)
    (hacquire : ∀ thread ∈ world.taken, work thread = .acquire) (thread : ι) (answer : Answer) :
    world.points thread = .done answer ↔
      ∃ ran, (thread, ran) ∈ inTurn work manager supply world.taken ∧ ran.answer = answer := by
  constructor
  · intro hdone
    obtain ⟨ran, hran, hanswer, -⟩ := h.answered hdone
    exact ⟨ran, hran, hanswer⟩
  · rintro ⟨ran, hran, hanswer⟩
    have htaken : thread ∈ world.taken := by
      rw [← inTurn_threads work manager supply world.taken]
      exact List.mem_map_of_mem hran
    obtain ⟨other, hother, hrest, -⟩ := h.turns thread htaken
    obtain rfl := inTurn_unique work manager supply h.nodup hran hother
    have hone := oneSession_inTurn work manager supply hacquire
    have hshut := hone.answered _ hran
    have hout := h.isOut htaken (by simp [hholder])
    rw [restOf] at hrest
    cases hpoint : world.points thread with
    | done got => rw [hpoint] at hrest; rw [← hanswer, hrest]; rfl
    | reporting previous => rw [hpoint] at hrest; exact absurd hrest hshut
    | _ => simp [hpoint, Point.isOut] at hout

/-- **Threads get what they would get one after another.**

Take any number of threads with one manager each of which acquires or shuts down, whatever the
manager holds at first and however its builds go, and any schedule of their steps. The threads take
the lock in some order, and each that is through has got and logged what it gets and logs when they
come one after another in this order; when nobody holds the lock, the manager is as it is then. A
thread that gets the lock gets an answer, also when another one has broken off.

If none of them shuts down, all that get a session get the same one; the manager has made one
session more if it had none before and somebody got one, and none otherwise; and those go without it
that tried to build it before the first one that succeeded. -/
theorem serial_of_schedule (work : ι → Operation) (manager : Manager) (supply : Supply)
    (poisoned : Bool) (schedule : List ι) :
    let world := World.go work { manager, supply, poisoned } schedule
    let turns := inTurn work manager supply world.taken
    world.taken.Nodup ∧
    (∀ thread answer, world.points thread = .done answer →
      ∃ ran, (thread, ran) ∈ turns ∧ ran.answer = answer ∧ ran.log = world.logOf thread) ∧
    (world.holder = none →
      settled work manager supply world.taken = (world.manager, world.supply)) ∧
    (∀ thread, world.holder = none ∨ world.holder = some thread →
      ∃ answer, (world.go work (List.replicate 7 thread)).points thread = .done answer) ∧
    (world.holder = none → (∀ thread ∈ world.taken, work thread = .acquire) →
      let succeeded := ∃ thread session, world.points thread = .done (.session session)
      (∀ thread session, world.points thread = .done (.session session) →
        world.manager.live = some session) ∧
      (manager.live = none ∧ succeeded → world.manager.created = manager.created + 1) ∧
      (¬ (manager.live = none ∧ succeeded) → world.manager.created = manager.created) ∧
      ∀ thread trouble, world.points thread = .done (.troubled trouble) ↔
        ∃ build, (thread, build) ∈ world.builds.takeWhile (fun tried => tried.2 ≠ .succeeds) ∧
          build.trouble? = some trouble) := by
  intro world turns
  have h : Sound work manager supply world :=
    (sound_start work manager supply poisoned).go schedule
  have hsettled (hholder : world.holder = none) :
      settled work manager supply world.taken = (world.manager, world.supply) := by
    rw [h.outlook, World.outlook, hholder]
  refine ⟨h.nodup, fun thread answer hdone => h.answered hdone, hsettled, fun thread hlock => ?_,
    fun hholder hacquire => ?_⟩
  · refine done_of_steps work 7 (fun hwaiting => hlock.resolve_right fun hown => ?_) ?_
    · simpa [hwaiting, Point.isInside] using (h.inside thread).mpr hown
    · cases world.points thread <;> simp [Point.left]
  · have hone := oneSession_inTurn work manager supply hacquire
    have hbuilds : turnBuilds turns = world.builds := by
      rw [h.builds, buildAhead, hholder, List.append_nil]
    have hanswers := h.done_iff hholder hacquire
    rw [hsettled hholder] at hone
    have hsucceeded : turns.any (fun turn => turn.2.answer.session?.isSome) = true ↔
        ∃ thread session, world.points thread = .done (.session session) := by
      simp only [List.any_eq_true, Answer.isSome_session?, hanswers]
      constructor
      · rintro ⟨⟨thread, ran⟩, hran, got, hgot⟩
        exact ⟨thread, got, ran, hran, hgot⟩
      · rintro ⟨thread, got, ran, hran, hgot⟩
        exact ⟨(thread, ran), hran, got, hgot⟩
    have hnew := and_congr_right' (a := manager.live = none) hsucceeded
    refine ⟨fun thread session hdone => ?_, fun hfirst => ?_, fun hlater => ?_,
      fun thread trouble => ?_⟩
    · obtain ⟨ran, hran, hanswer⟩ := (hanswers thread _).mp hdone
      exact hone.session _ hran session hanswer
    · exact hone.created.trans (by rw [if_pos (hnew.mpr hfirst)])
    · exact hone.created.trans (by rw [if_neg fun hboth => hlater (hnew.mp hboth), Nat.add_zero])
    · rw [hanswers, ← hbuilds]
      exact hone.troubled thread trouble

/-- A thread breaks off while two others wait for the lock, which then share a session. -/
theorem serial_of_schedule_poisoned :
    let world := World.go (fun _ : Fin 3 => .acquire)
      { manager := { plan := [.breaks] }, supply := {} }
      [0, 1, 0, 2, 0, 1, 0, 1, 2, 1, 1, 2, 1, 1, 1, 2, 1, 2, 2, 2]
    let session : Session := { pool := 0, id := 1 }
    world.poisoned = true ∧ world.holder = none ∧ world.taken = [0, 1, 2] ∧
      world.points 0 = .done (.troubled .broken) ∧ world.points 1 = .done (.session session) ∧
      world.points 2 = .done (.session session) ∧ world.manager.live = some session ∧
      world.manager.created = 1 := by
  intro world session
  have hholder : world.holder = none := by decide
  have hfirst : world.points 1 = .done (.session session) := by decide
  have hall := serial_of_schedule (fun _ : Fin 3 => .acquire) { plan := [.breaks] } {} false
    [0, 1, 0, 2, 0, 1, 0, 1, 2, 1, 1, 2, 1, 1, 1, 2, 1, 2, 2, 2]
  obtain ⟨-, -, -, -, hacquire⟩ := hall
  obtain ⟨hshared, hcreated, -, -⟩ := hacquire hholder fun _ _ => rfl
  exact ⟨by decide, hholder, by decide, by decide, hfirst, by decide, hshared 1 session hfirst,
    hcreated ⟨rfl, 1, session, hfirst⟩⟩

end World

end Schedule

end Relay
