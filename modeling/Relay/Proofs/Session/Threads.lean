import Relay.Proofs.Session.Manager
import Relay.Session.Run
import Relay.Session.Threads

/-!
# Threads take turns

Whatever the schedule is, a thread comes to what it would come to if the threads came one after
another, in the order in which they take the lock (`Sound`, `Sound.go`).

The argument looks at what a thread still has to do (`Point.rest`), as if no other one could get in
any more. A step of the thread does the first part of it (`rest_stride`); a step of another thread
does not change it, because the manager is touched by nobody but the holder of the lock. So what the
holder of the lock comes to is settled when it takes the lock.
-/

namespace Relay

/-! ## 1. What a thread still has to do -/

/-- What a thread that has come so far comes to, when no other one gets in any more. -/
def Point.rest (operation : Operation) (manager : Manager) (supply : Supply) : Point → Ran
  | .waiting | .entered => operation.alone manager supply
  | .empty => Operation.acquire.alone manager supply
  | .built session =>
    { answer := .session session
      manager := { manager with live := some session, created := manager.created + 1 }
      supply
      log := [.sessionCreated session.id] }
  | .counted session =>
    { answer := .session session, manager := { manager with live := some session }, supply
      log := [.sessionCreated session.id] }
  | .logged session =>
    { answer := .session session, manager := { manager with live := some session }, supply }
  | .emptied previous | .reporting previous =>
    { answer := .shutDown, manager, supply
      log := previous.toList.map (fun session => .sessionShutDown session.id) }
  | .leaving answer | .done answer => { answer, manager, supply }

section Rest

variable (operation : Operation) {manager : Manager} (supply : Supply)

theorem alone_of_live {session : Session} (h : manager.live = some session) :
    Operation.acquire.alone manager supply =
      { answer := .session session, manager, supply } := by
  simp only [Operation.alone, Manager.acquire_of_live supply h, Manager.isActive, h,
    Option.isSome_some, if_true]

theorem alone_of_trouble {trouble : Manager.Trouble} (h : manager.live = none)
    (hbuild : manager.nextBuild.trouble? = some trouble) :
    Operation.acquire.alone manager supply =
      { answer := .troubled trouble, manager := manager.spent, supply
        build := some manager.nextBuild } := by
  simp [Operation.alone, Manager.acquire_of_trouble supply h hbuild, Manager.isActive, h]

theorem alone_of_success (h : manager.live = none) (hbuild : manager.nextBuild.trouble? = none) :
    Operation.acquire.alone manager supply =
      { answer := .session supply.session, manager := manager.renewed supply
        supply := supply.advance, build := some manager.nextBuild
        log := [.sessionCreated supply.nextId] } := by
  simp [Operation.alone, Manager.acquire_of_success supply h hbuild, Manager.isActive, h]

/-- **A step does the first part of what is to be done.** -/
theorem rest_stride (manager : Manager) (point : Point)
    (hempty : point = .empty → manager.live = none) :
    let stride := operation.stride manager supply point
    let before := point.rest operation manager supply
    let after := stride.point.rest operation stride.manager stride.supply
    (before.answer, before.manager, before.supply) = (after.answer, after.manager, after.supply) ∧
      before.build.toList = stride.build.toList ++ after.build.toList ∧
      before.log = stride.log ++ after.log ∧
      (stride.point = .empty → stride.manager.live = none) := by
  cases point with
  | waiting => exact ⟨rfl, rfl, rfl, by simp [Operation.stride]⟩
  | entered =>
    cases operation with
    | acquire =>
      cases hlive : manager.live with
      | some session =>
        simp [Operation.stride, Point.rest, hlive, alone_of_live supply hlive]
      | none => simp [Operation.stride, Point.rest, hlive]
    | shutdown =>
      cases hlive : manager.live <;>
        simp [Operation.stride, Point.rest, Operation.alone, Manager.shutdown, hlive]
  | empty =>
    have hlive := hempty rfl
    cases hbuild : manager.nextBuild with
    | succeeds =>
      have htrouble : manager.nextBuild.trouble? = none := by rw [hbuild]; rfl
      simp only [Operation.stride, Point.rest, hbuild, alone_of_success supply hlive htrouble]
      exact ⟨rfl, rfl, rfl, by simp⟩
    | fails =>
      have htrouble : manager.nextBuild.trouble? = some .failed := by rw [hbuild]; rfl
      simp [Operation.stride, Point.rest, hbuild, alone_of_trouble supply hlive htrouble]
    | breaks =>
      have htrouble : manager.nextBuild.trouble? = some .broken := by rw [hbuild]; rfl
      simp [Operation.stride, Point.rest, hbuild, alone_of_trouble supply hlive htrouble]
  | built session => exact ⟨rfl, rfl, rfl, by simp [Operation.stride]⟩
  | counted session => exact ⟨rfl, rfl, rfl, by simp [Operation.stride]⟩
  | logged session => exact ⟨rfl, rfl, rfl, by simp [Operation.stride]⟩
  | emptied previous => exact ⟨rfl, rfl, rfl, by simp [Operation.stride]⟩
  | leaving answer => exact ⟨rfl, rfl, rfl, by simp [Operation.stride]⟩
  | reporting previous =>
    refine ⟨rfl, rfl, ?_, by simp [Operation.stride]⟩
    simp [Operation.stride, Point.rest]
  | done answer => exact ⟨rfl, rfl, rfl, by simp [Operation.stride]⟩

/-- Whether a thread has taken the lock and given it back. -/
def Point.isOut : Point → Bool
  | .reporting _ | .done _ => true
  | _ => false

theorem Point.isOut_iff {point : Point} :
    point.isOut = true ↔ point ≠ .waiting ∧ point.isInside = false := by
  cases point <;> simp [isOut, isInside]

/-- A thread that is out does not look at the manager any more, and has nothing to do with it. -/
theorem rest_of_out {point : Point} (h : point.isOut = true) (manager other : Manager)
    (s : Supply) :
    let rest := point.rest operation manager supply
    rest.answer = (point.rest operation other s).answer ∧
      rest.log = (point.rest operation other s).log ∧ rest.build = none ∧
      (rest.manager, rest.supply) = (manager, supply) := by
  cases point <;> first | exact ⟨rfl, rfl, rfl, rfl⟩ | simp [Point.isOut] at h

theorem stride_of_out {point : Point} (h : point.isOut = true) (manager : Manager) :
    let stride := operation.stride manager supply point
    (stride.manager, stride.supply, stride.build) = (manager, supply, none) ∧
      stride.point.isOut = true := by
  cases point <;> first | exact ⟨rfl, rfl⟩ | simp [Point.isOut] at h

/-- A thread that is inside does not go back in front of the lock. -/
theorem stride_of_inside {point : Point} (h : point.isInside = true) (manager : Manager) :
    (operation.stride manager supply point).point ≠ .waiting := by
  cases point with
  | entered =>
    cases operation with
    | acquire => cases hlive : manager.live <;> simp [Operation.stride, hlive]
    | shutdown => simp [Operation.stride]
  | empty => cases hbuild : manager.nextBuild <;> simp [Operation.stride, hbuild]
  | waiting => simp [Point.isInside] at h
  | _ => simp [Operation.stride]

end Rest

/-! ## 2. One after another -/

section Turns

variable {ι : Type} (work : ι → Operation) (manager : Manager) (supply : Supply)

/-- The builds that are tried when threads come one after another. -/
def turnBuilds (turns : List (ι × Ran)) : List (ι × Build) :=
  turns.flatMap (fun turn => turn.2.build.toList.map (fun build => (turn.1, build)))

theorem inTurn_append (threads : List ι) (thread : ι) :
    inTurn work manager supply (threads ++ [thread]) =
      inTurn work manager supply threads ++
        [(thread, (work thread).alone (settled work manager supply threads).1
          (settled work manager supply threads).2)] := by
  induction threads generalizing manager supply with
  | nil => rfl
  | cons first more ih =>
    simp only [List.cons_append, inTurn, ih]
    rfl

theorem settled_append (threads : List ι) (thread : ι) :
    settled work manager supply (threads ++ [thread]) =
      let ran := (work thread).alone (settled work manager supply threads).1
        (settled work manager supply threads).2
      (ran.manager, ran.supply) := by
  simp only [settled, List.foldl_append, List.foldl_cons, List.foldl_nil]

/-- Acquiring in a row is acquiring at the same time, one after another. -/
theorem acquireMany_eq_inTurn (threads : List ι) (h : ∀ thread ∈ threads, work thread = .acquire) :
    let (results, after, supplyAfter, log) := Session.acquireMany manager supply threads.length
    let turns := inTurn work manager supply threads
    turns.map (fun turn => turn.2.answer) = results.map (fun
        | .ok session => .session session
        | .error trouble => .troubled trouble) ∧
      settled work manager supply threads = (after, supplyAfter) ∧
      turns.flatMap (fun turn => turn.2.log) = log := by
  induction threads generalizing manager supply with
  | nil => exact ⟨rfl, rfl, rfl⟩
  | cons first more ih =>
    obtain ⟨hfirst, hmore⟩ := List.forall_mem_cons.mp h
    have hrest := ih (manager.acquire supply).manager (manager.acquire supply).supply hmore
    obtain ⟨hanswers, hsettled, hlog⟩ := hrest
    simp only [List.length_cons, Session.acquireMany, inTurn, hfirst, Operation.alone,
      List.map_cons, List.flatMap_cons]
    refine ⟨congrArg _ hanswers, ?_, congrArg _ hlog⟩
    rw [← hsettled]
    simp only [settled, List.foldl_cons, hfirst, Operation.alone]

end Turns

/-! ## 3. What holds at any time -/

namespace World

variable {ι : Type} [DecidableEq ι]

/-- What a thread comes to, when no other one gets in any more. -/
def restOf (work : ι → Operation) (world : World ι) (thread : ι) : Ran :=
  (world.points thread).rest (work thread) world.manager world.supply

/-- The manager and the supply when the thread that holds the lock is through. -/
def outlook (work : ι → Operation) (world : World ι) : Manager × Supply :=
  match world.holder with
  | none => (world.manager, world.supply)
  | some thread => ((world.restOf work thread).manager, (world.restOf work thread).supply)

/-- The build that the thread that holds the lock has yet to try. -/
def buildAhead (work : ι → Operation) (world : World ι) : List (ι × Build) :=
  match world.holder with
  | none => []
  | some thread => (world.restOf work thread).build.toList.map (fun build => (thread, build))

/-- Whether the threads that have taken the lock come to what they come to one after another. -/
structure Sound (work : ι → Operation) (manager : Manager) (supply : Supply) (world : World ι) :
    Prop where
  /-- The lock keeps all others out. -/
  inside : ∀ thread, (world.points thread).isInside = true ↔ world.holder = some thread
  waiting : ∀ thread, world.points thread = .waiting ↔ thread ∉ world.taken
  nodup : world.taken.Nodup
  empty : ∀ thread, world.points thread = .empty → world.manager.live = none
  silent : ∀ thread, thread ∉ world.taken → world.logOf thread = []
  outlook : settled work manager supply world.taken = world.outlook work
  builds : turnBuilds (inTurn work manager supply world.taken) =
    world.builds ++ world.buildAhead work
  /-- What a thread has logged is the first part of what it logs in its turn. -/
  turns : ∀ thread ∈ world.taken, ∃ ran, (thread, ran) ∈ inTurn work manager supply world.taken ∧
    ran.answer = (world.restOf work thread).answer ∧
      ran.log = world.logOf thread ++ (world.restOf work thread).log

section Advance

variable (work : ι → Operation) {world : World ι} {thread other : ι}

theorem advance_of_blocked (hwaiting : world.points thread = .waiting)
    (hholder : world.holder.isSome = true) : world.advance work thread = world := by
  simp only [advance, hwaiting, hholder, and_self, if_true]

theorem advance_of_free (hwaiting : world.points thread = .waiting)
    (hholder : world.holder = none) :
    world.advance work thread =
      { world with
        holder := some thread
        points := world.moved thread .entered
        taken := world.taken ++ [thread] } := by
  simp [advance, hwaiting, hholder, Operation.stride, Point.isInside]

/-- What becomes of a world with a stride of a thread that has taken the lock before. -/
structure Went (world after : World ι) (thread : ι) (stride : Stride) : Prop where
  manager : after.manager = stride.manager
  supply : after.supply = stride.supply
  point : after.points thread = stride.point
  log : after.logOf thread = world.logOf thread ++ stride.log
  otherPoint : ∀ other, other ≠ thread → after.points other = world.points other
  otherLog : ∀ other, other ≠ thread → after.logOf other = world.logOf other
  taken : after.taken = world.taken
  builds : after.builds = world.builds ++ stride.build.toList.map (fun build => (thread, build))
  holder : after.holder =
    if stride.point.isInside then some thread
    else if (world.points thread).isInside then none
    else world.holder

theorem moved_self (point : Point) : world.moved thread point thread = point :=
  if_pos rfl

theorem moved_of_ne (point : Point) (h : other ≠ thread) :
    world.moved thread point other = world.points other :=
  if_neg h

theorem filter_log (log : List (ι × Event)) (thread other : ι) (events : List Event) :
    ((log ++ events.map (fun event => (thread, event))).filter (fun record => record.1 = other)).map
        Prod.snd =
      (log.filter (fun record => record.1 = other)).map Prod.snd ++
        if thread = other then events else [] := by
  rw [List.filter_append, List.map_append, List.filter_map]
  by_cases h : thread = other
  · simp [h, Function.comp_def]
  · simp [h, Function.comp_def]

theorem went_advance (hwaiting : world.points thread ≠ .waiting) :
    Went world (world.advance work thread) thread
      ((work thread).stride world.manager world.supply (world.points thread)) := by
  simp only [advance, hwaiting, false_and, if_false]
  refine ⟨rfl, rfl, moved_self _, ?_, fun other hne => moved_of_ne _ hne, fun other hne => ?_, rfl,
    rfl, rfl⟩
  · simp only [logOf, filter_log, if_true]
  · simp only [logOf, filter_log, if_neg (Ne.symm hne), List.append_nil]

theorem Went.restOf_eq {after : World ι} {stride : Stride} (h : Went world after thread stride) :
    after.restOf work thread =
      stride.point.rest (work thread) stride.manager stride.supply := by
  rw [restOf, h.point, h.manager, h.supply]

end Advance

variable {work : ι → Operation} {manager : Manager} {supply : Supply} {world after : World ι}
  {thread : ι}

theorem sound_start (work : ι → Operation) (manager : Manager) (supply : Supply)
    (poisoned : Bool) : Sound work manager supply { manager, supply, poisoned } := by
  refine ⟨?_, ?_, List.nodup_nil, ?_, fun _ _ => rfl, rfl, rfl, ?_⟩ <;> simp [Point.isInside]

namespace Sound

/-- A thread that does not wait for the lock has taken it. -/
theorem taken_of_not_waiting (h : Sound work manager supply world)
    (hwaiting : world.points thread ≠ .waiting) : thread ∈ world.taken :=
  Classical.byContradiction fun hnot => hwaiting ((h.waiting thread).mpr hnot)

/-- A thread that has taken the lock, and does not hold it, is out. -/
theorem isOut (h : Sound work manager supply world) (htaken : thread ∈ world.taken)
    (hholder : world.holder ≠ some thread) : (world.points thread).isOut = true := by
  refine Point.isOut_iff.mpr ⟨fun hwaiting => (h.waiting thread).mp hwaiting htaken, ?_⟩
  exact Bool.eq_false_iff.mpr fun hinside => hholder ((h.inside thread).mp hinside)

/-- A thread that takes the lock has everything still to do. -/
theorem advance_of_free (h : Sound work manager supply world)
    (hwaiting : world.points thread = .waiting) (hholder : world.holder = none) :
    Sound work manager supply (world.advance work thread) := by
  have hnew : thread ∉ world.taken := (h.waiting thread).mp hwaiting
  have hout : ∀ other, (world.points other).isInside = false := fun other =>
    Bool.eq_false_iff.mpr fun hinside => by
      have := (h.inside other).mp hinside
      simp [hholder] at this
  have hsettled : settled work manager supply world.taken = (world.manager, world.supply) := by
    rw [h.outlook, World.outlook, hholder]
  have hbuilds : turnBuilds (inTurn work manager supply world.taken) = world.builds := by
    rw [h.builds, buildAhead, hholder, List.append_nil]
  rw [World.advance_of_free work hwaiting hholder]
  refine ⟨fun other => ?_, fun other => ?_, ?_, fun other => ?_, fun other hother => ?_, ?_, ?_,
    fun other hother => ?_⟩
  · by_cases hother : other = thread
    · subst hother
      simp [moved_self, Point.isInside]
    · simp [moved_of_ne _ hother, hout other, Ne.symm hother]
  · by_cases hother : other = thread
    · subst hother
      simp [moved_self]
    · simp [moved_of_ne _ hother, h.waiting other, hother]
  · refine List.nodup_append.mpr ⟨h.nodup, by simp, fun a ha b hb => ?_⟩
    exact fun heq => hnew (List.mem_singleton.mp hb ▸ heq ▸ ha)
  · by_cases hother : other = thread
    · subst hother
      simp [moved_self]
    · simpa only [moved_of_ne _ hother] using h.empty other
  · exact h.silent other fun hmem => hother (List.mem_append_left _ hmem)
  · simp only [settled_append, hsettled, World.outlook, restOf, moved_self, Point.rest]
  · simp only [inTurn_append, turnBuilds, List.flatMap_append, List.flatMap_cons, List.flatMap_nil,
      List.append_nil, hsettled, buildAhead, restOf, moved_self, Point.rest]
    rw [← turnBuilds, hbuilds]
  · rw [inTurn_append, hsettled]
    by_cases heq : other = thread
    · subst heq
      refine ⟨_, List.mem_append_right _ (List.mem_singleton_self _), ?_, ?_⟩
      · simp only [restOf, moved_self, Point.rest]
      · have hsilent := h.silent other hnew
        simp only [logOf] at hsilent
        simp only [restOf, moved_self, Point.rest, logOf, hsilent, List.nil_append]
    · have hmem : other ∈ world.taken := by simpa [heq] using hother
      obtain ⟨ran, hran, hanswer, hlog⟩ := h.turns other hmem
      refine ⟨ran, List.mem_append_left _ hran, ?_, ?_⟩
      · simpa only [restOf, moved_of_ne _ heq] using hanswer
      · simp only [restOf, moved_of_ne _ heq]
        exact hlog

section Went

variable {stride : Stride} {other : ι} (h : Sound work manager supply world)
  (hwent : Went world after thread stride)

include h hwent

/-- What a thread comes to that is out does not change when another one goes on. -/
theorem rest_of_other (hne : other ≠ thread) (htaken : other ∈ world.taken)
    (hholder : world.holder ≠ some other) :
    (after.restOf work other).answer = (world.restOf work other).answer ∧
      (after.restOf work other).log = (world.restOf work other).log := by
  have hout := h.isOut htaken hholder
  obtain ⟨hanswer, hlog, -, -⟩ :=
    rest_of_out (work other) after.supply hout after.manager world.manager world.supply
  simp only [restOf, hwent.otherPoint other hne, hanswer, hlog, and_self]

/-- A thread that has taken the lock does not go back in front of it. -/
theorem waiting_of_went (htaken : thread ∈ world.taken) (hstays : stride.point ≠ .waiting)
    (other : ι) : after.points other = .waiting ↔ other ∉ after.taken := by
  rw [hwent.taken]
  by_cases heq : other = thread
  · subst heq
    simp [hwent.point, hstays, htaken]
  · rw [hwent.otherPoint other heq]
    exact h.waiting other

theorem silent_of_went (htaken : thread ∈ world.taken) (hother : other ∉ after.taken) :
    after.logOf other = [] := by
  rw [hwent.taken] at hother
  rw [hwent.otherLog other fun heq => hother (heq ▸ htaken)]
  exact h.silent other hother

/-- A thread that does the first part of what it has to do comes to the same, and so do the others
that it leaves alone. -/
theorem turns_of_went
    (hanswer : (world.restOf work thread).answer = (after.restOf work thread).answer)
    (hlog : (world.restOf work thread).log = stride.log ++ (after.restOf work thread).log)
    (hothers : ∀ other, other ≠ thread → other ∈ world.taken →
      (after.restOf work other).answer = (world.restOf work other).answer ∧
        (after.restOf work other).log = (world.restOf work other).log) :
    ∀ other ∈ after.taken, ∃ ran, (other, ran) ∈ inTurn work manager supply after.taken ∧
      ran.answer = (after.restOf work other).answer ∧
        ran.log = after.logOf other ++ (after.restOf work other).log := by
  intro other hother
  rw [hwent.taken] at hother ⊢
  obtain ⟨ran, hran, hsame, hlogged⟩ := h.turns other hother
  refine ⟨ran, hran, ?_⟩
  by_cases heq : other = thread
  · subst heq
    rw [hwent.log, List.append_assoc, ← hlog, ← hanswer]
    exact ⟨hsame, hlogged⟩
  · obtain ⟨ha, hl⟩ := hothers other heq hother
    rw [ha, hl, hwent.otherLog other heq]
    exact ⟨hsame, hlogged⟩

end Went

/-- **A step of the thread that holds the lock does the first part of what it has to do.** -/
theorem advance_of_inside (h : Sound work manager supply world)
    (hholder : world.holder = some thread) :
    Sound work manager supply (world.advance work thread) := by
  have hinside : (world.points thread).isInside = true := (h.inside thread).mpr hholder
  have hwaiting : world.points thread ≠ .waiting := fun heq => by
    simp [heq, Point.isInside] at hinside
  have htaken := h.taken_of_not_waiting hwaiting
  have hone : ∀ other, other ≠ thread → world.holder ≠ some other := fun other hne heq =>
    hne (Option.some.inj (heq.symm.trans hholder))
  obtain ⟨hresult, hbuild, hlog, hempty⟩ := rest_stride (work thread) world.supply world.manager
    (world.points thread) (h.empty thread)
  have hstays := stride_of_inside (work thread) world.supply hinside world.manager
  have hwent := went_advance work hwaiting
  generalize (work thread).stride world.manager world.supply (world.points thread) = stride at *
  generalize world.advance work thread = after at hwent ⊢
  have hafter : after.holder = if stride.point.isInside then some thread else none := by
    rw [hwent.holder, hinside, if_pos rfl]
  have hrest := hwent.restOf_eq work
  have hover : stride.point.isInside ≠ true → _ := fun hin =>
    rest_of_out (work thread) stride.supply
      (Point.isOut_iff.mpr ⟨hstays, Bool.eq_false_iff.mpr hin⟩) stride.manager stride.manager
      stride.supply
  simp only [Prod.mk.injEq] at hresult
  obtain ⟨hanswer, hmanager, hsupply⟩ := hresult
  refine ⟨fun other => ?_, h.waiting_of_went hwent htaken hstays, hwent.taken ▸ h.nodup,
    fun other hpoint => ?_, fun other => h.silent_of_went hwent htaken, ?_, ?_,
    h.turns_of_went hwent (hrest ▸ hanswer) (hrest ▸ hlog) fun other hne hmem =>
      h.rest_of_other hwent hne hmem (hone other hne)⟩
  · rw [hafter]
    by_cases hother : other = thread
    · subst hother
      by_cases hin : stride.point.isInside = true <;> simp [hwent.point, hin]
    · have hout := Bool.eq_false_iff.mpr fun hin => hone other hother ((h.inside other).mp hin)
      by_cases hin : stride.point.isInside = true <;>
        simp [hwent.otherPoint other hother, hin, hout, Ne.symm hother]
  · rw [hwent.manager]
    by_cases hother : other = thread
    · subst hother
      exact hempty (hwent.point.symm.trans hpoint)
    · rw [hwent.otherPoint other hother] at hpoint
      have hin : (world.points other).isInside = true := by rw [hpoint]; rfl
      exact absurd ((h.inside other).mp hin) (hone other hother)
  · have houtlook := h.outlook
    simp only [World.outlook, hholder, restOf, hmanager, hsupply] at houtlook
    rw [hwent.taken, houtlook, World.outlook, hafter]
    by_cases hin : stride.point.isInside = true
    · simp only [hin, if_true, hrest]
    · obtain ⟨-, -, -, hsame⟩ := hover hin
      simp only [hin, hwent.manager, hwent.supply]
      exact hsame
  · have hbuilds := h.builds
    simp only [buildAhead, hholder, restOf, hbuild, List.map_append] at hbuilds
    rw [hwent.taken, hbuilds, hwent.builds, buildAhead, hafter, List.append_assoc]
    by_cases hin : stride.point.isInside = true
    · simp only [hin, if_true, hrest]
    · obtain ⟨-, -, hnone, -⟩ := hover hin
      simp [hin, hnone]

/-- **A step of a thread that is out is no concern of the manager.** -/
theorem advance_of_out (h : Sound work manager supply world)
    (hout : (world.points thread).isOut = true) :
    Sound work manager supply (world.advance work thread) := by
  obtain ⟨hwaiting, hinside⟩ := Point.isOut_iff.mp hout
  have htaken := h.taken_of_not_waiting hwaiting
  have hnot : world.holder ≠ some thread := fun heq => by
    simp [(h.inside thread).mpr heq] at hinside
  have hempty : world.points thread ≠ .empty := fun heq => by simp [heq, Point.isOut] at hout
  obtain ⟨hresult, -, hlog, -⟩ := rest_stride (work thread) world.supply world.manager
    (world.points thread) fun heq => absurd heq hempty
  obtain ⟨hsame, hstays⟩ := stride_of_out (work thread) world.supply hout world.manager
  have hwent := went_advance work hwaiting
  generalize (work thread).stride world.manager world.supply (world.points thread) = stride at *
  generalize world.advance work thread = after at hwent ⊢
  simp only [Prod.mk.injEq] at hsame hresult
  obtain ⟨hmanager, hsupply, hbuild⟩ := hsame
  obtain ⟨hstill, hstaysOut⟩ := Point.isOut_iff.mp hstays
  have hholder : after.holder = world.holder := by
    simp [hwent.holder, hstaysOut, hinside]
  have hlook : after.manager = world.manager ∧ after.supply = world.supply :=
    ⟨hwent.manager.trans hmanager, hwent.supply.trans hsupply⟩
  have hother : ∀ other, other ≠ thread → after.restOf work other = world.restOf work other :=
    fun other hne => by rw [restOf, hwent.otherPoint other hne, hlook.1, hlook.2, restOf]
  have hrest := hwent.restOf_eq work
  refine ⟨fun other => ?_, h.waiting_of_went hwent htaken hstill, hwent.taken ▸ h.nodup,
    fun other hpoint => ?_, fun other => h.silent_of_went hwent htaken, ?_, ?_,
    h.turns_of_went hwent (hrest ▸ hresult.1) (hrest ▸ hlog) fun other hne _ =>
      ⟨by rw [hother other hne], by rw [hother other hne]⟩⟩
  · rw [hholder]
    by_cases heq : other = thread
    · subst heq
      simp [hwent.point, hstaysOut, hnot]
    · rw [hwent.otherPoint other heq]
      exact h.inside other
  · rw [hlook.1]
    by_cases heq : other = thread
    · subst heq
      rw [hwent.point.symm.trans hpoint] at hstays
      simp [Point.isOut] at hstays
    · exact h.empty other ((hwent.otherPoint other heq).symm.trans hpoint)
  · rw [hwent.taken, h.outlook, World.outlook, World.outlook, hholder]
    cases hone : world.holder with
    | none => simp only [hlook]
    | some other => simp only [hother other fun heq => hnot (heq ▸ hone)]
  · rw [hwent.taken, h.builds, hwent.builds, hbuild, buildAhead, buildAhead, hholder]
    cases hone : world.holder with
    | none => simp
    | some other => simp [hother other fun heq => hnot (heq ▸ hone)]

/-- **Whatever thread is next, the threads come to what they come to one after another.** -/
theorem advance (h : Sound work manager supply world) (thread : ι) :
    Sound work manager supply (world.advance work thread) := by
  by_cases hwaiting : world.points thread = .waiting
  · cases hholder : world.holder with
    | none => exact h.advance_of_free hwaiting hholder
    | some other =>
      rw [advance_of_blocked work hwaiting (by rw [hholder]; rfl)]
      exact h
  · cases hinside : (world.points thread).isInside with
    | true => exact h.advance_of_inside ((h.inside thread).mp hinside)
    | false => exact h.advance_of_out (Point.isOut_iff.mpr ⟨hwaiting, hinside⟩)

theorem go (h : Sound work manager supply world) (schedule : List ι) :
    Sound work manager supply (world.go work schedule) := by
  induction schedule generalizing world with
  | nil => exact h
  | cons thread more ih => exact ih (h.advance thread)

end Sound

end World

end Relay
