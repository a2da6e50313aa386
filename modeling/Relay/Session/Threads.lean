import Relay.Session

/-!
# A manager in the hands of many threads

Any number of threads use one manager at the same time, each for one `Operation`. They take single
steps (`World.advance`), and a schedule says which thread is next: between any two steps of a
thread, others may get in.

* A thread waits until nobody holds the lock of the manager, and takes it. It gives it back when it
  is through with the slot of the live session.
* A build that breaks off gives the lock back poisoned. A poisoned lock is taken like any other.
* What a shutdown has found in the slot is logged when the lock has been given back.

`inTurn` says what the operations come to when each is through before the next one begins. A thread
that does several things counts as several threads, the later of which are scheduled later.
-/

namespace Relay

/-! ## 1. Operations -/

/-- What a thread does with a manager. -/
inductive Operation where
  | acquire
  | shutdown
  deriving DecidableEq, Repr

/-- What a thread has got out of its operation. -/
inductive Answer where
  | session (session : Session)
  | troubled (trouble : Manager.Trouble)
  | shutDown
  deriving DecidableEq, Repr

/-- How far a thread has come. -/
inductive Point where
  /-- It is in front of the lock. -/
  | waiting
  /-- It has got the lock, and has not looked into the slot. -/
  | entered
  /-- It has found no live session, and is going to build one. -/
  | empty
  /-- It has built a session, which is not counted, logged or in the slot. -/
  | built (session : Session)
  | counted (session : Session)
  | logged (session : Session)
  /-- It has taken out what was in the slot. -/
  | emptied (previous : Option Session)
  /-- It has an answer, and has yet to give the lock back. -/
  | leaving (answer : Answer)
  /-- It has given the lock back, and has yet to log what it has taken out. -/
  | reporting (previous : Option Session)
  | done (answer : Answer)
  deriving DecidableEq, Repr

/-- Whether a thread that has come so far holds the lock. -/
def Point.isInside : Point → Bool
  | .waiting | .reporting _ | .done _ => false
  | _ => true

/-! ## 2. Steps of a thread -/

/-- What a step of a thread comes to. -/
structure Stride where
  point : Point
  manager : Manager
  supply : Supply
  /-- How the build went, if there was one. -/
  build : Option Build := none
  log : List Event := []

/-- The next step of a thread, when nothing keeps it from going on. -/
def Operation.stride (operation : Operation) (manager : Manager) (supply : Supply) :
    Point → Stride
  | .waiting => { point := .entered, manager, supply }
  | .entered =>
    match operation, manager.live with
    | .acquire, some session => { point := .leaving (.session session), manager, supply }
    | .acquire, none => { point := .empty, manager, supply }
    | .shutdown, previous =>
      { point := .emptied previous, manager := { manager with live := none }, supply }
  | .empty =>
    match manager.nextBuild with
    | .succeeds =>
      { point := .built supply.session, manager := manager.spent, supply := supply.advance
        build := some .succeeds }
    | .fails =>
      { point := .leaving (.troubled .failed), manager := manager.spent, supply
        build := some .fails }
    | .breaks =>
      { point := .leaving (.troubled .broken), manager := manager.spent, supply
        build := some .breaks }
  | .built session =>
    { point := .counted session, manager := { manager with created := manager.created + 1 }
      supply }
  | .counted session =>
    { point := .logged session, manager, supply, log := [.sessionCreated session.id] }
  | .logged session =>
    { point := .leaving (.session session), manager := { manager with live := some session }
      supply }
  | .emptied previous => { point := .reporting previous, manager, supply }
  | .leaving answer => { point := .done answer, manager, supply }
  | .reporting previous =>
    { point := .done .shutDown, manager, supply
      log := previous.toList.map (fun session => .sessionShutDown session.id) }
  | .done answer => { point := .done answer, manager, supply }

/-! ## 3. Many threads -/

section World

variable {ι : Type} [DecidableEq ι]

/-- What the threads share, how far each has come, and what has happened. -/
structure World (ι : Type) where
  manager : Manager
  supply : Supply
  /-- Whether a thread that held the lock has broken off. -/
  poisoned : Bool := false
  /-- The thread that holds the lock. -/
  holder : Option ι := none
  points : ι → Point := fun _ => .waiting
  /-- The threads that have taken the lock, in this order. -/
  taken : List ι := []
  /-- The builds that were tried, and by which thread. -/
  builds : List (ι × Build) := []
  log : List (ι × Event) := []

namespace World

/-- How far the threads have come when one of them has got somewhere. -/
def moved (world : World ι) (thread : ι) (point : Point) : ι → Point :=
  fun other => if other = thread then point else world.points other

/-- What a thread has logged. -/
def logOf (world : World ι) (thread : ι) : List Event :=
  (world.log.filter (fun record => record.1 = thread)).map Prod.snd

/-- A step of a thread. It stays where it is while it waits for the lock, and when it is through. -/
def advance (work : ι → Operation) (world : World ι) (thread : ι) : World ι :=
  let point := world.points thread
  if point = .waiting ∧ world.holder.isSome then world
  else
    let stride := (work thread).stride world.manager world.supply point
    { manager := stride.manager
      supply := stride.supply
      poisoned := world.poisoned || point = .leaving (.troubled .broken)
      holder :=
        if stride.point.isInside then some thread
        else if point.isInside then none
        else world.holder
      points := world.moved thread stride.point
      taken := if point = .waiting then world.taken ++ [thread] else world.taken
      builds := world.builds ++ stride.build.toList.map (fun build => (thread, build))
      log := world.log ++ stride.log.map (fun event => (thread, event)) }

/-- Goes through a schedule. -/
def go (work : ι → Operation) (world : World ι) (schedule : List ι) : World ι :=
  schedule.foldl (advance work) world

end World

/-! ## 4. One after another -/

/-- What an operation comes to. -/
structure Ran where
  answer : Answer
  manager : Manager
  supply : Supply
  build : Option Build := none
  log : List Event := []

/-- What an operation comes to when no other one gets in. -/
def Operation.alone (operation : Operation) (manager : Manager) (supply : Supply) : Ran :=
  match operation with
  | .acquire =>
    let got := manager.acquire supply
    { answer := match got.result with
        | .ok session => .session session
        | .error trouble => .troubled trouble
      manager := got.manager
      supply := got.supply
      build := if manager.isActive then none else some manager.nextBuild
      log := got.log }
  | .shutdown =>
    let (manager, log) := manager.shutdown
    { answer := .shutDown, manager, supply, log }

/-- What the operations of threads come to, one after another. -/
def inTurn (work : ι → Operation) (manager : Manager) (supply : Supply) :
    List ι → List (ι × Ran)
  | [] => []
  | thread :: more =>
    let ran := (work thread).alone manager supply
    (thread, ran) :: inTurn work ran.manager ran.supply more

/-- The manager and the supply when all of them are through. -/
def settled (work : ι → Operation) (manager : Manager) (supply : Supply) (threads : List ι) :
    Manager × Supply :=
  threads.foldl (fun (manager, supply) thread =>
    let ran := (work thread).alone manager supply
    (ran.manager, ran.supply)) (manager, supply)

end World

end Relay
