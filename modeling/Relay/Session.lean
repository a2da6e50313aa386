import Relay.Log

/-!
# Sessions

All requests of a process share sessions. A `Manager` keeps at most one live session, makes it when
it is first asked for, and gives it up when it is shut down; handles given out before keep working.
Managers take new sessions from a common `Supply`, which numbers them in the order in which they are
made.

Making a session may fail or break off (`Build`); then nothing changes but the plan of builds to
come.
-/

namespace Relay

/-! ## 1. Sessions and their supply -/

/-- A handle of a session: the pool of connections that it stands for, and its number. -/
structure Session where
  pool : Nat
  id : Nat
  deriving DecidableEq, Repr

/-- Whether two handles stand for the same pool. -/
def Session.sameAs (a b : Session) : Bool :=
  a.pool == b.pool

/-- What new sessions are made from: the next free pool and the next number. -/
structure Supply where
  nextPool : Nat := 0
  nextId : Nat := 1
  deriving DecidableEq, Repr

/-- The next session. -/
def Supply.session (supply : Supply) : Session :=
  { pool := supply.nextPool, id := supply.nextId }

/-- The supply after its next session has been made. -/
def Supply.advance (supply : Supply) : Supply :=
  { nextPool := supply.nextPool + 1, nextId := supply.nextId + 1 }

/-! ## 2. Managers -/

/-- How making a session goes. -/
inductive Build where
  | succeeds
  | fails
  /-- It breaks off in the middle. -/
  | breaks
  deriving DecidableEq, Repr

/-- Keeps at most one live session. -/
structure Manager where
  live : Option Session := none
  /-- How many sessions this manager has made. -/
  created : Nat := 0
  /-- How the next builds go. When the list is used up, they all succeed. -/
  plan : List Build := []
  deriving DecidableEq, Repr

namespace Manager

/-- Whether there is a live session. -/
def isActive (manager : Manager) : Bool :=
  manager.live.isSome

/-- How the next build goes. -/
def nextBuild (manager : Manager) : Build :=
  manager.plan.head?.getD .succeeds

/-- The manager when a build of its plan has been tried. -/
def spent (manager : Manager) : Manager :=
  { manager with plan := manager.plan.tail }

/-- What a person reads about a manager. -/
def description (manager : Manager) : String :=
  "SessionManager \x7b active: " ++ (if manager.isActive then "true" else "false") ++
    ", created: " ++ toString manager.created ++ " \x7d"

/-- A session that has been got, and what has changed. -/
structure Obtained where
  session : Session
  manager : Manager
  supply : Supply
  log : List Event := []
  deriving DecidableEq, Repr

/-- The live session, or a new one, whose making succeeds. -/
def obtain (manager : Manager) (supply : Supply) : Obtained :=
  match manager.live with
  | some session => { session, manager, supply }
  | none =>
    let session := supply.session
    { session
      manager := { manager with live := some session, created := manager.created + 1 }
      supply := supply.advance
      log := [.sessionCreated session.id] }

/-- Why no session could be got. -/
inductive Trouble where
  | failed
  | broken
  deriving DecidableEq, Repr

/-- What asking for a session comes to. -/
structure Acquired where
  result : Except Trouble Session
  manager : Manager
  supply : Supply
  log : List Event := []

/-- The live session, or a new one if making it succeeds. -/
def acquire (manager : Manager) (supply : Supply) : Acquired :=
  match manager.live with
  | some session => { result := .ok session, manager, supply }
  | none =>
    let spent := { manager with plan := manager.plan.tail }
    match manager.plan.head? with
    | some .fails => { result := .error .failed, manager := spent, supply }
    | some .breaks => { result := .error .broken, manager := spent, supply }
    | _ =>
      let got := spent.obtain supply
      { result := .ok got.session, manager := got.manager, supply := got.supply, log := got.log }

/-- Gives up the live session, and reports it if there was one. -/
def shutdown (manager : Manager) : Manager × List Event :=
  ({ manager with live := none },
    match manager.live with
    | some session => [.sessionShutDown session.id]
    | none => [])

end Manager

/-! ## 3. A manager with its supply -/

/-- A manager and the supply that it takes new sessions from. -/
structure Sessions where
  manager : Manager := {}
  supply : Supply := {}
  deriving DecidableEq, Repr

namespace Sessions

/-- The live session, or a new one, whose making succeeds. -/
def obtain (sessions : Sessions) : Manager.Obtained :=
  sessions.manager.obtain sessions.supply

/-- Gives up the live session. -/
def shutdown (sessions : Sessions) : Sessions × List Event :=
  let (manager, log) := sessions.manager.shutdown
  ({ sessions with manager }, log)

end Sessions

/-- What is left after a session has been got. -/
def Manager.Obtained.sessions (got : Manager.Obtained) : Sessions :=
  { manager := got.manager, supply := got.supply }

end Relay
