import Relay.Http.Message
import Relay.Session

/-!
# Runs of sessions

A run works with any number of managers and of handles, all known by name. Each `Step` changes the
state (`State`) and answers (`Outcome`); the `Report` of a step adds what was logged. `run` goes
through a list of steps.

Acquisitions at the same time come one after another, in the order in which they get hold of the
manager.
-/

namespace Relay.Session

open Relay (Manager Supply)

/-! ## 1. States -/

/-- Where a run stands. -/
structure State where
  supply : Supply := {}
  managers : List (String × Manager) := []
  handles : List (String × Session) := []

/-- Entries with one more, in the place of an earlier one of the name. -/
def put {α : Type} (name : String) (a : α) (entries : List (String × α)) : List (String × α) :=
  (name, a) :: entries.filter (fun entry => entry.1 != name)

/-- Entries without those of a name. -/
def remove {α : Type} (name : String) (entries : List (String × α)) : List (String × α) :=
  entries.filter (fun entry => entry.1 != name)

namespace State

/-- A manager. -/
def manager? (state : State) (name : String) : Option Manager :=
  state.managers.lookup name

/-- A handle. -/
def handle? (state : State) (name : String) : Option Session :=
  state.handles.lookup name

/-- The state with a manager in the place of an earlier one. -/
def putManager (state : State) (name : String) (manager : Manager) : State :=
  { state with managers := put name manager state.managers }

/-- The state with a handle in the place of an earlier one. -/
def putHandle (state : State) (name : String) (session : Session) : State :=
  { state with handles := put name session state.handles }

end State

/-- The manager that all parts of a process share. -/
def globalName : String := "global"

/-- Where a run begins: with the shared manager, which has made no session. -/
def start : State :=
  { managers := [(globalName, {})] }

/-! ## 2. Steps -/

/-- What is done in a run. -/
inductive Step where
  /-- Makes a manager whose builds go as planned. -/
  | create (manager : String) (plan : List Build)
  /-- Asks for a session, and keeps the handle if it gets a name. -/
  | acquire (manager : String) (handle : Option String)
  /-- Asks for a session so many times at the same time. -/
  | acquireAll (manager : String) (count : Nat)
  | shutdown (manager : String)
  | describe (manager : String)
  /-- Makes another handle of the same session. -/
  | clone (handle another : String)
  | drop (handle : String)
  | compare (a b : String)
  /-- Builds a message to an address, and does not send it. -/
  | use (handle : String) (address : String)
  /-- Looks whether everyone gets the same shared manager. -/
  | compareGlobal
  deriving DecidableEq, Repr

/-- What a step answers. -/
inductive Outcome where
  | done
  | acquired (id : Nat)
  | troubled (trouble : Manager.Trouble)
  /-- Whether all got the same session, and the number of the first one. -/
  | acquiredAll (allSame : Bool) (id : Nat)
  | description (text : String)
  | compared (same : Bool) (a b : Nat)
  | prepared (message : Http.Message)
  | failed (error : Error)
  | shared
  /-- A name is not known. -/
  | unknown

/-- What a step answers, what was logged, and the manager that it named, as it is afterwards. -/
structure Report where
  outcome : Outcome
  log : List Event := []
  manager : Option Manager := none

/-- The error that failing to make a session counts as. -/
def makingFailed : Error :=
  .transport .unbuildable

/-! ## 3. Acquisitions -/

/-- Acquires so many times in a row, and keeps the results in order. -/
def acquireMany (manager : Manager) (supply : Supply) :
    Nat → List (Except Manager.Trouble Session) × Manager × Supply × List Event
  | 0 => ([], manager, supply, [])
  | count + 1 =>
    let first := manager.acquire supply
    let (results, manager, supply, log) := acquireMany first.manager first.supply count
    (first.result :: results, manager, supply, first.log ++ log)

/-- What acquisitions at the same time answer. -/
def acquiredAll (results : List (Except Manager.Trouble Session)) : Outcome :=
  match results.filterMap Except.toOption with
  | [] => .troubled .failed
  | session :: others =>
    .acquiredAll (results.length == others.length + 1 && others.all session.sameAs) session.id

/-! ## 4. The effect of a step -/

/-- Does something with a manager that is known. -/
def withManager (state : State) (name : String) (act : Manager → State × Outcome × List Event) :
    State × Report :=
  match state.manager? name with
  | none => (state, { outcome := .unknown })
  | some manager =>
    let (after, outcome, log) := act manager
    (after, { outcome, log, manager := after.manager? name })

/-- One step of a run. -/
def step (state : State) : Step → State × Report
  | .create name plan =>
    (state.putManager name { plan }, { outcome := .done, manager := some { plan } })
  | .acquire name handle =>
    withManager state name (fun manager =>
      let got := manager.acquire state.supply
      let after := { state.putManager name got.manager with supply := got.supply }
      match got.result with
      | .error trouble => (after, .troubled trouble, got.log)
      | .ok session =>
        (match handle with
          | some handle => after.putHandle handle session
          | none => after,
          .acquired session.id, got.log))
  | .acquireAll name count =>
    withManager state name (fun manager =>
      let (results, manager, supply, log) := acquireMany manager state.supply count
      ({ state.putManager name manager with supply }, acquiredAll results, log))
  | .shutdown name =>
    withManager state name (fun manager =>
      let (manager, log) := manager.shutdown
      (state.putManager name manager, .done, log))
  | .describe name =>
    withManager state name (fun manager => (state, .description manager.description, []))
  | .clone handle another =>
    match state.handle? handle with
    | none => (state, { outcome := .unknown })
    | some session => (state.putHandle another session, { outcome := .done })
  | .drop handle => ({ state with handles := remove handle state.handles }, { outcome := .done })
  | .compare a b =>
    match state.handle? a, state.handle? b with
    | some a, some b => (state, { outcome := .compared (a.sameAs b) a.id b.id })
    | _, _ => (state, { outcome := .unknown })
  | .use handle address =>
    match state.handle? handle with
    | none => (state, { outcome := .unknown })
    | some _ =>
      match Http.Message.start .get address with
      | .ok message => (state, { outcome := .prepared message })
      | .error cause => (state, { outcome := .failed (.transport cause) })
  | .compareGlobal => (state, { outcome := .shared })

/-- Goes through steps, and reports on each. -/
def run (state : State) : List Step → List Report
  | [] => []
  | first :: more =>
    let (after, report) := step state first
    report :: run after more

end Relay.Session
