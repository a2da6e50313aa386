import Relay.Caps.Fetch

/-!
# Runs of a forwarder

A run works with one forwarder, its sessions, an environment and any number of calls, which are
known by name. Each `Step` changes the state (`State`) and answers (`Outcome`); the `Report` of a
step adds the messages that the far end has read and what was logged, and how the sessions stand
afterwards.
-/

namespace Relay.Forwarder

open Http (Message Reply)

/-! ## 1. States -/

/-- Where a run stands. -/
structure State where
  sessions : Sessions := {}
  env : Environment := {}
  calls : List (String × Handle) := []
  /-- How many connections were made that the far end keeps open. -/
  kept : Nat := 0

namespace State

/-- An open call. -/
def call? (state : State) (name : String) : Option Handle :=
  state.calls.lookup name

/-- Without a call. -/
def eraseCall (state : State) (name : String) : State :=
  { state with calls := state.calls.filter (fun entry => entry.1 != name) }

/-- With a call, in the place of an earlier one of the name. -/
def putCall (state : State) (name : String) (call : Handle) : State :=
  { state with calls := (name, call) :: (state.eraseCall name).calls }

/-- How many connections are held that the far end keeps open. -/
def held (state : State) : Nat :=
  (state.calls.filter (fun entry => entry.2.holdsConnection)).length

end State

/-! ## 2. Steps -/

/-- What is done in a run. -/
inductive Step where
  /-- Opens a call, which can be cancelled or not. -/
  | openCall (name : String) (request : Request) (cancellable : Bool) (reply : Reply)
  /-- Takes one item. -/
  | next (name : String)
  /-- Takes all items. -/
  | drain (name : String)
  /-- Takes all items or none, and gives the call up. -/
  | collect (name : String)
  /-- Fires the token of a call. -/
  | cancel (name : String)
  /-- Takes one item; the token fires if there is none for now. -/
  | nextThenCancel (name : String)
  /-- Gives a call up. -/
  | drop (name : String)
  /-- Looks whether the far end has lost the connections that it keeps open. -/
  | lookForClose
  | acquire
  | shutdown
  | setEnv (name : String) (value : Option (List UInt8))
  | url (model : String)
  | caps (baseUrl : String) (reply : Reply)

/-- What a step answers. -/
inductive Outcome where
  | done
  | opened
  | refused (error : Error)
  /-- An item, or nothing for now. -/
  | item (item : Option Item)
  | drained (chunks : List Chunk) (stop : Handle.Stop)
  | collected (result : Option (Except Error (List Chunk)))
  | closed (all : Bool)
  | session (id : Nat)
  | url (text : String)
  | caps (result : Option (Except Error Caps))
  /-- There is no open call of the name. -/
  | noSuchCall

/-- What a step answers, and what else is seen of it. -/
structure Report where
  outcome : Outcome
  messages : List Message := []
  log : List Event := []
  created : Nat
  active : Bool

/-- What a step comes to. -/
structure Effect where
  state : State
  outcome : Outcome
  messages : List Message := []
  log : List Event := []

/-! ## 3. The effect of a step -/

/-- The state after a call has been polled: its connection may be one that the far end keeps
open. -/
def State.afterPoll (state : State) (name : String) (before after : Handle) (sessions : Sessions) :
    State :=
  { state.putCall name after with
    sessions
    kept := state.kept + (if !before.holdsConnection && after.holdsConnection then 1 else 0) }

/-- Takes what one poll of a call comes to. -/
def polled (state : State) (name : String) (before : Handle) (polled : Polled Handle) : Effect :=
  { state := state.afterPoll name before polled.call polled.sessions
    outcome := .item polled.item
    messages := polled.message.toList
    log := polled.log }

/-- Does something with an open call. -/
def withCall (state : State) (name : String) (act : Handle → Effect) : Effect :=
  match state.call? name with
  | none => { state, outcome := .noSuchCall }
  | some call => act call

/-- Opens a call. -/
def openCall (forwarder : Forwarder) (state : State) (name : String) (request : Request)
    (cancellable : Bool) (reply : Reply) : Effect :=
  let opened : Except Error Handle :=
    if cancellable then (forwarder.forwardGuarded state.env request reply).map .guarded
    else (forwarder.forward state.env request reply).map .plain
  match opened with
  | .error e => { state, outcome := .refused e }
  | .ok call => { state := state.putCall name call, outcome := .opened }

/-- What a step of a run comes to. -/
def effect (forwarder : Forwarder) (state : State) : Step → Effect
  | .openCall name request cancellable reply =>
    openCall forwarder state name request cancellable reply
  | .next name =>
    withCall state name (fun call => polled state name call (call.poll state.sessions))
  | .nextThenCancel name =>
    withCall state name (fun call => polled state name call (call.pollThenFire state.sessions))
  | .drain name =>
    withCall state name (fun call =>
      let drained := call.drain state.sessions
      { state := state.afterPoll name call drained.call drained.sessions
        outcome := .drained drained.chunks drained.stop
        messages := drained.messages
        log := drained.log })
  | .collect name =>
    withCall state name (fun call =>
      let drained := call.drain state.sessions
      { state := (state.afterPoll name call drained.call drained.sessions).eraseCall name
        outcome := .collected drained.collected
        messages := drained.messages
        log := drained.log })
  | .cancel name =>
    match state.call? name with
    | none => { state, outcome := .done }
    | some call => { state := state.putCall name call.fire, outcome := .done }
  | .drop name =>
    withCall state name (fun _ => { state := state.eraseCall name, outcome := .done })
  | .lookForClose => { state, outcome := .closed (0 < state.kept && state.held = 0) }
  | .acquire =>
    let got := state.sessions.obtain
    { state := { state with sessions := got.sessions }, outcome := .session got.session.id
      log := got.log }
  | .shutdown =>
    let (sessions, log) := state.sessions.shutdown
    { state := { state with sessions }, outcome := .done, log }
  | .setEnv name value =>
    { state := { state with
        env := match value with
          | some value => state.env.insert name value
          | none => state.env.erase name }
      outcome := .done }
  | .url model => { state, outcome := .url (forwarder.endpointUrl model) }
  | .caps baseUrl reply =>
    let got := state.sessions.obtain
    let fetched := Caps.fetch baseUrl reply
    { state := { state with sessions := got.sessions }, outcome := .caps fetched.result
      messages := fetched.message.toList, log := got.log ++ fetched.log }

/-- What is seen of a step. -/
def Effect.report (effect : Effect) : Report :=
  { outcome := effect.outcome
    messages := effect.messages
    log := effect.log
    created := effect.state.sessions.manager.created
    active := effect.state.sessions.manager.isActive }

/-- Goes through steps, and reports on each. -/
def run (forwarder : Forwarder) (state : State) : List Step → List Report
  | [] => []
  | first :: more =>
    let done := effect forwarder state first
    done.report :: run forwarder done.state more

end Relay.Forwarder
