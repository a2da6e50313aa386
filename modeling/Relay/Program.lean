import Relay.Config.Load
import Relay.Forwarder

/-!
# The program

The program forwards one prompt. It loads its settings, takes the prompt from its input, sends it to
the model that the settings name, and prints each chunk of the answer on a line of its own.

What it does is a chain of guards, and the first one that fails decides what it says (`Trouble`):

1. the settings can be loaded;
2. the log level is one, and can be used as a filter;
3. the settings name a model;
4. the input is text;
5. the call can be opened;
6. the call comes to its end.

`Program.prepare` is the chain up to the call, which `Program.run` then drains.
-/

namespace Relay.Program

/-! ## 1. What the program is given, and what comes out -/

/-- What the program is started with. -/
structure Setting where
  source : Source
  env : Environment := {}
  input : List UInt8 := []

/-- Why the program fails. -/
inductive Trouble where
  | config (error : Error)
  | level (text : String)
  | filter
  | noModel
  | input (fault : Text.Utf8.Fault)
  | call (error : Error)
  /-- The answer never comes to its end. -/
  | waiting

/-- What the program says when it fails. -/
def Trouble.message : Trouble → String
  | .config e => "Failed to load configuration: " ++ e.message
  | .level text =>
    "Invalid log level: '" ++ text ++ "'. Valid levels: error, warn, info, debug, trace"
  | .filter => "Error: invalid filter directive"
  | .noModel => "Error: defaults.model must be set in the configuration"
  | .input fault => "Error: " ++ fault.message
  | .call e => "Error: " ++ e.message
  | .waiting => "Error: the answer does not end"

/-- What comes out. -/
structure Outcome where
  exitCode : Nat
  /-- The lines of the output. -/
  output : List String := []
  /-- What is said when it fails. -/
  complaint : Option String := none
  /-- The events that are shown. -/
  log : List Event := []
  /-- The messages that the far end has read. -/
  messages : List Http.Message := []
  /-- How many sessions were created. -/
  created : Nat := 0

/-- A line without the carriage return in front of its end. -/
def withoutReturn (line : List Char) : List Char :=
  if line.getLast? = some '\r' then line.dropLast else line

/-- The lines of what is said when the program fails. A line may end in a carriage return and a line
feed. -/
def Outcome.complaintLines (outcome : Outcome) : List String :=
  match outcome.complaint with
  | none => []
  | some text => (text.toList.splitOn '\n').map (fun line => String.ofList (withoutReturn line))

/-! ## 2. Up to the call -/

/-- A call that is ready, and which events are shown. -/
structure Prepared where
  threshold : Threshold
  model : String
  call : Except Error Order
  deriving Repr

/-- The message that the call will send, if there is one. -/
def Prepared.message? (prepared : Prepared) : Option Http.Message :=
  match prepared.call with
  | .error _ => none
  | .ok order => (order.message.bind Http.Message.complete).toOption

/-- The log level in force: that of the variable `RUST_LOG`, or that of the settings. -/
def levelText (env : Environment) (config : Config) : String :=
  (env.get? "RUST_LOG").getD config.logs.level

/-- The events that are shown at a level. -/
def threshold (level : String) : Except Trouble Threshold :=
  match Threshold.parse? level with
  | none => .error (.level level)
  | some _ =>
    match Threshold.ofDirectives? level with
    | none => .error .filter
    | some threshold => .ok threshold

/-- The request for a prompt with the settings. -/
def request (config : Config) (model prompt : String) : Request :=
  ((Request.new model prompt).withParameters config.defaults.parameters).withStream
    config.defaults.stream

/-- All that comes before the call is used. -/
def prepare (setting : Setting) : Except Trouble Prepared :=
  match (Config.load setting.source setting.env).result with
  | .error e => .error (.config e)
  | .ok config =>
    match threshold (levelText setting.env config) with
    | .error trouble => .error trouble
    | .ok threshold =>
      match config.defaults.model with
      | none => .error .noModel
      | some model =>
        match Text.Utf8.decode setting.input with
        | .error fault => .error (.input fault)
        | .ok prompt =>
          let forwarder := Forwarder.ofConfig config.endpoint
          .ok { threshold, model
                call := forwarder.order setting.env
                  (request config model (String.ofList prompt)) }

/-! ## 3. The whole -/

/-- What comes out when a guard fails, after some events. -/
def failure (trouble : Trouble) (log : List Event) : Outcome :=
  { exitCode := 1, complaint := some trouble.message, log }

/-- What comes out of a drained call. -/
def finish (prepared : Prepared) (drained : Handle.Drained) : Outcome :=
  let events := .forwardingPrompt prepared.model :: drained.log
  let output := drained.chunks.map Json.Value.toText
  let messages := drained.messages
  let created := drained.sessions.manager.created
  match drained.stop with
  | .ended =>
    let log := prepared.threshold.shown (events ++ drained.sessions.shutdown.2)
    { exitCode := 0, output, log, messages, created }
  | .failed e =>
    { failure (.call e) (prepared.threshold.shown events) with output, messages, created }
  | .waiting =>
    { failure .waiting (prepared.threshold.shown events) with output, messages, created }

/-- What comes out when all guards before the call have passed, given what the connection comes to.
-/
def resume (prepared : Prepared) (reply : Http.Reply) : Outcome :=
  match prepared.call with
  | .error e =>
    failure (.call e) (prepared.threshold.shown [.forwardingPrompt prepared.model])
  | .ok order => finish prepared ((Handle.plain { order, reply }).drain {})

/-- Runs the program, given what its connection comes to. -/
def run (setting : Setting) (reply : Http.Reply) : Outcome :=
  match prepare setting with
  | .error trouble => failure trouble []
  | .ok prepared => resume prepared reply

end Relay.Program
