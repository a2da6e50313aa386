import Relay.Json.Printer
import Relay.Text.Alphanumeric

/-!
# Log records

What the library reports while it works is an `Event`, with its severity (`Event.level`) and its
wording (`Event.message`). Functions return their events in order; whoever runs them decides which
are shown.

A `Threshold` is that decision. It is written as the name of a level or as its rank:

* `Threshold.parse?` reads the setting;
* `Threshold.ofDirectives?` reads the same text as a list of filter directives, whose grammar is
  narrower: a directive begins with a letter, a digit or one of `-`, `:`, `_`.
-/

namespace Relay

/-! ## 1. Levels -/

/-- How severe an event is. -/
inductive Level where
  | error
  | warn
  | info
  | debug
  | trace
  deriving DecidableEq, Repr

namespace Level

/-- The name of a level. -/
def name : Level → String
  | .error => "ERROR"
  | .warn => "WARN"
  | .info => "INFO"
  | .debug => "DEBUG"
  | .trace => "TRACE"

/-- The place of a level, the most severe first. -/
def rank : Level → Nat
  | .error => 1
  | .warn => 2
  | .info => 3
  | .debug => 4
  | .trace => 5

end Level

/-! ## 2. Events -/

/-- Something that is reported. -/
inductive Event where
  | loadingConfig (path : String)
  | forwardingPrompt (model : String)
  | sessionCreated (id : Nat)
  | sessionShutDown (id : Nat)
  /-- A call is about to be sent to `url` through a session. -/
  | forwarding (url : String) (stream : Bool) (session : Nat)
  /-- A streamed answer came to its end after so many chunks. -/
  | streamEnded (url : String) (chunks : Nat)
  /-- A call was answered with another status than 200. -/
  | callRefused (status : Nat) (body : String)
  | fetchingCaps (url : String)
  /-- A request for capabilities was answered with another status than 200. -/
  | capsRefused (url : String) (status : Nat)
  deriving DecidableEq, Repr

namespace Event

/-- How severe an event is. -/
def level : Event → Level
  | .forwardingPrompt _ => .info
  | .callRefused .. | .capsRefused .. => .warn
  | _ => .debug

/-- The wording of an event. -/
def message : Event → String
  | .loadingConfig path => "Loading configuration from: " ++ path
  | .forwardingPrompt model => "Forwarding prompt to model " ++ model
  | .sessionCreated id => "Created HTTP session " ++ toString id
  | .sessionShutDown id => "Shut down HTTP session " ++ toString id
  | .forwarding url stream session =>
    "Forwarding to " ++ url ++ " (stream: " ++ (if stream then "true" else "false") ++
      ", session: " ++ toString session ++ ")"
  | .streamEnded url chunks =>
    "Stream from " ++ url ++ " ended after " ++ toString chunks ++ " chunks"
  | .callRefused status body =>
    "forward: http status " ++ toString status ++ ", response text was:\n" ++ body
  | .fetchingCaps url => "Fetching capabilities from: " ++ url
  | .capsRefused url status => "cannot fetch " ++ url ++ ": http status " ++ toString status

/-- The record of an event on one line: its level, then its wording. -/
def line (event : Event) : String :=
  event.level.name ++ " " ++ event.message

/-- The record of an event as a JSON text. -/
def record (event : Event) : String :=
  (Json.Value.object
    [("level", .string event.level.name),
     ("fields", .object [("message", .string event.message)])]).toText

end Event

/-! ## 3. Thresholds -/

/-- Which events are shown: those whose level has at most this rank. Rank 0 shows none. -/
structure Threshold where
  rank : Nat
  deriving DecidableEq, Repr

namespace Threshold

/-- Whether events of a level are shown. -/
def admits (threshold : Threshold) (level : Level) : Bool :=
  level.rank ≤ threshold.rank

/-- The events that are shown. -/
def shown (threshold : Threshold) (events : List Event) : List Event :=
  events.filter (fun event => threshold.admits event.level)

/-- The number that a text spells: digits, with a plus sign or without, below `2 ^ 64`. -/
def readNumber? (text : List Char) : Option Nat :=
  let digits := match text with
    | '+' :: digits => digits
    | digits => digits
  if digits.isEmpty || !digits.all Char.isDigit then none
  else
    let n := digits.foldl (fun n c => 10 * n + (c.toNat - '0'.toNat)) 0
    if n < twoTo 64 then some n else none

/-- The threshold with a name, in any case. The empty name shows errors only. -/
def ofName? (text : List Char) : Option Threshold :=
  match String.ofList (text.map Char.toLower) with
  | "" | "error" => some ⟨1⟩
  | "off" => some ⟨0⟩
  | "warn" => some ⟨2⟩
  | "info" => some ⟨3⟩
  | "debug" => some ⟨4⟩
  | "trace" => some ⟨5⟩
  | _ => none

/-- The threshold that a setting spells: its rank or its name. -/
def parse? (text : String) : Option Threshold :=
  match readNumber? text.toList with
  | some n => if n ≤ 5 then some ⟨n⟩ else none
  | none => ofName? text.toList

/-- Whether a filter directive may begin with a character. -/
def startsDirective (c : Char) : Bool :=
  c == '-' || c == ':' || c == '_' || Text.isAlphanumeric c

/-- The threshold of a text that is used as a list of filter directives. An empty list shows errors
only. -/
def ofDirectives? (text : String) : Option Threshold :=
  match text.toList with
  | [] => some ⟨1⟩
  | c :: _ => if startsDirective c then parse? text else none

end Threshold

end Relay
