import Relay.Json.Printer

/-!
# Inference requests

A request names a model and a prompt; the rest has defaults and is set step by step. Every step
replaces what it sets, so the last one wins, and steps on different parts do not meet.
-/

namespace Relay

/-- A request. -/
structure Request where
  model : String
  prompt : String
  /-- The sampling parameters, which go to the far end as they are. -/
  parameters : Json.Object := []
  /-- Whether the answer is wanted piece by piece. -/
  stream : Bool := false
  /-- A token for this request alone, as it was given. -/
  token : Option String := none
  deriving Repr

namespace Request

/-! ## 1. Building -/

/-- A request with defaults. -/
def new (model prompt : String) : Request :=
  { model, prompt }

/-- Replaces all parameters. -/
def withParameters (request : Request) (parameters : Json.Object) : Request :=
  { request with parameters }

/-- Sets one parameter. -/
def withParameter (request : Request) (key : String) (value : Json.Value) : Request :=
  { request with parameters := Json.Object.insert key value request.parameters }

/-- Asks for the answer piece by piece, or as a whole. -/
def withStream (request : Request) (stream : Bool) : Request :=
  { request with stream }

/-- Sets the token. -/
def withToken (request : Request) (token : String) : Request :=
  { request with token := some token }

/-- One step of building a request. -/
inductive Change where
  | parameters (object : Json.Object)
  | parameter (key : String) (value : Json.Value)
  | stream (on : Bool)
  | token (text : String)
  deriving Repr

/-- The request after a step. -/
def change (request : Request) : Change → Request
  | .parameters object => request.withParameters object
  | .parameter key value => request.withParameter key value
  | .stream on => request.withStream on
  | .token text => request.withToken text

/-- The request after all steps. -/
def build (model prompt : String) (changes : List Change) : Request :=
  changes.foldl change (new model prompt)

/-! ## 2. Use -/

/-- The token of this request. An empty one counts as none. -/
def credential? (request : Request) : Option String :=
  request.token.filter (fun token => !token.isEmpty)

/-- What is sent: the prompt, the parameters and the stream flag, in this order. -/
def body (request : Request) : Json.Value :=
  .object
    [("inputs", .string request.prompt), ("parameters", .object request.parameters),
     ("stream", .bool request.stream)]

/-- The text that is sent. -/
def bodyText (request : Request) : String :=
  request.body.toText

end Request

end Relay
