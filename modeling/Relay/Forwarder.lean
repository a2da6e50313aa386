import Relay.Call.Handle
import Relay.Config
import Relay.Environment
import Relay.Request

/-!
# Forwarding

A `Forwarder` knows where requests go and which variable holds the token of requests that bring
none. `Forwarder.order` settles what a call needs, or refuses: the model must have a name, and there
must be a token. Nothing else happens then.
-/

namespace Relay

/-- An address without the slashes at its end. -/
def withoutEndSlashes (address : String) : String :=
  String.ofList (address.toList.reverse.dropWhile (· == '/')).reverse

/-- Where requests go. -/
structure Forwarder where
  /-- The address that all others are built on. It ends in no slash. -/
  baseUrl : String
  tokenEnv : String
  deriving DecidableEq, Repr

namespace Forwarder

/-- The forwarder of an endpoint. -/
def ofConfig (config : EndpointConfig) : Forwarder :=
  { baseUrl := withoutEndSlashes config.baseUrl, tokenEnv := config.tokenEnv }

/-- Where requests for a model go. -/
def endpointUrl (forwarder : Forwarder) (model : String) : String :=
  forwarder.baseUrl ++ "/models/" ++ model

/-- The token of a request: its own, or that of the environment. An empty one counts as none. -/
def credential (forwarder : Forwarder) (env : Environment) (request : Request) :
    Except Error String :=
  match request.credential? with
  | some token => .ok token
  | none =>
    match (env.get? forwarder.tokenEnv).filter (fun token => !token.isEmpty) with
    | some token => .ok token
    | none => .error (.missingCredential forwarder.tokenEnv)

/-- What a call for a request needs. -/
def order (forwarder : Forwarder) (env : Environment) (request : Request) : Except Error Order :=
  if request.model.isEmpty then .error (.config .emptyModel)
  else
    match forwarder.credential env request with
    | .error e => .error e
    | .ok token =>
      .ok { url := forwarder.endpointUrl request.model
            stream := request.stream
            token
            body := request.bodyText }

/-- Opens a call, given what its connection will come to. -/
def forward (forwarder : Forwarder) (env : Environment) (request : Request) (reply : Http.Reply) :
    Except Error Call :=
  (forwarder.order env request).map (fun order => { order, reply })

/-- Opens a call that can be cancelled. -/
def forwardGuarded (forwarder : Forwarder) (env : Environment) (request : Request)
    (reply : Http.Reply) : Except Error Guarded :=
  (forwarder.forward env request reply).map (fun call => { call })

end Forwarder

end Relay
