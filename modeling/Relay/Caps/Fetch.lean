import Relay.Caps
import Relay.Forwarder

/-!
# Fetching capabilities

The capabilities of an endpoint are published under `/caps` below its address. The body is read as a
whole before anything else is looked at; an answer with another status than 200 is an error with the
body in it.
-/

namespace Relay.Caps

open Http (Message Response)

/-- What fetching comes to: a result unless it would wait for ever, the message that was read by the
far end, and what was logged. -/
structure Fetched where
  result : Option (Except Error Caps)
  message : Option Message := none
  log : List Event

/-- Where an endpoint publishes its capabilities. -/
def address (baseUrl : String) : String :=
  withoutEndSlashes baseUrl ++ "/caps"

/-- Takes an answer. -/
def take (url : String) (response : Response) : Option (Except Error Caps) × List Event :=
  match response.whole with
  | .waiting => (none, [])
  | .cutShort => (some (.error (.decode .cutShort)), [])
  | .text text =>
    if response.status ≠ 200 then
      (some (.error (.ofResponse response.status (String.ofList text))),
        [.capsRefused url response.status])
    else (some ((parse text).mapError (fun fault => .decode (.notJson fault))), [])

/-- Takes what the connection comes to. -/
def arrive (url : String) : Http.Arrival → Option (Except Error Caps) × List Event
  | .failure cause => (some (.error (.transport cause)), [])
  | .silence => (none, [])
  | .response response => take url response

/-- Fetches the capabilities of an endpoint. -/
def fetch (baseUrl : String) (reply : Http.Reply) : Fetched :=
  let url := address baseUrl
  let exchange := Http.exchange (Message.start .get url) reply
  let (result, log) := arrive url exchange.arrival
  { result, message := exchange.message, log := .fetchingCaps url :: log }

end Relay.Caps
