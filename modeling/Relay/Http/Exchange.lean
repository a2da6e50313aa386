import Relay.Http.Message
import Relay.Http.Response

/-!
# Exchanges

An exchange sends a message and takes what the connection comes to. It says which message the far
end has read, if any, and whether a response has arrived (`Exchange`).

An answer that begins without a status is none. A preliminary answer is passed over, and nothing
follows it here: either the connection is closed, or it stays open for ever.

Every message goes straight to the host of its address, over a connection that is secured when the
scheme asks for it. What becomes of securing it is part of what the connection comes to: where that
fails, the connection is refused. There are no proxies between the two ends.
-/

namespace Relay.Http

/-- What an exchange comes to. -/
inductive Arrival where
  | response (response : Response)
  | failure (cause : TransportCause)
  /-- The connection stays open, and nothing arrives. -/
  | silence
  deriving Repr

/-- What has happened in an exchange. -/
structure Exchange where
  /-- The message that the far end has read. -/
  message : Option Message := none
  arrival : Arrival
  deriving Repr

/-- What an answer on the connection comes to. -/
def Response.arrival (response : Response) (url : String) : Arrival :=
  if !response.hasStatus then .failure (.unsent url)
  else if response.isPreliminary then
    if response.body.ending = .stalled then .silence else .failure (.unsent url)
  else .response response

/-- Sends a complete message. -/
def Message.send (message : Message) (reply : Reply) : Exchange :=
  let url := message.url.text
  match reply with
  | .refused => { arrival := .failure (.unsent url) }
  | .dropped => { message := some message, arrival := .failure (.unsent url) }
  | .silent => { message := some message, arrival := .silence }
  | .answered response => { message := some message, arrival := response.arrival url }

/-- Sends a message that has been built, if it could be. -/
def exchange (built : Except TransportCause Message) (reply : Reply) : Exchange :=
  match built.bind Message.complete with
  | .error cause => { arrival := .failure cause }
  | .ok message => message.send reply

end Relay.Http
