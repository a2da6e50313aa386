import Relay.Proofs.Forwarder.Life
import Relay.Main
import Relay.Session.Run
import Relay.Proofs.Call.Script
import Relay.Proofs.Forwarder.Answers
import Relay.Proofs.Forwarder.Streaming
import Relay.Proofs.Forwarder.Isolation
import Relay.Proofs.Forwarder.Laziness
import Relay.Proofs.Call.Bare
import Relay.Proofs.Forwarder.Unfired
import Relay.Proofs.Forwarder.Cancellation
import Relay.Proofs.Session.Manager
import Relay.Proofs.Session.Accounts
import Relay.Session.Threads
import Relay.Proofs.Session.Threads
import Relay.Proofs.Session.Serial
import Relay.Proofs.Forwarder.Stretches
import Relay.Proofs.Json.Proper
import Relay.Proofs.Json.Scalars
import Relay.Proofs.Text.Utf8
import Relay.Proofs.Frame.Written
import Relay.Proofs.Forwarder.RoundTrip
import Relay.Proofs.Forwarder.Bodies
import Relay.Proofs.Forwarder.Refusals
import Relay.Proofs.Call.Stops
import Relay.Proofs.Forwarder.Stops
import Relay.Proofs.Forwarder.Collecting
import Relay.Proofs.Forwarder.Errors
import Relay.Proofs.Http.Charsets
import Relay.Proofs.Http.Headers
import Relay.Proofs.Http.Stalls
import Relay.Proofs.Call.Alike
import Relay.Proofs.Forwarder.Authorization
import Relay.Proofs.Forwarder.Secrecy
import Relay.Proofs.Url.Path
import Relay.Proofs.Url.Joined
import Relay.Proofs.Url.Below
import Relay.Proofs.Forwarder.Target
import Relay.Proofs.Program.Refinement
import Relay.Proofs.Program.Guards
import Relay.Proofs.Text.Words
import Relay.Proofs.Text.Breaks
import Relay.Proofs.Text.Shorten
import Relay.Proofs.Text.Slices
import Relay.Proofs.Forwarder.Snippets
import Relay.Proofs.Forwarder.Connections
import Relay.Proofs.Text.Boundaries
import Relay.Proofs.Text.Trim
import Relay.Proofs.Frame.Texts
import Relay.Proofs.Frame.Spacing
import Relay.Proofs.Forwarder.Deliveries
import Relay.Proofs.Forwarder.Decoding
import Relay.Proofs.Session.Steps
import Relay.Proofs.Session.Failures
import Relay.Proofs.Session.Identity
import Relay.Proofs.Program.Levels
import Relay.Proofs.Program.Logging
import Relay.Proofs.Request.Building
import Relay.Proofs.Forwarder.Verbatim
import Relay.Proofs.Json.Typed
import Relay.Proofs.Caps.Layout
import Relay.Proofs.Config.Defaults
