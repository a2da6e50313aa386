import Relay.Http.Wire
import Relay.Program
import Std.Async.DNS
import Std.Async.TCP

/-!
# The command

Runs the program on the process's own environment, files, input and network. Chunks and records are
written as soon as they are known; everything that is decided is decided by `Program`.
-/

namespace Relay.Command

open Std.Async

/-- What is in a file. -/
def readFile (path : String) : IO (Except FileCause (List UInt8)) := do
  try
    return .ok (← IO.FS.readBinFile path).toList
  catch
    | .noFileOrDirectory .. => return .error .notFound
    | .inappropriateType _ 20 _ => return .error .notDirectory
    | .inappropriateType _ 21 _ => return .error .isDirectory
    | e => return .error (.other (toString e))

/-- The variables with the given names that are set. -/
def readVariables (names : List String) : IO Environment := do
  let mut entries := []
  for name in names do
    if let some value ← IO.getEnv name then
      entries := (name, Text.Utf8.encode value.toList) :: entries
  return { entries }

/-- All that is left of a stream. -/
partial def readAll (stream : IO.FS.Stream) (before : ByteArray) : IO ByteArray := do
  let bytes ← stream.read 65536
  if bytes.isEmpty then return before else readAll stream (before ++ bytes)

/-- How many lines and records have been written. -/
structure Written where
  output : Nat := 0
  log : Nat := 0

/-- Writes what is new in an outcome. -/
def writeNew (written : Written) (outcome : Program.Outcome) : IO Written := do
  for event in outcome.log.drop written.log do
    IO.eprintln event.record
  for line in outcome.output.drop written.output do
    IO.println line
  (← IO.getStdout).flush
  return { output := outcome.output.length, log := outcome.log.length }

/-- Writes what is left of an outcome, and answers its exit code. -/
def writeLast (written : Written) (outcome : Program.Outcome) : IO UInt32 := do
  discard (writeNew written outcome)
  if let some text := outcome.complaint then
    IO.eprintln text
  return UInt32.ofNat outcome.exitCode

/-- The host and the port that a message goes to. -/
def placeOf (message : Http.Message) : String × UInt16 :=
  match message.url.authority with
  | none => ("", 0)
  | some authority =>
    (String.ofList (match authority.host with
      | some (.ipv6 groups) => Url.ipv6Text groups
      | some host => host.text
      | none => []),
      UInt16.ofNat (authority.port.getD 80))

/-- A connection to where a message goes. -/
def connect (message : Http.Message) : IO TCP.Socket.Client := do
  let (host, port) := placeOf message
  let addresses ← (DNS.getAddrInfo host (toString port)).block
  match addresses[0]? with
  | none => throw (IO.userError "no address")
  | some address =>
    let socket ← TCP.Socket.Client.mk
    (socket.connect (match address with
      | .v4 addr => .v4 { addr, port }
      | .v6 addr => .v6 { addr, port })).block
    return socket

/-- Reads from a connection until the reply is settled, and writes what is known on the way. -/
partial def follow (socket : TCP.Socket.Client) (prepared : Program.Prepared) (bytes : List UInt8)
    (written : Written) : IO UInt32 := do
  let arrived ← try (socket.recv? 65536).block catch _ => pure none
  let bytes := bytes ++ (arrived.map ByteArray.toList).getD []
  let reply := Http.Reply.ofBytes arrived.isNone bytes
  let outcome := Program.resume prepared reply
  if arrived.isNone || reply.isSettled then writeLast written outcome
  else follow socket prepared bytes (← writeNew written outcome)

/-- Sends a message and follows the answer. -/
def sendAndFollow (message : Http.Message) (prepared : Program.Prepared) : IO UInt32 := do
  let socket? ← try some <$> connect message catch _ => pure none
  match socket? with
  | none => writeLast {} (Program.resume prepared .refused)
  | some socket =>
    let written ← writeNew {} (Program.resume prepared .silent)
    (socket.send ⟨message.bytes.toArray⟩).block
    follow socket prepared [] written

/-- Runs the program. The input is read only if all that comes before it went well. -/
def run : IO UInt32 := do
  let known ← readVariables ["CONFIG_PATH", "RUST_LOG"]
  let file ← readFile (Config.path known)
  let source : Source := fun _ => file
  let tokenEnv := match (Config.load source known).result with
    | .ok config => [config.endpoint.tokenEnv]
    | .error _ => []
  let env ← readVariables (["CONFIG_PATH", "RUST_LOG"] ++ tokenEnv)
  match Program.prepare { source, env } with
  | .error trouble => writeLast {} (Program.failure trouble [])
  | .ok _ =>
    let input ← readAll (← IO.getStdin) ByteArray.empty
    match Program.prepare { source, env, input := input.toList } with
    | .error trouble => writeLast {} (Program.failure trouble [])
    | .ok prepared =>
      match prepared.message? with
      | none => writeLast {} (Program.resume prepared .refused)
      | some message =>
        if message.isSecure then writeLast {} (Program.resume prepared .refused)
        else sendAndFollow message prepared

end Relay.Command

/-- The command. -/
def main : IO UInt32 :=
  Relay.Command.run
