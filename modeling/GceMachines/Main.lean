import GceMachines.Cli.Run
import GceMachines.Http.Wire
import GceMachines.Transcript
import Std.Async.DNS
import Std.Async.Signal
import Std.Async.TCP
import Std.Async.Timer

/-!
# The program

The run of a command line, its questions answered by files, the clock and the network. Messages go
over plain connections; an address that wants an encrypted one is not reached.
-/

namespace GceMachines.Cli

open Std.Async Std.Net

/-- The reason why a file cannot be read. -/
def fileProblem (e : IO.Error) : String :=
  let known : Nat × String := match e with
    | .noFileOrDirectory _ _ _ => (2, "No such file or directory")
    | .permissionDenied _ _ _ => (13, "Permission denied")
    | .inappropriateType _ _ _ => (21, "Is a directory")
    | e => (5, e.toString)
  known.2 ++ " (os error " ++ toString known.1 ++ ")"

/-- The first address of a host. -/
def addressOf (host : String) : Async (Option IPAddr) := do
  let name := String.ofList (host.toList.filter fun c => c != '[' && c != ']')
  return (← DNS.getAddrInfo name "").toList.head?

/-- All that a server sends. -/
def receiveAll (socket : TCP.Socket.Client) : Async ByteArray := do
  let mut received := ByteArray.empty
  repeat
    match ← socket.recv? 65536 with
    | some bytes => received := received ++ bytes
    | none => break
  return received

/-- Makes a connection to a host. -/
def connectTo (host : String) (port : UInt16) : Async (Option TCP.Socket.Client) := do
  match ← addressOf host with
  | none => return none
  | some address =>
    let socket ← TCP.Socket.Client.mk
    socket.connect (match address with
      | .v4 a => .v4 ⟨a, port⟩
      | .v6 a => .v6 ⟨a, port⟩)
    return some socket

/-- Sends a message and receives what the server sends. -/
def converse (socket : TCP.Socket.Client) (d : Http.Dispatch) : Async Http.Reception := do
  socket.send ⟨d.wire.toArray⟩
  return .ofBytes (← receiveAll socket).toList

/-- A computation whose failure is a value. -/
def orElse {α : Type} (x : Async α) (failed : α) : Async α :=
  tryCatch x fun _ => return failed

/-- Sends a message over a connection of its own. -/
def exchange (d : Http.Dispatch) : Async Http.Reception := do
  if d.uri.scheme = some "http" then
    match ← orElse (connectTo d.uri.host (UInt16.ofNat d.uri.port)) none with
    | some socket => orElse (converse socket d) .dropped
    | none => return .refused
  else return .refused

/-- Sends a message, and gives up after some seconds. -/
def exchangeWithin (timeoutSecs : Nat) (d : Http.Dispatch) : Async Http.Reception :=
  have : Inhabited Http.Reception := ⟨.dropped⟩
  Async.race (exchange d) do
    sleep (.ofNat (timeoutSecs * 1000))
    return .dropped

/-- Reads a file. -/
def readBytes (path : String) : IO (Except String (List UInt8)) :=
  tryCatch (return .ok (← IO.FS.readBinFile path).toList) fun e => return .error (fileProblem e)

/-- Finds the answer to a question. -/
def find (timeoutSecs : Nat) : (q : Inquiry) → Async q.Answer
  | .send d => exchangeWithin timeoutSecs d
  | .file path => readBytes path
  | .unixTime => return (← Std.Time.Timestamp.now).toSecondsSinceUnixEpoch.val
  | .pause ms => sleep (.ofNat ms)

/-- Finds the answer to a question, unless someone asks to stop before. -/
def findOrStop (stop : AsyncTask Unit) (timeoutSecs : Nat) (q : Inquiry) : IO Finding := do
  let answer ← (find timeoutSecs q).toIO
  let came ← IO.waitAny [answer.map some, stop.map fun _ => none]
  let interrupted ← IO.hasFinished stop
  match came with
  | .ok (some a) => return ⟨q, some a, interrupted⟩
  | .ok none => return ⟨q, none, true⟩
  | .error e => throw e

/-- Runs a command line, again and again with one answer more, until no question is open. -/
def runToEnd (stop : AsyncTask Unit) (env : String → Option String) (args : List String) :
    IO Report := do
  let timeoutSecs := (Settings.ofEnvironment env).httpTimeoutSecs
  let mut known : List Finding := []
  repeat
    let outcome := run Transcript.outside env args (.start known)
    match outcome.state.openQuestion, outcome with
    | some q, _ => known := known ++ [← findOrStop stop timeoutSecs q]
    | none, .answered report _ => return report
    | none, .stuck _ => throw (.userError "interrupted")
  throw (.userError "interrupted")

/-- Runs a command line in the environment of the program. -/
def execute (args : List String) : IO UInt32 := do
  let waiter ← Signal.Waiter.mk .sigint true
  let stop : AsyncTask Unit := (← waiter.wait).map fun _ => ()
  let names := ["GCEMC_COMPUTE_ENDPOINT", "GCEMC_HTTP_TIMEOUT_SECS", "GCEMC_POLL_INTERVAL_SECS",
    "GCEMC_POLL_TIMEOUT_SECS", "HOME", "HTTP_PROXY", "HTTPS_PROXY", "KUBECONFIG"]
  let values ← names.mapM fun name => return (name, ← IO.getEnv name)
  let env (name : String) : Option String := (values.lookup name).join
  let report ← runToEnd stop env args
  IO.print report.output
  IO.eprint report.errors
  return UInt32.ofNat report.exit

end GceMachines.Cli

/-- Runs the command line that the program was started with. -/
def main (args : List String) : IO UInt32 := GceMachines.Cli.execute args
