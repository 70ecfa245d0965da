import DhcpServer.CommandLine
import DhcpServer.Listen
import DhcpServer.RequestLog

/-!
# The daemon

The daemon reads its command line, sets up a link, and logs every message that
arrives on it until the link fails or a signal comes.  It answers no message.
-/

namespace DhcpServer.Daemon

/-- How the process ends: from its main function or in the middle of it. -/
inductive Status where
  | returned (code : Nat)
  | exited (code : Nat)
deriving DecidableEq, Repr

/-- What a run of the daemon comes to. -/
structure Result where
  status : Status
  printed : String
  events : List Event

/-- Every message leaves its lines in the log. -/
def logRequests {κ : Type} : Handler κ := fun _ m =>
  m.logLines.forM (Server.log .info)

/-- A signal tells the server to stop, unless its delivery is given up. -/
def heed (a : ReceiveAnswer) : Run (Server Link) Unit :=
  match a.signal with
  | some ⟨number, false⟩ => do
    Server.log .info ("d4serve: received signal " ++ toString number ++ "; stopping")
    Server.stop
  | _ => pure ()

/-- Answers without any signal. -/
def withoutSignals (answers : List ReceiveAnswer) : List ReceiveAnswer :=
  answers.map ({ · with signal := none })

/-- Answers with the first signal only, which is the one that is waited for. -/
def withFirstSignal : List ReceiveAnswer → List ReceiveAnswer
  | [] => []
  | a :: rest => a :: (if a.signal.isSome then withoutSignals rest else withFirstSignal rest)

/-- The process ends after a critical line. -/
def die (settings : Settings) (line : String) : Run Link Status := do
  Run.log settings.log .critical line
  Run.emit (.exit 1)
  return .exited 1

/-- The line that says where the daemon listens. -/
def listeningLine (settings : Settings) (endpoint : Endpoint) : String :=
  "d4serve: listening on " ++ endpoint.text ++
    (if settings.device.isEmpty then "" else " interface " ++ settings.device)

/-- The daemon listens and gets ready to serve, or the process ends. -/
def setUp (settings : Settings) : Run Link (Option Status) := do
  match ← Link.listen settings.log settings.address settings.device with
  | some failure =>
    return some (← die settings
      ("d4serve: failed to listen on " ++ settings.address ++ ": " ++ failure.message))
  | none =>
    match ← Link.lookUpEndpoint with
    | .error failure =>
      return some (← die settings
        ("d4serve: failed to get local address: " ++ failure.message))
    | .ok endpoint =>
      Run.log settings.log .info (listeningLine settings endpoint)
      Run.emit (.startWorkers settings.workers)
      Run.emit .awaitSignals
      return none

/-- Messages are logged until the link fails or a signal comes. -/
def serve (settings : Settings) : Run Link (Option Failure) := fun l =>
  let server := Server.start (some l) settings.log
  let r := Server.serve heed logRequests (withFirstSignal l.answers.receive) server
  ⟨r.value.failure, r.state.connection.getD l, r.events⟩

/-- The link is closed and the process ends, successfully if serving did not
fail. -/
def finish (settings : Settings) (ended : Option Failure) : Run Link Status := do
  Run.emit .joinWorkers
  match ← Link.close with
  | some failure =>
    Run.log settings.log .info ("d4serve: failed to close socket: " ++ failure.message)
  | none => pure ()
  match ended with
  | some failure =>
    Run.log settings.log .error ("d4serve: receive failed: " ++ failure.message)
    return .returned 1
  | none => return .returned 0

/-- The daemon with the given settings. -/
def run (settings : Settings) : Run Link Status := do
  match ← setUp settings with
  | some status => return status
  | none => finish settings (← serve settings)

/-- The daemon with the given arguments, when the log is set as given before. -/
def start (log : LogSettings) (arguments : List String) (answers : Answers) : Result :=
  let line := CommandLine.read log arguments
  match line.ended with
  | some code => ⟨.exited code, line.printed, line.events⟩
  | none =>
    let r := run line.settings (Link.closed answers)
    ⟨r.value, line.printed, line.events ++ r.events⟩

end DhcpServer.Daemon
