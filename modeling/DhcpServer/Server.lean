import DhcpServer.Verdict

/-!
# The server

A server waits for datagrams on a connection and hands the messages among them
to a handler, one after the other, until the connection fails or it is told to
stop.  Being told to stop is no failure, whatever the connection says then, and
a server that was told to stop once never serves again.
-/

namespace DhcpServer

/-- The state of a server on a connection with state `κ`. -/
structure Server (κ : Type) where
  connection : Option κ
  stopping : Bool
  handled : Nat
  settings : LogSettings

/-- What is done about the `n`-th message. -/
abbrev Handler (κ : Type) := Nat → Message → Run (Server κ) Unit

/-- How serving goes on after an answer. -/
inductive Progress where
  /-- The wait for a datagram goes on. -/
  | waiting
  /-- A datagram was dealt with, and the next one is waited for. -/
  | served
  /-- Serving has ended: why, unless the server was told to stop. -/
  | ended (failure : Option Failure)
deriving DecidableEq

/-- What came of serving: why it ended, unless the server was told to stop; how
many waits for a datagram came to an end; and the answers that are left. -/
structure Served (ι : Type) where
  failure : Option Failure
  waits : Nat
  rest : List ι

namespace Server

variable {κ ι α : Type}

def start (connection : Option κ) (settings : LogSettings) : Server κ :=
  ⟨connection, false, 0, settings⟩

/-- A run on the connection of a server; without one it yields `absent`. -/
def onConnection (absent : α) (x : Run κ α) : Run (Server κ) α := fun s =>
  match s.connection with
  | none => ⟨absent, s, []⟩
  | some c =>
    let r := x c
    ⟨r.value, { s with connection := some r.state }, r.events⟩

/-- A line is logged as the settings say. -/
def log (level : LogLevel) (line : String) : Run (Server κ) Unit := do
  Run.log (← Run.get).settings level line

/-- The server is told to stop: it hands on no more messages, and a wait for a
datagram ends. -/
def stop [Connection κ ι] : Run (Server κ) Unit := do
  Run.modify fun s => { s with stopping := true }
  match ← onConnection none Connection.shutdown with
  | some failure =>
    log .info ("dhcp4: Failed to shut down the listening socket: " ++ failure.message)
  | none => pure ()

/-- A datagram goes to the handler if it is a message; otherwise only a debug
line is left of it. -/
def dispatch (handler : Handler κ) (d : Datagram) : Run (Server κ) Unit :=
  match d.complaint?, d.message? with
  | some line, _ => log .debug line
  | none, some message => do
    let n := (← Run.get).handled
    Run.modify fun s => { s with handled := n + 1 }
    handler n message
  | none, none => pure ()

/-- Serving ends with a failure of the connection, which is none if the server
was told to stop. -/
def excuse (failure : Failure) : Run (Server κ) (Option Failure) := do
  return if (← Run.get).stopping then none else some failure

/-- What one answer does to serving.  Before it takes effect, `meanwhile` does
what happens during the wait that it ends. -/
def step [Connection κ ι] (meanwhile : ι → Run (Server κ) Unit) (handler : Handler κ) (a : ι) :
    Run (Server κ) Progress := do
  meanwhile a
  match ← onConnection (some (.error .badDescriptor)) (Connection.attempt a) with
  | none => return .waiting
  | some (.error failure) => return .ended (← excuse failure)
  | some (.ok d) => do
    dispatch handler d
    return if (← Run.get).stopping then .ended none else .served

def serveOver [Connection κ ι] (meanwhile : ι → Run (Server κ) Unit) (handler : Handler κ) :
    List ι → Run (Server κ) (Served ι)
  | [] => do return ⟨← excuse (← onConnection .badDescriptor Connection.exhausted), 1, []⟩
  | a :: rest => do
    match ← step meanwhile handler a with
    | .waiting => serveOver meanwhile handler rest
    | .served => do
      let served ← serveOver meanwhile handler rest
      return { served with waits := served.waits + 1 }
    | .ended failure => return ⟨failure, 1, rest⟩

/-- A server serves until it is told to stop or its connection fails; without a
connection it fails at once. -/
def serve [Connection κ ι] (meanwhile : ι → Run (Server κ) Unit) (handler : Handler κ)
    (answers : List ι) : Run (Server κ) (Served ι) := do
  let s ← Run.get
  if s.connection.isNone then return ⟨some .badDescriptor, 0, answers⟩
  else if s.stopping then return ⟨none, 0, answers⟩
  else serveOver meanwhile handler answers

end Server

/-! ### Handlers that follow a script -/

namespace Reply

variable {κ ι : Type}

def take [Connection κ ι] (r : Reply) : ReplyStep → Run κ ReplyReport
  | .edit change =>
    match r.edit? change with
    | some changed => pure ⟨changed, true, none⟩
    | none => pure ⟨r, false, none⟩
  | .send =>
    match r.query.outgoing r with
    | .error failure => pure ⟨r, true, some failure⟩
    | .ok datagram => do return ⟨r, true, ← Connection.send datagram⟩

def takeAll [Connection κ ι] (r : Reply) : List ReplyStep → Run κ (List ReplyReport)
  | [] => pure []
  | step :: steps => do
    let report ← r.take step
    return report :: (← report.reply.takeAll steps)

end Reply

namespace Server

variable {κ ι : Type}

/-- A reply to a message is started, and steps are taken with it. -/
def answer [Connection κ ι] (m : Message) (kind : ReplyKind) (steps : List ReplyStep) :
    Run (Server κ) (Option (Reply × List ReplyReport)) :=
  match Reply.to? kind m with
  | none => pure none
  | some reply => do return some (reply, ← onConnection [] (reply.takeAll steps))

def act [Connection κ ι] (m : Message) : Action → Run (Server κ) Unit
  | .stop => stop
  | .reply kind steps => do
    match ← answer m kind steps with
    | none => Run.emit .noSuchReply
    | some (reply, reports) => Run.emit (.replied reply reports)

def actAll [Connection κ ι] (m : Message) : List Action → Run (Server κ) Unit
  | [] => pure ()
  | action :: actions => do
    act m action
    actAll m actions

/-- The handler that takes the actions of a script about each message. -/
def scripted [Connection κ ι] (script : Nat → Message → List Action) : Handler κ := fun n m => do
  Run.emit (.handled m)
  actAll m (script n m)

end Server

end DhcpServer
