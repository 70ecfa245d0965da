import DhcpServer.Daemon
import Std.Async.DNS
import Std.Async.Signal
import Std.Async.UDP

/-!
# The program

What the daemon does is settled by `DhcpServer.Daemon`; here its system calls
are made and their answers handed to it.

A datagram does not tell the interface that it arrived on here, and a socket
cannot be tied to an interface, so naming one ends the process.  Messages are
handled as they come, by a single thread.  Records for the system log go to
standard error with their priority in front, which a journal understands.
-/

namespace DhcpServer.Program

open Std.Async Std.Net

/-- A record of the log is written. -/
def writeRecord : LogRecord → IO Unit
  | .stderr text => IO.eprint text
  | .syslog priority line => IO.eprintln ("<" ++ toString priority ++ ">" ++ line)
  | .opened _ => pure ()

/-- The records of the log among events are written. -/
def writeLog (events : List Event) : IO Unit :=
  events.forM fun
    | .log entry => writeRecord entry
    | _ => pure ()

/-- The number that the system gave, which may come with a minus sign. -/
def magnitude (n : UInt32) : Errno := n.toInt32.toInt.natAbs

/-- The number of a cause, as far as it has one. -/
def errnoOf : IO.Error → Errno
  | .resourceBusy n _ => magnitude n
  | .permissionDenied _ n _ => magnitude n
  | .unsupportedOperation n _ => magnitude n
  | .resourceExhausted _ n _ => magnitude n
  | .invalidArgument _ n _ => magnitude n
  | .interrupted _ n _ => magnitude n
  | .resourceVanished n _ => magnitude n
  | .noSuchThing _ n _ => magnitude n
  | .otherError n _ => magnitude n
  | _ => Errno.inputOutput

/-- The number of the cause if an action fails, and zero if it does not. -/
def attempt (action : IO Unit) : IO Errno := do
  try
    action
    return 0
  catch e => return errnoOf e

/-- An address as the system hands it over. -/
def fromSystem : SocketAddress → Endpoint
  | .v4 a => ⟨.v4 (.ofOctets a.addr.octets[0] a.addr.octets[1] a.addr.octets[2] a.addr.octets[3]),
      a.port⟩
  | .v6 a => ⟨(Ipv6.ofWords? a.addr.segments.toList).elim default .v6, a.port⟩

/-- An address as the system takes it, if it is of the family that is served. -/
def toSystem? (e : Endpoint) : Option SocketAddress :=
  match e.address with
  | .v4 a =>
    let octet := fun i => a.bytes.getD i 0
    some (.v4 ⟨.ofParts (octet 0) (octet 1) (octet 2) (octet 3), e.port⟩)
  | .v6 _ => none

/-- The endpoints of a host and a service, which is a port number. -/
def resolve (host service : String) : IO (Except Failure (List Endpoint)) := do
  match service.toNat? with
  | none => return .error .serviceNotFound
  | some n =>
    let port := UInt16.ofNat n
    if 65536 ≤ n then return .error .serviceNotFound
    else if host.isEmpty then return .ok [⟨.v4 .unspecified, port⟩]
    else
      try
        let found ← (DNS.getAddrInfo host service (some .ipv4)).block
        return .ok (found.toList.filterMap fun
          | .v4 a => some (fromSystem (.v4 ⟨a, port⟩))
          | .v6 _ => none)
      catch _ => return .error .hostNotFound

/-- The answers to the calls that set up a socket. -/
def prepare (socket : UDP.Socket) (settings : Settings) : IO Answers := do
  let resolution ← match BindAddress.split? (BindAddress.meant settings.address) with
    | none => pure (.ok [])
    | some (host, service) => resolve host service
  let (bind, broadcast) ← match resolution with
    | .ok (e :: _) =>
      match toSystem? e with
      | some address => do
        let bind ← attempt (socket.bind address)
        pure (bind, ← if bind = 0 then attempt (socket.setBroadcast true) else pure 0)
      | none => pure (Errno.familyNotSupported, 0)
    | _ => pure (0, 0)
  return { resolve := [resolution], openSocket := [], setOption := [0, broadcast]
           bindToDevice := [Errno.noProtocolOption], bind := [bind], localEndpoint := []
           receive := [], send := [], shutdown := [], close := [] }

/-- The answer to a wait that a signal ends. -/
def signalled (number : Int) : ReceiveAnswer where
  shutsDown := false
  signal := some ⟨number, false⟩
  errno := 0
  payload := []
  name := .empty
  control := []

/-- The answer to a wait that a datagram ends. -/
def arrived (payload : ByteArray) (source : Option SocketAddress) : ReceiveAnswer where
  shutsDown := false
  signal := none
  errno := 0
  payload := payload.toList
  name :=
    match source with
    | some (.v4 a) =>
      .ofIpv4 (.ofOctets a.addr.octets[0] a.addr.octets[1] a.addr.octets[2] a.addr.octets[3])
        a.port
    | _ => .empty
  control := []

/-- A datagram or a signal is waited for. -/
def wait (socket : UDP.Socket) (interrupt terminate : Signal.Waiter) : IO ReceiveAnswer := do
  try
    (Selectable.one #[
      .case (socket.recvSelector (UInt64.ofNat receiveCapacity)) fun datagram =>
        pure (arrived datagram.1 datagram.2),
      .case interrupt.selector fun _ => pure (signalled 2),
      .case terminate.selector fun _ => pure (signalled 15)]).block
  catch e => return { signalled 0 with signal := none, errno := errnoOf e }

/-- Serving on the answers to the waits, up to the one that ends it. -/
partial def serve (next : IO ReceiveAnswer) (server : Server Link) :
    IO (Option Failure × Server Link) := do
  let r := Server.step Daemon.heed Daemon.logRequests (← next) server
  writeLog r.events
  match r.value with
  | .ended failure => return (failure, r.state)
  | _ => serve next r.state

/-- The status that the process ends with. -/
def exitCode : Daemon.Status → UInt32
  | .returned code => UInt32.ofNat code
  | .exited code => UInt32.ofNat code

/-- The daemon with the given settings. -/
def run (settings : Settings) : IO UInt32 := do
  let socket ← UDP.Socket.mk
  let started := Daemon.setUp settings (Link.closed (← prepare socket settings))
  writeLog started.events
  match started.value with
  | some status => return exitCode status
  | none =>
    let interrupt ← Signal.Waiter.mk .sigint true
    let terminate ← Signal.Waiter.mk .sigterm true
    let server := Server.start (some started.state) settings.log
    let (failure, server) ← serve (wait socket interrupt terminate) server
    let ended := Daemon.finish settings failure (server.connection.getD started.state)
    writeLog ended.events
    return exitCode ended.value

end DhcpServer.Program

/-- The daemon with the arguments of its command line. -/
def main (arguments : List String) : IO UInt32 := do
  let line := DhcpServer.CommandLine.read .initial arguments
  IO.print line.printed
  DhcpServer.Program.writeLog line.events
  match line.ended with
  | some status => return UInt32.ofNat status
  | none => DhcpServer.Program.run line.settings
