import DhcpServer.Link

/-!
# Receiving and sending on a link

A call that is interrupted before it did anything is made again.  Waiting for a
datagram ends as soon as an answer is not merely an interruption, or comes
after the link was shut down; sending ends as soon as an answer is not merely
an interruption.
-/

namespace DhcpServer.Link

/-! ### Receiving -/

/-- What one answer to the wait for a datagram comes to, for a buffer of the
given capacity; nothing if the wait goes on. -/
def attempt (capacity : Nat) (a : ReceiveAnswer) : Run Link (Option Received) := do
  Run.emit (.receive a.errno)
  let shutDown := (← Run.get).isShutDown
  if a.errno ≠ 0 then
    if a.errno = Errno.interrupted ∧ !shutDown then return none
    else return some (.error (.system a.errno))
  else if shutDown then return some (.error .shutDown)
  else
    let datagram : Datagram := ⟨a.payload, a.name.source, ControlMessage.interface a.control⟩
    return some (.ok (datagram.cut capacity))

/-- No datagram will come. -/
def exhausted : Run Link Failure := do
  Run.emit (.receive Errno.inputOutput)
  return .system Errno.inputOutput

/-- Waiting for a datagram over the answers to come, and the answers that are
left then.  The link may be shut down during the wait. -/
def receiveOver (capacity : Nat) : List ReceiveAnswer → Run Link (Received × List ReceiveAnswer)
  | [] => do return (.error (← exhausted), [])
  | a :: rest => do
    if a.shutsDown then let _ ← shutdown
    match ← attempt capacity a with
    | some received => return (received, rest)
    | none => receiveOver capacity rest

/-- A datagram is waited for. -/
def receive (capacity : Nat) : Run Link Received := do
  if (← Run.get).isOpen then
    let (received, rest) ← receiveOver capacity (← Run.get).answers.receive
    Run.modify fun l => { l with answers := { l.answers with receive := rest } }
    return received
  else
    Run.emit (.receive Errno.badDescriptor)
    return .error .badDescriptor

/-- What a read leaves with its caller: the octets that it delivered, and what
stands in the places for the source, the interface and the failure. -/
structure Reading where
  payload : Bytes
  source : Endpoint
  ifindex : IfIndex
  failure : Option Failure
deriving DecidableEq

/-- A read that failed delivers nothing, names no interface and leaves the
source as it was. -/
def Reading.ofReceived (source : Endpoint) : Received → Reading
  | .error failure => ⟨[], source, -1, some failure⟩
  | .ok d => ⟨d.payload, d.source, d.ifindex, none⟩

/-- A datagram is read by a caller who has `source` in the place for its
source. -/
def read (capacity : Nat) (source : Endpoint) : Run Link Reading := do
  return .ofReceived source (← receive capacity)

/-! ### Sending -/

/-- The interface that a datagram is bound to leave by, if any. -/
def interface? (ifindex : IfIndex) : Option IfIndex :=
  if 0 < ifindex then some ifindex else none

/-- Handing a datagram to the system over the answers to come: how many octets
were sent, and the answers that are left then. -/
def transmitOver (t : Transmission) :
    List SendAnswer → Run Link (Except Failure Nat × List SendAnswer)
  | [] => do
    Run.emit (.transmit t 0)
    return (.ok t.payload.length, [])
  | a :: rest => do
    Run.emit (.transmit t a.errno)
    if a.errno = 0 then return (.ok (a.count.getD t.payload.length), rest)
    else if a.errno = Errno.interrupted then transmitOver t rest
    else return (.error (.system a.errno), rest)

/-- A datagram is handed to the system. -/
def transmit (t : Transmission) : Run Link (Except Failure Nat) := do
  if (← Run.get).isOpen then
    let (result, rest) ← transmitOver t (← Run.get).answers.send
    Run.modify fun l => { l with answers := { l.answers with send := rest } }
    return result
  else
    Run.emit (.transmit t Errno.badDescriptor)
    return .error .badDescriptor

/-- A datagram is sent: how many octets of it went out, or why none did.  Only
IPv4 destinations can be reached. -/
def send (datagram : Outgoing) : Run Link (Except Failure Nat) :=
  match datagram.destination with
  | ⟨.v4 address, port⟩ => transmit ⟨datagram.payload, address, port, interface? datagram.ifindex⟩
  | ⟨.v6 _, _⟩ => pure (.error .familyNotSupported)

/-- What a write leaves with its caller: how many octets were sent, and what stands
in the place for the failure. -/
structure Writing where
  count : Nat
  failure : Option Failure
deriving DecidableEq

/-- A write that failed has sent no octets. -/
def Writing.ofSent : Except Failure Nat → Writing
  | .error failure => ⟨0, some failure⟩
  | .ok count => ⟨count, none⟩

/-- A datagram is written. -/
def write (datagram : Outgoing) : Run Link Writing := do
  return .ofSent (← send datagram)

instance : Connection Link ReceiveAnswer where
  attempt := attempt receiveCapacity
  exhausted := exhausted
  send datagram := do
    match ← send datagram with
    | .error failure => return some failure
    | .ok _ => return none
  shutdown := shutdown

end DhcpServer.Link
