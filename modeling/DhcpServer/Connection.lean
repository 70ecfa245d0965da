import DhcpServer.Run

/-!
# Packet connections

What the server needs of a connection: it yields datagrams or fails, it sends
datagrams, and it can be shut down so that whoever waits for a datagram is told.

What a connection yields depends on answers from outside.  A connection says
what one answer comes to, and why a wait fails when there are no more answers;
the server runs over the list of answers.
-/

namespace DhcpServer

/-- A datagram that has been received. -/
structure Datagram where
  payload : Bytes
  source : Endpoint
  ifindex : IfIndex
deriving DecidableEq

/-- What came of waiting for a datagram. -/
abbrev Received := Except Failure Datagram

namespace Datagram

/-- The octets of a datagram that fit into a buffer. -/
def cut (d : Datagram) (capacity : Nat) : Datagram :=
  { d with payload := d.payload.take capacity }

end Datagram

/-- The buffer that the server receives into takes any datagram whole. -/
def receiveCapacity : Nat := 65536

/-- A connection with state `κ` that depends on answers of type `ι`. -/
class Connection (κ : Type) (ι : outParam Type) where
  /-- What one answer comes to; nothing if the wait goes on. -/
  attempt : ι → Run κ (Option Received)
  /-- Why a wait fails when there are no more answers. -/
  exhausted : Run κ Failure
  /-- A datagram is sent, or the reason is given why not. -/
  send : Outgoing → Run κ (Option Failure)
  /-- Whoever waits for a datagram is told that there will be none. -/
  shutdown : Run κ (Option Failure)

/-! ### A connection given by its answers -/

/-- What a wait for a datagram comes to, and whether the server is told to stop
during it. -/
structure ChannelAnswer where
  stops : Bool
  received : Received

/-- The answers that a connection gives to sending and to being shut down, for
each call the reason why it fails or nothing. -/
structure Channel where
  sends : List (Option Failure)
  shutdowns : List (Option Failure)

namespace Channel

/-- The first answer of a list, or success if there is none, and what is left. -/
def next : List (Option Failure) → Option Failure × List (Option Failure)
  | [] => (none, [])
  | answer :: rest => (answer, rest)

/-- A datagram is sent unless the next answer says why not. -/
def send (datagram : Outgoing) : Run Channel (Option Failure) := do
  let (answer, rest) := next (← Run.get).sends
  Run.modify fun c => { c with sends := rest }
  Run.emit (if answer.isSome then .sendFailed else .sent datagram)
  return answer

/-- The connection is shut down, and the next answer says whether that failed. -/
def shutdown : Run Channel (Option Failure) := do
  Run.emit .shutdown
  let (answer, rest) := next (← Run.get).shutdowns
  Run.modify fun c => { c with shutdowns := rest }
  return answer

instance : Connection Channel ChannelAnswer where
  attempt answer := pure (some (answer.received.map (·.cut receiveCapacity)))
  exhausted := pure .endOfFile
  send := send
  shutdown := shutdown

end Channel

end DhcpServer
