import DhcpServer.Reply.Delivery

/-!
# What the operating system is asked and what it answers

A run of the server is a function of the answers that the operating system
gives to its calls.  This file holds the forms of the calls and of the answers.
The answers to calls of one kind are a list, taken from the front; a call for
which none is left is answered by success, except that there is no datagram to
receive.
-/

namespace DhcpServer

/-- An option of a socket that is switched on. -/
inductive SocketOption where
  /-- The port may be in use already. -/
  | reuseAddress
  /-- Datagrams may be sent by broadcast. -/
  | broadcast
  /-- Datagrams come with the interface that they arrived on. -/
  | packetInfo
deriving DecidableEq, Repr

namespace SocketOption

/-- The protocol level of an option. -/
def level : SocketOption → Nat
  | reuseAddress => 1
  | broadcast => 1
  | packetInfo => 0

/-- The number of an option at its level. -/
def number : SocketOption → Nat
  | reuseAddress => 2
  | broadcast => 6
  | packetInfo => 8

end SocketOption

/-- A message that comes with a datagram, of a kind given by level and number;
it may tell the interface that the datagram arrived on. -/
structure ControlMessage where
  level : Int
  number : Int
  ifindex : Option IfIndex
deriving DecidableEq, Repr

namespace ControlMessage

/-- The room that the messages of one datagram have. -/
def room : Nat := 32

/-- The room that a message takes up. -/
def size (c : ControlMessage) : Nat :=
  if c.ifindex.isSome then 32 else 16

/-- The messages at the front of a list for which there is room. -/
def fitting (room : Nat) : List ControlMessage → List ControlMessage
  | [] => []
  | c :: cs => if c.size ≤ room then c :: fitting (room - c.size) cs else []

/-- The interface that a message tells, if it is a message that does so.  One of
that kind without an interface is passed over; the system sends none. -/
def arrivalInterface? (c : ControlMessage) : Option IfIndex :=
  if c.level = SocketOption.packetInfo.level ∧ c.number = SocketOption.packetInfo.number then
    c.ifindex
  else none

/-- The interface that the messages of a datagram tell, and zero if none does. -/
def interface (cs : List ControlMessage) : IfIndex :=
  ((fitting room cs).findSome? arrivalInterface?).getD 0

end ControlMessage

/-! ### Names of endpoints -/

/-- An endpoint as the system takes it and hands it over: the number of the address
family, and the octets of the port and the address, the highest first. -/
structure SocketName where
  family : Nat
  port : Bytes
  address : Bytes
deriving DecidableEq

namespace SocketName

/-- The number of the address family IPv4. -/
def ipv4Family : Nat := 2

def ofIpv4 (address : Ipv4) (port : UInt16) : SocketName :=
  ⟨ipv4Family, BigEndian.encode16 port, address.bytes⟩

/-- No name was handed over. -/
def empty : SocketName := ⟨0, [], []⟩

/-- The endpoint that a name is read as, in the order of this host.  There is room for
a name of IPv4, with nothing but zeros in it before; the family is not looked at. -/
def source (name : SocketName) : Endpoint :=
  let port := fun i => name.port.getD i 0
  let address := fun i => name.address.getD i 0
  ⟨.v4 (.ofOctets (address 0) (address 1) (address 2) (address 3)),
    BigEndian.decode16 (port 0) (port 1)⟩

/-- The endpoint that is named, if it is one of IPv4. -/
def endpoint? (name : SocketName) : Option Endpoint :=
  if name.family = ipv4Family then
    match BigEndian.read16? name.port, Ipv4.exactly? name.address with
    | some (port, []), some address => some ⟨.v4 address, port⟩
    | _, _ => none
  else none

@[simp] theorem endpoint?_ofIpv4 (address : Ipv4) (port : UInt16) :
    (ofIpv4 address port).endpoint? = some ⟨.v4 address, port⟩ := by
  have hport := BigEndian.read16?_encode16_append port []
  rw [List.append_nil] at hport
  rw [endpoint?, ofIpv4, if_pos rfl, hport, Ipv4.exactly?_bytes]

@[simp] theorem source_ofIpv4 (address : Ipv4) (port : UInt16) :
    (ofIpv4 address port).source = ⟨.v4 address, port⟩ :=
  congr (congrArg (fun word port => (⟨.v4 ⟨word⟩, port⟩ : Endpoint))
    (BigEndian.decode32_encode32 address.word)) (BigEndian.decode16_encode16 port)

end SocketName

/-! ### Answers -/

/-- A signal that reaches the process, or whose delivery is given up. -/
structure Signal where
  number : Int
  aborted : Bool
deriving DecidableEq, Repr

/-- The answer to a call that waits for a datagram: an error number, or with
number zero a datagram and the name of where it came from.  While the call waits,
the connection may be shut down or a signal may come. -/
structure ReceiveAnswer where
  shutsDown : Bool
  signal : Option Signal
  errno : Errno
  payload : Bytes
  name : SocketName
  control : List ControlMessage

/-- The answer to a call that sends a datagram: an error number, or with number
zero how many octets were sent, all of them if it does not say. -/
structure SendAnswer where
  errno : Errno
  count : Option Nat
deriving DecidableEq, Repr

/-- The answers to the calls of each kind, in order. -/
structure Answers where
  resolve : List (Except Failure (List Endpoint))
  openSocket : List Errno
  setOption : List Errno
  bindToDevice : List Errno
  bind : List Errno
  localEndpoint : List Errno
  receive : List ReceiveAnswer
  send : List SendAnswer
  shutdown : List Errno
  close : List Errno

/-- The first answer of a list, or success if there is none, and what is left. -/
def Answers.next : List Errno → Errno × List Errno
  | [] => (0, [])
  | errno :: rest => (errno, rest)

/-- What one call to send a datagram carries: octets, an address and a port, and
the interface to send by, unless the choice is left to the system. -/
structure Transmission where
  payload : Bytes
  address : Ipv4
  port : UInt16
  interface : Option IfIndex
deriving DecidableEq

/-! ### The form of a call that sends -/

/-- What is said about the way of a datagram: the interface, the address of this host
there, and where a datagram that came in was sent to. -/
structure PacketInfo where
  ifindex : IfIndex
  localAddress : Ipv4
  destination : Ipv4
deriving DecidableEq

/-- A message that goes with a datagram, of a kind given by level and number. -/
structure OutgoingControl where
  level : Nat
  number : Nat
  info : PacketInfo
deriving DecidableEq

/-- What one call to send a datagram hands to the system. -/
structure SendCall where
  name : SocketName
  payload : Bytes
  control : List OutgoingControl
  flags : Nat
deriving DecidableEq

/-- The flag of a call that is not to raise a signal when there is no receiver. -/
def SendCall.noSignal : Nat := 0x4000

/-- The call that sends a datagram.  The interface goes with it, if one is chosen;
its addresses are left to the system. -/
def Transmission.call (t : Transmission) : SendCall where
  name := .ofIpv4 t.address t.port
  payload := t.payload
  control := t.interface.toList.map fun ifindex =>
    ⟨SocketOption.packetInfo.level, SocketOption.packetInfo.number,
      ⟨ifindex, .unspecified, .unspecified⟩⟩
  flags := SendCall.noSignal

end DhcpServer
