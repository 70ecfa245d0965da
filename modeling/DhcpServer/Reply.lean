import DhcpServer.Failure
import DhcpServer.Message
import DhcpServer.Packet.Edit

/-!
# Replies

A reply answers one message.  It starts out with what the protocol echoes of
the request; whoever handles the message fills in the rest.  `Reply.fault?`
states what is still wrong with a reply, if anything is, and a reply at fault
is never sent.
-/

namespace DhcpServer

/-- The replies of the protocol, by what they say to whom. -/
inductive ReplyForm where
  /-- An address is offered to a client that looks for one. -/
  | offer
  /-- A client that asked for an address gets a lease on it. -/
  | leaseAck
  /-- A client that has an address gets parameters, but no lease. -/
  | informAck
  /-- A client that asked for an address does not get it. -/
  | nak
deriving DecidableEq, Repr

namespace ReplyForm

def messageType : ReplyForm → MessageType
  | offer => .offer
  | leaseAck => .ack
  | informAck => .ack
  | nak => .nak

/-- Whether a reply names an address and says how long the client has it. -/
def grantsLease : ReplyForm → Bool
  | offer => true
  | leaseAck => true
  | informAck => false
  | nak => false

end ReplyForm

structure Reply where
  form : ReplyForm
  query : Query
  packet : Packet
deriving DecidableEq

namespace Reply

/-- The packet that every reply to a request starts out with: its transaction,
flags, relay and hardware address, the kind of the reply, and the name by which
the client goes, if it gave one. -/
def echo (request : Packet) (kind : MessageType) : Packet :=
  let header : Header :=
    { Header.blank Packet.bootReply with
      htype := request.header.htype
      xid := request.header.xid
      flags := request.header.flags
      giaddr := request.header.giaddr }
  let header := header.setHardwareAddress request.header.hardwareAddress
  let packet : Packet := ⟨header, OptionMap.empty.insert OptionCode.messageType [kind.code]⟩
  match request.option? OptionCode.clientId with
  | some name => packet.setOption OptionCode.clientId name
  | none => packet

/-- The reply of the given form that says nothing yet.  Parameters without a
lease go to the address that the client has. -/
def start (form : ReplyForm) (query : Query) : Reply :=
  let packet := echo query.packet form.messageType
  { form, query
    packet :=
      match form with
      | .informAck => packet.mapHeader ({ · with ciaddr := query.packet.header.ciaddr })
      | _ => packet }

def request (r : Reply) : Message :=
  match r.form with
  | .offer => .discover r.query
  | .leaseAck => .request r.query
  | .informAck => .inform r.query
  | .nak => .request r.query

/-- The reply after a change to its packet. -/
def edit? (r : Reply) (e : Packet.Edit) : Option Reply :=
  (r.packet.edit? e).map fun packet => { r with packet }

def yourAddress (a : Ipv4) : Packet.Edit := .setYiaddr a

def serverId (a : Ipv4) : Packet.Edit := .setOptionAddress OptionCode.serverId a

def leaseTime (seconds : UInt32) : Packet.Edit := .setOptionWord OptionCode.leaseTime seconds

/-! ### Faults -/

def addressFault? (form : ReplyForm) (p : Packet) : Option ReplyFault :=
  if form.grantsLease then
    if p.header.yiaddr = .unspecified then some .missingYourAddress else none
  else
    if p.header.yiaddr = .unspecified then none else some .unexpectedYourAddress

def leaseFault? (form : ReplyForm) (p : Packet) : Option ReplyFault :=
  if form.grantsLease then
    if (p.optionWord? OptionCode.leaseTime).isSome then none else some .missingLeaseTime
  else
    if p.options.contains OptionCode.leaseTime then some .unexpectedLeaseTime else none

/-- What is wrong with a packet as a reply of the given form: the first of the
kind, the client's address, the server's address and the lease time that is not
as the protocol asks. -/
def packetFault? (form : ReplyForm) (p : Packet) : Option ReplyFault :=
  if p.messageType ≠ form.messageType.code then some .wrongMessageType
  else (addressFault? form p).or
    (if (p.optionAddress? OptionCode.serverId).isSome then leaseFault? form p
     else some .missingServerId)

def fault? (r : Reply) : Option ReplyFault := packetFault? r.form r.packet

/-! ### Encoding -/

/-- The most octets that one datagram can carry. -/
def maxPayload : Nat := 65507

/-- The octets of a reply, if a datagram can carry them. -/
def encode? (r : Reply) : Except ReplyFault Bytes :=
  let bytes := r.packet.toBytes
  if maxPayload < bytes.length then .error .tooLarge else .ok bytes

/-- Why a reply cannot be encoded, if it cannot, and what a buffer holds then:
what it held before, or else the octets of the reply. -/
def encodeInto (r : Reply) (buffer : Bytes) : Option ReplyFault × Bytes :=
  match r.encode? with
  | .error fault => (some fault, buffer)
  | .ok bytes => (none, bytes)

end Reply

end DhcpServer
