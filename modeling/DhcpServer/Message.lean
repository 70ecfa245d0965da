import DhcpServer.Address.Endpoint
import DhcpServer.Packet

/-!
# Messages from clients

A packet from a client is handed on as a message of its kind.  Three kinds may
be answered and know the way back to the client; the protocol has no answer to
the other two.
-/

namespace DhcpServer

/-- The index of a network interface.  Interfaces have positive indices; any
other number names none. -/
abbrev IfIndex := Int

/-- Where an answer goes: to the client's endpoint, by the interface that its
message came from, if there is still a connection. -/
structure ReturnPath where
  client : Endpoint
  ifindex : IfIndex
  connected : Bool
deriving DecidableEq

structure Arrival where
  packet : Packet
  ifindex : IfIndex
deriving DecidableEq

/-- An arrival that may be answered, and the way back to the client. -/
structure Query extends Arrival where
  returnPath : Option ReturnPath
deriving DecidableEq

inductive Message where
  | discover (query : Query)
  | request (query : Query)
  | decline (arrival : Arrival)
  | release (arrival : Arrival)
  | inform (query : Query)
deriving DecidableEq

namespace Message

def arrival : Message → Arrival
  | discover q => q.toArrival
  | request q => q.toArrival
  | decline a => a
  | release a => a
  | inform q => q.toArrival

def packet (m : Message) : Packet := m.arrival.packet

def ifindex (m : Message) : IfIndex := m.arrival.ifindex

def query? : Message → Option Query
  | discover q => some q
  | request q => some q
  | decline _ => none
  | release _ => none
  | inform q => some q

def kind : Message → MessageType
  | discover _ => .discover
  | request _ => .request
  | decline _ => .decline
  | release _ => .release
  | inform _ => .inform

/-- A message of the given kind, if clients send messages of that kind. -/
def ofKind? (kind : MessageType) (arrival : Arrival) (path : Option ReturnPath) : Option Message :=
  match kind with
  | .discover => some (.discover ⟨arrival, path⟩)
  | .request => some (.request ⟨arrival, path⟩)
  | .decline => some (.decline arrival)
  | .release => some (.release arrival)
  | .inform => some (.inform ⟨arrival, path⟩)
  | .offer => none
  | .ack => none
  | .nak => none

/-- The message that a packet is, if clients send packets like it. -/
def ofArrival? (arrival : Arrival) (path : Option ReturnPath) : Option Message :=
  (MessageType.ofCode? arrival.packet.messageType).bind fun kind => ofKind? kind arrival path

theorem kind_of_ofKind? {kind : MessageType} {arrival : Arrival} {path : Option ReturnPath}
    {m : Message} (h : ofKind? kind arrival path = some m) :
    m.kind = kind ∧ m.arrival = arrival := by
  cases kind <;> simp only [ofKind?, Option.some.injEq, reduceCtorEq] at h <;> subst h <;>
    exact ⟨rfl, rfl⟩

/-- A message is of the kind that its packet says, and carries that packet. -/
theorem code_kind_of_ofArrival? {arrival : Arrival} {path : Option ReturnPath} {m : Message}
    (h : ofArrival? arrival path = some m) :
    m.kind.code = m.packet.messageType ∧ m.arrival = arrival := by
  obtain ⟨kind, hk, hm⟩ := Option.bind_eq_some_iff.mp h
  obtain ⟨rfl, rfl⟩ := kind_of_ofKind? hm
  exact ⟨(MessageType.ofCode?_eq_some_iff.mp hk).symm, rfl⟩

end Message

end DhcpServer
