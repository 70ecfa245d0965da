import DhcpServer.Reply.Delivery

/-!
# Handling a message by building replies

Whoever handles a message starts replies to it, changes their packets and sends
them.  Such handling is described here as data: which reply is started, and
the steps that are taken with it.
-/

namespace DhcpServer

/-- What a reply says, without regard to the message that it answers. -/
inductive ReplyKind where
  | offer
  | ack
  | nak
deriving DecidableEq, Repr

/-- The reply of a kind to a message, if the protocol has one. -/
def Reply.to? : ReplyKind → Message → Option Reply
  | .offer, .discover q => some (.start .offer q)
  | .ack, .request q => some (.start .leaseAck q)
  | .ack, .inform q => some (.start .informAck q)
  | .nak, .request q => some (.start .nak q)
  | _, _ => none

/-- One step with a reply. -/
inductive ReplyStep where
  /-- Its packet is changed. -/
  | edit (change : Packet.Edit)
  /-- It is sent to whoever sent the message that it answers. -/
  | send
deriving DecidableEq

/-- What came of a step: the reply after it, whether a change could be made,
and why the reply was not sent if it was not. -/
structure ReplyReport where
  reply : Reply
  changed : Bool
  failure : Option Failure
deriving DecidableEq

/-- What is done about a message. -/
inductive Action where
  /-- The server is told to stop. -/
  | stop
  /-- A reply is started, if there is one of the kind, and steps are taken with
  it. -/
  | reply (kind : ReplyKind) (steps : List ReplyStep)
deriving DecidableEq

end DhcpServer
