import DhcpServer.Connection

/-!
# Verdicts on datagrams

A datagram is a message for the handler, or it is discarded for one of three
reasons.  The verdict depends on the datagram alone.
-/

namespace DhcpServer

/-- What becomes of a datagram. -/
inductive Verdict where
  /-- It does not hold a packet. -/
  | malformed
  /-- The packet does not come from a client; its operation is given. -/
  | notRequest (op : UInt8)
  /-- Clients send no messages of this kind. -/
  | unwanted (kind : UInt8)
  /-- It is a message for the handler. -/
  | accepted (message : Message)
deriving DecidableEq

namespace Datagram

/-- The way back to whoever sent a datagram. -/
def returnPath (d : Datagram) : ReturnPath := ⟨d.source, d.ifindex, true⟩

/-- What becomes of a datagram. -/
def verdict (d : Datagram) : Verdict :=
  match Packet.ofBytes? d.payload with
  | none => .malformed
  | some packet =>
    if packet.header.op ≠ Packet.bootRequest then .notRequest packet.header.op
    else
      match Message.ofArrival? ⟨packet, d.ifindex⟩ (some d.returnPath) with
      | none => .unwanted packet.messageType
      | some message => .accepted message

/-- The line that says why a datagram is discarded, if it is. -/
def complaint? (d : Datagram) : Option String :=
  match d.verdict with
  | .malformed =>
    some ("dhcp4: Discarding malformed " ++ toString d.payload.length ++ " byte datagram from "
      ++ d.source.text)
  | .notRequest op =>
    some ("dhcp4: Discarding non-request (op " ++ toString op.toNat ++ ") from " ++ d.source.text)
  | .unwanted kind =>
    some ("dhcp4: Discarding message of type " ++ toString kind.toNat ++ " from " ++ d.source.text)
  | .accepted _ => none

/-- The message that a datagram is, if it is one. -/
def message? (d : Datagram) : Option Message :=
  match d.verdict with
  | .accepted message => some message
  | _ => none

/-- A datagram is either a message or complained about. -/
theorem complaint?_isSome (d : Datagram) : d.complaint?.isSome = d.message?.isNone := by
  unfold complaint? message?
  cases d.verdict <;> rfl

end Datagram

end DhcpServer
