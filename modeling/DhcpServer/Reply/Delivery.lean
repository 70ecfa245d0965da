import DhcpServer.Reply

/-!
# Delivery of replies

A reply goes back to the endpoint that the request came from, by the interface
that it arrived on.  A client that has no address yet, or that asks for it,
is reached by broadcast, at the port it sent from.
-/

namespace DhcpServer

/-- A datagram to be sent. -/
structure Outgoing where
  payload : Bytes
  destination : Endpoint
  ifindex : IfIndex
deriving DecidableEq

namespace ReturnPath

/-- Where a reply to the request goes. -/
def destination (path : ReturnPath) (request : Packet) : Endpoint :=
  if path.client.address.isUnspecified || request.header.flags.broadcast then
    { path.client with address := .v4 .broadcast }
  else path.client

/-- The datagram that carries a reply back, or the first reason why there is
none: a fault of the reply, its size, or that the connection is gone. -/
def outgoing (path : ReturnPath) (reply : Reply) : Except Failure Outgoing :=
  match reply.fault? with
  | some fault => .error (.reply fault)
  | none =>
    match reply.encode? with
    | .error fault => .error (.reply fault)
    | .ok payload =>
      if path.connected then
        .ok ⟨payload, path.destination reply.request.packet, path.ifindex⟩
      else .error .badDescriptor

end ReturnPath

/-- The datagram that carries a reply back to whoever sent the query. -/
def Query.outgoing (query : Query) (reply : Reply) : Except Failure Outgoing :=
  match query.returnPath with
  | some path => path.outgoing reply
  | none => .error .notConnected

end DhcpServer
