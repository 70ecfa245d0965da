import DhcpServer.Address.Ipv6

/-!
# Addresses of either family and endpoints

An endpoint is an address and a port.  Its text joins the two with a colon.
-/

namespace DhcpServer

inductive IpAddress where
  | v4 (address : Ipv4)
  | v6 (address : Ipv6)
deriving DecidableEq, Repr

namespace IpAddress

instance : Inhabited IpAddress := ⟨.v4 .unspecified⟩

/-- Whether the address stands for no address at all. -/
def isUnspecified : IpAddress → Bool
  | v4 a => a = .unspecified
  | v6 a => a = .unspecified

def text : IpAddress → String
  | v4 a => a.text
  | v6 a => a.text

/-- The address that the text writes; a text with a colon is an IPv6 address. -/
def ofText? (text : String) : Option IpAddress :=
  let chars := text.toList
  if chars.contains ':' then (Ipv6.ofText? chars).map .v6
  else (Ipv4.ofText? chars).map .v4

end IpAddress

structure Endpoint where
  address : IpAddress
  port : UInt16
deriving DecidableEq, Repr

namespace Endpoint

def unspecified : Endpoint := ⟨.v4 .unspecified, 0⟩

instance : Inhabited Endpoint := ⟨unspecified⟩

def text (e : Endpoint) : String :=
  e.address.text ++ ":" ++ toString e.port.toNat

end Endpoint

end DhcpServer
