import DhcpServer.Packet

/-!
# Changes to a packet

Every way in which a packet may be changed, as data, so that what holds after
any number of changes can be stated about lists of them.
-/

namespace DhcpServer.Packet

inductive Edit where
  | setHtype (value : UInt8)
  | setHops (value : UInt8)
  | setXid (value : UInt32)
  | setSecs (value : UInt16)
  | setFlags (value : Flags)
  | setBroadcast (on : Bool)
  | setCiaddr (address : Ipv4)
  | setYiaddr (address : Ipv4)
  | setSiaddr (address : Ipv4)
  | setGiaddr (address : Ipv4)
  | setHardwareAddress (address : Bytes)
  | setMessageType (kind : UInt8)
  | setOption (code : UInt8) (value : Bytes)
  | setOptionWord (code : UInt8) (value : UInt32)
  | setOptionAddress (code : UInt8) (address : Ipv4)
  | deleteOption (code : UInt8)
  /-- Write the packet and take what a receiver sees in its place. -/
  | passOverWire
deriving DecidableEq

def mapHeader (p : Packet) (f : Header → Header) : Packet :=
  { p with header := f p.header }

def setOption (p : Packet) (code : UInt8) (value : Bytes) : Packet :=
  { p with options := p.options.insert code value }

def deleteOption (p : Packet) (code : UInt8) : Packet :=
  { p with options := p.options.erase code }

def setOptionWord (p : Packet) (code : UInt8) (value : UInt32) : Packet :=
  p.setOption code (BigEndian.encode32 value)

def setOptionAddress (p : Packet) (code : UInt8) (address : Ipv4) : Packet :=
  p.setOptionWord code address.word

def setMessageType (p : Packet) (kind : UInt8) : Packet :=
  p.setOption OptionCode.messageType [kind]

/-- The packet after a change, or nothing if the change cannot be made: only
what a receiver refuses cannot be passed over the wire. -/
def edit? (p : Packet) : Edit → Option Packet
  | .setHtype v => some (p.mapHeader ({ · with htype := v }))
  | .setHops v => some (p.mapHeader ({ · with hops := v }))
  | .setXid v => some (p.mapHeader ({ · with xid := v }))
  | .setSecs v => some (p.mapHeader ({ · with secs := v }))
  | .setFlags v => some (p.mapHeader ({ · with flags := v }))
  | .setBroadcast on => some (p.mapHeader fun h => { h with flags := h.flags.setBroadcast on })
  | .setCiaddr a => some (p.mapHeader ({ · with ciaddr := a }))
  | .setYiaddr a => some (p.mapHeader ({ · with yiaddr := a }))
  | .setSiaddr a => some (p.mapHeader ({ · with siaddr := a }))
  | .setGiaddr a => some (p.mapHeader ({ · with giaddr := a }))
  | .setHardwareAddress a => some (p.mapHeader (·.setHardwareAddress a))
  | .setMessageType kind => some (p.setMessageType kind)
  | .setOption code value => some (p.setOption code value)
  | .setOptionWord code value => some (p.setOptionWord code value)
  | .setOptionAddress code a => some (p.setOptionAddress code a)
  | .deleteOption code => some (p.deleteOption code)
  | .passOverWire => p.received?

/-- The packet after a change; a change that cannot be made leaves it alone. -/
def edit (p : Packet) (e : Edit) : Packet := (p.edit? e).getD p

def edits (p : Packet) (es : List Edit) : Packet := es.foldl edit p

end DhcpServer.Packet
