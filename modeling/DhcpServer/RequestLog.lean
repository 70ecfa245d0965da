import DhcpServer.HardwareAddress
import DhcpServer.Message

/-!
# Request lines

Each message leaves one line in the log, with its kind, transaction, hardware
address, client address and interface.  A request and a decline leave a second
line with the addresses that they are about.
-/

namespace DhcpServer

namespace Packet

/-- The text of an option that is an address. -/
def addressText (p : Packet) (code : UInt8) : String :=
  match p.optionAddress? code with
  | some address => address.text
  | none => "none"

end Packet

namespace Message

/-- The line that every message leaves. -/
def requestLine (m : Message) : String :=
  let p := m.packet
  "dhcp4: " ++ MessageType.nameOfCode p.messageType ++
  " xid=" ++ String.ofList (HexText.word p.header.xid) ++
  " chaddr=" ++ String.ofList (HardwareAddress.text p.header.hardwareAddress) ++
  " ciaddr=" ++ p.header.ciaddr.text ++
  " if=" ++ toString m.ifindex

/-- The line with the addresses that a message is about. -/
def detailLine? (m : Message) : Option String :=
  match m with
  | request q =>
    some ("dhcp4:   requested=" ++ q.packet.addressText OptionCode.requestedAddress ++
      " server=" ++ q.packet.addressText OptionCode.serverId)
  | decline a => some ("dhcp4:   declined=" ++ a.packet.addressText OptionCode.requestedAddress)
  | _ => none

/-- The lines that a message leaves. -/
def logLines (m : Message) : List String :=
  m.requestLine :: m.detailLine?.toList

end Message

end DhcpServer
