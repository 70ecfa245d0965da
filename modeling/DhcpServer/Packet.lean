import DhcpServer.Header
import DhcpServer.MessageType
import DhcpServer.OptionArea

/-!
# Packets

A packet is a header and its options.  Reading a datagram gathers the options
from the area after the header and then, where the overload option says so,
from the file field and from the server name field; a field that held options
is empty afterwards.  Writing puts all options behind the header, and fills
the datagram up to the length that every receiver takes.
-/

namespace DhcpServer

structure Packet where
  header : Header
  options : OptionMap
deriving DecidableEq

namespace Packet

def bootRequest : UInt8 := 1

def bootReply : UInt8 := 2

/-- The length below which no packet is written. -/
def minSize : Nat := 300

def fresh (op : UInt8) : Packet := ⟨.blank op, .empty⟩

/-! ### Reading and writing -/

/-- Whether the overload option names the file field. -/
def overloadsFile (overload : Option UInt8) : Bool :=
  overload = some 1 || overload = some 3

/-- Whether the overload option names the server name field. -/
def overloadsName (overload : Option UInt8) : Bool :=
  overload = some 2 || overload = some 3

/-- Options gathered so far together with those of a header field, and the
field that is left: if the field holds options, they are read and it is empty
then. -/
def readField? {n : Nat} (holdsOptions : Bool) (field : Block n) (options : OptionMap) :
    Option (Block n × OptionMap) :=
  if holdsOptions then
    let (gathered, wellFormed) := Gathered.read ⟨options, none⟩ field.bytes
    if wellFormed then some (.zero n, gathered.options) else none
  else some (field, options)

/-- The packet that a datagram holds, if it is well formed. -/
def ofBytes? (datagram : Bytes) : Option Packet := do
  let (header, area) ← Header.read? datagram
  let (gathered, wellFormed) := Gathered.read ⟨.empty, some 0⟩ area
  if !wellFormed then none
  let (file, options) ← readField? (overloadsFile gathered.overload) header.file gathered.options
  let (sname, options) ← readField? (overloadsName gathered.overload) header.sname options
  return ⟨{ header with file, sname }, options⟩

/-- The datagram that holds the packet. -/
def toBytes (p : Packet) : Bytes :=
  let bytes := p.header.toBytes ++ p.options.encode
  bytes ++ List.replicate (minSize - bytes.length) 0

/-- The packet as a receiver sees it. -/
def received? (p : Packet) : Option Packet := ofBytes? p.toBytes

/-! ### Looking at a packet -/

def option? (p : Packet) (code : UInt8) : Option Bytes := p.options.get? code

/-- The value of an option as a number, if it has four octets. -/
def optionWord? (p : Packet) (code : UInt8) : Option UInt32 :=
  (p.option? code).bind BigEndian.exactly32?

/-- The value of an option as an address, if it has four octets. -/
def optionAddress? (p : Packet) (code : UInt8) : Option Ipv4 :=
  (p.optionWord? code).map Ipv4.mk

/-- The octet that says what kind of message this is, or zero if there is no
such option or it is not one octet long. -/
def messageType (p : Packet) : UInt8 :=
  match p.option? OptionCode.messageType with
  | some [kind] => kind
  | _ => 0

end Packet

end DhcpServer
