/-!
# Option codes

The option codes that have a meaning of their own for this server.  All other
codes are carried along without being looked at.
-/

namespace DhcpServer.OptionCode

/-- A single octet without length or value, which only fills space. -/
def pad : UInt8 := 0

/-- The address that a client asks for, or declines. -/
def requestedAddress : UInt8 := 50

/-- How many seconds a lease lasts. -/
def leaseTime : UInt8 := 51

/-- Which header fields hold further options. -/
def overload : UInt8 := 52

/-- What kind of message a packet is. -/
def messageType : UInt8 := 53

/-- The address of the server that answers. -/
def serverId : UInt8 := 54

/-- The name by which a client goes. -/
def clientId : UInt8 := 61

/-- A single octet without length or value, which ends the options. -/
def stop : UInt8 := 255

end DhcpServer.OptionCode
