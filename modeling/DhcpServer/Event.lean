import DhcpServer.Answers
import DhcpServer.Log
import DhcpServer.Reply.Script

/-!
# Events

What a run does that can be seen from outside: calls to the operating system,
lines in the log, datagrams and messages.  A run yields its events in order.
-/

namespace DhcpServer

/-- Something that a run does. -/
inductive Event where
  /-- A line or a setting of the log. -/
  | log (entry : LogRecord)
  /-- The process ends with a status. -/
  | exit (status : Nat)
  /-- The system is asked for the endpoints of a host and a service. -/
  | resolve (host service : String)
  /-- The system is asked for a socket. -/
  | openSocket
  /-- A socket option is switched on. -/
  | setOption (option : SocketOption)
  /-- The socket is tied to an interface; the number is the answer. -/
  | bindToDevice (name : String) (errno : Errno)
  /-- The socket is given its endpoint. -/
  | bind (endpoint : Endpoint)
  /-- The socket is closed. -/
  | close
  /-- The socket is given up without having been closed. -/
  | release
  /-- A call that waits for a datagram has returned; the number is the answer. -/
  | receive (errno : Errno)
  /-- A datagram is handed to the system; the number is the answer. -/
  | transmit (transmission : Transmission) (errno : Errno)
  /-- The receiving side of the socket is shut down; the number is the answer. -/
  | shutdownSocket (errno : Errno)
  /-- A connection has sent a datagram. -/
  | sent (datagram : Outgoing)
  /-- A connection has failed to send a datagram. -/
  | sendFailed
  /-- A connection is shut down. -/
  | shutdown
  /-- A message is handed to the handler. -/
  | handled (message : Message)
  /-- Steps were taken with a reply that started out as given. -/
  | replied (start : Reply) (reports : List ReplyReport)
  /-- There is no reply of the wanted kind to the message. -/
  | noSuchReply
  /-- Threads that handle messages are started. -/
  | startWorkers (count : Nat)
  /-- The process waits for signals. -/
  | awaitSignals
  /-- The threads that handle messages have ended. -/
  | joinWorkers
deriving DecidableEq

end DhcpServer
