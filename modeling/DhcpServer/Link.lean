import DhcpServer.Connection

/-!
# Links

A link is an IPv4 datagram socket that reports the interface of every datagram
it receives.  Its state is what the program knows of the socket, together with
the answers that the operating system has yet to give.

This file holds the calls that prepare a link and end it; receiving and sending
are in `DhcpServer.Link.Transfer`.
-/

namespace DhcpServer

/-- A socket, as far as the program can tell. -/
structure Link where
  isOpen : Bool
  isShutDown : Bool
  localEndpoint : Endpoint
  answers : Answers

namespace Link

/-- The state before there is a socket. -/
def closed (answers : Answers) : Link := ⟨false, false, .unspecified, answers⟩

/-- The next answer from the list that `part` takes from the answers; `put`
leaves the rest of the list there. -/
def nextErrno (part : Answers → List Errno) (put : Answers → List Errno → Answers) :
    Run Link Errno := do
  let (errno, rest) := Answers.next (part (← Run.get).answers)
  Run.modify fun l => { l with answers := put l.answers rest }
  return errno

/-! ### Preparing -/

/-- A socket is opened; it has no endpoint of its own yet. -/
def openSocket : Run Link (Option Failure) := do
  Run.emit .openSocket
  let errno ← nextErrno (·.openSocket) fun a rest => { a with openSocket := rest }
  if errno = 0 then
    Run.modify fun l => { l with isOpen := true, localEndpoint := .unspecified }
  return Failure.ofErrno? errno

/-- A socket option is switched on. -/
def setOption (option : SocketOption) : Run Link (Option Failure) := do
  Run.emit (.setOption option)
  let errno ← nextErrno (·.setOption) fun a rest => { a with setOption := rest }
  return Failure.ofErrno? errno

/-- The socket is tied to an interface. -/
def bindToDevice (name : String) : Run Link (Option Failure) := do
  let errno ← nextErrno (·.bindToDevice) fun a rest => { a with bindToDevice := rest }
  Run.emit (.bindToDevice name errno)
  return Failure.ofErrno? errno

/-- The socket is given its endpoint. -/
def bind (endpoint : Endpoint) : Run Link (Option Failure) := do
  Run.emit (.bind endpoint)
  let errno ← nextErrno (·.bind) fun a rest => { a with bind := rest }
  if errno = 0 then
    Run.modify fun l => { l with localEndpoint := endpoint }
  return Failure.ofErrno? errno

/-- The endpoint of the socket is looked up. -/
def lookUpEndpoint : Run Link (Except Failure Endpoint) := do
  if (← Run.get).isOpen then
    let errno ← nextErrno (·.localEndpoint) fun a rest => { a with localEndpoint := rest }
    match Failure.ofErrno? errno with
    | some failure => return .error failure
    | none => return .ok (← Run.get).localEndpoint
  else return .error .badDescriptor

/-! ### Ending -/

/-- An open socket is given up. -/
def release : Run Link Unit := do
  if (← Run.get).isOpen then
    Run.modify fun l => { l with isOpen := false }
    Run.emit .release

/-- The socket is closed, and is closed afterwards even if the call fails. -/
def close : Run Link (Option Failure) := do
  if (← Run.get).isOpen then
    Run.modify fun l => { l with isOpen := false }
    Run.emit .close
    let errno ← nextErrno (·.close) fun a rest => { a with close := rest }
    return Failure.ofErrno? errno
  else return none

/-- Those who wait for a datagram are told that there will be none, while
replies may still be sent.  That there is no peer to tell is no failure. -/
def shutdown : Run Link (Option Failure) := do
  Run.modify fun l => { l with isShutDown := true }
  let errno ←
    if (← Run.get).isOpen then nextErrno (·.shutdown) fun a rest => { a with shutdown := rest }
    else pure Errno.badDescriptor
  Run.emit (.shutdownSocket errno)
  return if errno = Errno.notConnected then none else Failure.ofErrno? errno

/-! ### From a socket to a link -/

/-- The socket is taken as a link: it has to be an open IPv4 socket, and will
report the interface of every datagram.  A socket that cannot be taken is given
up. -/
def adopt : Run Link (Option Failure) := do
  if (← Run.get).isOpen then
    let problem ← do
      match ← lookUpEndpoint with
      | .error failure => pure (some failure)
      | .ok ⟨.v6 _, _⟩ => pure (some .familyNotSupported)
      | .ok ⟨.v4 _, _⟩ => setOption .packetInfo
    if problem.isSome then release
    return problem
  else return some .badDescriptor

end Link

end DhcpServer
