import DhcpServer.BindAddress
import DhcpServer.Link.Transfer
import DhcpServer.Server

/-!
# Listening

Setting up a link takes a number of steps: the address is resolved, a socket is
opened and prepared, tied to an interface if one is named, bound, and taken as
a link.  The first step that fails ends the set-up; the reason goes to the log
and the socket, if there is one by then, is given up.
-/

namespace DhcpServer

namespace Link

/-- The endpoint to listen on: the first that the system knows for the host and
the service of the address. -/
def resolve (settings : LogSettings) (address : String) : Run Link (Except Failure Endpoint) := do
  let address := BindAddress.meant address
  match BindAddress.split? address with
  | none =>
    Run.log settings .info ("dhcp4: Bind address '" ++ address ++ "' lacks a port")
    return .error .invalidArgument
  | some (host, service) =>
    Run.emit (.resolve host service)
    match ← nextResolution with
    | .error failure =>
      Run.log settings .info ("dhcp4: Failed to resolve bind address '" ++ address ++ "': "
        ++ failure.message)
      return .error failure
    | .ok [] => return .error .hostNotFound
    | .ok (endpoint :: _) => return .ok endpoint
where
  /-- The next answer to a resolution; any host if there is none. -/
  nextResolution : Run Link (Except Failure (List Endpoint)) := do
    match (← Run.get).answers.resolve with
    | [] => return .ok [⟨.v4 .unspecified, 67⟩]
    | answer :: rest =>
      Run.modify fun l => { l with answers := { l.answers with resolve := rest } }
      return answer

/-- The length that the name of an interface stays below. -/
def deviceNameRoom : Nat := 16

/-- The socket is tied to the named interface. -/
def useDevice (settings : LogSettings) (name : String) : Run Link (Option Failure) := do
  if deviceNameRoom ≤ name.utf8ByteSize then
    Run.log settings .info ("dhcp4: Interface name '" ++ name ++ "' is too long: "
      ++ toString name.utf8ByteSize ++ " >= " ++ toString deviceNameRoom)
    return some .invalidArgument
  else
    match ← bindToDevice (LogSettings.upToZero name) with
    | none => return none
    | some failure =>
      Run.log settings .info ("dhcp4: Failed to bind socket to device " ++ name ++ ": "
        ++ failure.message)
      return some failure

/-- A step of the set-up: if it fails, the log says what could not be done. -/
def explained (settings : LogSettings) (problem : String) (step : Run Link (Option Failure)) :
    Run Link (Option Failure) := do
  match ← step with
  | none => return none
  | some failure =>
    Run.log settings .info ("dhcp4: Failed to " ++ problem ++ ": " ++ failure.message)
    return some failure

/-- Steps one after the other, up to the first that fails. -/
def firstFailure : List (Run Link (Option Failure)) → Run Link (Option Failure)
  | [] => return none
  | step :: steps => do
    match ← step with
    | none => firstFailure steps
    | some failure => return some failure

/-- The steps that prepare a socket for an endpoint. -/
def preparation (settings : LogSettings) (device : String) (endpoint : Endpoint) :
    List (Run Link (Option Failure)) :=
  [explained settings "create v4 UDP socket" openSocket,
    explained settings "set reuse address flag" (setOption .reuseAddress),
    explained settings "set broadcast flag" (setOption .broadcast),
    if device.isEmpty then pure none else useDevice settings device,
    explained settings ("bind to " ++ endpoint.text) (bind endpoint)]

/-- A link is set up for the address and the interface, any if its name is
empty; or the reason is given why there is none. -/
def listen (settings : LogSettings) (address device : String) : Run Link (Option Failure) := do
  match ← resolve settings address with
  | .error failure => return some failure
  | .ok endpoint =>
    match ← firstFailure (preparation settings device endpoint) with
    | some failure =>
      release
      return some failure
    | none => explained settings "enable interface control messages" adopt

end Link

namespace Server

/-- A server serves on a link that is set up for the address, until the link
fails; the link is closed then. -/
def listenAndServe (settings : LogSettings) (address : String) (handler : Handler Link) :
    Run Link (Option Failure) := do
  match ← Link.listen settings address "" with
  | some failure => return some failure
  | none =>
    let served ← onLink settings
    match ← Link.close with
    | some failure =>
      Run.log settings .info ("dhcp4: Failed to close the listening socket: " ++ failure.message)
    | none => pure ()
    return served.failure
where
  /-- Serving on the link. -/
  onLink (settings : LogSettings) : Run Link (Served ReceiveAnswer) := fun l =>
    let r := serve (fun _ => pure ()) handler l.answers.receive (start (some l) settings)
    ⟨r.value, r.state.connection.getD l, r.events⟩

end Server

end DhcpServer
