import DhcpServer.Errno

/-!
# Causes of failure

What can go wrong, as causes; the words for each are in one place.  A fault of a
reply also has a number, in a category of its own.
-/

namespace DhcpServer

/-- Why a reply may not be sent. -/
inductive ReplyFault where
  | missingYourAddress
  | unexpectedYourAddress
  | missingServerId
  | missingLeaseTime
  | unexpectedLeaseTime
  | tooLarge
  | wrongMessageType
deriving DecidableEq, Repr

namespace ReplyFault

def code : ReplyFault → Int
  | missingYourAddress => 1
  | unexpectedYourAddress => 2
  | missingServerId => 3
  | missingLeaseTime => 4
  | unexpectedLeaseTime => 5
  | tooLarge => 6
  | wrongMessageType => 7

def ofCode? (code : Int) : Option ReplyFault :=
  match code with
  | 1 => some missingYourAddress
  | 2 => some unexpectedYourAddress
  | 3 => some missingServerId
  | 4 => some missingLeaseTime
  | 5 => some unexpectedLeaseTime
  | 6 => some tooLarge
  | 7 => some wrongMessageType
  | _ => none

def message : ReplyFault → String
  | missingYourAddress => "reply has no client address (yiaddr)"
  | unexpectedYourAddress => "reply must not carry a client address (yiaddr)"
  | missingServerId => "reply has no server identifier option"
  | missingLeaseTime => "reply has no lease time option"
  | unexpectedLeaseTime => "reply must not carry a lease time option"
  | tooLarge => "encoded reply exceeds the maximum UDP payload"
  | wrongMessageType => "reply message type was changed"

/-- The words for the fault with a number, or that there is none. -/
def messageOfCode (code : Int) : String :=
  match ofCode? code with
  | some fault => fault.message
  | none => "unknown reply error"

def category : String := "d4.reply"

@[simp] theorem ofCode?_code (fault : ReplyFault) : ofCode? fault.code = some fault := by
  cases fault <;> rfl

end ReplyFault

/-- Why an operation failed. -/
inductive Failure where
  | reply (fault : ReplyFault)
  | system (errno : Errno)
  | endOfFile
  | hostNotFound
  /-- It is not known at present whether there is such a host. -/
  | hostNotFoundTryAgain
  | serviceNotFound
deriving DecidableEq, Repr

namespace Failure

def badDescriptor : Failure := .system Errno.badDescriptor

def invalidArgument : Failure := .system Errno.invalidArgument

def familyNotSupported : Failure := .system Errno.familyNotSupported

def notConnected : Failure := .system Errno.notConnected

def shutDown : Failure := .system Errno.shutDown

/-- The failure that the operating system names, where zero is success. -/
def ofErrno? (errno : Errno) : Option Failure :=
  if errno = 0 then none else some (.system errno)

def message : Failure → String
  | reply fault => fault.message
  | system errno => Errno.description errno
  | endOfFile => "End of file"
  | hostNotFound => "Host not found (authoritative)"
  | hostNotFoundTryAgain => "Host not found (non-authoritative), try again later"
  | serviceNotFound => "Service not found"

@[simp] theorem ofErrno?_eq_none_iff {errno : Errno} : ofErrno? errno = none ↔ errno = 0 := by
  simp [ofErrno?]

end Failure

end DhcpServer
