import DhcpServer.Link.Transfer

/-!
# Calls that wait for a datagram

The answers of the system to the calls that wait for a datagram are a list, and
when none is left the next call fails.  `Answers.calls` puts that failure behind
the list, so that every wait ends with one of the calls.

`attempt_apply`, `shutdown_of_open` and `close_of_open` are the equations of one
call, of shutting an open link down and of closing it; no other proof opens these
three.
-/

namespace DhcpServer

/-- The answer to a call when no other answer is left. -/
def ReceiveAnswer.unanswered : ReceiveAnswer :=
  ⟨false, none, Errno.inputOutput, [], .empty, []⟩

/-- The calls that wait for a datagram, each with its answer, up to one that
fails in any case. -/
def Answers.calls (a : Answers) : List ReceiveAnswer := a.receive ++ [.unanswered]

/-- Answers to the calls that wait for a datagram; all other calls succeed. -/
def Answers.receiving (receive : List ReceiveAnswer) : Answers :=
  ⟨[], [], [], [], [], [], receive, [], [], []⟩

/-- The datagram that an answer brings. -/
def ReceiveAnswer.datagram (a : ReceiveAnswer) : Datagram :=
  ⟨a.payload, a.name.source, ControlMessage.interface a.control⟩

/-- What a wait comes to that ends with an answer: `shut` says whether the link
was shut down by then. -/
def ReceiveAnswer.outcome (a : ReceiveAnswer) (capacity : Nat) (shut : Bool) : Received :=
  if a.errno ≠ 0 then .error (.system a.errno)
  else if shut then .error .shutDown
  else .ok (a.datagram.cut capacity)

/-- A call fails, and not because it is interrupted. -/
def ReceiveAnswer.Fails (a : ReceiveAnswer) : Prop :=
  a.errno ≠ 0 ∧ a.errno ≠ Errno.interrupted

/-- The numbers with which the calls that wait for a datagram returned. -/
def returned (es : List Event) : List Errno :=
  es.filterMap fun
    | .receive errno => some errno
    | _ => none

theorem returned_append (es fs : List Event) : returned (es ++ fs) = returned es ++ returned fs :=
  List.filterMap_append

namespace Link

theorem attempt_apply (capacity : Nat) (a : ReceiveAnswer) (l : Link) :
    attempt capacity a l =
      ⟨if a.errno = Errno.interrupted ∧ l.isShutDown = false then none
        else some (a.outcome capacity l.isShutDown), l, [.receive a.errno]⟩ := by
  have hzero : (0 : Errno) ≠ Errno.interrupted := by decide
  obtain ⟨isOpen, isShutDown, localEndpoint, answers⟩ := l
  unfold attempt ReceiveAnswer.outcome
  simp only [Run.bind_apply, Run.emit_apply, Run.get_apply]
  by_cases herr : a.errno = 0
  · cases isShutDown <;> simp [herr, hzero, ReceiveAnswer.datagram]
  · by_cases hintr : a.errno = Errno.interrupted
    · cases isShutDown <;> simp [hintr, hzero.symm]
    · cases isShutDown <;> simp [herr, hintr]

/-- An open link is shut down whatever the system answers. -/
theorem shutdown_of_open {l : Link} (h : l.isOpen = true) :
    let answer := Answers.next l.answers.shutdown
    shutdown l =
      ⟨if answer.1 = Errno.notConnected then none else Failure.ofErrno? answer.1,
        { l with isShutDown := true, answers := { l.answers with shutdown := answer.2 } },
        [.shutdownSocket answer.1]⟩ := by
  obtain ⟨isOpen, isShutDown, localEndpoint, answers⟩ := l
  obtain rfl : isOpen = true := h
  rfl

/-- An open link is closed whatever the system answers. -/
theorem close_of_open {l : Link} (hopen : l.isOpen = true) :
    let answer := Answers.next l.answers.close
    close l =
      ⟨Failure.ofErrno? answer.1,
        { l with isOpen := false, answers := { l.answers with close := answer.2 } }, [.close]⟩ := by
  obtain ⟨isOpen, isShutDown, localEndpoint, answers⟩ := l
  obtain rfl : isOpen = true := hopen
  rfl

end Link

end DhcpServer
