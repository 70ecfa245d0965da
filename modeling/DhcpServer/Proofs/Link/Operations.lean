import DhcpServer.Proofs.Link.Calls
import DhcpServer.Proofs.Link.GoingThrough

/-!
# Calls on a link, in any order

A link has two bits of state that its calls go by: whether it is open, and whether
it was shut down.  `history` tells what each call of a sequence reports and asks of
the system.

Once a link is closed, a call comes to what `whenClosed` says of it, whatever the
system would answer, and no answer is used up.  Reading and shutting down leave the
other side of a link alone (`WriteSide`): `operate_congr` says that writing, closing
and looking up the endpoint go by that side only, so the same is true of sequences
that differ in what is read and shut down.  The two come together in
`calls_in_any_order`.
-/

namespace DhcpServer.Link

open Run (Keeps)

/-! ## Sequences of calls -/

/-- A call on a link. -/
inductive Operation where
  | read (capacity : Nat) (source : Endpoint)
  | write (datagram : Outgoing)
  | shutdown
  | close
  | localEndpoint
deriving DecidableEq

/-- What a call on a link reports to its caller. -/
inductive Report where
  | read (reading : Reading)
  | written (writing : Writing)
  | ended (failure : Option Failure)
  | localEndpoint (result : Except Failure Endpoint)

/-- A call that was made, what it reported and what it did. -/
structure Entry where
  operation : Operation
  report : Report
  events : List Event

/-- One call. -/
def operate : Operation → Run Link Report
  | .read capacity source => do return .read (← read capacity source)
  | .write datagram => do return .written (← write datagram)
  | .shutdown => do return .ended (← shutdown)
  | .close => do return .ended (← close)
  | .localEndpoint => do return .localEndpoint (← lookUpEndpoint)

/-- What comes of each call of a sequence. -/
def history : List Operation → Link → List Entry
  | [], _ => []
  | op :: ops, l =>
    ⟨op, (operate op l).value, (operate op l).events⟩ :: history ops (operate op l).state

/-- The link as a sequence of calls leaves it. -/
def after (ops : List Operation) (l : Link) : Link :=
  ops.foldl (fun l op => (operate op l).state) l

theorem history_append (ops later : List Operation) (l : Link) :
    history (ops ++ later) l = history ops l ++ history later (after ops l) := by
  induction ops generalizing l with
  | nil => rfl
  | cons op ops ih => exact congrArg (_ :: ·) (ih _)

theorem after_append (ops later : List Operation) (l : Link) :
    after (ops ++ later) l = after later (after ops l) := List.foldl_append

/-! ## A closed link -/

/-- What a call comes to once the link was closed: error number 9, a bad descriptor.
IPv6 destinations are refused before the link is looked at, and a link may be closed
again. -/
def whenClosed (op : Operation) : Entry :=
  match op with
  | .read _ source => ⟨op, .read ⟨[], source, -1, some (.system 9)⟩, [.receive 9]⟩
  | .write ⟨payload, ⟨.v4 address, port⟩, ifindex⟩ =>
    ⟨op, .written ⟨0, some (.system 9)⟩,
      [.transmit ⟨payload, address, port, interface? ifindex⟩ 9]⟩
  | .write ⟨_, ⟨.v6 _, _⟩, _⟩ => ⟨op, .written ⟨0, some .familyNotSupported⟩, []⟩
  | .shutdown => ⟨op, .ended (some (.system 9)), [.shutdownSocket 9]⟩
  | .close => ⟨op, .ended none, []⟩
  | .localEndpoint => ⟨op, .localEndpoint (.error (.system 9)), []⟩

section

variable {l : Link}

theorem operate_of_closed (hclosed : l.isOpen = false) (op : Operation) :
    (⟨op, (operate op l).value, (operate op l).events⟩ : Entry) = whenClosed op ∧
      (operate op l).state.isOpen = false ∧ (operate op l).state.answers = l.answers := by
  obtain ⟨isOpen, isShutDown, localEndpoint, answers⟩ := l
  obtain rfl : isOpen = false := hclosed
  cases op with
  | write datagram =>
      obtain ⟨payload, ⟨address, port⟩, ifindex⟩ := datagram
      cases address with
      | v4 address => exact ⟨rfl, rfl, rfl⟩
      | v6 address => exact ⟨rfl, rfl, rfl⟩
  | _ => exact ⟨rfl, rfl, rfl⟩

theorem history_of_closed (hclosed : l.isOpen = false) (ops : List Operation) :
    history ops l = ops.map whenClosed ∧ (after ops l).answers = l.answers := by
  induction ops generalizing l with
  | nil => exact ⟨rfl, rfl⟩
  | cons op ops ih =>
      obtain ⟨hentry, hstill, hanswers⟩ := operate_of_closed hclosed op
      obtain ⟨hhistory, hafter⟩ := ih hstill
      refine ⟨?_, hafter.trans hanswers⟩
      rw [history, hentry, hhistory, List.map_cons]

end

/-! ## Sending a datagram -/

/-- A call to send that is merely interrupted, and so is made again. -/
def isInterrupted (a : SendAnswer) : Bool := a.errno = Errno.interrupted

/-- The answer to the last call that the sending of a datagram takes. -/
def lastSend (answers : List SendAnswer) : SendAnswer :=
  (answers.dropWhile isInterrupted).headD ⟨0, none⟩

/-- What the sender of so many octets is told. -/
def sentBy (a : SendAnswer) (octets : Nat) : Except Failure Nat :=
  if a.errno = 0 then .ok (a.count.getD octets) else .error (.system a.errno)

/-- The calls that the sending of a datagram takes: all of them carry the same. -/
def transmissions (t : Transmission) (answers : List SendAnswer) : List Event :=
  (answers.takeWhile isInterrupted ++ [lastSend answers]).map fun a => .transmit t a.errno

theorem lastSend_cons (a : SendAnswer) (answers : List SendAnswer) :
    lastSend (a :: answers) = if isInterrupted a then lastSend answers else a := by
  unfold lastSend
  rw [List.dropWhile_cons]
  split <;> rfl

theorem transmitOver_apply (t : Transmission) (answers : List SendAnswer) (l : Link) :
    transmitOver t answers l =
      ⟨(sentBy (lastSend answers) t.payload.length, (answers.dropWhile isInterrupted).tail), l,
        transmissions t answers⟩ := by
  have hzero : (0 : Errno) ≠ Errno.interrupted := by decide
  induction answers with
  | nil => rfl
  | cons a rest ih =>
      rw [transmitOver, Run.bind_apply, Run.emit_apply, transmissions, lastSend_cons,
        List.dropWhile_cons, List.takeWhile_cons]
      by_cases hagain : a.errno = Errno.interrupted
      · have hhead : isInterrupted a = true := decide_eq_true hagain
        rw [if_neg (hagain ▸ hzero.symm), if_pos hagain, ih, if_pos hhead, if_pos hhead,
          if_pos hhead]
        rfl
      · have hhead : ¬ isInterrupted a = true := mt of_decide_eq_true hagain
        rw [if_neg hhead, if_neg hhead, if_neg hhead, sentBy, if_neg hagain]
        by_cases hsent : a.errno = 0
        · rw [if_pos hsent, if_pos hsent]
          rfl
        · rw [if_neg hsent, if_neg hsent]
          rfl

/-- What a write leaves with its caller is what the sender of the datagram is told. -/
theorem write_apply (datagram : Outgoing) (l : Link) :
    write datagram l = ⟨.ofSent (send datagram l).value, (send datagram l).state,
      (send datagram l).events⟩ := by
  rw [write, Run.bind_apply, Run.pure_apply, List.append_nil]

theorem ofSent_sentBy (a : SendAnswer) (octets : Nat) :
    Writing.ofSent (sentBy a octets) =
      if a.errno = 0 then ⟨a.count.getD octets, none⟩ else ⟨0, some (.system a.errno)⟩ := by
  unfold sentBy
  split <;> rfl

theorem write_of_open {l : Link} (hopen : l.isOpen = true) (payload : Bytes) (address : Ipv4)
    (port : UInt16) (ifindex : IfIndex) :
    write ⟨payload, ⟨.v4 address, port⟩, ifindex⟩ l =
      ⟨.ofSent (sentBy (lastSend l.answers.send) payload.length),
        { l with answers :=
          { l.answers with send := (l.answers.send.dropWhile isInterrupted).tail } },
        transmissions ⟨payload, address, port, interface? ifindex⟩ l.answers.send⟩ := by
  rw [write_apply]
  unfold send transmit
  simp only [Run.bind_apply, Run.get_apply, hopen, if_true, transmitOver_apply, Run.modify_apply,
    Run.pure_apply, List.nil_append, List.append_nil]

/-! ## The other side of a link -/

/-- What writing, closing and looking up the endpoint go by: all of a link but what
is read, and whether it is shut down. -/
structure WriteSide where
  isOpen : Bool
  localEndpoint : Endpoint
  send : List SendAnswer
  close : List Errno
  lookUp : List Errno

def writeSide (l : Link) : WriteSide :=
  ⟨l.isOpen, l.localEndpoint, l.answers.send, l.answers.close, l.answers.localEndpoint⟩

/-- A call that is about what is read only. -/
def Operation.isReading : Operation → Bool
  | .read _ _ => true
  | .shutdown => true
  | _ => false

theorem keeps_shutdown : Keeps writeSide shutdown := by
  rintro ⟨isOpen, isShutDown, localEndpoint, answers⟩
  cases isOpen with
  | false => rfl
  | true => rfl

theorem keeps_receiveOver (capacity : Nat) (answers : List ReceiveAnswer) :
    Keeps writeSide (receiveOver capacity answers) := by
  induction answers with
  | nil => exact fun _ => rfl
  | cons a rest ih =>
      have hattempt : Keeps writeSide (attempt capacity a) := fun l => by rw [attempt_apply]
      rw [receiveOver]
      split
      · refine keeps_shutdown.bind fun _ => hattempt.bind fun received => ?_
        cases received with
        | some received => exact .pure _
        | none => exact ih
      · refine hattempt.bind fun received => ?_
        cases received with
        | some received => exact .pure _
        | none => exact ih

theorem keeps_receive (capacity : Nat) : Keeps writeSide (receive capacity) := by
  refine Keeps.get.bind fun l => ?_
  split
  · refine Keeps.get.bind fun l => (keeps_receiveOver capacity _).bind fun result => ?_
    exact Keeps.bind (fun _ => rfl) fun _ => .pure _
  · exact Keeps.bind (fun _ => rfl) fun _ => .pure _

theorem keeps_of_isReading {op : Operation} (hop : op.isReading = true) :
    Keeps writeSide (operate op) := by
  cases op with
  | read capacity source =>
      exact ((keeps_receive capacity).bind fun _ => .pure _).bind fun _ => .pure _
  | shutdown => exact keeps_shutdown.bind fun _ => .pure _
  | write datagram => cases hop
  | close => cases hop
  | localEndpoint => cases hop

/-- All other calls go by that side of a link, and say what becomes of it. -/
theorem operate_congr {op : Operation} (hop : op.isReading = false) {l l' : Link}
    (h : writeSide l' = writeSide l) :
    (operate op l').value = (operate op l).value ∧
      (operate op l').events = (operate op l).events ∧
      writeSide (operate op l').state = writeSide (operate op l).state := by
  obtain ⟨isOpen, isShutDown, localEndpoint, answers⟩ := l
  obtain ⟨isOpen', isShutDown', localEndpoint', answers'⟩ := l'
  obtain ⟨rfl, rfl, hsend, hclose, hlookUp⟩ := WriteSide.mk.inj h
  dsimp only at hsend hclose hlookUp
  cases isOpen' with
  | false =>
      cases op with
      | write datagram =>
          obtain ⟨payload, ⟨address, port⟩, ifindex⟩ := datagram
          cases address with
          | v4 address => exact ⟨rfl, rfl, h⟩
          | v6 address => exact ⟨rfl, rfl, h⟩
      | read capacity source => cases hop
      | shutdown => cases hop
      | close => exact ⟨rfl, rfl, h⟩
      | localEndpoint => exact ⟨rfl, rfl, h⟩
  | true =>
      cases op with
      | write datagram =>
          obtain ⟨payload, ⟨address, port⟩, ifindex⟩ := datagram
          cases address with
          | v4 address =>
              simp only [operate, Run.bind_apply, write_of_open, Run.pure_apply, writeSide, hsend,
                hclose, hlookUp, and_self]
          | v6 address => exact ⟨rfl, rfl, h⟩
      | read capacity source => cases hop
      | shutdown => cases hop
      | close =>
          simp only [operate, Run.bind_apply, close_of_open, Run.pure_apply, writeSide, hsend,
            hclose, hlookUp, and_self]
      | localEndpoint =>
          simp only [operate, Run.bind_apply, lookUpEndpoint_of_open, Run.pure_apply, writeSide,
            hsend, hclose, hlookUp, and_self]

/-! ## Two sequences of calls -/

/-- What comes of the calls that are not about reading only. -/
def writings (entries : List Entry) : List Entry := entries.filter (!·.operation.isReading)

theorem writings_history_of_isReading {op : Operation} (hop : op.isReading = true)
    (ops : List Operation) (l : Link) :
    writings (history (op :: ops) l) = writings (history ops (operate op l).state) := by
  rw [history, writings, List.filter_cons, hop]
  rfl

theorem writings_history_of_not_isReading {op : Operation} (hop : op.isReading = false)
    (ops : List Operation) (l : Link) :
    writings (history (op :: ops) l) = ⟨op, (operate op l).value, (operate op l).events⟩ ::
      writings (history ops (operate op l).state) := by
  rw [history, writings, List.filter_cons, hop]
  rfl

/-- Links that agree on the other side write, close and look up alike, and it makes no
difference whether they are shut down in between.  By induction on the calls, each of
which either leaves that side alone or goes by it. -/
theorem writings_filter_shutdown (ops : List Operation) {l l' : Link}
    (h : writeSide l' = writeSide l) :
    writings (history (ops.filter (· ≠ .shutdown)) l') = writings (history ops l) := by
  induction ops generalizing l l' with
  | nil => rfl
  | cons op ops ih =>
      by_cases hdown : op = .shutdown
      · subst hdown
        rw [List.filter_cons_of_neg (by decide), writings_history_of_isReading rfl]
        exact ih (h.trans (keeps_of_isReading rfl l).symm)
      rw [List.filter_cons_of_pos (by exact decide_eq_true hdown)]
      cases hop : op.isReading with
      | true =>
          rw [writings_history_of_isReading hop, writings_history_of_isReading hop]
          exact ih (((keeps_of_isReading hop l').trans h).trans (keeps_of_isReading hop l).symm)
      | false =>
          obtain ⟨hvalue, hevents, hside⟩ := operate_congr hop h
          rw [writings_history_of_not_isReading hop, writings_history_of_not_isReading hop, hvalue,
            hevents, ih hside]

/-! ## Whether a link is open -/

theorem isOpen_operate (op : Operation) (l : Link) :
    (operate op l).state.isOpen = (l.isOpen && op ≠ .close) := by
  cases hopen : l.isOpen with
  | false => exact (operate_of_closed hopen op).2.1
  | true =>
      cases op with
      | read capacity source =>
          exact (congrArg WriteSide.isOpen (keeps_of_isReading rfl l)).trans hopen
      | shutdown => exact (congrArg WriteSide.isOpen (keeps_of_isReading rfl l)).trans hopen
      | write datagram =>
          obtain ⟨payload, ⟨address, port⟩, ifindex⟩ := datagram
          cases address with
          | v4 address =>
              rw [operate, Run.bind_apply, write_of_open hopen]
              exact hopen
          | v6 address => exact hopen
      | close =>
          rw [operate, Run.bind_apply, close_of_open hopen]
          rfl
      | localEndpoint =>
          rw [operate, Run.bind_apply, lookUpEndpoint_of_open hopen]
          exact hopen

theorem isOpen_after (ops : List Operation) (l : Link) :
    (after ops l).isOpen = (l.isOpen && .close ∉ ops) := by
  induction ops generalizing l with
  | nil => simp [after]
  | cons op ops ih =>
      have hafter : after (op :: ops) l = after ops (operate op l).state := rfl
      rw [hafter, ih, isOpen_operate, Bool.and_assoc]
      simp [List.mem_cons, eq_comm]

/-! ## All calls -/

/-- **Calls on a link, in any order.**  Once the link was closed, every call comes to
what `whenClosed` says of it and uses up no answer.  Shutting the link down makes no
difference to what is written, to closing and to looking up the endpoint, whatever
is answered to the calls that wait for datagrams.  Until the link is closed, what is
written goes out as the answers to its own calls have it, and a write that fails has
sent no octets. -/
theorem calls_in_any_order (l : Link) (ops : List Operation) :
    (.close ∈ ops → ∀ later,
      history (ops ++ later) l = history ops l ++ later.map whenClosed ∧
        (after (ops ++ later) l).answers = (after ops l).answers) ∧
    (∀ l', writeSide l' = writeSide l →
      writings (history (ops.filter (· ≠ .shutdown)) l') = writings (history ops l)) ∧
    (l.isOpen = true → .close ∉ ops → ∀ payload address port ifindex,
      let answers := (after ops l).answers.send
      let last := lastSend answers
      history (ops ++ [.write ⟨payload, ⟨.v4 address, port⟩, ifindex⟩]) l =
        history ops l ++ [⟨.write ⟨payload, ⟨.v4 address, port⟩, ifindex⟩,
          .written (if last.errno = 0 then ⟨last.count.getD payload.length, none⟩
            else ⟨0, some (.system last.errno)⟩),
          transmissions ⟨payload, address, port, interface? ifindex⟩ answers⟩]) := by
  refine ⟨fun hclose later => ?_, fun l' h => writings_filter_shutdown ops h, ?_⟩
  · have hclosed : (after ops l).isOpen = false := by
      rw [isOpen_after, decide_eq_false (not_not_intro hclose), Bool.and_false]
    obtain ⟨hhistory, hanswers⟩ := history_of_closed hclosed later
    rw [history_append, after_append, hhistory]
    exact ⟨rfl, hanswers⟩
  · intro hopen hclose payload address port ifindex answers last
    have hstill : (after ops l).isOpen = true := by
      rw [isOpen_after, hopen, decide_eq_true hclose, Bool.and_true]
    rw [history_append, history, history, operate, Run.bind_apply, write_of_open hstill,
      ofSent_sentBy]
    dsimp only
    rw [Run.pure_apply, List.append_nil]

/-- A reply that is sent after the link was shut down, and one that is not sent after
it was closed. -/
theorem calls_in_any_order_reply :
    let l : Link := ⟨true, false, ⟨.v4 ⟨0⟩, 67⟩,
      { Answers.receiving [] with send := [⟨4, none⟩, ⟨0, some 3⟩], shutdown := [107] }⟩
    let reply : Operation := .write ⟨[1, 2, 3], ⟨.v4 ⟨10⟩, 68⟩, 2⟩
    let t : Transmission := ⟨[1, 2, 3], ⟨10⟩, 68, some 2⟩
    history [.shutdown, reply] l =
        [⟨.shutdown, .ended none, [.shutdownSocket 107]⟩,
          ⟨reply, .written ⟨3, none⟩, [.transmit t 4, .transmit t 0]⟩] ∧
      writings (history [reply] l) = writings (history [.shutdown, reply] l) ∧
      history [.close, .shutdown, reply, .read 1500 .unspecified, .close] l =
        [⟨.close, .ended none, [.close]⟩, ⟨.shutdown, .ended (some (.system 9)), [.shutdownSocket 9]⟩,
          ⟨reply, .written ⟨0, some (.system 9)⟩, [.transmit t 9]⟩,
          ⟨.read 1500 .unspecified, .read ⟨[], .unspecified, -1, some (.system 9)⟩, [.receive 9]⟩,
          ⟨.close, .ended none, []⟩] := by
  intro l reply t
  obtain ⟨-, -, hsent⟩ := calls_in_any_order l [.shutdown]
  obtain ⟨-, hwritings, -⟩ := calls_in_any_order l [.shutdown, reply]
  obtain ⟨hclosed, -, -⟩ := calls_in_any_order l [.close]
  refine ⟨hsent rfl (by decide) [1, 2, 3] ⟨10⟩ 68 2, hwritings l rfl, ?_⟩
  exact (hclosed (.head _) [.shutdown, reply, .read 1500 .unspecified, .close]).1

end DhcpServer.Link
