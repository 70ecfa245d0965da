import DhcpServer.Proofs.Link.Operations

/-!
# What a write sends

Sending a datagram takes calls that are merely interrupted, and one more:
`lastSend_spec`.  All of them hand the same over, and `SendCall.Carries` says what
that is: the octets of the datagram, the endpoint that it goes to in network order, and
the interface that it leaves by, if one is chosen.

`write_sends_once` says that a write on any link makes these calls and nothing else, and
that its last call is what its caller is told of.
-/

namespace DhcpServer

/-! ## What one call hands over -/

namespace SocketName

/-- A name is that of an IPv4 endpoint in network order. -/
structure IsOf (name : SocketName) (address : Ipv4) (port : UInt16) : Prop where
  family : name.family = 2
  port_octets : name.port.map UInt8.toNat = [port.toNat / 0x100, port.toNat % 0x100]
  address_octets : name.address.map UInt8.toNat =
    [address.word.toNat / 0x1000000, address.word.toNat / 0x10000 % 0x100,
      address.word.toNat / 0x100 % 0x100, address.word.toNat % 0x100]
  /-- Whoever reads the name finds the endpoint. -/
  endpoint : name.endpoint? = some ⟨.v4 address, port⟩

theorem isOf_ofIpv4 (address : Ipv4) (port : UInt16) : (ofIpv4 address port).IsOf address port :=
  ⟨rfl, BigEndian.toNat_encode16 port, BigEndian.toNat_encode32 address.word,
    endpoint?_ofIpv4 address port⟩

end SocketName

/-- A call hands a datagram over that goes to an IPv4 address: unchanged, without a signal if
nobody receives it, and with a choice of the interface to leave by if the datagram makes
one. -/
structure SendCall.Carries (call : SendCall) (datagram : Outgoing) (address : Ipv4) : Prop where
  payload : call.payload = datagram.payload
  name : call.name.IsOf address datagram.destination.port
  flags : call.flags = 0x4000
  chosen : 0 < datagram.ifindex →
    call.control = [⟨0, 8, ⟨datagram.ifindex, .unspecified, .unspecified⟩⟩]
  left : datagram.ifindex ≤ 0 → call.control = []

namespace Link

theorem carries_call (payload : Bytes) (address : Ipv4) (port : UInt16) (ifindex : IfIndex) :
    (Transmission.call ⟨payload, address, port, interface? ifindex⟩).Carries
      ⟨payload, ⟨.v4 address, port⟩, ifindex⟩ address where
  payload := rfl
  name := SocketName.isOf_ofIpv4 address port
  flags := rfl
  chosen h := by
    dsimp only [Transmission.call]
    rw [interface?, if_pos h]
    rfl
  left h := by
    dsimp only [Transmission.call]
    rw [interface?, if_neg (Int.not_lt.mpr h)]
    rfl

/-! ## The calls of a write -/

/-- The calls that a write can make, each with its answer, up to one that succeeds in any
case.  On a link that is not open there is only one, which fails. -/
def sendCalls (l : Link) : List SendAnswer :=
  if l.isOpen then l.answers.send ++ [⟨0, none⟩] else [⟨Errno.badDescriptor, none⟩]

/-- Of the calls to send the first ones are taken, and the last of these is the only one that
is not merely interrupted.  By induction on the answers. -/
theorem lastSend_spec (answers : List SendAnswer) :
    (lastSend answers).errno ≠ Errno.interrupted ∧
      (∃ later, answers ++ [⟨0, none⟩] =
        answers.takeWhile isInterrupted ++ lastSend answers :: later) ∧
      (answers.dropWhile isInterrupted).tail =
        answers.drop ((answers.takeWhile isInterrupted).length + 1) := by
  induction answers with
  | nil => exact ⟨by decide, ⟨[], rfl⟩, rfl⟩
  | cons a rest ih =>
      rw [lastSend_cons, List.takeWhile_cons, List.dropWhile_cons]
      by_cases hagain : isInterrupted a = true
      · obtain ⟨hlast, ⟨later, hlater⟩, hleft⟩ := ih
        rw [if_pos hagain, if_pos hagain, if_pos hagain]
        exact ⟨hlast, ⟨later, congrArg (a :: ·) hlater⟩, hleft⟩
      · rw [if_neg hagain, if_neg hagain, if_neg hagain]
        exact ⟨mt decide_eq_true hagain, ⟨rest ++ [⟨0, none⟩], rfl⟩, rfl⟩

/-! ## What a write sends -/

/-- **A write sends its datagram once, as it is.**  To an IPv6 address nothing is sent.  To an
IPv4 address, the same is handed over again as long as that is merely interrupted, and
the first answer that says otherwise is what the caller is told: how many octets were
sent, or why none were.  Nothing else is done, and of the answers to come only those to
these calls are used up. -/
theorem write_sends_once (datagram : Outgoing) (l : Link) :
    match datagram.destination.address with
    | .v6 _ => write datagram l = ⟨⟨0, some .familyNotSupported⟩, l, []⟩
    | .v4 address => ∃ (t : Transmission) (interrupted : List SendAnswer) (last : SendAnswer)
        (later : List SendAnswer),
        t.call.Carries datagram address ∧
        l.sendCalls = interrupted ++ last :: later ∧
        (∀ a ∈ interrupted, a.errno = Errno.interrupted) ∧ last.errno ≠ Errno.interrupted ∧
        (write datagram l).events = (interrupted ++ [last]).map (.transmit t ·.errno) ∧
        (write datagram l).value =
          (if last.errno = 0 then ⟨last.count.getD datagram.payload.length, none⟩
            else ⟨0, some (.system last.errno)⟩) ∧
        (write datagram l).state =
          if l.isOpen then
            { l with answers :=
              { l.answers with send := l.answers.send.drop (interrupted.length + 1) } }
          else l := by
  obtain ⟨payload, ⟨address, port⟩, ifindex⟩ := datagram
  obtain ⟨isOpen, isShutDown, localEndpoint, answers⟩ := l
  cases address with
  | v6 address => rfl
  | v4 address =>
      have hcarries := carries_call payload address port ifindex
      cases isOpen with
      | false =>
          exact ⟨_, [], ⟨Errno.badDescriptor, none⟩, [], hcarries, rfl, List.forall_mem_nil _,
            by decide, rfl, rfl, rfl⟩
      | true =>
          obtain ⟨hlast, ⟨later, hlater⟩, hleft⟩ := lastSend_spec answers.send
          have hinterrupted : ∀ a ∈ answers.send.takeWhile isInterrupted,
              a.errno = Errno.interrupted := fun a ha =>
            of_decide_eq_true (List.all_eq_true.mp List.all_takeWhile a ha)
          rw [write_of_open rfl, hleft]
          exact ⟨_, answers.send.takeWhile isInterrupted, lastSend answers.send, later, hcarries,
            hlater, hinterrupted, hlast, rfl, ofSent_sentBy _ _, rfl⟩

/-- A datagram that is sent at the third call, of which the system says that two of its
three octets went out, and one that no link can send. -/
theorem write_sends_once_third :
    let l : Link := ⟨true, false, ⟨.v4 ⟨0⟩, 67⟩,
      { Answers.receiving [] with send := [⟨4, none⟩, ⟨4, none⟩, ⟨0, some 2⟩, ⟨1, none⟩] }⟩
    let datagram : Outgoing := ⟨[1, 2, 3], ⟨.v4 ⟨0x0a000001⟩, 0x1234⟩, 3⟩
    let t : Transmission := ⟨[1, 2, 3], ⟨0x0a000001⟩, 0x1234, some 3⟩
    t.call.Carries datagram ⟨0x0a000001⟩ ∧
      t.call.name = ⟨2, [0x12, 0x34], [10, 0, 0, 1]⟩ ∧
      (write datagram l).events = [.transmit t 4, .transmit t 4, .transmit t 0] ∧
      (write datagram l).value = ⟨2, none⟩ ∧
      (write datagram l).state.answers.send = [⟨1, none⟩] ∧
      write ⟨[1, 2, 3], ⟨.v6 .unspecified, 68⟩, 3⟩ l = ⟨⟨0, some .familyNotSupported⟩, l, []⟩ := by
  intro l datagram t
  have hevents :
      (write datagram l).events = [.transmit t 4, .transmit t 4, .transmit t 0] := by decide
  obtain ⟨t', interrupted, last, later, hcarries, -, -, -, hcalls, -⟩ :=
    write_sends_once datagram l
  -- what the calls carry is what the first of them carries
  have hfirst : Event.transmit t 4 ∈ (interrupted ++ [last]).map (.transmit t' ·.errno) := by
    rw [← hcalls, hevents]
    exact .head _
  obtain ⟨a, -, ha⟩ := List.mem_map.mp hfirst
  obtain ⟨rfl, -⟩ := Event.transmit.inj ha
  exact ⟨hcarries, by decide, hevents, by decide, by decide,
    write_sends_once ⟨[1, 2, 3], ⟨.v6 .unspecified, 68⟩, 3⟩ l⟩

end Link

end DhcpServer
