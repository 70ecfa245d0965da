import DhcpServer.Proofs.Link.Reading
import Mathlib.Algebra.GroupWithZero.Nat

/-!
# What a read delivers

A datagram comes with messages about it, of which those are delivered that have room.
`ControlMessage.Delivered` says which these are and `ControlMessage.Tell` what they tell
about the interface that the datagram arrived on; `delivered_fitting` and
`tell_interface` say the same of the functions.  It is the first message of its kind
that tells the interface if the system leaves none of that kind without one
(`ControlMessage.Complete`).  `SocketName.Names` says which endpoint the octets of a
name stand for.

A read ends with one of its calls and no other (`EndsWith.unique`).  `read_delivers` says
what the read leaves with its caller: what that call brings, if it brings a datagram and
the link is not shut down by then, and nothing but a failure otherwise.  What the calls
before have brought makes no difference.
-/

namespace DhcpServer

/-! ## The interface that a datagram arrived on -/

namespace ControlMessage

/-- A message carries the interface that its datagram arrived on. -/
def Carries (c : ControlMessage) (ifindex : IfIndex) : Prop :=
  c.level = 0 ∧ c.number = 8 ∧ c.ifindex = some ifindex

/-- Of the messages about a datagram those are delivered that come first, as many as have
room together. -/
structure Delivered (room : Nat) (messages delivered : List ControlMessage) : Prop where
  front : delivered <+: messages
  sizes : (delivered.map size).sum ≤ room
  most : ∀ more, more <+: messages → (more.map size).sum ≤ room → more <+: delivered

/-- Messages tell the interface that the first of those carries that carry one, and zero if
none of them carries one. -/
def Tell (delivered : List ControlMessage) (ifindex : IfIndex) : Prop :=
  (∃ before c after, delivered = before ++ c :: after ∧ c.Carries ifindex ∧
    ∀ b ∈ before, ∀ i, ¬ b.Carries i) ∨
  (∀ c ∈ delivered, ∀ i, ¬ c.Carries i) ∧ ifindex = 0

/-- A message is of the kind that tells the interface. -/
def IsPacketInfo (c : ControlMessage) : Prop := c.level = 0 ∧ c.number = 8

/-- The system sends no message of the kind that tells the interface without an interface.
This is assumed of it where a read is to go by the first message of that kind. -/
def Complete (messages : List ControlMessage) : Prop :=
  ∀ c ∈ messages, c.IsPacketInfo → ∃ i, c.ifindex = some i

/-- Messages tell the interface that the first of that kind carries, and zero if none is of
that kind. -/
def TellFirst (delivered : List ControlMessage) (ifindex : IfIndex) : Prop :=
  (∃ before c after, delivered = before ++ c :: after ∧ c.Carries ifindex ∧
    ∀ b ∈ before, ¬ b.IsPacketInfo) ∨
  (∀ c ∈ delivered, ¬ c.IsPacketInfo) ∧ ifindex = 0

/-- A complete message that carries no interface is not of the kind that does. -/
theorem Complete.not_isPacketInfo {messages : List ControlMessage} (h : Complete messages)
    {c : ControlMessage} (hc : c ∈ messages) (hnone : ∀ i, ¬ c.Carries i) : ¬ c.IsPacketInfo := by
  rintro ⟨hlevel, hnumber⟩
  obtain ⟨i, hi⟩ := h c hc ⟨hlevel, hnumber⟩
  exact hnone i ⟨hlevel, hnumber, hi⟩

theorem Tell.tellFirst {delivered : List ControlMessage} {ifindex : IfIndex}
    (h : Tell delivered ifindex) (hcomplete : Complete delivered) :
    TellFirst delivered ifindex := by
  rcases h with ⟨before, c, after, rfl, hc, hbefore⟩ | ⟨hnone, hzero⟩
  · exact .inl ⟨before, c, after, rfl, hc, fun b hb =>
      hcomplete.not_isPacketInfo (List.mem_append_left _ hb) (hbefore b hb)⟩
  · exact .inr ⟨fun c hc => hcomplete.not_isPacketInfo hc (hnone c hc), hzero⟩

theorem arrivalInterface?_eq_some_iff {c : ControlMessage} {ifindex : IfIndex} :
    c.arrivalInterface? = some ifindex ↔ c.Carries ifindex := by
  unfold arrivalInterface? Carries
  rw [Option.ite_none_right_eq_some, and_assoc]
  rfl

theorem arrivalInterface?_eq_none_iff {c : ControlMessage} :
    c.arrivalInterface? = none ↔ ∀ i, ¬ c.Carries i := by
  rw [Option.eq_none_iff_forall_ne_some]
  exact forall_congr' fun i => not_congr arrivalInterface?_eq_some_iff

/-- By induction on the messages, each of which takes up its part of the room. -/
theorem delivered_fitting (room : Nat) (messages : List ControlMessage) :
    Delivered room messages (fitting room messages) := by
  induction messages generalizing room with
  | nil => exact ⟨List.prefix_rfl, Nat.zero_le _, fun more hmore _ => hmore⟩
  | cons c cs ih =>
      rw [fitting]
      by_cases hroom : c.size ≤ room
      · obtain ⟨hfront, hsizes, hmost⟩ := ih (room - c.size)
        rw [if_pos hroom]
        refine ⟨(List.prefix_cons_inj c).mpr hfront, ?_, fun more hmore hfits => ?_⟩
        · rw [List.map_cons, List.sum_cons]
          omega
        · rcases List.prefix_cons_iff.mp hmore with rfl | ⟨rest, rfl, hrest⟩
          · exact List.nil_prefix
          · rw [List.map_cons, List.sum_cons] at hfits
            exact (List.prefix_cons_inj c).mpr (hmost rest hrest (by omega))
      · rw [if_neg hroom]
        refine ⟨List.nil_prefix, Nat.zero_le _, fun more hmore hfits => ?_⟩
        rcases List.prefix_cons_iff.mp hmore with rfl | ⟨rest, rfl, -⟩
        · exact List.prefix_rfl
        · rw [List.map_cons, List.sum_cons] at hfits
          omega

theorem tell_interface (messages : List ControlMessage) :
    Tell (fitting room messages) (interface messages) := by
  unfold interface
  rcases hfirst : (fitting room messages).findSome? arrivalInterface? with _ | ifindex
  · refine .inr ⟨fun c hc => ?_, rfl⟩
    exact arrivalInterface?_eq_none_iff.mp (List.findSome?_eq_none_iff.mp hfirst c hc)
  · obtain ⟨before, c, after, hmessages, hc, hbefore⟩ := List.findSome?_eq_some_iff.mp hfirst
    exact .inl ⟨before, c, after, hmessages, arrivalInterface?_eq_some_iff.mp hc,
      fun b hb => arrivalInterface?_eq_none_iff.mp (hbefore b hb)⟩

end ControlMessage

/-! ## Where a datagram came from -/

namespace SocketName

/-- An endpoint is the one whose port and address, with the highest octet first, are the
octets of a name.  Octets that the name does not have are zero. -/
structure Names (name : SocketName) (e : Endpoint) : Prop where
  port_eq : e.port.toNat = (name.port.getD 0 0).toNat * 0x100 + (name.port.getD 1 0).toNat
  address_eq : ∃ address : Ipv4, e.address = .v4 address ∧
    address.word.toNat = (name.address.getD 0 0).toNat * 0x1000000 +
      (name.address.getD 1 0).toNat * 0x10000 + (name.address.getD 2 0).toNat * 0x100 +
      (name.address.getD 3 0).toNat

theorem names_source (name : SocketName) : name.Names name.source :=
  ⟨BigEndian.toNat_decode16 _ _, _, rfl, BigEndian.toNat_decode32 _ _ _ _⟩

end SocketName

namespace Link

/-! ## The calls of a read -/

/-- The calls that a read can make, each with its answer.  On a link that is not open there
is only one, which fails. -/
def receiveCalls (l : Link) : List ReceiveAnswer :=
  if l.isOpen then l.answers.calls
  else [⟨false, none, Errno.badDescriptor, [], .empty, []⟩]

/-- A read ends with one call only. -/
theorem EndsWith.unique {shut : Bool} {calls : List ReceiveAnswer} {k k' : Nat}
    {a a' : ReceiveAnswer} (h : EndsWith shut calls k a) (h' : EndsWith shut calls k' a') :
    k = k' ∧ a = a' := by
  -- a call that a read goes on after cannot end another
  have hle : ∀ {k k' a a'}, EndsWith shut calls k a → EndsWith shut calls k' a' → k' ≤ k := by
    intro k k' a a' h h'
    rw [← Nat.not_lt]
    intro hlt
    obtain ⟨b, hb, herr, hshut⟩ := h'.before k hlt
    obtain rfl := Option.some.inj (h.call_eq.symm.trans hb)
    rcases h.ends with hends | hends
    · exact hends herr
    · exact Bool.false_ne_true (hshut.symm.trans hends)
  obtain rfl := Nat.le_antisymm (hle h' h) (hle h h')
  exact ⟨rfl, Option.some.inj (h.call_eq.symm.trans h'.call_eq)⟩

/-- What a read leaves with its caller, on any link. -/
theorem exists_endsWith_read (capacity : Nat) (source : Endpoint) (l : Link) :
    ∃ k a, EndsWith l.isShutDown l.receiveCalls k a ∧
      (read capacity source l).value =
        .ofReceived source (a.outcome capacity (l.isShutDown || a.shutsDown)) ∧
      returned (read capacity source l).events = (l.receiveCalls.take (k + 1)).map (·.errno) := by
  unfold receiveCalls
  cases hopen : l.isOpen with
  | true => exact exists_read capacity source hopen
  | false =>
      obtain ⟨isOpen, isShutDown, localEndpoint, answers⟩ := l
      obtain rfl : isOpen = false := hopen
      exact ⟨0, _, .zero (.inl (by decide)), rfl, rfl⟩

/-! ## What the last call comes to -/

/-- What a read leaves with its caller that ends with a call: `shut` says whether the link
was shut down by then. -/
structure Delivers (capacity : Nat) (source : Endpoint) (a : ReceiveAnswer) (shut : Bool)
    (r : Reading) : Prop where
  /-- A datagram is delivered, up to the capacity of the buffer, and no failure.  It is
  the first message of its kind that tells the interface, under the assumption that the
  system leaves none of them without one. -/
  datagram : a.errno = 0 → shut = false → r.payload = a.payload.take capacity ∧
    a.name.Names r.source ∧ r.failure = none ∧
    ∃ delivered, ControlMessage.Delivered ControlMessage.room a.control delivered ∧
      ControlMessage.Tell delivered r.ifindex ∧
      (ControlMessage.Complete delivered → ControlMessage.TellFirst delivered r.ifindex)
  /-- A failure is all that is delivered. -/
  failure : a.errno ≠ 0 ∨ shut = true → r.payload = [] ∧ r.source = source ∧ r.ifindex = -1 ∧
    r.failure = some (if a.errno = 0 then .shutDown else .system a.errno)

theorem delivers_outcome (capacity : Nat) (source : Endpoint) (a : ReceiveAnswer) (shut : Bool) :
    Delivers capacity source a shut (.ofReceived source (a.outcome capacity shut)) := by
  constructor
  · rintro herr rfl
    rw [ReceiveAnswer.outcome, if_neg (not_not_intro herr), if_neg Bool.false_ne_true]
    have htell := ControlMessage.tell_interface a.control
    exact ⟨rfl, a.name.names_source, rfl, _, ControlMessage.delivered_fitting _ a.control, htell,
      htell.tellFirst⟩
  · intro hfails
    by_cases herr : a.errno = 0
    · obtain rfl : shut = true := hfails.resolve_left (not_not_intro herr)
      rw [ofReceived_outcome_of_shut]
      exact ⟨rfl, rfl, rfl, rfl⟩
    · rw [ReceiveAnswer.outcome, if_pos herr, if_neg herr]
      exact ⟨rfl, rfl, rfl, rfl⟩

/-! ## What a read delivers -/

/-- **A read delivers the datagram of its last call or none.**  It makes its calls up to the
first that is not merely interrupted or by whose return the link is shut down, and no
other.  What it leaves with its caller is what this call has brought; so a read of another
link that ends with the same call leaves the same. -/
theorem read_delivers (capacity : Nat) (source : Endpoint) (l : Link) :
    ∃ k a, EndsWith l.isShutDown l.receiveCalls k a ∧
      (∀ k' a', EndsWith l.isShutDown l.receiveCalls k' a' → k = k' ∧ a = a') ∧
      returned (read capacity source l).events = (l.receiveCalls.take (k + 1)).map (·.errno) ∧
      Delivers capacity source a (l.isShutDown || a.shutsDown) (read capacity source l).value ∧
      ∀ l' k', l'.isShutDown = l.isShutDown → EndsWith l'.isShutDown l'.receiveCalls k' a →
        (read capacity source l').value = (read capacity source l).value := by
  obtain ⟨k, a, hends, hvalue, hreturned⟩ := exists_endsWith_read capacity source l
  refine ⟨k, a, hends, fun k' a' h => hends.unique h, hreturned, ?_, fun l' k' hshut h => ?_⟩
  · rw [hvalue]
    exact delivers_outcome capacity source a _
  · obtain ⟨k'', a'', hends', hvalue', -⟩ := exists_endsWith_read capacity source l'
    obtain ⟨-, rfl⟩ := h.unique hends'
    rw [hvalue, hvalue', hshut]

/-- A read whose first call is interrupted and whose second brings a datagram that is longer
than the buffer, with two messages about it of which the first takes up the room. -/
theorem read_delivers_second :
    let again : ReceiveAnswer := ⟨false, none, 4, [], .empty, []⟩
    let datagram : ReceiveAnswer :=
      ⟨false, none, 0, [1, 2, 3], ⟨2, [0x12, 0x34], [10, 0, 0, 1]⟩,
        [⟨0, 8, some 5⟩, ⟨0, 8, some 6⟩]⟩
    let l : Link := ⟨true, false, .unspecified, .receiving [again, datagram]⟩
    EndsWith l.isShutDown l.receiveCalls 1 datagram ∧
      returned (read 2 .unspecified l).events = [4, 0] ∧
      (read 2 .unspecified l).value.payload = [1, 2] ∧
      (read 2 .unspecified l).value.source = ⟨.v4 ⟨0x0a000001⟩, 0x1234⟩ ∧
      (read 2 .unspecified l).value.ifindex = 5 ∧
      (read 2 .unspecified l).value.failure = none := by
  intro again datagram l
  obtain ⟨k, a, -, hunique, hreturned, hdelivers, -⟩ := read_delivers 2 .unspecified l
  have hends : EndsWith l.isShutDown l.receiveCalls 1 datagram :=
    (EndsWith.zero (.inl (by decide))).succ rfl rfl
  obtain ⟨rfl, rfl⟩ := hunique 1 datagram hends
  obtain ⟨hpayload, -, hfailure, -⟩ := hdelivers.datagram rfl rfl
  exact ⟨hends, hreturned, hpayload, by decide, by decide, hfailure⟩

end Link

end DhcpServer
