import DhcpServer.Reply.Delivery
import DhcpServer.Proofs.Datagram.RoundTrip

/-!
# The rules for replies

`packetFault?_eq_none_iff` states the rules that a faultless reply meets, and
`packetFault?_carried` that they are about nothing but what the wire carries: a
reply has the same fault before and after it was sent.  A reply goes out if and
only if it has no fault, fits into a datagram and has a connection to go out on
(`outgoing_eq_ok_iff`).
-/

namespace DhcpServer

theorem BigEndian.exactly32?_isSome_iff {bs : Bytes} :
    (BigEndian.exactly32? bs).isSome ↔ bs.length = 4 := by
  rcases bs with _ | ⟨a, _ | ⟨b, _ | ⟨c, _ | ⟨d, _ | ⟨e, bs⟩⟩⟩⟩⟩ <;>
    simp [BigEndian.exactly32?]

namespace Packet

theorem optionWord?_isSome_iff {p : Packet} {code : UInt8} :
    (p.optionWord? code).isSome ↔ ∃ value, p.option? code = some value ∧ value.length = 4 := by
  rw [optionWord?]
  cases p.option? code with
  | none => simp
  | some value => simpa using BigEndian.exactly32?_isSome_iff

theorem optionAddress?_isSome_iff {p : Packet} {code : UInt8} :
    (p.optionAddress? code).isSome ↔
      ∃ value, p.option? code = some value ∧ value.length = 4 := by
  rw [optionAddress?, Option.isSome_map, optionWord?_isSome_iff]

theorem option?_carried_of_ne {p : Packet} {code : UInt8} (hpad : code ≠ OptionCode.pad)
    (hover : code ≠ OptionCode.overload) (hstop : code ≠ OptionCode.stop) :
    p.carried.option? code = p.option? code := by
  rw [option?_carried, if_neg]
  rintro (h | h | h)
  · exact hpad h
  · exact hover h
  · exact hstop h

theorem minSize_le_length_toBytes (p : Packet) : minSize ≤ p.toBytes.length := by
  rw [toBytes, List.length_append, List.length_replicate]
  omega

end Packet

namespace Reply

open Packet (option?_carried_of_ne)

/-! ## Faultless packets -/

theorem addressFault?_eq_none_iff {form : ReplyForm} {p : Packet} :
    addressFault? form p = none ↔
      if form.grantsLease then p.header.yiaddr ≠ .unspecified
      else p.header.yiaddr = .unspecified := by
  unfold addressFault?
  cases form.grantsLease <;> simp

theorem leaseFault?_eq_none_iff {form : ReplyForm} {p : Packet} :
    leaseFault? form p = none ↔
      if form.grantsLease then
        ∃ value, p.option? OptionCode.leaseTime = some value ∧ value.length = 4
      else p.option? OptionCode.leaseTime = none := by
  unfold leaseFault?
  cases form.grantsLease with
  | true =>
      rw [if_pos rfl, if_pos rfl, ← Packet.optionWord?_isSome_iff]
      cases p.optionWord? OptionCode.leaseTime <;> simp
  | false =>
      rw [if_neg Bool.false_ne_true, if_neg Bool.false_ne_true, Packet.option?,
        OptionMap.contains]
      simp

theorem packetFault?_eq_none_iff {form : ReplyForm} {p : Packet} :
    packetFault? form p = none ↔
      p.messageType = form.messageType.code ∧ addressFault? form p = none ∧
        (∃ value, p.option? OptionCode.serverId = some value ∧ value.length = 4) ∧
        leaseFault? form p = none := by
  rw [← Packet.optionAddress?_isSome_iff, packetFault?]
  by_cases htype : p.messageType = form.messageType.code
  · rw [if_neg (not_not_intro htype), Option.or_eq_none_iff]
    by_cases hserver : (p.optionAddress? OptionCode.serverId).isSome = true
    · rw [if_pos hserver]
      exact ⟨fun h => ⟨htype, h.1, hserver, h.2⟩, fun h => ⟨h.2.1, h.2.2.2⟩⟩
    · rw [if_neg hserver]
      exact ⟨fun h => absurd h.2 (Option.some_ne_none _), fun h => absurd h.2.2.1 hserver⟩
  · rw [if_pos htype]
    exact ⟨fun h => absurd h (Option.some_ne_none _), fun h => absurd h.1 htype⟩

/-- Sending a packet neither mends nor makes a fault. -/
theorem packetFault?_carried (form : ReplyForm) (p : Packet) :
    packetFault? form p.carried = packetFault? form p := by
  -- the rules look at three options, and none of them is lost on the wire
  have htype : p.carried.option? OptionCode.messageType = p.option? OptionCode.messageType :=
    option?_carried_of_ne (by decide) (by decide) (by decide)
  have hserver : p.carried.option? OptionCode.serverId = p.option? OptionCode.serverId :=
    option?_carried_of_ne (by decide) (by decide) (by decide)
  have hlease : p.carried.option? OptionCode.leaseTime = p.option? OptionCode.leaseTime :=
    option?_carried_of_ne (by decide) (by decide) (by decide)
  have hcontains : p.carried.options.contains OptionCode.leaseTime =
      p.options.contains OptionCode.leaseTime := congrArg Option.isSome hlease
  unfold packetFault? leaseFault? Packet.messageType Packet.optionAddress? Packet.optionWord?
  rw [htype, hserver, hlease, hcontains]
  rfl

/-! ## Replies that go out -/

theorem outgoing_eq_ok_iff {path : ReturnPath} {r : Reply} {out : Outgoing} :
    path.outgoing r = .ok out ↔
      r.fault? = none ∧ r.packet.toBytes.length ≤ maxPayload ∧ path.connected = true ∧
        out = ⟨r.packet.toBytes, path.destination r.request.packet, path.ifindex⟩ := by
  unfold ReturnPath.outgoing
  cases r.fault? with
  | some fault => simp
  | none =>
      by_cases hsize : r.packet.toBytes.length ≤ maxPayload
      · have hencode : r.encode? = .ok r.packet.toBytes := if_neg (Nat.not_lt.mpr hsize)
        rw [hencode]
        cases path.connected with
        | true => simp [hsize, eq_comm]
        | false => simp
      · have hencode : r.encode? = .error .tooLarge := if_pos (Nat.lt_of_not_le hsize)
        rw [hencode]
        simp [hsize]

end Reply

end DhcpServer
