import DhcpServer.Proofs.Reply.OnTheWire

/-!
# The faults of a reply, in order

A reply has to meet four rules: its message type is that of its kind, it names the
address of the client or names none, it has a server identifier, and it has a lease
time or has none.  `Breaks` says what breaks each of them, by the fault that is
reported for it, and `faultOrder` which fault is reported first.

`fault_is_first_broken` says that a reply has no fault exactly if it is `Faultless`,
that otherwise its fault is the first of all that it has, and that a receiver of its
octets finds the same fault.
-/

namespace DhcpServer

namespace Packet

/-- The message type is an octet other than zero exactly if the option holds that
octet and no other. -/
theorem messageType_eq_iff {p : Packet} {octet : UInt8} (h : octet ≠ 0) :
    p.messageType = octet ↔ p.option? 53 = some [octet] := by
  show p.messageType = octet ↔ p.option? OptionCode.messageType = some [octet]
  unfold messageType
  rcases p.option? OptionCode.messageType with _ | _ | ⟨kind, _ | ⟨second, tail⟩⟩
  · simp [h.symm]
  · simp [h.symm]
  · simp
  · simp [h.symm]

end Packet

namespace Reply

/-! ## Rules and what breaks them -/

/-- A packet meets all rules for a reply of a kind to a message. -/
structure Faultless (kind : ReplyKind) (m : Message) (p : Packet) : Prop where
  type_eq : p.option? 53 = some [kind.octet]
  server_id : (p.option? 54).map List.length = some 4
  leased : kind.Leases m →
    p.header.yiaddr ≠ .unspecified ∧ (p.option? 51).map List.length = some 4
  unleased : ¬ kind.Leases m → p.header.yiaddr = .unspecified ∧ p.option? 51 = none

/-- A packet has a fault as a reply of a kind to a message.  Its size is no matter of
these rules. -/
def Breaks (kind : ReplyKind) (m : Message) (p : Packet) : ReplyFault → Prop
  | .wrongMessageType => p.option? 53 ≠ some [kind.octet]
  | .missingYourAddress => kind.Leases m ∧ p.header.yiaddr = .unspecified
  | .unexpectedYourAddress => ¬ kind.Leases m ∧ p.header.yiaddr ≠ .unspecified
  | .missingServerId => (p.option? 54).map List.length ≠ some 4
  | .missingLeaseTime => kind.Leases m ∧ (p.option? 51).map List.length ≠ some 4
  | .unexpectedLeaseTime => ¬ kind.Leases m ∧ p.option? 51 ≠ none
  | .tooLarge => False

/-- The message type is looked at first, then the address of the client, the server
identifier, and the lease time. -/
def faultOrder : List ReplyFault :=
  [.wrongMessageType, .missingYourAddress, .unexpectedYourAddress, .missingServerId,
    .missingLeaseTime, .unexpectedLeaseTime]

instance (kind : ReplyKind) (m : Message) : Decidable (kind.Leases m) :=
  inferInstanceAs (Decidable (_ ∨ _))

instance (kind : ReplyKind) (m : Message) (p : Packet) : DecidablePred (Breaks kind m p)
  | .wrongMessageType => inferInstanceAs (Decidable (_ ≠ _))
  | .missingYourAddress => inferInstanceAs (Decidable (_ ∧ _))
  | .unexpectedYourAddress => inferInstanceAs (Decidable (_ ∧ _))
  | .missingServerId => inferInstanceAs (Decidable (_ ≠ _))
  | .missingLeaseTime => inferInstanceAs (Decidable (_ ∧ _))
  | .unexpectedLeaseTime => inferInstanceAs (Decidable (_ ∧ _))
  | .tooLarge => inferInstanceAs (Decidable False)

theorem length_eq_four_iff {value : Option Bytes} :
    value.map List.length = some 4 ↔ ∃ octets, value = some octets ∧ octets.length = 4 :=
  Option.map_eq_some_iff

/-! ## The fault that is reported -/

section Form

variable {kind : ReplyKind} {m : Message} {form : ReplyForm} {p : Packet}

theorem octet_ne_zero (kind : ReplyKind) : kind.octet ≠ 0 := by
  cases kind <;> decide

theorem breaks_wrongMessageType_iff (htype : form.messageType.code = kind.octet) :
    Breaks kind m p .wrongMessageType ↔ p.messageType ≠ form.messageType.code := by
  rw [htype]
  exact not_congr (Packet.messageType_eq_iff (octet_ne_zero kind)).symm

theorem breaks_missingServerId_iff :
    Breaks kind m p .missingServerId ↔ ¬ (p.optionAddress? OptionCode.serverId).isSome = true := by
  rw [Packet.optionAddress?_isSome_iff]
  exact not_congr length_eq_four_iff

theorem addressFault?_eq_find? (hlease : form.grantsLease = true ↔ kind.Leases m) :
    addressFault? form p =
      [.missingYourAddress, .unexpectedYourAddress].find? (Breaks kind m p) := by
  unfold addressFault?
  by_cases hl : kind.Leases m
  · rw [if_pos (hlease.mpr hl)]
    by_cases hy : p.header.yiaddr = .unspecified <;> simp [Breaks, hl, hy]
  · rw [if_neg (hl ∘ hlease.mp)]
    by_cases hy : p.header.yiaddr = .unspecified <;> simp [Breaks, hl, hy]

theorem leaseFault?_eq_find? (hlease : form.grantsLease = true ↔ kind.Leases m) :
    leaseFault? form p = [.missingLeaseTime, .unexpectedLeaseTime].find? (Breaks kind m p) := by
  unfold leaseFault?
  by_cases hl : kind.Leases m
  · rw [if_pos (hlease.mpr hl)]
    have hword : (p.optionWord? OptionCode.leaseTime).isSome = true ↔
        (p.option? 51).map List.length = some 4 :=
      Packet.optionWord?_isSome_iff.trans length_eq_four_iff.symm
    by_cases ht : (p.option? 51).map List.length = some 4
    · rw [if_pos (hword.mpr ht)]
      simp [Breaks, hl, ht]
    · rw [if_neg (ht ∘ hword.mp)]
      simp [Breaks, hl, ht]
  · rw [if_neg (hl ∘ hlease.mp)]
    show (if (p.option? 51).isSome then _ else _) = _
    cases ht : p.option? 51 <;> simp [Breaks, hl, ht]

theorem find?_breaks_cons (fault : ReplyFault) (faults : List ReplyFault) :
    (fault :: faults).find? (Breaks kind m p) =
      if Breaks kind m p fault then some fault else faults.find? (Breaks kind m p) := by
  rw [List.find?_cons]
  by_cases h : Breaks kind m p fault <;> simp [h]

/-- The fault of a packet is the first one in order that it has. -/
theorem packetFault?_eq_find? (htype : form.messageType.code = kind.octet)
    (hlease : form.grantsLease = true ↔ kind.Leases m) :
    packetFault? form p = faultOrder.find? (Breaks kind m p) := by
  have horder : faultOrder = .wrongMessageType ::
      ([.missingYourAddress, .unexpectedYourAddress] ++
        .missingServerId :: [.missingLeaseTime, .unexpectedLeaseTime]) := rfl
  rw [horder, find?_breaks_cons, List.find?_append, find?_breaks_cons .missingServerId,
    packetFault?, addressFault?_eq_find? hlease, leaseFault?_eq_find? hlease]
  by_cases hm : Breaks kind m p .wrongMessageType
  · rw [if_pos hm, if_pos ((breaks_wrongMessageType_iff htype).mp hm)]
  · rw [if_neg hm, if_neg (hm ∘ (breaks_wrongMessageType_iff htype).mpr)]
    by_cases hs : Breaks kind m p .missingServerId
    · rw [if_pos hs, if_neg (breaks_missingServerId_iff.mp hs)]
    · rw [if_neg hs, if_pos (Decidable.not_not.mp (hs ∘ breaks_missingServerId_iff.mpr))]

theorem packetFault?_eq_none_iff_faultless (htype : form.messageType.code = kind.octet)
    (hlease : form.grantsLease = true ↔ kind.Leases m) :
    packetFault? form p = none ↔ Faultless kind m p := by
  rw [packetFault?_eq_find? htype hlease]
  constructor
  · intro h
    have hno : ∀ fault ∈ faultOrder, ¬ Breaks kind m p fault := by
      simpa using List.find?_eq_none.mp h
    refine ⟨?_, ?_, fun hl => ⟨?_, ?_⟩, fun hl => ⟨?_, ?_⟩⟩
    · exact Decidable.not_not.mp (hno .wrongMessageType (by decide))
    · exact Decidable.not_not.mp (hno .missingServerId (by decide))
    · exact fun hy => hno .missingYourAddress (by decide) ⟨hl, hy⟩
    · exact Decidable.not_not.mp fun ht => hno .missingLeaseTime (by decide) ⟨hl, ht⟩
    · exact Decidable.not_not.mp fun hy => hno .unexpectedYourAddress (by decide) ⟨hl, hy⟩
    · exact Decidable.not_not.mp fun ht => hno .unexpectedLeaseTime (by decide) ⟨hl, ht⟩
  · rintro ⟨htype, hserver, hleased, hunleased⟩
    refine List.find?_eq_none.mpr fun fault _ => ?_
    rw [decide_eq_true_eq]
    cases fault with
    | wrongMessageType => exact fun h => h htype
    | missingYourAddress => exact fun h => (hleased h.1).1 h.2
    | unexpectedYourAddress => exact fun h => h.2 (hunleased h.1).1
    | missingServerId => exact fun h => h hserver
    | missingLeaseTime => exact fun h => h.2 (hleased h.1).2
    | unexpectedLeaseTime => exact fun h => h.2 (hunleased h.1).2
    | tooLarge => exact id

end Form

/-- Whatever a handler does to the packet of a reply: the reply is without fault
exactly if its packet meets all rules, its fault is otherwise the first of all that
the packet has, and the octets of the packet are always read as a packet with which
the reply has the same fault, or none. -/
theorem fault_is_first_broken {kind : ReplyKind} {m : Message} {r : Reply}
    (hr : to? kind m = some r) (es : List Packet.Edit) :
    ((r.edits es).fault? = none ↔ Faultless kind m (r.edits es).packet) ∧
      (r.edits es).fault? = faultOrder.find? (Breaks kind m (r.edits es).packet) ∧
      ∃ q, Packet.ofBytes? (r.edits es).packet.toBytes = some q ∧
        Reply.fault? { r.edits es with packet := q } = (r.edits es).fault? := by
  obtain ⟨form, query, rfl, htype, hlease⟩ := form_of_to? hr
  have hfault : ((start form query).edits es).fault? =
      packetFault? form ((start form query).edits es).packet := by
    rw [edits_eq]
    rfl
  obtain ⟨q, hq, -, hsame⟩ := exists_received form query es
  refine ⟨?_, ?_, q, hq, ?_⟩
  · rw [hfault]
    exact packetFault?_eq_none_iff_faultless htype hlease
  · rw [hfault]
    exact packetFault?_eq_find? htype hlease
  · rw [← hsame, edits_eq]
    rfl

/-- An answer to a client that has an address offers it one, lacks a server
identifier, and has a lease time of two octets. -/
theorem fault_is_first_broken_inform :
    let m : Message := .inform ⟨⟨Packet.fresh 1, 3⟩, none⟩
    let es := [yourAddress ⟨10⟩, .setOption 51 [1, 2]]
    ∃ r q, to? .ack m = some r ∧
      Breaks .ack m (r.edits es).packet .missingServerId ∧
      Breaks .ack m (r.edits es).packet .unexpectedLeaseTime ∧
      (r.edits es).fault? = some .unexpectedYourAddress ∧
      Packet.ofBytes? (r.edits es).packet.toBytes = some q ∧
      Reply.fault? { r.edits es with packet := q } = some .unexpectedYourAddress := by
  intro m es
  let r := start .informAck ⟨⟨Packet.fresh 1, 3⟩, none⟩
  obtain ⟨-, hfirst, q, hq, hsame⟩ := fault_is_first_broken (rfl : to? .ack m = some r) es
  have hfault : (r.edits es).fault? = some .unexpectedYourAddress := hfirst.trans (by decide)
  exact ⟨r, q, rfl, by decide, by decide, hfault, hq, hsame.trans hfault⟩

end Reply

end DhcpServer
