import DhcpServer.Proofs.Datagram.Places
import DhcpServer.Proofs.Reply.OnTheWire

/-!
# What packets and replies keep

However a packet was come by and changed, its hardware address lies within the field for
it and is as long as the header says, and the header ends with the marker of options
(`Header.SoundIn`).  A datagram of which this is not true is not read.

A reply keeps more.  Whatever is done to its packet, it comes from a server, its two text
fields are empty, although an option may claim that they hold options, and it stays a
reply of its kind to the same message: `Reply.kept_by_changes`.
-/

namespace DhcpServer

/-! ## Packets -/

namespace Header

/-- The hardware address of a header lies within its field of a datagram, as long as the
datagram says, and the marker of options stands behind the header. -/
structure SoundIn (h : Header) (b : Bytes) : Prop where
  hlen_le : Bytes.number (octets b 2 1) ≤ 16
  hlen_eq : (h.hlen : Nat) = Bytes.number (octets b 2 1)
  length_eq : h.hardwareAddress.length = Bytes.number (octets b 2 1)
  hardwareAddress_eq : h.hardwareAddress = (octets b 28 16).take (Bytes.number (octets b 2 1))
  cookie_eq : Bytes.number (octets b 236 4) = 0x63825363

theorem soundIn_of_laidOut {h : Header} {b : Bytes} (hb : h.LaidOut b) : h.SoundIn b := by
  have hlen : (h.hlen : Nat) < 17 := h.hlen.isLt
  constructor
  case hlen_le =>
    rw [hb.hlen_eq]
    omega
  case hlen_eq => exact hb.hlen_eq.symm
  case length_eq =>
    rw [hb.hlen_eq, hardwareAddress, List.length_take, h.chaddr.length_bytes]
    omega
  case hardwareAddress_eq => rw [hb.chaddr_eq, hb.hlen_eq, hardwareAddress]
  case cookie_eq => exact hb.cookie_eq

end Header

namespace Packet

theorem soundIn_toBytes (p : Packet) : p.header.SoundIn p.toBytes :=
  Header.soundIn_of_laidOut p.laidOut_toBytes

/-- Reading may empty the text fields, but takes over all that is sound. -/
theorem soundIn_of_ofBytes? {b : Bytes} {p : Packet} (hp : ofBytes? b = some p) :
    p.header.SoundIn b := by
  obtain ⟨h, hb⟩ := header_of_ofBytes? hp
  rw [hb] at hp
  obtain ⟨main, inFile, inName, -, -, -, rfl⟩ := ofBytes?_append_eq_some_iff.mp hp
  have hsound : h.SoundIn b := by
    rw [hb]
    exact Header.soundIn_of_laidOut (h.laidOut_toBytes_append _)
  exact ⟨hsound.hlen_le, hsound.hlen_eq, hsound.length_eq, hsound.hardwareAddress_eq,
    hsound.cookie_eq⟩

end Packet

/-! ## Replies -/

namespace Reply

variable {r : Reply} {kind : ReplyKind} {m : Message}

theorem shaped_edits (h : to? kind m = some r) (es : List Packet.Edit) :
    (r.edits es).packet.ReplyShaped := by
  obtain ⟨form, query, rfl, -, -⟩ := form_of_to? h
  rw [edits_eq]
  exact (shaped_start form query).edits es

/-- Changes to the packet of a reply leave it the same reply to the same message. -/
theorem form_and_request_edits (r : Reply) (es : List Packet.Edit) :
    (r.edits es).form = r.form ∧ (r.edits es).request = r.request := by
  rw [edits_eq]
  exact ⟨rfl, rfl⟩

/-- A packet that was read or changed in any way is sound as it stands in a datagram.
A reply that was changed in any way comes from a server, holds nothing in its text
fields, and is of the kind and to the message that it was at first. -/
theorem kept_by_changes :
    (∀ b p, Packet.ofBytes? b = some p → p.header.SoundIn b) ∧
      (∀ (p : Packet) es, (p.edits es).header.SoundIn (p.edits es).toBytes) ∧
      ∀ kind m r es, to? kind m = some r →
        let b := (r.edits es).packet.toBytes
        octets b 0 1 = [2] ∧ octets b 44 64 = List.replicate 64 0 ∧
          octets b 108 128 = List.replicate 128 0 ∧ (r.edits es).packet.ReplyShaped ∧
          (r.edits es).form = r.form ∧ r.form.messageType.code = kind.octet ∧
          (r.edits es).request = m := by
  refine ⟨fun b p => Packet.soundIn_of_ofBytes?, fun p es => (p.edits es).soundIn_toBytes, ?_⟩
  intro kind m r es h b
  have hshaped := shaped_edits h es
  have hlaid := (r.edits es).packet.laidOut_toBytes
  obtain ⟨hform, hrequest⟩ := r.form_and_request_edits es
  have hkind : r.form.messageType.code = kind.octet := by
    obtain ⟨form, query, rfl, hkind, -⟩ := form_of_to? h
    exact hkind
  refine ⟨?_, ?_, ?_, hshaped, hform, hkind, hrequest.trans (request_of_to? h)⟩
  · rw [hlaid.op_eq, hshaped.op_eq]
    rfl
  · rw [hlaid.sname_eq, hshaped.sname_eq]
    rfl
  · rw [hlaid.file_eq, hshaped.file_eq]
    rfl

/-- The overload option is set, the packet is passed over the wire, and then a hardware
address is set that is too long. -/
theorem kept_by_changes_overload :
    let m : Message := .discover ⟨⟨Packet.fresh 1, 3⟩, none⟩
    let es : List Packet.Edit := [.setOption 52 [3], .passOverWire, .setMessageType 7,
      .setHardwareAddress (List.replicate 30 9)]
    ∃ r, to? .offer m = some r ∧ (r.edits es).request = m ∧
      octets (r.edits es).packet.toBytes 108 128 = List.replicate 128 0 ∧
      (r.edits es).packet.header.hardwareAddress = List.replicate 16 9 := by
  intro m es
  let r := start .offer ⟨⟨Packet.fresh 1, 3⟩, none⟩
  obtain ⟨-, -, hreply⟩ := kept_by_changes
  obtain ⟨-, -, hfile, -, -, -, hrequest⟩ := hreply .offer m r es rfl
  exact ⟨r, rfl, hrequest, hfile, by decide +kernel⟩

end Reply

end DhcpServer
