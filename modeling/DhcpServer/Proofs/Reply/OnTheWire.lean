import DhcpServer.Reply.Script
import DhcpServer.Proofs.Datagram.Changed
import DhcpServer.Proofs.Reply.Rules

/-!
# Replies as their receivers see them

The rules for replies are checked on the packet that a handler has put together,
and a receiver sees what the octets decode to.  No change to the packet of a
reply reaches its operation or its two text fields (`ReplyShaped.edits`), so no
receiver takes those fields for options, and what it sees is what was checked:
`valid_on_the_wire`.
-/

namespace DhcpServer

namespace Packet

/-! ## What no change reaches -/

/-- The packet comes from a server, and its text fields are empty. -/
structure ReplyShaped (p : Packet) : Prop where
  op_eq : p.header.op = bootReply
  sname_eq : p.header.sname = .zero 64
  file_eq : p.header.file = .zero 128

theorem ReplyShaped.received?_eq {p : Packet} (h : p.ReplyShaped) :
    p.received? = some p.carried :=
  Packet.received?_eq (fun _ => h.file_eq) (fun _ => h.sname_eq)

theorem ReplyShaped.setOption {p : Packet} (h : p.ReplyShaped) (code : UInt8) (value : Bytes) :
    (p.setOption code value).ReplyShaped :=
  ⟨h.op_eq, h.sname_eq, h.file_eq⟩

theorem ReplyShaped.textFieldsEmpty {p : Packet} (h : p.ReplyShaped) : p.TextFieldsEmpty :=
  ⟨h.sname_eq, h.file_eq⟩

/-- One change keeps the shape: it reaches neither the operation nor an empty
text field. -/
theorem ReplyShaped.edit {p : Packet} (h : p.ReplyShaped) (e : Edit) :
    (p.edit e).ReplyShaped := by
  obtain ⟨hsname, hfile⟩ := h.textFieldsEmpty.edit e
  exact ⟨(p.header_edit e).1.trans h.op_eq, hsname, hfile⟩

theorem ReplyShaped.edits {p : Packet} (h : p.ReplyShaped) (es : List Edit) :
    (p.edits es).ReplyShaped := by
  induction es generalizing p with
  | nil => exact h
  | cons e es ih => exact ih (h.edit e)

end Packet

namespace Reply

/-- The reply after a list of changes to its packet; a change that cannot be made
leaves it alone. -/
def edits (r : Reply) (es : List Packet.Edit) : Reply :=
  es.foldl (fun r e => (r.edit? e).getD r) r

theorem edits_eq (r : Reply) (es : List Packet.Edit) :
    r.edits es = { r with packet := r.packet.edits es } := by
  induction es generalizing r with
  | nil => rfl
  | cons e es ih =>
      have hstep : (r.edit? e).getD r = { r with packet := r.packet.edit e } := by
        rw [edit?, Packet.edit]
        cases r.packet.edit? e <;> rfl
      show ((r.edit? e).getD r).edits es = _
      rw [hstep, ih]
      rfl

theorem shaped_echo (request : Packet) (kind : MessageType) :
    (echo request kind).ReplyShaped := by
  unfold echo
  cases request.option? OptionCode.clientId with
  | none => exact ⟨rfl, rfl, rfl⟩
  | some name => exact Packet.ReplyShaped.setOption ⟨rfl, rfl, rfl⟩ _ _

theorem shaped_start (form : ReplyForm) (query : Query) :
    (start form query).packet.ReplyShaped := by
  obtain ⟨hop, hsname, hfile⟩ := shaped_echo query.packet form.messageType
  cases form <;> exact ⟨hop, hsname, hfile⟩

/-- A receiver sees a packet with the same fault as the reply, if any. -/
theorem exists_received (form : ReplyForm) (query : Query) (es : List Packet.Edit) :
    ∃ q, ((start form query).edits es).packet.received? = some q ∧
      q.header.op = Packet.bootReply ∧
      packetFault? form q = ((start form query).edits es).fault? := by
  have hshape := (shaped_start form query).edits es
  rw [edits_eq, fault?]
  exact ⟨_, hshape.received?_eq, hshape.op_eq, packetFault?_carried form _⟩

end Reply

/-! ## The law for receivers -/

/-- The octet that stands for a kind of reply. -/
def ReplyKind.octet : ReplyKind → UInt8
  | .offer => 2
  | .ack => 5
  | .nak => 6

/-- The reply lets the client have an address for some time: it is an offer, or
grants a request. -/
def ReplyKind.Leases (kind : ReplyKind) (m : Message) : Prop :=
  kind = .offer ∨ (kind = .ack ∧ m.kind = .request)

/-- What the protocol asks of a reply of a kind to a message. -/
structure ValidReply (kind : ReplyKind) (m : Message) (q : Packet) : Prop where
  op_eq : q.header.op = 2
  type_eq : q.messageType = kind.octet
  server_id : ∃ value, q.option? 54 = some value ∧ value.length = 4
  leased : kind.Leases m → q.header.yiaddr ≠ .unspecified ∧
    ∃ value, q.option? 51 = some value ∧ value.length = 4
  unleased : ¬ kind.Leases m → q.header.yiaddr = .unspecified ∧ q.option? 51 = none

namespace Reply

theorem request_of_to? {kind : ReplyKind} {m : Message} {r : Reply} (h : to? kind m = some r) :
    r.request = m := by
  cases kind <;> cases m <;> cases h <;> rfl

theorem form_of_to? {kind : ReplyKind} {m : Message} {r : Reply} (h : to? kind m = some r) :
    ∃ form query, r = start form query ∧ form.messageType.code = kind.octet ∧
      (form.grantsLease = true ↔ kind.Leases m) := by
  unfold to? at h
  split at h
  · exact ⟨.offer, _, (Option.some.inj h).symm, rfl,
      by simp [ReplyForm.grantsLease, ReplyKind.Leases]⟩
  · exact ⟨.leaseAck, _, (Option.some.inj h).symm, rfl,
      by simp [ReplyForm.grantsLease, ReplyKind.Leases, Message.kind]⟩
  · exact ⟨.informAck, _, (Option.some.inj h).symm, rfl,
      by simp [ReplyForm.grantsLease, ReplyKind.Leases, Message.kind]⟩
  · exact ⟨.nak, _, (Option.some.inj h).symm, rfl,
      by simp [ReplyForm.grantsLease, ReplyKind.Leases]⟩
  · exact absurd h.symm (Option.some_ne_none _)

theorem validReply_of_faultless {kind : ReplyKind} {m : Message} {form : ReplyForm} {q : Packet}
    (hop : q.header.op = Packet.bootReply) (hfault : packetFault? form q = none)
    (htype : form.messageType.code = kind.octet)
    (hlease : form.grantsLease = true ↔ kind.Leases m) : ValidReply kind m q := by
  obtain ⟨hmessage, haddress, hserver, htime⟩ := packetFault?_eq_none_iff.mp hfault
  rw [addressFault?_eq_none_iff] at haddress
  rw [leaseFault?_eq_none_iff] at htime
  refine ⟨hop, hmessage.trans htype, hserver, ?_, ?_⟩
  · intro hl
    rw [if_pos (hlease.mpr hl)] at haddress htime
    exact ⟨haddress, htime⟩
  · intro hl
    have hn : ¬ form.grantsLease = true := fun h => hl (hlease.mp h)
    rw [if_neg hn] at haddress htime
    exact ⟨haddress, htime⟩

/-- Whatever a handler does to the packet of a reply: if the reply is handed to a
connection at all, its octets fit into a datagram, and what they decode to is a
valid reply of its kind. -/
theorem valid_on_the_wire {kind : ReplyKind} {m : Message} {r : Reply} (hr : to? kind m = some r)
    (es : List Packet.Edit) (path : ReturnPath) {out : Outgoing}
    (hout : path.outgoing (r.edits es) = .ok out) :
    300 ≤ out.payload.length ∧ out.payload.length ≤ 65507 ∧
      ∃ q, Packet.ofBytes? out.payload = some q ∧ ValidReply kind m q := by
  obtain ⟨form, query, rfl, htype, hlease⟩ := form_of_to? hr
  obtain ⟨hfault, hsize, -, rfl⟩ := outgoing_eq_ok_iff.mp hout
  obtain ⟨q, hq, hop, hsame⟩ := exists_received form query es
  rw [hfault] at hsame
  exact ⟨Packet.minSize_le_length_toBytes _, hsize, q, hq,
    validReply_of_faultless hop hsame htype hlease⟩

/-- An offer that carries an overload option of its own. -/
theorem valid_on_the_wire_overload :
    let m : Message := .discover ⟨⟨Packet.fresh 1, 3⟩, none⟩
    let es := [yourAddress ⟨10⟩, serverId ⟨11⟩, leaseTime 3600, .setOption 52 [3]]
    let path : ReturnPath := ⟨⟨.v4 .unspecified, 68⟩, 3, true⟩
    ∃ r out q, to? .offer m = some r ∧ path.outgoing (r.edits es) = .ok out ∧
      out.destination = ⟨.v4 .broadcast, 68⟩ ∧ Packet.ofBytes? out.payload = some q ∧
      ValidReply .offer m q := by
  intro m es path
  let r := start .offer ⟨⟨Packet.fresh 1, 3⟩, none⟩
  have hitems : (r.edits es).packet.options.items =
      [⟨53, [2]⟩, ⟨51, [0, 0, 14, 16]⟩, ⟨52, [3]⟩, ⟨54, [0, 0, 0, 11]⟩] := by
    show itemsOf 53 [2] ++ (itemsOf 51 [0, 0, 14, 16] ++ (itemsOf 52 [3] ++
      (itemsOf 54 [0, 0, 0, 11] ++ []))) = _
    rw [itemsOf_eq_singleton (by decide), itemsOf_eq_singleton (by decide),
      itemsOf_eq_singleton (by decide), itemsOf_eq_singleton (by decide)]
    rfl
  have hsize : (r.edits es).packet.toBytes.length = 300 := by
    rw [Packet.toBytes, OptionMap.encode, hitems, List.length_append, List.length_append,
      Header.length_toBytes]
    rfl
  have hout : path.outgoing (r.edits es) =
      .ok ⟨(r.edits es).packet.toBytes, ⟨.v4 .broadcast, 68⟩, 3⟩ :=
    outgoing_eq_ok_iff.mpr ⟨by decide, by rw [hsize]; decide, rfl, rfl⟩
  obtain ⟨-, -, q, hq, hvalid⟩ := valid_on_the_wire (rfl : to? .offer m = some r) es path hout
  exact ⟨r, _, q, rfl, hout, rfl, hq, hvalid⟩

end Reply

end DhcpServer
