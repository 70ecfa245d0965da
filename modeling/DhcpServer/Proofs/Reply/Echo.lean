import DhcpServer.Proofs.Reply.OnTheWire

/-!
# What a new reply takes over

A new reply repeats parts of the message that it answers.  `Echo` lists them, and
`ReplyKind.echo` takes them from a message.  A new reply says what its echo repeats
and nothing else (`fillsOut_of_to?`).  Its packet is therefore determined by the echo,
and the echo can be told from its packet: `Echo.FillsOut.unique`,
`Echo.FillsOut.echo_eq`.

`echoes_and_nothing_else` carries both to the octets.  Two messages get the same
octets in reply exactly if they have the same echo, whatever else there is in them.
-/

namespace DhcpServer

/-! ## Echoes -/

/-- What a new reply repeats, together with the kind of the reply. -/
structure Echo where
  kind : ReplyKind
  htype : UInt8
  hlen : Fin 17
  hardwareAddress : Bytes
  length_hardwareAddress : hardwareAddress.length = hlen
  xid : UInt32
  flags : Flags
  ciaddr : Ipv4
  giaddr : Ipv4
  clientId : Option Bytes
deriving DecidableEq

/-- What a new reply of a kind repeats of a message.  The address that the client has
is repeated only to a client that asks for parameters without a lease. -/
def ReplyKind.echo (kind : ReplyKind) (m : Message) : Echo where
  kind := kind
  htype := m.packet.header.htype
  hlen := m.packet.header.hlen
  hardwareAddress := m.packet.header.chaddr.bytes.take m.packet.header.hlen
  length_hardwareAddress := by
    rw [List.length_take, Block.length_bytes]
    omega
  xid := m.packet.header.xid
  flags := m.packet.header.flags
  ciaddr := if kind = .ack ∧ m.kind = .inform then m.packet.header.ciaddr else .unspecified
  giaddr := m.packet.header.giaddr
  clientId := m.packet.option? 61

namespace Echo

/-- The header that says what is repeated, and is zero apart from that. -/
def header (e : Echo) : Header where
  op := 2
  htype := e.htype
  hlen := e.hlen
  hops := 0
  xid := e.xid
  secs := 0
  flags := e.flags
  ciaddr := e.ciaddr
  yiaddr := .unspecified
  siaddr := .unspecified
  giaddr := e.giaddr
  chaddr := ⟨e.hardwareAddress ++ List.replicate (16 - e.hlen) 0, by
    rw [List.length_append, e.length_hardwareAddress, List.length_replicate]
    omega⟩
  sname := .zero 64
  file := .zero 128

/-- A packet says what an echo repeats and nothing else. -/
structure FillsOut (e : Echo) (p : Packet) : Prop where
  header_eq : p.header = e.header
  option?_eq : ∀ code, p.option? code =
    if code = 53 then some [e.kind.octet] else if code = 61 then e.clientId else none

variable {e e' : Echo} {p p' : Packet}

theorem FillsOut.option?_kind (h : e.FillsOut p) : p.option? 53 = some [e.kind.octet] :=
  h.option?_eq 53

theorem FillsOut.option?_name (h : e.FillsOut p) : p.option? 61 = e.clientId :=
  h.option?_eq 61

theorem FillsOut.unique (h : e.FillsOut p) (h' : e.FillsOut p') : p = p' := by
  obtain ⟨header, options⟩ := p
  obtain ⟨header', options'⟩ := p'
  obtain rfl : header = header' := h.header_eq.trans h'.header_eq.symm
  obtain rfl : options = options' :=
    OptionMap.ext fun code => (h.option?_eq code).trans (h'.option?_eq code).symm
  rfl

theorem octet_injective {kind kind' : ReplyKind} (h : kind.octet = kind'.octet) :
    kind = kind' := by
  cases kind <;> cases kind' <;> first | rfl | exact absurd h (by decide)

theorem header_injective (h : e.header = e'.header) (hkind : e.kind = e'.kind)
    (hname : e.clientId = e'.clientId) : e = e' := by
  obtain ⟨kind, htype, hlen, address, hlength, xid, flags, ciaddr, giaddr, clientId⟩ := e
  obtain ⟨kind', htype', hlen', address', hlength', xid', flags', ciaddr', giaddr', clientId'⟩ := e'
  obtain ⟨-, rfl, rfl, -, rfl, -, rfl, rfl, -, -, rfl, hchaddr, -, -⟩ := Header.mk.inj h
  obtain rfl : kind = kind' := hkind
  obtain rfl : clientId = clientId' := hname
  obtain ⟨rfl, -⟩ := List.append_inj (congrArg Block.bytes hchaddr) (hlength.trans hlength'.symm)
  rfl

/-- The echo can be told from the packet. -/
theorem FillsOut.echo_eq (h : e.FillsOut p) (h' : e'.FillsOut p) : e = e' := by
  have hkind : some [e.kind.octet] = some [e'.kind.octet] := h.option?_kind.symm.trans h'.option?_kind
  have hoctet : e.kind.octet = e'.kind.octet := (List.cons.inj (Option.some.inj hkind)).1
  exact header_injective (h.header_eq.symm.trans h'.header_eq) (octet_injective hoctet)
    (h.option?_name.symm.trans h'.option?_name)

/-- None of the options has a meaning of its own on the wire, so nothing is lost. -/
theorem FillsOut.received?_eq (h : e.FillsOut p) : p.received? = some p := by
  apply Packet.received?_eq_self
  · rw [h.option?_eq, if_neg (by decide), if_neg (by decide)]
  · rw [h.option?_eq, if_neg (by decide), if_neg (by decide)]
  · rw [h.option?_eq, if_neg (by decide), if_neg (by decide)]

end Echo

/-! ## New replies -/

namespace Reply

theorem header_echo (kind : ReplyKind) (m : Message) (type : MessageType) :
    { (echo m.packet type).header with ciaddr := (kind.echo m).ciaddr } = (kind.echo m).header := by
  have hlength : m.packet.header.hardwareAddress.length = m.packet.header.hlen :=
    (kind.echo m).length_hardwareAddress
  have hlen : (⟨min m.packet.header.hardwareAddress.length 16, by omega⟩ : Fin 17) =
      m.packet.header.hlen := by
    apply Fin.ext
    dsimp only
    omega
  have hchaddr : Block.fill 16 m.packet.header.hardwareAddress = (kind.echo m).header.chaddr := by
    apply Block.ext
    show List.take 16 _ ++ _ = _ ++ _
    rw [hlength, List.take_of_length_le (by omega)]
    rfl
  unfold echo Header.setHardwareAddress
  rw [hlen, hchaddr]
  cases m.packet.option? OptionCode.clientId with
  | none => rfl
  | some name => rfl

theorem ciaddr_echo (request : Packet) (type : MessageType) :
    (echo request type).header.ciaddr = .unspecified := by
  unfold echo
  cases request.option? OptionCode.clientId with
  | none => rfl
  | some name => rfl

theorem header_echo_of_unspecified (kind : ReplyKind) (m : Message) (type : MessageType)
    (h : (kind.echo m).ciaddr = .unspecified) :
    (echo m.packet type).header = (kind.echo m).header := by
  rw [← header_echo kind m type, h, ← ciaddr_echo m.packet type]

theorem option?_echo (request : Packet) (type : MessageType) (code : UInt8) :
    (echo request type).option? code =
      if code = 53 then some [type.code] else if code = 61 then request.option? 61 else none := by
  have hkind : (OptionMap.empty.insert OptionCode.messageType [type.code]).get? code =
      if code = 53 then some [type.code] else none := OptionMap.get?_insert _ _ _ _
  show (echo request type).options.get? code =
    if code = 53 then _ else if code = 61 then request.option? OptionCode.clientId else none
  unfold echo
  cases request.option? OptionCode.clientId with
  | none =>
      rw [ite_self]
      exact hkind
  | some name =>
      dsimp only [Packet.setOption]
      rw [OptionMap.get?_insert, hkind]
      by_cases hname : code = OptionCode.clientId
      · subst hname
        rfl
      · rw [if_neg hname, if_neg (show ¬ code = 61 from hname)]

/-- A new reply says its echo and nothing else.  Only the answer to a client that has an
address sets that address; the others leave it unspecified. -/
theorem fillsOut_of_to? {kind : ReplyKind} {m : Message} {r : Reply} (hr : to? kind m = some r) :
    (kind.echo m).FillsOut r.packet := by
  unfold to? at hr
  split at hr
  case h_1 query =>
    obtain rfl := Option.some.inj hr
    exact ⟨header_echo_of_unspecified .offer (.discover query) .offer rfl,
      option?_echo query.packet .offer⟩
  case h_2 query =>
    obtain rfl := Option.some.inj hr
    exact ⟨header_echo_of_unspecified .ack (.request query) .ack rfl,
      option?_echo query.packet .ack⟩
  case h_3 query =>
    obtain rfl := Option.some.inj hr
    exact ⟨header_echo .ack (.inform query) .ack, option?_echo query.packet .ack⟩
  case h_4 query =>
    obtain rfl := Option.some.inj hr
    exact ⟨header_echo_of_unspecified .nak (.request query) .nak rfl,
      option?_echo query.packet .nak⟩
  case h_5 => exact absurd hr.symm (Option.some_ne_none _)

/-- **A new reply repeats its echo and says nothing else.**  So the octets in reply to two
messages are the same exactly if the messages have the same echo and are answered alike:
no other field of a message, no other option of it and no octet behind its hardware
address can be told from the reply. -/
theorem echoes_and_nothing_else {kind kind' : ReplyKind} {m m' : Message} {r r' : Reply}
    (hr : to? kind m = some r) (hr' : to? kind' m' = some r') :
    (kind.echo m).FillsOut r.packet ∧
      (r.packet.toBytes = r'.packet.toBytes ↔ kind.echo m = kind'.echo m') := by
  have hfills := fillsOut_of_to? hr
  have hfills' := fillsOut_of_to? hr'
  refine ⟨hfills, fun hbytes => ?_, fun hecho => ?_⟩
  · have hreceived : some r.packet = some r'.packet := by
      rw [← hfills.received?_eq, ← hfills'.received?_eq, Packet.received?, hbytes]
      rfl
    exact hfills.echo_eq (Option.some.inj hreceived ▸ hfills')
  · rw [hfills.unique (hecho ▸ hfills')]

/-- Offers to two clients that differ behind their hardware addresses, in their text
fields and in their options, but for a name that is empty in both. -/
theorem echoes_and_nothing_else_offer :
    let header : Header :=
      { Header.blank 1 with
        hlen := 2, xid := 7, chaddr := .fill 16 [1, 2, 3], secs := 9
        ciaddr := ⟨10⟩, sname := .fill 64 [5], file := .fill 128 [6] }
    let m : Message := .discover ⟨⟨⟨header, .ofList [(50, [10, 0, 0, 1]), (61, [])]⟩, 3⟩, none⟩
    let m' : Message :=
      .discover ⟨⟨⟨{ Header.blank 1 with hlen := 2, xid := 7, chaddr := .fill 16 [1, 2] },
        .ofList [(61, [])]⟩, 4⟩, none⟩
    ∃ r r', to? .offer m = some r ∧ to? .offer m' = some r' ∧
      r.packet.option? 61 = some [] ∧ r.packet.option? 50 = none ∧
      r.packet.toBytes = r'.packet.toBytes := by
  intro header m m'
  obtain ⟨hfills, hsame⟩ := echoes_and_nothing_else
    (rfl : to? .offer m = some (start .offer _)) (rfl : to? .offer m' = some (start .offer _))
  exact ⟨_, _, rfl, rfl, hfills.option?_name, hfills.option?_eq 50, hsame.mpr rfl⟩

end Reply

end DhcpServer
