import DhcpServer.Header

/-!
# Where the fields of a header stand

The server name, the boot file and the marker of options stand at fixed places
in a datagram, behind a front of 44 octets.  `exists_toBytes_append_iff` says
which octet strings start with a header at all: they are long enough, have the
marker in its place and announce a hardware address that fits into its field.
-/

namespace DhcpServer

/-- So many octets of a string from a place on. -/
def octets (b : Bytes) (place size : Nat) : Bytes := (b.drop place).take size

theorem octets_append_of_length {front field : Bytes} {place size : Nat}
    (hf : front.length = place) (hs : field.length = size) (rest : Bytes) :
    octets (front ++ (field ++ rest)) place size = field := by
  rw [octets, List.drop_left' hf, List.take_left' hs]

/-! ## Readers of a fixed width -/

/-- The reader takes a fixed number of octets off every string that has them. -/
def TakesOff {α : Type} (width : Nat) (read? : Bytes → Option (α × Bytes)) : Prop :=
  ∀ bs : Bytes, width ≤ bs.length → ∃ a, read? bs = some (a, bs.drop width)

theorem TakesOff.at {α : Type} {width : Nat} {read? : Bytes → Option (α × Bytes)}
    (h : TakesOff width read?) {b : Bytes} (place : Nat) (hb : place + width ≤ b.length) :
    ∃ a, read? (b.drop place) = some (a, b.drop (place + width)) := by
  obtain ⟨a, ha⟩ := h (b.drop place) (by rw [List.length_drop]; omega)
  exact ⟨a, by rw [ha, List.drop_drop]⟩

theorem takesOff_byte? : TakesOff 1 Bytes.byte? := by
  rintro (_ | ⟨b, bs⟩) h
  · exact absurd h (by decide)
  · exact ⟨b, rfl⟩

theorem takesOff_read16? : TakesOff 2 BigEndian.read16? := by
  rintro (_ | ⟨a, _ | ⟨b, bs⟩⟩) h
  · exact absurd h (by decide)
  · exact absurd h (by simp)
  · exact ⟨BigEndian.decode16 a b, rfl⟩

theorem takesOff_read32? : TakesOff 4 BigEndian.read32? := by
  rintro (_ | ⟨a, _ | ⟨b, _ | ⟨c, _ | ⟨d, bs⟩⟩⟩⟩) h
  · exact absurd h (by decide)
  · exact absurd h (by simp)
  · exact absurd h (by simp)
  · exact absurd h (by simp)
  · exact ⟨BigEndian.decode32 a b c d, rfl⟩

theorem takesOff_ipv4 : TakesOff 4 Ipv4.read? := by
  intro bs h
  obtain ⟨w, hw⟩ := takesOff_read32? bs h
  exact ⟨⟨w⟩, by rw [Ipv4.read?, hw]; rfl⟩

theorem takesOff_block (n : Nat) : TakesOff n (Block.read? n) := by
  intro bs h
  refine ⟨⟨bs.take n, by rw [List.length_take]; omega⟩, ?_⟩
  rw [Block.read?_eq_some_iff]
  exact (List.take_append_drop n bs).symm

namespace Header

/-! ## The front, the two text fields and the marker -/

/-- The octets in front of the server name. -/
def front (h : Header) : Bytes :=
  [h.op, h.htype, UInt8.ofNat h.hlen, h.hops] ++
    (BigEndian.encode32 h.xid ++ (BigEndian.encode16 h.secs ++ ([h.flags.high, h.flags.low] ++
    (h.ciaddr.bytes ++ (h.yiaddr.bytes ++ (h.siaddr.bytes ++ (h.giaddr.bytes ++
    h.chaddr.bytes)))))))

theorem length_front (h : Header) : h.front.length = 44 := by
  simp [front, h.chaddr.length_bytes]

theorem toBytes_eq (h : Header) :
    h.toBytes = h.front ++ (h.sname.bytes ++ (h.file.bytes ++ cookie)) := by
  simp only [toBytes, front, List.append_assoc]

section Datagram

variable (h : Header) (area : Bytes)

theorem take_toBytes_append : (h.toBytes ++ area).take 44 = h.front := by
  rw [toBytes_eq, List.append_assoc, List.take_left' h.length_front]

theorem octets_sname : octets (h.toBytes ++ area) 44 64 = h.sname.bytes := by
  rw [toBytes_eq, List.append_assoc, List.append_assoc]
  exact octets_append_of_length h.length_front h.sname.length_bytes _

theorem octets_file : octets (h.toBytes ++ area) 108 128 = h.file.bytes := by
  have hl : (h.front ++ h.sname.bytes).length = 108 := by
    rw [List.length_append, h.length_front, h.sname.length_bytes]
  have hsplit : h.toBytes ++ area =
      (h.front ++ h.sname.bytes) ++ (h.file.bytes ++ (cookie ++ area)) := by
    simp only [toBytes_eq, List.append_assoc]
  rw [hsplit]
  exact octets_append_of_length hl h.file.length_bytes _

theorem octets_cookie : octets (h.toBytes ++ area) 236 4 = cookie := by
  have hl : (h.front ++ (h.sname.bytes ++ h.file.bytes)).length = 236 := by
    rw [List.length_append, List.length_append, h.length_front, h.sname.length_bytes,
      h.file.length_bytes]
  have hsplit : h.toBytes ++ area =
      (h.front ++ (h.sname.bytes ++ h.file.bytes)) ++ (cookie ++ area) := by
    simp only [toBytes_eq, List.append_assoc]
  rw [hsplit]
  exact octets_append_of_length hl rfl _

theorem drop_toBytes_append : (h.toBytes ++ area).drop 240 = area :=
  List.drop_left' h.length_toBytes

theorem getD_hlen : (h.toBytes ++ area).getD 2 0 = UInt8.ofNat h.hlen := rfl

theorem toNat_hlen_le : ((h.toBytes ++ area).getD 2 0).toNat ≤ 16 := by
  have hlt : (h.hlen : Nat) < 17 := h.hlen.isLt
  rw [getD_hlen, UInt8.toNat_ofNat', Nat.mod_eq_of_lt (by omega)]
  omega

end Datagram

/-! ## Which strings start with a header -/

theorem exists_readLength? {b : Bytes} (hb : 3 ≤ b.length) (hl : (b.getD 2 0).toNat ≤ 16) :
    ∃ n, readLength? (b.drop 2) = some (n, b.drop 3) := by
  obtain ⟨octet, ho⟩ := takesOff_byte?.at (b := b) 2 hb
  have hcons : b.drop 2 = octet :: b.drop 3 := Bytes.byte?_eq_some_iff.mp ho
  have hget : b.getD 2 0 = octet := by
    have hzero : (b.drop 2)[0]? = some octet := by rw [hcons]; rfl
    rw [List.getElem?_drop] at hzero
    rw [List.getD_eq_getElem?_getD, hzero]
    rfl
  rw [hget] at hl
  exact ⟨⟨octet.toNat, by omega⟩, readLength?_eq_some_iff.mpr (by rw [hcons]; simp)⟩

theorem readCookie?_drop {b : Bytes} (hc : octets b 236 4 = cookie) :
    readCookie? (b.drop 236) = some (b.drop 240) := by
  rw [readCookie?_eq_some_iff, ← hc, octets]
  have h := (List.take_append_drop 4 (b.drop 236)).symm
  rw [List.drop_drop] at h
  exact h

theorem exists_read? {b : Bytes} (hb : 240 ≤ b.length) (hl : (b.getD 2 0).toNat ≤ 16)
    (hc : octets b 236 4 = cookie) : ∃ h, read? b = some (h, b.drop 240) := by
  -- each reader finds its field where the one before it stopped
  obtain ⟨op, h0⟩ := takesOff_byte?.at (b := b) 0 (by omega)
  obtain ⟨htype, h1⟩ := takesOff_byte?.at (b := b) 1 (by omega)
  obtain ⟨hlen, h2⟩ := exists_readLength? (by omega) hl
  obtain ⟨hops, h3⟩ := takesOff_byte?.at (b := b) 3 (by omega)
  obtain ⟨xid, h4⟩ := takesOff_read32?.at (b := b) 4 (by omega)
  obtain ⟨secs, h8⟩ := takesOff_read16?.at (b := b) 8 (by omega)
  obtain ⟨high, h10⟩ := takesOff_byte?.at (b := b) 10 (by omega)
  obtain ⟨low, h11⟩ := takesOff_byte?.at (b := b) 11 (by omega)
  obtain ⟨ciaddr, h12⟩ := takesOff_ipv4.at (b := b) 12 (by omega)
  obtain ⟨yiaddr, h16⟩ := takesOff_ipv4.at (b := b) 16 (by omega)
  obtain ⟨siaddr, h20⟩ := takesOff_ipv4.at (b := b) 20 (by omega)
  obtain ⟨giaddr, h24⟩ := takesOff_ipv4.at (b := b) 24 (by omega)
  obtain ⟨chaddr, h28⟩ := (takesOff_block 16).at (b := b) 28 (by omega)
  obtain ⟨sname, h44⟩ := (takesOff_block 64).at (b := b) 44 (by omega)
  obtain ⟨file, h108⟩ := (takesOff_block 128).at (b := b) 108 (by omega)
  rw [List.drop_zero] at h0
  refine ⟨⟨op, htype, hlen, hops, xid, secs, ⟨high, low⟩, ciaddr, yiaddr, siaddr, giaddr,
    chaddr, sname, file⟩, ?_⟩
  simp only [read?, bind, Option.bind, h0, h1, h2, h3, h4, h8, h10, h11, h12, h16, h20, h24,
    h28, h44, h108, readCookie?_drop hc, Nat.reduceAdd, pure]

theorem exists_toBytes_append_iff {b : Bytes} :
    (∃ h : Header, b = h.toBytes ++ b.drop 240) ↔
      240 ≤ b.length ∧ octets b 236 4 = cookie ∧ (b.getD 2 0).toNat ≤ 16 := by
  constructor
  · rintro ⟨h, hb⟩
    rw [hb]
    refine ⟨?_, octets_cookie h _, toNat_hlen_le h _⟩
    rw [List.length_append, h.length_toBytes]
    exact Nat.le_add_right _ _
  · rintro ⟨hb, hc, hl⟩
    obtain ⟨h, hr⟩ := exists_read? hb hl hc
    exact ⟨h, eq_toBytes_append hr⟩

end Header

end DhcpServer
