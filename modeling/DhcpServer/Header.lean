import DhcpServer.Address.Ipv4
import DhcpServer.Block

/-!
# The fixed header

Every packet starts with 240 octets at fixed places: the fields of the BOOTP
header and the four octets that mark what follows as options.  `read?` takes a
header off the front of a datagram and `toBytes` writes it; they are inverse to
each other (`read?_toBytes_append`, `eq_toBytes_append`), so a datagram has at
most one header and no octet of it is lost.
-/

namespace DhcpServer

structure Flags where
  high : UInt8
  low : UInt8
deriving DecidableEq, Repr

namespace Flags

def none : Flags := ⟨0, 0⟩

/-- Whether the client asks for answers to be broadcast. -/
def broadcast (f : Flags) : Bool := f.high &&& 0x80 != 0

/-- The flags with the wish for broadcast answers set or taken back. -/
def setBroadcast (f : Flags) (on : Bool) : Flags :=
  { f with high := if on then f.high ||| 0x80 else f.high &&& 0x7f }

end Flags

/-- The fields of the header.  The hardware address field has sixteen octets,
of which the first `hlen` count. -/
structure Header where
  op : UInt8
  htype : UInt8
  hlen : Fin 17
  hops : UInt8
  xid : UInt32
  secs : UInt16
  flags : Flags
  ciaddr : Ipv4
  yiaddr : Ipv4
  siaddr : Ipv4
  giaddr : Ipv4
  chaddr : Block 16
  sname : Block 64
  file : Block 128
deriving DecidableEq

namespace Header

/-- The octets that mark what follows the header as options. -/
def cookie : Bytes := [0x63, 0x82, 0x53, 0x63]

def size : Nat := 240

/-- A header for Ethernet addresses that is zero apart from that. -/
def blank (op : UInt8) : Header where
  op := op
  htype := 1
  hlen := 6
  hops := 0
  xid := 0
  secs := 0
  flags := .none
  ciaddr := .unspecified
  yiaddr := .unspecified
  siaddr := .unspecified
  giaddr := .unspecified
  chaddr := .zero 16
  sname := .zero 64
  file := .zero 128

/-- The octets of the hardware address that count. -/
def hardwareAddress (h : Header) : Bytes :=
  h.chaddr.bytes.take h.hlen

/-- The header with the hardware address set; sixteen octets of it are kept. -/
def setHardwareAddress (h : Header) (address : Bytes) : Header :=
  { h with hlen := ⟨min address.length 16, by omega⟩, chaddr := .fill 16 address }

def toBytes (h : Header) : Bytes :=
  [h.op, h.htype, UInt8.ofNat h.hlen, h.hops] ++
    (BigEndian.encode32 h.xid ++ (BigEndian.encode16 h.secs ++ ([h.flags.high, h.flags.low] ++
    (h.ciaddr.bytes ++ (h.yiaddr.bytes ++ (h.siaddr.bytes ++ (h.giaddr.bytes ++
    (h.chaddr.bytes ++ (h.sname.bytes ++ (h.file.bytes ++ cookie))))))))))

/-- The marker of options at the front of a string, and what follows it. -/
def readCookie? (bs : Bytes) : Option Bytes :=
  match Bytes.splitAt? cookie.length bs with
  | some (front, rest) => if front = cookie then some rest else none
  | none => none

/-- The length of a hardware address, if it fits into its field. -/
def readLength? (bs : Bytes) : Option (Fin 17 × Bytes) :=
  match Bytes.byte? bs with
  | some (size, rest) => if h : size.toNat < 17 then some (⟨size.toNat, h⟩, rest) else none
  | none => none

/-- A header at the front of a datagram, and what follows it. -/
def read? (bs : Bytes) : Option (Header × Bytes) := do
  let (op, bs) ← Bytes.byte? bs
  let (htype, bs) ← Bytes.byte? bs
  let (hlen, bs) ← readLength? bs
  let (hops, bs) ← Bytes.byte? bs
  let (xid, bs) ← BigEndian.read32? bs
  let (secs, bs) ← BigEndian.read16? bs
  let (high, bs) ← Bytes.byte? bs
  let (low, bs) ← Bytes.byte? bs
  let (ciaddr, bs) ← Ipv4.read? bs
  let (yiaddr, bs) ← Ipv4.read? bs
  let (siaddr, bs) ← Ipv4.read? bs
  let (giaddr, bs) ← Ipv4.read? bs
  let (chaddr, bs) ← Block.read? 16 bs
  let (sname, bs) ← Block.read? 64 bs
  let (file, bs) ← Block.read? 128 bs
  let bs ← readCookie? bs
  return ({ op, htype, hlen, hops, xid, secs, flags := ⟨high, low⟩,
            ciaddr, yiaddr, siaddr, giaddr, chaddr, sname, file }, bs)

/-! ### Reading and writing -/

theorem length_toBytes (h : Header) : h.toBytes.length = size := by
  simp [toBytes, cookie, size, h.chaddr.length_bytes, h.sname.length_bytes, h.file.length_bytes]

theorem readCookie?_eq_some_iff {bs rest : Bytes} :
    readCookie? bs = some rest ↔ bs = cookie ++ rest := by
  unfold readCookie?
  constructor
  · intro h
    split at h
    · rename_i front tail hs
      split at h
      · rename_i hf
        simp only [Option.some.injEq] at h
        rw [(Bytes.splitAt?_eq_some_iff.mp hs).1, hf, h]
      · simp at h
    · simp at h
  · rintro rfl
    simp [Bytes.splitAt?_append]

theorem readLength?_eq_some_iff {bs rest : Bytes} {n : Fin 17} :
    readLength? bs = some (n, rest) ↔ bs = UInt8.ofNat n :: rest := by
  cases bs with
  | nil => simp [readLength?, Bytes.byte?]
  | cons b bs =>
    simp only [readLength?, Bytes.byte?, List.cons.injEq]
    constructor
    · intro h
      split at h
      · rename_i hb
        simp only [Option.some.injEq, Prod.mk.injEq] at h
        obtain ⟨rfl, rfl⟩ := h
        exact ⟨UInt8.toNat_inj.mp (by simp), rfl⟩
      · simp at h
    · rintro ⟨rfl, rfl⟩
      have hn : (n : Nat) % 256 = n := Nat.mod_eq_of_lt (by omega)
      simp [hn]

/-- What was written is read back, and what follows it is left alone. -/
@[simp] theorem read?_toBytes_append (h : Header) (rest : Bytes) :
    read? (h.toBytes ++ rest) = some (h, rest) := by
  have hl : ∀ tail, readLength? (UInt8.ofNat h.hlen :: tail) = some (h.hlen, tail) :=
    fun tail => readLength?_eq_some_iff.mpr rfl
  have hc : ∀ tail, readCookie? (cookie ++ tail) = some tail :=
    fun tail => readCookie?_eq_some_iff.mpr rfl
  simp only [read?, toBytes, List.append_assoc, List.cons_append, List.nil_append, Bytes.byte?,
    hl, hc, bind, Option.bind, BigEndian.read32?_encode32_append,
    BigEndian.read16?_encode16_append, Ipv4.read?_bytes_append, Block.read?_append, pure]

/-- A header that is read is written as the octets it was read from. -/
theorem eq_toBytes_append {bs rest : Bytes} {h : Header} (hr : read? bs = some (h, rest)) :
    bs = h.toBytes ++ rest := by
  obtain ⟨⟨op, b1⟩, h1, hr⟩ := Option.bind_eq_some_iff.mp hr
  obtain ⟨⟨htype, b2⟩, h2, hr⟩ := Option.bind_eq_some_iff.mp hr
  obtain ⟨⟨hlen, b3⟩, h3, hr⟩ := Option.bind_eq_some_iff.mp hr
  obtain ⟨⟨hops, b4⟩, h4, hr⟩ := Option.bind_eq_some_iff.mp hr
  obtain ⟨⟨xid, b5⟩, h5, hr⟩ := Option.bind_eq_some_iff.mp hr
  obtain ⟨⟨secs, b6⟩, h6, hr⟩ := Option.bind_eq_some_iff.mp hr
  obtain ⟨⟨high, b7⟩, h7, hr⟩ := Option.bind_eq_some_iff.mp hr
  obtain ⟨⟨low, b8⟩, h8, hr⟩ := Option.bind_eq_some_iff.mp hr
  obtain ⟨⟨ci, b9⟩, h9, hr⟩ := Option.bind_eq_some_iff.mp hr
  obtain ⟨⟨yi, b10⟩, h10, hr⟩ := Option.bind_eq_some_iff.mp hr
  obtain ⟨⟨si, b11⟩, h11, hr⟩ := Option.bind_eq_some_iff.mp hr
  obtain ⟨⟨gi, b12⟩, h12, hr⟩ := Option.bind_eq_some_iff.mp hr
  obtain ⟨⟨ch, b13⟩, h13, hr⟩ := Option.bind_eq_some_iff.mp hr
  obtain ⟨⟨sn, b14⟩, h14, hr⟩ := Option.bind_eq_some_iff.mp hr
  obtain ⟨⟨fi, b15⟩, h15, hr⟩ := Option.bind_eq_some_iff.mp hr
  obtain ⟨b16, h16, he⟩ := Option.bind_eq_some_iff.mp hr
  simp only [Option.pure_def, Option.some.injEq, Prod.mk.injEq] at he
  obtain ⟨rfl, rfl⟩ := he
  rw [Bytes.byte?_eq_some_iff.mp h1, Bytes.byte?_eq_some_iff.mp h2,
    readLength?_eq_some_iff.mp h3, Bytes.byte?_eq_some_iff.mp h4,
    BigEndian.eq_encode32_append h5, BigEndian.eq_encode16_append h6,
    Bytes.byte?_eq_some_iff.mp h7, Bytes.byte?_eq_some_iff.mp h8, Ipv4.eq_bytes_append h9,
    Ipv4.eq_bytes_append h10, Ipv4.eq_bytes_append h11, Ipv4.eq_bytes_append h12,
    Block.read?_eq_some_iff.mp h13, Block.read?_eq_some_iff.mp h14,
    Block.read?_eq_some_iff.mp h15, readCookie?_eq_some_iff.mp h16]
  simp [toBytes]

end Header

end DhcpServer
