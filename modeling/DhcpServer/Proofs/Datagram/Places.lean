import DhcpServer.Proofs.Datagram.RoundTrip
import DhcpServer.Proofs.Datagram.Views

/-!
# Where the fields of a packet stand

A header is written cell by cell (`Header.cells`), and each cell has a fixed width.  So
each field stands at a fixed place of a datagram, numbers with their most significant
octet first (`Header.laidOut_toBytes_append`), and to write one cell anew leaves all octets
outside of it alone (`Header.getElem?_of_cells_eq_set`).

`Packet.seen_and_written_agree` puts this beside what is seen of a packet after any
changes.
-/

namespace DhcpServer

/-! ## Rows of cells -/

theorem octets_add (b : Bytes) (place size size' : Nat) :
    octets b place (size + size') = octets b place size ++ octets b (place + size) size' := by
  rw [octets, octets, octets, List.take_add, List.drop_drop]

section

variable {cells : List Bytes} {k : Nat} {cell : Bytes}

theorem flatten_set (hk : k < cells.length) (new : Bytes) :
    (cells.set k new).flatten =
      (cells.take k).flatten ++ (new ++ (cells.drop (k + 1)).flatten) := by
  rw [List.set_eq_take_append_cons_drop, if_pos hk, List.flatten_append, List.flatten_cons]

theorem flatten_eq_of_getElem? (h : cells[k]? = some cell) :
    cells.flatten = (cells.take k).flatten ++ (cell ++ (cells.drop (k + 1)).flatten) := by
  obtain ⟨hk, hcell⟩ := List.getElem?_eq_some_iff.mp h
  rw [← flatten_set hk, ← hcell, List.set_getElem_self]

/-- So many octets from a place on. -/
def Within (place size i : Nat) : Prop := place ≤ i ∧ i < place + size

theorem getElem?_append_of_not_within {front field field' back : Bytes}
    (hlength : field'.length = field.length) {i : Nat}
    (hi : ¬ Within front.length field.length i) :
    (front ++ (field' ++ back))[i]? = (front ++ (field ++ back))[i]? := by
  rcases Nat.lt_or_ge i front.length with hfront | hfront
  · rw [List.getElem?_append_left hfront, List.getElem?_append_left hfront]
  · have hback : field.length ≤ i - front.length := by
      by_contra hlt
      exact hi ⟨hfront, by omega⟩
    rw [List.getElem?_append_right hfront, List.getElem?_append_right hfront,
      List.getElem?_append_right hback, List.getElem?_append_right (hlength ▸ hback), hlength]

end

namespace Header

/-! ## The cells of a header -/

/-- The fields of a header as they are written one behind the other, the two octets of
the flags apart. -/
def cells (h : Header) : List Bytes :=
  [[h.op], [h.htype], [UInt8.ofNat h.hlen], [h.hops], BigEndian.encode32 h.xid,
    BigEndian.encode16 h.secs, [h.flags.high], [h.flags.low], h.ciaddr.bytes, h.yiaddr.bytes,
    h.siaddr.bytes, h.giaddr.bytes, h.chaddr.bytes, h.sname.bytes, h.file.bytes, cookie]

def widths : List Nat := [1, 1, 1, 1, 4, 2, 1, 1, 4, 4, 4, 4, 16, 64, 128, 4]

theorem map_length_cells (h : Header) : h.cells.map List.length = widths := by
  simp [cells, widths, h.chaddr.length_bytes, h.sname.length_bytes, h.file.length_bytes, cookie]

theorem flatten_cells (h : Header) : h.cells.flatten = h.toBytes := by
  simp [cells, toBytes]

theorem length_flatten_take_cells (h : Header) (k : Nat) :
    (h.cells.take k).flatten.length = (widths.take k).sum := by
  rw [List.length_flatten, List.map_take, map_length_cells]

section

variable {h h' : Header} {k : Nat} {cell new : Bytes}

/-- A cell stands behind those in front of it. -/
theorem octets_cell (hk : h.cells[k]? = some cell) {size : Nat} (hsize : cell.length = size)
    (area : Bytes) : octets (h.toBytes ++ area) (widths.take k).sum size = cell := by
  rw [← flatten_cells, flatten_eq_of_getElem? hk, List.append_assoc, List.append_assoc]
  exact octets_append_of_length (h.length_flatten_take_cells k) hsize _

/-- If one cell is written anew, the octets outside of it stay as they are. -/
theorem getElem?_of_cells_eq_set (hset : h'.cells = h.cells.set k new)
    (hk : h.cells[k]? = some cell) (hlength : new.length = cell.length) {i : Nat}
    (hi : ¬ Within (widths.take k).sum cell.length i) (area : Bytes) :
    (h'.toBytes ++ area)[i]? = (h.toBytes ++ area)[i]? := by
  obtain ⟨hlt, -⟩ := List.getElem?_eq_some_iff.mp hk
  rw [← length_flatten_take_cells h] at hi
  rw [← flatten_cells, ← flatten_cells, hset, flatten_set hlt, flatten_eq_of_getElem? hk]
  simp only [List.append_assoc]
  exact getElem?_append_of_not_within hlength hi

end

/-! ## The fields of a datagram -/

/-- The fields of a header stand at their places in a datagram. -/
structure LaidOut (h : Header) (b : Bytes) : Prop where
  size_le : 240 ≤ b.length
  op_eq : octets b 0 1 = [h.op]
  htype_eq : octets b 1 1 = [h.htype]
  hlen_eq : Bytes.number (octets b 2 1) = h.hlen
  hops_eq : octets b 3 1 = [h.hops]
  xid_eq : Bytes.number (octets b 4 4) = h.xid.toNat
  secs_eq : Bytes.number (octets b 8 2) = h.secs.toNat
  flags_eq : octets b 10 2 = [h.flags.high, h.flags.low]
  ciaddr_eq : Bytes.number (octets b 12 4) = h.ciaddr.word.toNat
  yiaddr_eq : Bytes.number (octets b 16 4) = h.yiaddr.word.toNat
  siaddr_eq : Bytes.number (octets b 20 4) = h.siaddr.word.toNat
  giaddr_eq : Bytes.number (octets b 24 4) = h.giaddr.word.toNat
  chaddr_eq : octets b 28 16 = h.chaddr.bytes
  sname_eq : octets b 44 64 = h.sname.bytes
  file_eq : octets b 108 128 = h.file.bytes
  cookie_eq : Bytes.number (octets b 236 4) = 0x63825363

theorem laidOut_toBytes_append (h : Header) (area : Bytes) : h.LaidOut (h.toBytes ++ area) := by
  have hlen : (h.hlen : Nat) < 17 := h.hlen.isLt
  have hnumber : ∀ {k w}, h.cells[k]? = some (BigEndian.encode32 w) →
      Bytes.number (octets (h.toBytes ++ area) (widths.take k).sum 4) = w.toNat :=
    fun hk => (congrArg Bytes.number (octets_cell hk rfl area)).trans
      (BigEndian.number_encode32 _)
  constructor
  case size_le =>
    rw [List.length_append, h.length_toBytes]
    exact Nat.le_add_right _ _
  case op_eq => exact octets_cell (k := 0) rfl rfl area
  case htype_eq => exact octets_cell (k := 1) rfl rfl area
  case hlen_eq =>
    refine (congrArg Bytes.number (octets_cell (k := 2) rfl rfl area)).trans ?_
    rw [Bytes.number]
    simp only [List.map_cons, List.map_nil, List.reverse_singleton, Nat.ofDigits_singleton,
      UInt8.toNat_ofNat']
    omega
  case hops_eq => exact octets_cell (k := 3) rfl rfl area
  case xid_eq => exact hnumber (k := 4) rfl
  case secs_eq =>
    refine (congrArg Bytes.number (octets_cell (k := 5) rfl rfl area)).trans ?_
    exact BigEndian.number_encode16 _
  case flags_eq =>
    rw [octets_add _ 10 1 1]
    exact congr (congrArg _ (octets_cell (k := 6) rfl rfl area))
      (octets_cell (k := 7) rfl rfl area)
  case ciaddr_eq => exact hnumber (k := 8) rfl
  case yiaddr_eq => exact hnumber (k := 9) rfl
  case siaddr_eq => exact hnumber (k := 10) rfl
  case giaddr_eq => exact hnumber (k := 11) rfl
  case chaddr_eq => exact octets_cell (k := 12) rfl h.chaddr.length_bytes area
  case sname_eq => exact h.octets_sname area
  case file_eq => exact h.octets_file area
  case cookie_eq =>
    rw [h.octets_cookie]
    rfl

end Header

namespace Packet

theorem laidOut_toBytes (p : Packet) : p.header.LaidOut p.toBytes := by
  obtain ⟨n, hn⟩ := p.toBytes_eq_append
  rw [hn]
  exact p.header.laidOut_toBytes_append _

/-! ## What a change reaches -/

/-- The octets of a datagram that a change can reach. -/
def Edit.Reaches : Edit → Nat → Prop
  | .setHtype _, i => Within 1 1 i
  | .setHops _, i => Within 3 1 i
  | .setXid _, i => Within 4 4 i
  | .setSecs _, i => Within 8 2 i
  | .setFlags _, i => Within 10 2 i
  | .setBroadcast _, i => Within 10 1 i
  | .setCiaddr _, i => Within 12 4 i
  | .setYiaddr _, i => Within 16 4 i
  | .setSiaddr _, i => Within 20 4 i
  | .setGiaddr _, i => Within 24 4 i
  | .setHardwareAddress _, i => Within 2 1 i ∨ Within 28 16 i
  | .passOverWire, _ => True
  | _, i => 240 ≤ i

/-- What follows the header in a datagram. -/
def area (m : OptionMap) : Bytes :=
  m.encode ++ List.replicate (minSize - (Header.size + m.encode.length)) 0

theorem toBytes_eq_area (p : Packet) : p.toBytes = p.header.toBytes ++ area p.options := by
  rw [toBytes, List.length_append, p.header.length_toBytes, List.append_assoc]
  rfl

section

variable {p q : Packet} {i : Nat}

theorem getElem?_toBytes_of_header_eq (h : q.header = p.header) (hi : i < 240) :
    q.toBytes[i]? = p.toBytes[i]? := by
  have hlength : i < p.header.toBytes.length := p.header.length_toBytes ▸ hi
  rw [toBytes_eq_area, toBytes_eq_area, h, List.getElem?_append_left hlength,
    List.getElem?_append_left hlength]

/-- One cell of the header is written anew. -/
theorem getElem?_toBytes_of_cell {k : Nat} {cell new : Bytes} (hoptions : q.options = p.options)
    (hset : q.header.cells = p.header.cells.set k new) (hk : p.header.cells[k]? = some cell)
    (hlength : new.length = cell.length)
    (hi : ¬ Within (Header.widths.take k).sum cell.length i) : q.toBytes[i]? = p.toBytes[i]? := by
  rw [toBytes_eq_area, toBytes_eq_area, hoptions]
  exact Header.getElem?_of_cells_eq_set hset hk hlength hi _

end

theorem getElem?_toBytes_edit (p : Packet) {e : Edit} {i : Nat} (hi : ¬ e.Reaches i) :
    (p.edit e).toBytes[i]? = p.toBytes[i]? := by
  cases e with
  | setHtype v => exact getElem?_toBytes_of_cell (k := 1) rfl rfl rfl rfl hi
  | setHops v => exact getElem?_toBytes_of_cell (k := 3) rfl rfl rfl rfl hi
  | setXid v => exact getElem?_toBytes_of_cell (k := 4) rfl rfl rfl rfl hi
  | setSecs v => exact getElem?_toBytes_of_cell (k := 5) rfl rfl rfl rfl hi
  | setFlags v =>
      -- the two octets are cells of their own
      let p' := p.mapHeader fun h => { h with flags := ⟨v.high, h.flags.low⟩ }
      have hhigh : ¬ Within 10 1 i := fun h => hi ⟨h.1, Nat.lt_succ_of_lt h.2⟩
      have hlow : ¬ Within 11 1 i := fun h => hi ⟨Nat.le_of_succ_le h.1, h.2⟩
      calc (p.edit (.setFlags v)).toBytes[i]?
          _ = p'.toBytes[i]? := getElem?_toBytes_of_cell (k := 7) rfl rfl rfl rfl hlow
          _ = p.toBytes[i]? := getElem?_toBytes_of_cell (k := 6) rfl rfl rfl rfl hhigh
  | setBroadcast on => exact getElem?_toBytes_of_cell (k := 6) rfl rfl rfl rfl hi
  | setCiaddr a => exact getElem?_toBytes_of_cell (k := 8) rfl rfl rfl rfl hi
  | setYiaddr a => exact getElem?_toBytes_of_cell (k := 9) rfl rfl rfl rfl hi
  | setSiaddr a => exact getElem?_toBytes_of_cell (k := 10) rfl rfl rfl rfl hi
  | setGiaddr a => exact getElem?_toBytes_of_cell (k := 11) rfl rfl rfl rfl hi
  | setHardwareAddress address =>
      obtain ⟨hlen, haddress⟩ := not_or.mp hi
      let field := Block.fill 16 address
      let p' := p.mapHeader fun h => { h with hlen := ⟨min address.length 16, by omega⟩ }
      have hlength : field.bytes.length = p.header.chaddr.bytes.length :=
        field.length_bytes.trans p.header.chaddr.length_bytes.symm
      rw [← p.header.chaddr.length_bytes] at haddress
      calc (p.edit (.setHardwareAddress address)).toBytes[i]?
          _ = p'.toBytes[i]? := getElem?_toBytes_of_cell (k := 12) rfl rfl rfl hlength haddress
          _ = p.toBytes[i]? := getElem?_toBytes_of_cell (k := 2) rfl rfl rfl rfl hlen
  | passOverWire => exact absurd trivial hi
  | _ =>
      refine getElem?_toBytes_of_header_eq ?_ (Nat.lt_of_not_le hi)
      rfl

/-! ## What is seen and what is written -/

/-- After any changes each view shows what was written to it last, and each field stands
at its place in the datagram; one more change reaches the octets of what it writes and
no others. -/
theorem seen_and_written_agree (p : Packet) (es : List Edit) (h : .passOverWire ∉ es) :
    let q := p.edits es
    (∀ v : View, v.look q = (lastWritten? v.written? es).getD (v.look p)) ∧
      q.header.LaidOut q.toBytes ∧
      ∀ (e : Edit) i, ¬ e.Reaches i → (q.edit e).toBytes[i]? = q.toBytes[i]? := by
  intro q
  exact ⟨fun v => v.look_edits p h, q.laidOut_toBytes, fun e i => q.getElem?_toBytes_edit⟩

/-- Changes that write over each other: the flags, the kind of message, and a hardware
address that is too long. -/
theorem seen_and_written_agree_overlapping :
    let changes : List Edit := [.setBroadcast false, .setFlags ⟨0x12, 0x34⟩, .setBroadcast true,
      .setMessageType 1, .setOption 53 [5], .setOptionWord 51 0xfffffffe,
      .setHardwareAddress (List.replicate 20 7), .setXid 0x01020304]
    let q := (fresh 1).edits changes
    q.header.flags = ⟨0x92, 0x34⟩ ∧ q.messageType = 5 ∧ q.optionWord? 51 = some 0xfffffffe ∧
      q.header.hardwareAddress = List.replicate 16 7 ∧ (q.header.hlen : Nat) = 16 ∧
      Bytes.number (octets q.toBytes 4 4) = 0x01020304 ∧
      (q.edit (.setBroadcast false)).toBytes[11]? = q.toBytes[11]? := by
  intro changes q
  obtain ⟨hseen, hlaid, hreached⟩ := seen_and_written_agree (fresh 1) changes (by decide)
  have hxid : q.header.xid = 0x01020304 := hseen .xid
  refine ⟨by decide, hseen .messageType, hseen (.optionWord 51), hseen .hardwareAddress,
    hseen .hlen, ?_, hreached _ 11 fun h => absurd h.2 (by decide)⟩
  rw [hlaid.xid_eq, hxid]
  rfl

end Packet

end DhcpServer
