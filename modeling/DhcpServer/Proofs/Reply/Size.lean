import DhcpServer.Proofs.Area.Layout
import DhcpServer.Reply
import Mathlib.Algebra.GroupWithZero.Nat

/-!
# How large a packet is

The size of a packet on the wire follows from the lengths of its options alone: the
header, every value with two octets for each item that it takes
(`OptionMap.optionsSize`), the end, and zeros up to 300 octets.

`exact_size_and_limit` states this, and that a reply is refused exactly if that size
is beyond what one datagram can carry.
-/

namespace DhcpServer

/-! ## Sizes from the lengths of the options -/

/-- The octets of the items of one value: its own, and a code and a length for each
item.  There is one item for every 255 octets begun, and at least one. -/
def optionSize (value : Bytes) : Nat :=
  value.length + 2 * max 1 ((value.length + 254) / 255)

/-- The octets of all options that are written; those of the codes 0 and 255 are
not. -/
def OptionMap.optionsSize (m : OptionMap) : Nat :=
  ((m.entries.filter fun e => e.1 ≠ 0 ∧ e.1 ≠ 255).map fun e => optionSize e.2).sum

/-! ## The size of what is written -/

theorem length_encode_map_mk (code : UInt8) (ps : List Bytes) :
    ((ps.map (Item.mk code)).flatMap Item.encode).length = ps.flatten.length + 2 * ps.length := by
  induction ps with
  | nil => rfl
  | cons piece ps ih =>
      rw [List.map_cons, List.flatMap_cons, List.length_append, ih, List.flatten_cons,
        List.length_append, List.length_cons]
      show piece.length + 2 + _ = _
      omega

theorem length_encode_itemsOf (code : UInt8) (value : Bytes) :
    ((itemsOf code value).flatMap Item.encode).length = optionSize value := by
  rw [itemsOf, length_encode_map_mk, flatten_pieces, length_pieces]
  rfl

namespace OptionMap

/-- Every entry that can be written is written, and none twice. -/
theorem perm_writtenEntries (m : OptionMap) :
    m.writtenEntries.Perm (m.entries.filter fun e => e.1 ≠ 0 ∧ e.1 ≠ 255) := by
  have hwritten : m.writtenEntries.Nodup :=
    m.ordered_writtenEntries.imp fun hbefore heq => hbefore.ne (congrArg Prod.fst heq)
  have hentries : (m.entries.filter fun e => e.1 ≠ 0 ∧ e.1 ≠ 255).Nodup := by
    refine (m.ascending.filter _).imp ?_
    rintro a _ hlt rfl
    exact UInt8.lt_irrefl a.1 hlt
  refine (List.perm_ext_iff_of_nodup hwritten hentries).mpr ?_
  intro e
  rw [mem_writtenEntries_iff, List.mem_filter, mem_entries_iff, decide_eq_true_eq]
  rfl

/-- The order in which options are written makes no difference to their size. -/
theorem length_encode_items (m : OptionMap) :
    (m.items.flatMap Item.encode).length = m.optionsSize := by
  rw [items_eq_flatMap, List.flatMap_assoc, List.length_flatMap]
  simp only [length_encode_itemsOf]
  exact (m.perm_writtenEntries.map fun e => optionSize e.2).sum_nat

end OptionMap

namespace Packet

/-- A packet is its header, its items, the end and zeros. -/
theorem toBytes_eq_zeros (p : Packet) :
    p.toBytes = p.header.toBytes ++ (p.options.items.flatMap Item.encode ++
      255 :: List.replicate (300 - (241 + p.options.optionsSize)) 0) := by
  have hlength : (p.header.toBytes ++ p.options.encode).length = 241 + p.options.optionsSize := by
    rw [OptionMap.encode, List.length_append, List.length_append, p.header.length_toBytes,
      p.options.length_encode_items, List.length_singleton, Header.size]
    omega
  rw [toBytes, hlength, OptionMap.encode, minSize]
  simp only [List.append_assoc, List.cons_append, List.nil_append]
  rfl

theorem length_toBytes (p : Packet) :
    p.toBytes.length = max 300 (241 + p.options.optionsSize) := by
  rw [toBytes_eq_zeros, List.length_append, List.length_append, List.length_cons,
    List.length_replicate, p.header.length_toBytes, p.options.length_encode_items, Header.size]
  omega

end Packet

/-! ## The limit of a datagram -/

/-- Every packet has the size that its options give it, and behind the end of its
items there are zeros only, up to 300 octets.  A reply is refused as too large
exactly if that size is beyond 65507 octets, and the buffer is left as it was; any
other reply takes the place of what the buffer held. -/
theorem Reply.exact_size_and_limit :
    (∀ p : Packet, p.toBytes.length = max 300 (241 + p.options.optionsSize) ∧
      ∃ items : List Item, (∀ item ∈ items, item.Writable) ∧
        (items.flatMap Item.encode).length = p.options.optionsSize ∧
        p.toBytes = p.header.toBytes ++ (items.flatMap Item.encode ++
          255 :: List.replicate (300 - (241 + p.options.optionsSize)) 0)) ∧
    ∀ (r : Reply) (buffer : Bytes), r.encodeInto buffer =
      if 65507 < max 300 (241 + r.packet.options.optionsSize) then (some .tooLarge, buffer)
      else (none, r.packet.toBytes) := by
  constructor
  · intro p
    exact ⟨p.length_toBytes, p.options.items, fun _ => OptionMap.writable_of_mem_items,
      p.options.length_encode_items, p.toBytes_eq_zeros⟩
  · intro r buffer
    rw [← r.packet.length_toBytes]
    unfold encodeInto encode?
    by_cases hlarge : maxPayload < r.packet.toBytes.length
    · rw [if_pos hlarge]
      exact (if_pos hlarge).symm
    · rw [if_neg hlarge]
      exact (if_neg hlarge).symm

-- 0 is not written, and an empty value takes an item too
example : (OptionMap.ofList [(0, [9]), (12, []), (43, [1, 2])]).optionsSize = 6 := by
  decide

end DhcpServer
