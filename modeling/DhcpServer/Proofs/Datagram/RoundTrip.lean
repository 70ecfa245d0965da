import DhcpServer.Proofs.Area.Written
import DhcpServer.Proofs.Datagram.Meaning

/-!
# Writing a packet and reading it again

A receiver sees the header of a packet unchanged and the options that the wire
carries, as long as no header field is taken for options by mistake
(`received?_eq`).  For a packet that was itself read from a datagram nothing is
lost at all: `decode_encode_decode`.
-/

namespace DhcpServer

theorem HeldIn.writable {holdsOptions : Bool} {area : Bytes} {items : List Item}
    (h : HeldIn holdsOptions area items) : ∀ item ∈ items, item.Writable := by
  cases holdsOptions with
  | false =>
      rw [show items = [] from h]
      exact fun item hi => absurd hi List.not_mem_nil
  | true => exact Scan.writable h

namespace Packet

/-- What the wire carries of a packet. -/
def carried (p : Packet) : Packet := ⟨p.header, p.options.carried⟩

theorem option?_carried (p : Packet) (code : UInt8) :
    p.carried.option? code =
      if code = OptionCode.pad ∨ code = OptionCode.overload ∨ code = OptionCode.stop then none
      else p.option? code :=
  p.options.get?_carried code

/-- The filling of a short datagram stands behind the end of the options. -/
theorem toBytes_eq_append (p : Packet) :
    ∃ n, p.toBytes = p.header.toBytes ++ (p.options.encode ++ List.replicate n 0) :=
  ⟨_, List.append_assoc _ _ _⟩

/-- A field of zeros holds no options, so it does not matter whether it is read
as an area or left alone. -/
theorem heldIn_nil {n : Nat} {holdsOptions : Bool} {field : Block n}
    (h : holdsOptions = true → field = .zero n) : HeldIn holdsOptions field.bytes [] := by
  cases holdsOptions with
  | false => rfl
  | true =>
      rw [h rfl]
      exact scan_replicate_zero n

theorem emptied_eq_self {n : Nat} {holdsOptions : Bool} {field : Block n}
    (h : holdsOptions = true → field = .zero n) : field.emptied holdsOptions = field := by
  cases holdsOptions with
  | false => rfl
  | true => exact (h rfl).symm

/-- A packet is received as the wire carries it if every field that its options
announce to hold options is zero. -/
theorem received?_eq {p : Packet}
    (hf : overloadsFile (some (selected p.options.items)) = true → p.header.file = .zero 128)
    (hs : overloadsName (some (selected p.options.items)) = true → p.header.sname = .zero 64) :
    p.received? = some p.carried := by
  obtain ⟨n, hn⟩ := p.toBytes_eq_append
  rw [received?, hn, ofBytes?_append_eq_some_iff]
  refine ⟨p.options.items, [], [], p.options.scan_encode_append _, heldIn_nil hf,
    heldIn_nil hs, ?_⟩
  rw [decoded, emptied_eq_self hf, emptied_eq_self hs, List.append_nil, List.append_nil,
    gather_items]
  rfl

/-! ## Packets that were read -/

/-- No packet that was read has an option with a code that stands for something
else in an area. -/
theorem option?_eq_none_of_ofBytes? {b : Bytes} {p : Packet} (hp : ofBytes? b = some p) :
    p.option? OptionCode.pad = none ∧ p.option? OptionCode.overload = none ∧
      p.option? OptionCode.stop = none := by
  obtain ⟨h, hb⟩ := header_of_ofBytes? hp
  rw [hb, ofBytes?_append_eq_some_iff] at hp
  obtain ⟨main, inFile, inName, hscan, hFile, hName, rfl⟩ := hp
  -- what a scan finds can be written, so no item has the code of a mark
  have hw : ∀ item ∈ main ++ inFile ++ inName, item.Writable := by
    intro item hi
    rw [List.mem_append, List.mem_append] at hi
    rcases hi with (hi | hi) | hi
    · exact hscan.writable item hi
    · exact hFile.writable item hi
    · exact hName.writable item hi
  refine ⟨?_, ?_, ?_⟩
  · rw [get?_decoded, if_neg (by decide), joined_eq_none fun item hi => (hw item hi).ne_pad]
  · rw [get?_decoded, if_pos rfl]
  · rw [get?_decoded, if_neg (by decide), joined_eq_none fun item hi => (hw item hi).ne_stop]

theorem carried_eq_self {p : Packet} (hpad : p.option? OptionCode.pad = none)
    (hover : p.option? OptionCode.overload = none) (hstop : p.option? OptionCode.stop = none) :
    p.carried = p := by
  have hoptions : p.options.carried = p.options := by
    apply OptionMap.ext
    intro code
    rw [OptionMap.get?_carried]
    split
    · rename_i h
      rcases h with rfl | rfl | rfl
      · exact hpad.symm
      · exact hover.symm
      · exact hstop.symm
    · rfl
  rw [carried, hoptions]

/-- Without an overload option the octets behind the header announce nothing. -/
theorem selected_items_eq_zero {m : OptionMap} (h : m.get? OptionCode.overload = none) :
    selected m.items = 0 := by
  rw [selected, announced, payloads_items, h, if_neg (by decide)]
  rfl

theorem received?_eq_self {p : Packet} (hpad : p.option? OptionCode.pad = none)
    (hover : p.option? OptionCode.overload = none) (hstop : p.option? OptionCode.stop = none) :
    p.received? = some p := by
  have hzero : selected p.options.items = 0 := selected_items_eq_zero hover
  rw [received?_eq, carried_eq_self hpad hover hstop]
  · rw [hzero]
    exact fun h => absurd h (by decide)
  · rw [hzero]
    exact fun h => absurd h (by decide)

/-- A packet that was read is written so that it is read again as it is, and
then written with the same octets. -/
theorem decode_encode_decode {b : Bytes} {p : Packet} (hp : ofBytes? b = some p) :
    p.option? 0 = none ∧ p.option? 52 = none ∧ p.option? 255 = none ∧
      ofBytes? p.toBytes = some p ∧ (ofBytes? p.toBytes).map toBytes = some p.toBytes := by
  obtain ⟨hpad, hover, hstop⟩ := option?_eq_none_of_ofBytes? hp
  have hagain : ofBytes? p.toBytes = some p := received?_eq_self hpad hover hstop
  exact ⟨hpad, hover, hstop, hagain, by rw [hagain]; rfl⟩

/-- A value that stands half in the area and half in the file field. -/
theorem decode_encode_decode_overloaded :
    let h : Header := { Header.blank 1 with file := .fill 128 [12, 1, 98, 255] }
    let p := decoded h [⟨53, [1]⟩, ⟨12, [97]⟩, ⟨52, [1]⟩, ⟨77, []⟩] [⟨12, [98]⟩] []
    ofBytes? (h.toBytes ++ [53, 1, 1, 12, 1, 97, 0, 52, 1, 1, 77, 0]) = some p ∧
      p.option? 12 = some [97, 98] ∧ p.option? 52 = none ∧ ofBytes? p.toBytes = some p := by
  intro h p
  have hmain : Scan [53, 1, 1, 12, 1, 97, 0, 52, 1, 1, 77, 0]
      [⟨53, [1]⟩, ⟨12, [97]⟩, ⟨52, [1]⟩, ⟨77, []⟩] .whole := by
    show Scan (53 :: 1 :: ([1] ++ 12 :: 1 :: ([97] ++ 0 :: 52 :: 1 :: ([1] ++
      77 :: 0 :: ([] ++ []))))) _ _
    refine .item (by decide) (by decide) rfl (.item (by decide) (by decide) rfl (.pad ?_))
    exact .item (by decide) (by decide) rfl (.item (by decide) (by decide) rfl .exhausted)
  have hfile : Scan h.file.bytes [⟨12, [98]⟩] .whole := by
    show Scan (12 :: 1 :: ([98] ++ OptionCode.stop :: List.replicate 124 0)) _ _
    exact .item (by decide) (by decide) rfl (.stop _)
  have hp : ofBytes? (h.toBytes ++ [53, 1, 1, 12, 1, 97, 0, 52, 1, 1, 77, 0]) = some p :=
    ofBytes?_append_eq_some_iff.mpr ⟨_, _, _, hmain, hfile, rfl, rfl⟩
  obtain ⟨-, hover, -, hagain, -⟩ := decode_encode_decode hp
  exact ⟨hp, by decide, hover, hagain⟩

end Packet

end DhcpServer
