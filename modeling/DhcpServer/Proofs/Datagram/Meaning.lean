import DhcpServer.Proofs.Datagram.Decoding

/-!
# Which datagrams are packets, and which packets they are

A datagram is accepted by its octets alone: its length, the marker of options,
the length of the hardware address, and up to three areas that have to be well
formed (`Acceptable`).  An accepted datagram means one packet (`Meaning`): its
header octet by octet, and for every code the payloads of all its items.

`acceptance_and_meaning` ties both to the decoder.
-/

namespace DhcpServer

/-- The overload octet tells that the file field holds options. -/
def NamesFile (fields : UInt8) : Prop := fields = 1 ∨ fields = 3

/-- The overload octet tells that the server name field holds options. -/
def NamesName (fields : UInt8) : Prop := fields = 2 ∨ fields = 3

instance (fields : UInt8) : Decidable (NamesFile fields) :=
  inferInstanceAs (Decidable (fields = 1 ∨ fields = 3))

instance (fields : UInt8) : Decidable (NamesName fields) :=
  inferInstanceAs (Decidable (fields = 2 ∨ fields = 3))

/-- The octets of a datagram make a packet: the server name field stands at 44,
the file field at 108, the marker at 236 and the options from 240 on. -/
structure Acceptable (b : Bytes) : Prop where
  long_enough : 240 ≤ b.length
  marked : octets b 236 4 = [0x63, 0x82, 0x53, 0x63]
  address_fits : (b.getD 2 0).toNat ≤ 16
  areas : ∃ main, Scan (b.drop 240) main .whole ∧
    (NamesFile (selected main) → WellFormed (octets b 108 128)) ∧
    (NamesName (selected main) → WellFormed (octets b 44 64))

/-- The packet is the one that the octets of a datagram make.  Only the area
behind the header is asked which fields hold options; a field that does is read
and then zero, and any other field is left as it is. -/
structure Meaning (b : Bytes) (p : Packet) (main inFile inName : List Item) : Prop where
  main_scan : Scan (b.drop 240) main .whole
  file_scan : if NamesFile (selected main) then Scan (octets b 108 128) inFile .whole
    else inFile = []
  name_scan : if NamesName (selected main) then Scan (octets b 44 64) inName .whole
    else inName = []
  option_eq : ∀ code, code ≠ OptionCode.overload →
    p.option? code = joined code (main ++ inFile ++ inName)
  overload_eq : p.option? OptionCode.overload = none
  header_eq : p.header.toBytes = b.take 44 ++
    ((if NamesName (selected main) then List.replicate 64 0 else octets b 44 64) ++
    ((if NamesFile (selected main) then List.replicate 128 0 else octets b 108 128) ++
    octets b 236 4))

/-! ## Fields that may hold options -/

theorem Packet.overloadsFile_iff {fields : UInt8} :
    Packet.overloadsFile (some fields) = true ↔ NamesFile fields := by
  simp [Packet.overloadsFile, NamesFile]

theorem Packet.overloadsName_iff {fields : UInt8} :
    Packet.overloadsName (some fields) = true ↔ NamesName fields := by
  simp [Packet.overloadsName, NamesName]

theorem exists_heldIn {holdsOptions : Bool} {area : Bytes}
    (h : holdsOptions = true → WellFormed area) : ∃ items, HeldIn holdsOptions area items := by
  cases holdsOptions with
  | false => exact ⟨[], rfl⟩
  | true => exact h rfl

theorem HeldIn.wellFormed {holdsOptions : Bool} {area : Bytes} {items : List Item}
    (h : HeldIn holdsOptions area items) (hh : holdsOptions = true) : WellFormed area := by
  subst hh
  exact ⟨items, h⟩

theorem heldIn_iff {holdsOptions : Bool} {named : Prop} [Decidable named] {area : Bytes}
    {items : List Item} (hn : holdsOptions = true ↔ named) :
    HeldIn holdsOptions area items ↔ if named then Scan area items .whole else items = [] := by
  unfold HeldIn
  by_cases h : named
  · rw [if_pos h, if_pos (hn.mpr h)]
  · rw [if_neg h, if_neg fun hh => h (hn.mp hh)]

theorem Block.bytes_emptied {n : Nat} (field : Block n) {holdsOptions : Bool} {named : Prop}
    [Decidable named] (hn : holdsOptions = true ↔ named) :
    (field.emptied holdsOptions).bytes = if named then List.replicate n 0 else field.bytes := by
  unfold Block.emptied
  by_cases h : named
  · rw [if_pos h, if_pos (hn.mpr h)]
    rfl
  · rw [if_neg h, if_neg fun hh => h (hn.mp hh)]

namespace Packet

/-! ## Acceptance -/

theorem acceptable_of_ofBytes? {b : Bytes} {p : Packet} (hp : ofBytes? b = some p) :
    Acceptable b := by
  obtain ⟨h, hb⟩ := header_of_ofBytes? hp
  obtain ⟨hlong, hmarked, hfits⟩ := Header.exists_toBytes_append_iff.mp ⟨h, hb⟩
  have hfile : octets b 108 128 = h.file.bytes := by rw [hb, h.octets_file]
  have hname : octets b 44 64 = h.sname.bytes := by rw [hb, h.octets_sname]
  rw [hb, ofBytes?_append_eq_some_iff] at hp
  obtain ⟨main, inFile, inName, hscan, hFile, hName, -⟩ := hp
  refine ⟨hlong, hmarked, hfits, main, hscan, ?_, ?_⟩
  · intro hv
    rw [hfile]
    exact hFile.wellFormed (overloadsFile_iff.mpr hv)
  · intro hv
    rw [hname]
    exact hName.wellFormed (overloadsName_iff.mpr hv)

theorem isSome_of_acceptable {b : Bytes} (ha : Acceptable b) : (ofBytes? b).isSome := by
  obtain ⟨hlong, hmarked, hfits, main, hscan, hFile, hName⟩ := ha
  obtain ⟨h, hb⟩ := Header.exists_toBytes_append_iff.mpr ⟨hlong, hmarked, hfits⟩
  have hfile : octets b 108 128 = h.file.bytes := by rw [hb, h.octets_file]
  have hname : octets b 44 64 = h.sname.bytes := by rw [hb, h.octets_sname]
  rw [hfile] at hFile
  rw [hname] at hName
  obtain ⟨inFile, hFile⟩ := exists_heldIn fun hv => hFile (overloadsFile_iff.mp hv)
  obtain ⟨inName, hName⟩ := exists_heldIn fun hv => hName (overloadsName_iff.mp hv)
  rw [hb, ofBytes?_append_eq_some_iff.mpr ⟨main, inFile, inName, hscan, hFile, hName, rfl⟩]
  rfl

/-! ## Meaning -/

theorem toBytes_decoded (h : Header) (main inFile inName : List Item) :
    (decoded h main inFile inName).header.toBytes = h.front ++
      ((if NamesName (selected main) then List.replicate 64 0 else h.sname.bytes) ++
      ((if NamesFile (selected main) then List.replicate 128 0 else h.file.bytes) ++
      Header.cookie)) := by
  rw [Header.toBytes_eq, ← h.sname.bytes_emptied overloadsName_iff,
    ← h.file.bytes_emptied overloadsFile_iff]
  rfl

theorem meaning_of_ofBytes? {b : Bytes} {p : Packet} (hp : ofBytes? b = some p) :
    ∃ main inFile inName, Meaning b p main inFile inName := by
  obtain ⟨h, hb⟩ := header_of_ofBytes? hp
  have hfile : octets b 108 128 = h.file.bytes := by rw [hb, h.octets_file]
  have hname : octets b 44 64 = h.sname.bytes := by rw [hb, h.octets_sname]
  have hcookie : octets b 236 4 = Header.cookie := by rw [hb, h.octets_cookie]
  have hfront : b.take 44 = h.front := by rw [hb, h.take_toBytes_append]
  rw [hb, ofBytes?_append_eq_some_iff] at hp
  obtain ⟨main, inFile, inName, hscan, hFile, hName, rfl⟩ := hp
  refine ⟨main, inFile, inName, hscan, ?_, ?_, ?_, ?_, ?_⟩
  · rw [hfile]
    exact (heldIn_iff overloadsFile_iff).mp hFile
  · rw [hname]
    exact (heldIn_iff overloadsName_iff).mp hName
  · intro code hcode
    rw [get?_decoded, if_neg hcode]
  · rw [get?_decoded, if_pos rfl]
  · rw [hfile, hname, hcookie, hfront]
    exact toBytes_decoded h main inFile inName

/-- A datagram decodes exactly if it is acceptable, and then to the packet that
its octets mean. -/
theorem acceptance_and_meaning (b : Bytes) :
    ((ofBytes? b).isSome ↔ Acceptable b) ∧
      ∀ p, ofBytes? b = some p → ∃ main inFile inName, Meaning b p main inFile inName := by
  refine ⟨⟨?_, isSome_of_acceptable⟩, fun p => meaning_of_ofBytes?⟩
  intro hsome
  obtain ⟨p, hp⟩ := Option.isSome_iff_exists.mp hsome
  exact acceptable_of_ofBytes? hp

end Packet

end DhcpServer
