import DhcpServer.Packet
import DhcpServer.Proofs.Area.Gathering
import DhcpServer.Proofs.Datagram.Fields

/-!
# Decoding as one equation

`ofBytes?_append_eq_some_iff` says what a header and the octets behind it decode
to, in terms of the scans of up to three areas; `header_of_ofBytes?` says that
nothing without a header decodes at all.  Everything else about decoding is
derived from these two.
-/

namespace DhcpServer

/-- The octet that says which header fields hold options: what the area behind
the header announces, or zero. -/
def selected (main : List Item) : UInt8 := (announced main).getD 0

/-- The items that a header field adds: those of its scan if it holds options,
and otherwise none. -/
def HeldIn (holdsOptions : Bool) (area : Bytes) (items : List Item) : Prop :=
  if holdsOptions then Scan area items .whole else items = []

/-- A field after its options, if it holds any, have been taken out. -/
def Block.emptied {n : Nat} (holdsOptions : Bool) (field : Block n) : Block n :=
  if holdsOptions then .zero n else field

namespace Packet

/-- The packet of a header, the items behind it and those in its two fields. -/
def decoded (h : Header) (main inFile inName : List Item) : Packet where
  header :=
    { h with
      file := h.file.emptied (overloadsFile (some (selected main)))
      sname := h.sname.emptied (overloadsName (some (selected main))) }
  options := OptionMap.empty.gather (main ++ inFile ++ inName)

theorem readField?_eq_some_iff {n : Nat} {holdsOptions : Bool} {field left : Block n}
    {m gathered : OptionMap} :
    readField? holdsOptions field m = some (left, gathered) ↔
      ∃ items, HeldIn holdsOptions field.bytes items ∧
        left = field.emptied holdsOptions ∧ gathered = m.gather items := by
  cases holdsOptions with
  | false =>
      constructor
      · intro h
        rw [readField?, if_neg Bool.false_ne_true, Option.some.injEq, Prod.mk.injEq] at h
        exact ⟨[], rfl, h.1.symm, h.2.symm⟩
      · rintro ⟨items, hi, rfl, rfl⟩
        rw [show items = [] from hi]
        rfl
  | true =>
      obtain ⟨items, ending, hscan, hread⟩ := exists_scan_read ⟨m, none⟩ field.bytes
      rw [readField?, if_pos rfl, hread]
      constructor
      · intro h
        obtain ⟨hwhole, he⟩ := Option.ite_none_right_eq_some.mp h
        rw [Option.some.injEq, Prod.mk.injEq] at he
        obtain rfl := of_decide_eq_true hwhole
        exact ⟨items, hscan, he.1.symm, he.2.symm⟩
      · rintro ⟨items', hi, rfl, rfl⟩
        obtain ⟨rfl, rfl⟩ := hscan.unique (show Scan field.bytes items' .whole from hi)
        rfl

/-- Decoding a header and the octets behind it, one area after the other. -/
theorem ofBytes?_append (h : Header) {area : Bytes} {main : List Item} {ending : Ending}
    (hscan : Scan area main ending) :
    ofBytes? (h.toBytes ++ area) =
      if ending = .whole then
        (readField? (overloadsFile (some (selected main))) h.file
            (OptionMap.empty.gather main)).bind fun f =>
          (readField? (overloadsName (some (selected main))) h.sname f.2).bind fun s =>
            some ⟨{ h with file := f.1, sname := s.1 }, s.2⟩
      else none := by
  -- only the area behind the header is read with an eye on the overload option
  have hread := read_of_scan ⟨.empty, some 0⟩ hscan
  have hover : (main.foldl Gathered.add ⟨.empty, some 0⟩).overload = some (selected main) :=
    overload_foldl_add _ main
  unfold ofBytes?
  simp only [Header.read?_toBytes_append, bind, Option.bind_some, hread, hover,
    options_foldl_add]
  cases ending with
  | whole => rfl
  | cutOff => rfl

theorem ofBytes?_append_eq_some_iff {h : Header} {area : Bytes} {p : Packet} :
    ofBytes? (h.toBytes ++ area) = some p ↔
      ∃ main inFile inName, Scan area main .whole ∧
        HeldIn (overloadsFile (some (selected main))) h.file.bytes inFile ∧
        HeldIn (overloadsName (some (selected main))) h.sname.bytes inName ∧
        p = decoded h main inFile inName := by
  constructor
  · intro hp
    obtain ⟨main, ending, hscan, -⟩ := exists_scan_read ⟨.empty, some 0⟩ area
    rw [ofBytes?_append h hscan] at hp
    obtain ⟨rfl, hp⟩ := Option.ite_none_right_eq_some.mp hp
    obtain ⟨⟨file, m⟩, hf, hp⟩ := Option.bind_eq_some_iff.mp hp
    obtain ⟨⟨sname, m'⟩, hs, hp⟩ := Option.bind_eq_some_iff.mp hp
    obtain ⟨inFile, hFile, rfl, rfl⟩ := readField?_eq_some_iff.mp hf
    obtain ⟨inName, hName, rfl, rfl⟩ := readField?_eq_some_iff.mp hs
    refine ⟨main, inFile, inName, hscan, hFile, hName, ?_⟩
    rw [decoded, OptionMap.gather_append, OptionMap.gather_append]
    exact (Option.some.inj hp).symm
  · rintro ⟨main, inFile, inName, hscan, hFile, hName, rfl⟩
    have hf := readField?_eq_some_iff.mpr
      ⟨inFile, hFile, rfl, (rfl : _ = (OptionMap.empty.gather main).gather inFile)⟩
    have hs := readField?_eq_some_iff.mpr
      ⟨inName, hName, rfl,
        (rfl : _ = ((OptionMap.empty.gather main).gather inFile).gather inName)⟩
    rw [ofBytes?_append h hscan, if_pos rfl, hf, Option.bind_some, hs, Option.bind_some,
      decoded, OptionMap.gather_append, OptionMap.gather_append]

/-- What decodes starts with a header. -/
theorem header_of_ofBytes? {b : Bytes} {p : Packet} (hp : ofBytes? b = some p) :
    ∃ h : Header, b = h.toBytes ++ b.drop 240 := by
  obtain ⟨⟨h, area⟩, hr, -⟩ := Option.bind_eq_some_iff.mp hp
  have hb := Header.eq_toBytes_append hr
  refine ⟨h, ?_⟩
  rw [hb, h.drop_toBytes_append]

theorem get?_decoded (h : Header) (main inFile inName : List Item) (code : UInt8) :
    (decoded h main inFile inName).option? code =
      if code = OptionCode.overload then none else joined code (main ++ inFile ++ inName) :=
  get?_gather_empty _ code

end Packet

end DhcpServer
