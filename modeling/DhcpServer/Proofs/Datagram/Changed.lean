import DhcpServer.Packet.Edit
import DhcpServer.Proofs.Datagram.RoundTrip

/-!
# Packets after any changes

A program may set any option to any value, the overload option too, which is
written like every other.  A receiver takes an overload item of one octet for a
direction to the header fields that hold options, so that what it sees differs
from what was written in one case only: the last octet of the option stands
alone in its item and names a field that is in use (`Misdirects`).

`received_after_changes` says so, and that it cannot happen to a packet that was
new before the changes, because no change puts anything into those fields.
-/

namespace DhcpServer

/-! ## The last piece of an overload option -/

/-- Of the pieces of a value only the last may have a single octet, and it has
if all octets but one fill pieces. -/
theorem getLast?_singleOctet?_pieces (value : Bytes) :
    ((pieces value).filterMap singleOctet?).getLast? =
      if value.length % 255 = 1 then value.getLast? else none := by
  induction value using pieces.induct with
  | case1 value h =>
      rw [pieces, if_pos h]
      change value.length ≤ 255 at h
      rcases value with _ | ⟨octet, _ | ⟨second, tail⟩⟩
      · rfl
      · rfl
      · rw [if_neg]
        · rfl
        · simp only [List.length_cons] at h ⊢
          omega
  | case2 value h ih =>
      have hlong : 255 < value.length := Nat.lt_of_not_le h
      have hfull : singleOctet? (value.take Item.maxPayload) = none := by
        rcases value with _ | ⟨octet, _ | ⟨second, tail⟩⟩
        · rfl
        · exact absurd hlong (by simp)
        · rfl
      have hlength : (value.drop Item.maxPayload).length % 255 = value.length % 255 := by
        rw [List.length_drop]
        change (value.length - 255) % 255 = _
        omega
      rw [pieces, if_neg h, List.filterMap_cons, hfull]
      dsimp only
      rw [ih, hlength, List.getLast?_drop, if_neg h]

/-- What the items of a map announce is the last octet of its overload option. -/
theorem announced_items (m : OptionMap) :
    announced m.items =
      (m.get? OptionCode.overload).bind fun value =>
        if value.length % 255 = 1 then value.getLast? else none := by
  rw [announced, payloads_items, if_neg (by decide)]
  cases m.get? OptionCode.overload with
  | none => rfl
  | some value => exact getLast?_singleOctet?_pieces value

theorem Block.emptied_eq_or {n : Nat} (holdsOptions : Bool) (field : Block n) :
    field.emptied holdsOptions = field ∨ field.emptied holdsOptions = .zero n := by
  cases holdsOptions with
  | false => exact .inl rfl
  | true => exact .inr rfl

theorem Block.emptied_eq_self_iff {n : Nat} {holdsOptions : Bool} {field : Block n} :
    field.emptied holdsOptions = field ↔ (holdsOptions = true → field = .zero n) := by
  constructor
  · rintro h rfl
    exact h.symm
  · exact Packet.emptied_eq_self

namespace Packet

/-! ## What a receiver sees of the header -/

/-- A receiver sees every field of the header, but for a text field that it takes
for options, which it empties. -/
theorem header_of_received? {p q : Packet} (h : p.received? = some q) :
    q.header =
      { p.header with
        file := p.header.file.emptied (overloadsFile (some (selected p.options.items)))
        sname := p.header.sname.emptied (overloadsName (some (selected p.options.items))) } := by
  obtain ⟨n, hn⟩ := p.toBytes_eq_append
  rw [received?, hn, ofBytes?_append_eq_some_iff] at h
  obtain ⟨main, inFile, inName, hscan, -, -, rfl⟩ := h
  obtain ⟨rfl, -⟩ := hscan.unique (p.options.scan_encode_append _)
  rfl

/-- A receiver takes the overload option of the packet for a direction to a text
field that is not empty. -/
def Misdirects (p : Packet) : Prop :=
  ∃ value octet, p.option? 52 = some value ∧ value.length % 255 = 1 ∧
    value.getLast? = some octet ∧
    (((octet = 1 ∨ octet = 3) ∧ p.header.file ≠ .zero 128) ∨
      ((octet = 2 ∨ octet = 3) ∧ p.header.sname ≠ .zero 64))

theorem misdirects_iff {p : Packet} :
    p.Misdirects ↔
      (NamesFile (selected p.options.items) ∧ p.header.file ≠ .zero 128) ∨
      (NamesName (selected p.options.items) ∧ p.header.sname ≠ .zero 64) := by
  have hselected : selected p.options.items =
      ((p.option? 52).bind fun value =>
        if value.length % 255 = 1 then value.getLast? else none).getD 0 := by
    rw [selected, announced_items]
    rfl
  constructor
  · rintro ⟨value, octet, hoption, hlength, hlast, h⟩
    rw [hselected, hoption, Option.bind_some, if_pos hlength, hlast]
    exact h
  · intro h
    rw [hselected] at h
    cases hoption : p.option? 52 with
    | none =>
        rw [hoption] at h
        simp [NamesFile, NamesName] at h
    | some value =>
        rw [hoption, Option.bind_some] at h
        by_cases hlength : value.length % 255 = 1
        · rw [if_pos hlength] at h
          cases hlast : value.getLast? with
          | none =>
              rw [hlast] at h
              simp [NamesFile, NamesName] at h
          | some octet =>
              rw [hlast] at h
              exact ⟨value, octet, hoption, hlength, hlast, h⟩
        · rw [if_neg hlength] at h
          simp [NamesFile, NamesName] at h

/-- A packet is received as the wire carries it unless it misdirects receivers. -/
theorem received?_eq_carried_iff {p : Packet} :
    p.received? = some p.carried ↔ ¬ p.Misdirects := by
  rw [misdirects_iff]
  constructor
  · intro h
    have hheader := header_of_received? h
    rw [carried] at hheader
    have hfile := Block.emptied_eq_self_iff.mp (congrArg Header.file hheader).symm
    have hname := Block.emptied_eq_self_iff.mp (congrArg Header.sname hheader).symm
    rintro (⟨hnames, hused⟩ | ⟨hnames, hused⟩)
    · exact hused (hfile (overloadsFile_iff.mpr hnames))
    · exact hused (hname (overloadsName_iff.mpr hnames))
  · intro h
    apply received?_eq
    · intro hnames
      exact Decidable.byContradiction fun hused =>
        h (.inl ⟨overloadsFile_iff.mp hnames, hused⟩)
    · intro hnames
      exact Decidable.byContradiction fun hused =>
        h (.inr ⟨overloadsName_iff.mp hnames, hused⟩)

/-! ## What changes leave alone -/

/-- No change reaches the operation, and none puts anything into a text field. -/
theorem header_edit (p : Packet) (e : Edit) :
    (p.edit e).header.op = p.header.op ∧
      ((p.edit e).header.sname = p.header.sname ∨ (p.edit e).header.sname = .zero 64) ∧
      ((p.edit e).header.file = p.header.file ∨ (p.edit e).header.file = .zero 128) := by
  cases e with
  | passOverWire =>
      rw [Packet.edit, Packet.edit?]
      cases hq : p.received? with
      | none => exact ⟨rfl, .inl rfl, .inl rfl⟩
      | some q =>
          have hheader : q.header = _ := header_of_received? hq
          rw [Option.getD_some, hheader]
          exact ⟨rfl, Block.emptied_eq_or _ _, Block.emptied_eq_or _ _⟩
  | _ => exact ⟨rfl, .inl rfl, .inl rfl⟩

/-- The server name and the file of a packet are empty. -/
structure TextFieldsEmpty (p : Packet) : Prop where
  sname_eq : p.header.sname = .zero 64
  file_eq : p.header.file = .zero 128

theorem TextFieldsEmpty.edit {p : Packet} (h : p.TextFieldsEmpty) (e : Edit) :
    (p.edit e).TextFieldsEmpty := by
  obtain ⟨-, hsname, hfile⟩ := p.header_edit e
  exact ⟨hsname.elim (·.trans h.sname_eq) id, hfile.elim (·.trans h.file_eq) id⟩

theorem TextFieldsEmpty.edits {p : Packet} (h : p.TextFieldsEmpty) (es : List Edit) :
    (p.edits es).TextFieldsEmpty := by
  induction es generalizing p with
  | nil => exact h
  | cons e es ih => exact ih (h.edit e)

theorem TextFieldsEmpty.not_misdirects {p : Packet} (h : p.TextFieldsEmpty) :
    ¬ p.Misdirects := by
  rintro ⟨_, _, -, -, -, ⟨-, hused⟩ | ⟨-, hused⟩⟩
  · exact hused h.file_eq
  · exact hused h.sname_eq

/-! ## Writing a changed packet and reading it again -/

/-- A packet says the same as another, but for the three options that have a
meaning of their own on the wire, which it does not have. -/
structure SaysTheSame (p q : Packet) : Prop where
  header_eq : q.header = p.header
  option?_mark : ∀ code ∈ [0, 52, 255], q.option? code = none
  option?_eq : ∀ code, code ∉ [0, 52, 255] → q.option? code = p.option? code

theorem mem_marks_iff {code : UInt8} :
    code ∈ [0, 52, 255] ↔
      code = OptionCode.pad ∨ code = OptionCode.overload ∨ code = OptionCode.stop := by
  rw [List.mem_cons, List.mem_cons, List.mem_singleton]
  rfl

theorem saysTheSame_iff {p q : Packet} : p.SaysTheSame q ↔ q = p.carried := by
  constructor
  · rintro ⟨hheader, hmark, heq⟩
    have hoptions : q.options = p.options.carried := by
      apply OptionMap.ext
      intro code
      rw [p.options.get?_carried]
      split
      · rename_i h
        exact hmark code (mem_marks_iff.mpr h)
      · rename_i h
        exact heq code fun hcode => h (mem_marks_iff.mp hcode)
    exact congr (congrArg Packet.mk hheader) hoptions
  · rintro rfl
    refine ⟨rfl, ?_, ?_⟩
    · intro code h
      rw [option?_carried, if_pos (mem_marks_iff.mp h)]
    · intro code h
      rw [option?_carried, if_neg fun hcode => h (mem_marks_iff.mpr hcode)]

theorem exists_saysTheSame_iff {p : Packet} :
    (∃ q, ofBytes? p.toBytes = some q ∧ p.SaysTheSame q) ↔ ¬ p.Misdirects := by
  rw [← received?_eq_carried_iff]
  constructor
  · rintro ⟨q, hq, hsame⟩
    exact hq.trans (congrArg some (saysTheSame_iff.mp hsame))
  · intro h
    exact ⟨p.carried, h, saysTheSame_iff.mpr rfl⟩

/-- Whatever a packet started from and however it was changed, it is read back
as it was written unless it misdirects receivers; and a packet that was new at
the start never does. -/
theorem received_after_changes (start : Packet) (changes : List Edit) :
    ((∃ q, ofBytes? (start.edits changes).toBytes = some q ∧
        (start.edits changes).SaysTheSame q) ↔ ¬ (start.edits changes).Misdirects) ∧
      ∀ op, ∃ q, ofBytes? ((fresh op).edits changes).toBytes = some q ∧
        ((fresh op).edits changes).SaysTheSame q := by
  refine ⟨exists_saysTheSame_iff, fun op => ?_⟩
  have hempty : (fresh op).TextFieldsEmpty := ⟨rfl, rfl⟩
  exact exists_saysTheSame_iff.mpr (hempty.edits changes).not_misdirects

-- a file name that was read, and an overload option that was set afterwards
example : Misdirects (edits ⟨{ Header.blank 1 with file := .fill 128 [7] }, .empty⟩
    [.setOption 52 [1]]) :=
  ⟨[1], 1, rfl, rfl, rfl, .inl ⟨.inl rfl, by decide⟩⟩

end Packet

end DhcpServer
