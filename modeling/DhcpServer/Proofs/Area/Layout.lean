import DhcpServer.Proofs.Area.Written
import Mathlib.Data.List.Perm.Basic

/-!
# The layout of a written area

An option map is written as one row of items and a code of 255 behind it.  The
items of one option stand together and hold the pieces of its value, all full
but the last (`Splits`).  The message type comes first, the other codes ascend,
and the two codes that have no value are left out (`WrittenAs`).

`encode_layout` says that a map is written so, behind whatever a buffer holds, and
that there is no other row of options that meets the description.
-/

namespace DhcpServer

/-! ## How a value is split -/

/-- The pieces of a value are the value again when they are joined.  An empty value
has one empty piece.  Any other value of `n` octets has `n / 255` pieces, rounded
up, of 255 octets each; only the last may have fewer, but at least one. -/
structure Splits (value : Bytes) (ps : List Bytes) : Prop where
  flatten_eq : ps.flatten = value
  of_empty : value = [] → ps = [[]]
  length_eq : value ≠ [] → ps.length = (value.length + 254) / 255
  full : value ≠ [] → ∀ piece ∈ ps.dropLast, piece.length = 255
  last : value ≠ [] → ∃ piece, ps.getLast? = some piece ∧ 1 ≤ piece.length ∧ piece.length ≤ 255

theorem length_pieces (value : Bytes) :
    (pieces value).length = max 1 ((value.length + 254) / 255) := by
  induction value using pieces.induct with
  | case1 value h =>
      rw [pieces, if_pos h]
      have hle : value.length ≤ 255 := h
      simp only [List.length_singleton]
      omega
  | case2 value h ih =>
      have hlong : 255 < value.length := Nat.lt_of_not_le h
      rw [pieces, if_neg h, List.length_cons, ih, List.length_drop]
      show max 1 ((value.length - 255 + 254) / 255) + 1 = _
      omega

theorem length_of_mem_dropLast_pieces {value piece : Bytes} (h : piece ∈ (pieces value).dropLast) :
    piece.length = 255 := by
  induction value using pieces.induct with
  | case1 value hle =>
      rw [pieces, if_pos hle] at h
      exact absurd h List.not_mem_nil
  | case2 value hle ih =>
      have hlong : 255 < value.length := Nat.lt_of_not_le hle
      rw [pieces, if_neg hle, List.dropLast_cons_of_ne_nil (pieces_ne_nil _)] at h
      rcases List.mem_cons.mp h with rfl | h
      · rw [List.length_take]
        exact Nat.min_eq_left (Nat.le_of_lt hlong)
      · exact ih h

theorem exists_getLast?_pieces {value : Bytes} (hne : value ≠ []) :
    ∃ piece, (pieces value).getLast? = some piece ∧ 1 ≤ piece.length := by
  induction value using pieces.induct with
  | case1 value hle =>
      refine ⟨value, ?_, List.length_pos_iff.mpr hne⟩
      rw [pieces, if_pos hle]
      rfl
  | case2 value hle ih =>
      have hlong : 255 < value.length := Nat.lt_of_not_le hle
      have hdrop : value.drop Item.maxPayload ≠ [] := by
        intro h
        have hshort : value.length ≤ 255 := List.drop_eq_nil_iff.mp h
        omega
      rw [pieces, if_neg hle, List.getLast?_cons_of_ne_nil (pieces_ne_nil _)]
      exact ih hdrop

theorem splits_pieces (value : Bytes) : Splits value (pieces value) := by
  refine ⟨flatten_pieces value, ?_, ?_, ?_, ?_⟩
  · rintro rfl
    rw [pieces]
    rfl
  · intro hne
    have hpos : 0 < value.length := List.length_pos_iff.mpr hne
    rw [length_pieces]
    omega
  · intro _ piece
    exact length_of_mem_dropLast_pieces
  · intro hne
    obtain ⟨piece, hlast, hpos⟩ := exists_getLast?_pieces hne
    have hle : piece.length ≤ 255 := length_le_of_mem_pieces (List.mem_of_getLast? hlast)
    exact ⟨piece, hlast, hpos, hle⟩

/-- Pieces that are full but for the last, which is not empty, are the pieces of what
they join to.  By induction on the pieces: a full one with something behind it is
what splitting takes off the front. -/
theorem pieces_flatten {ps : List Bytes} (hfull : ∀ piece ∈ ps.dropLast, piece.length = 255)
    (hlast : ∃ piece, ps.getLast? = some piece ∧ 1 ≤ piece.length ∧ piece.length ≤ 255) :
    pieces ps.flatten = ps := by
  induction ps with
  | nil =>
      obtain ⟨_, h, -⟩ := hlast
      exact absurd h.symm (Option.some_ne_none _)
  | cons first ps ih =>
      by_cases hps : ps = []
      · subst hps
        obtain ⟨piece, h, -, hle⟩ := hlast
        rw [List.getLast?_singleton, Option.some.injEq] at h
        subst h
        rw [List.flatten_singleton, pieces]
        exact if_pos hle
      · rw [List.dropLast_cons_of_ne_nil hps] at hfull
        rw [List.getLast?_cons_of_ne_nil hps] at hlast
        have hfirst : first.length = Item.maxPayload := hfull first List.mem_cons_self
        have hpos : 0 < ps.flatten.length := by
          obtain ⟨piece, h, hone, -⟩ := hlast
          have hle := (List.sublist_flatten_of_mem (List.mem_of_getLast? h)).length_le
          omega
        have hlong : ¬ (first ++ ps.flatten).length ≤ Item.maxPayload := by
          rw [List.length_append, hfirst]
          omega
        rw [List.flatten_cons, pieces, if_neg hlong, List.take_left' hfirst,
          List.drop_left' hfirst, ih (fun piece h => hfull piece (List.mem_cons_of_mem _ h)) hlast]

theorem splits_iff {value : Bytes} {ps : List Bytes} : Splits value ps ↔ ps = pieces value := by
  constructor
  · intro h
    by_cases hne : value = []
    · rw [h.of_empty hne, ((splits_pieces value).of_empty hne)]
    · rw [← h.flatten_eq, pieces_flatten (h.full hne) (h.last hne)]
  · rintro rfl
    exact splits_pieces value

/-! ## The order in which options are written -/

/-- The message type is written before every other code, and of two other codes the
smaller one first. -/
def WrittenBefore (a b : UInt8) : Prop :=
  b ≠ OptionCode.messageType ∧ (a = OptionCode.messageType ∨ a < b)

theorem WrittenBefore.ne {a b : UInt8} (h : WrittenBefore a b) : a ≠ b := by
  rintro rfl
  obtain ⟨hne, heq | hlt⟩ := h
  · exact hne heq
  · exact UInt8.lt_irrefl a hlt

theorem WrittenBefore.asymm {a b : UInt8} (h : WrittenBefore a b) : ¬ WrittenBefore b a := by
  rintro ⟨ha, heq | hlt⟩
  · exact h.1 heq
  · rcases h.2 with heq | hgt
    · exact ha heq
    · exact UInt8.lt_irrefl a (UInt8.lt_trans hgt hlt)

namespace OptionMap

theorem find?_of_mem {es : List (UInt8 × Bytes)} (hes : es.Pairwise fun a b => a.1 < b.1)
    {e : UInt8 × Bytes} (he : e ∈ es) : find? e.1 es = some e.2 := by
  induction es with
  | nil => exact absurd he List.not_mem_nil
  | cons first es ih =>
      obtain ⟨hfirst, hes⟩ := List.pairwise_cons.mp hes
      rcases List.mem_cons.mp he with rfl | he
      · exact if_pos rfl
      · have hne : first.1 ≠ e.1 := fun h => UInt8.lt_irrefl _ (h ▸ hfirst e he)
        rw [find?, if_neg hne, ih hes he]

theorem mem_entries_iff {m : OptionMap} {e : UInt8 × Bytes} :
    e ∈ m.entries ↔ m.get? e.1 = some e.2 :=
  ⟨find?_of_mem m.ascending, mem_of_find?_eq_some⟩

/-- The entries of a map in the order in which they are written. -/
def writtenEntries (m : OptionMap) : List (UInt8 × Bytes) :=
  ((m.get? OptionCode.messageType).toList.map fun value => (OptionCode.messageType, value)) ++
    m.entries.filter fun e => !standsApart e.1

theorem items_eq_flatMap (m : OptionMap) :
    m.items = m.writtenEntries.flatMap fun e => itemsOf e.1 e.2 := by
  unfold items writtenEntries
  rw [List.flatMap_append]
  cases m.get? OptionCode.messageType <;> simp

theorem mem_writtenEntries_iff {m : OptionMap} {e : UInt8 × Bytes} :
    e ∈ m.writtenEntries ↔
      m.get? e.1 = some e.2 ∧ e.1 ≠ OptionCode.pad ∧ e.1 ≠ OptionCode.stop := by
  obtain ⟨code, value⟩ := e
  simp only [writtenEntries, List.mem_append, List.mem_map, Option.mem_toList,
    Prod.mk.injEq, List.mem_filter, mem_entries_iff, Bool.not_eq_true', standsApart_eq_false_iff]
  constructor
  · rintro (⟨_, h, rfl, rfl⟩ | ⟨h, -, hpad, hstop⟩)
    · exact ⟨h, by decide, by decide⟩
    · exact ⟨h, hpad, hstop⟩
  · rintro ⟨h, hpad, hstop⟩
    by_cases htype : code = OptionCode.messageType
    · exact .inl ⟨value, htype ▸ h, htype.symm, rfl⟩
    · exact .inr ⟨h, htype, hpad, hstop⟩

theorem ordered_writtenEntries (m : OptionMap) :
    m.writtenEntries.Pairwise fun a b => WrittenBefore a.1 b.1 := by
  have hrest : ∀ e ∈ m.entries.filter fun e => !standsApart e.1,
      e.1 ≠ OptionCode.messageType := by
    intro e he
    exact (standsApart_eq_false_iff.mp (by simpa using (List.mem_filter.mp he).2)).1
  refine List.pairwise_append.mpr ⟨?_, ?_, ?_⟩
  · cases m.get? OptionCode.messageType with
    | none => exact .nil
    | some value => exact List.pairwise_singleton _ _
  · exact (m.ascending.filter _).imp_of_mem fun _ hb hlt => ⟨hrest _ hb, .inr hlt⟩
  · intro a ha b hb
    obtain ⟨_, -, rfl⟩ := List.mem_map.mp ha
    exact ⟨hrest b hb, .inl rfl⟩

end OptionMap

/-! ## Options as they are written -/

/-- A code and the payloads of its items, which stand one behind the other. -/
structure WrittenOption where
  code : UInt8
  payloads : List Bytes

namespace WrittenOption

def items (w : WrittenOption) : List Item := w.payloads.map (Item.mk w.code)

/-- An entry of a map with its value in pieces. -/
def ofEntry (e : UInt8 × Bytes) : WrittenOption := ⟨e.1, pieces e.2⟩

end WrittenOption

namespace OptionMap

/-- The options of a map in the form in which they are written: in order, with the
codes of the map but 0 and 255, and with their values in pieces. -/
structure WrittenAs (m : OptionMap) (ws : List WrittenOption) : Prop where
  ordered : ws.Pairwise fun v w => w.code ≠ 53 ∧ (v.code = 53 ∨ v.code < w.code)
  code_iff : ∀ code, (∃ w ∈ ws, w.code = code) ↔
    (∃ value, m.get? code = some value) ∧ code ≠ 0 ∧ code ≠ 255
  splits : ∀ w ∈ ws, ∃ value, m.get? w.code = some value ∧ Splits value w.payloads

variable {m : OptionMap} {ws ws' : List WrittenOption}

theorem writtenAs_writtenEntries (m : OptionMap) :
    m.WrittenAs (m.writtenEntries.map WrittenOption.ofEntry) := by
  refine ⟨?_, ?_, ?_⟩
  · exact List.pairwise_map.mpr m.ordered_writtenEntries
  · intro code
    constructor
    · rintro ⟨w, hw, rfl⟩
      obtain ⟨e, he, rfl⟩ := List.mem_map.mp hw
      obtain ⟨hget, hmarks⟩ := mem_writtenEntries_iff.mp he
      exact ⟨⟨e.2, hget⟩, hmarks⟩
    · rintro ⟨⟨value, hget⟩, hmarks⟩
      have he : (code, value) ∈ m.writtenEntries := mem_writtenEntries_iff.mpr ⟨hget, hmarks⟩
      exact ⟨_, List.mem_map_of_mem he, rfl⟩
  · intro w hw
    obtain ⟨e, he, rfl⟩ := List.mem_map.mp hw
    exact ⟨e.2, (mem_writtenEntries_iff.mp he).1, splits_pieces e.2⟩

/-- Which options are written, and with which payloads, is told by the map. -/
theorem WrittenAs.mem_iff (h : m.WrittenAs ws) {w : WrittenOption} :
    w ∈ ws ↔ ∃ value, m.get? w.code = some value ∧ w.payloads = pieces value ∧
      w.code ≠ 0 ∧ w.code ≠ 255 := by
  constructor
  · intro hw
    obtain ⟨value, hget, hsplits⟩ := h.splits w hw
    exact ⟨value, hget, splits_iff.mp hsplits, ((h.code_iff w.code).mp ⟨w, hw, rfl⟩).2⟩
  · rintro ⟨value, hget, hpayloads, hmarks⟩
    obtain ⟨w', hw', hcode⟩ := (h.code_iff w.code).mpr ⟨⟨value, hget⟩, hmarks⟩
    obtain ⟨value', hget', hsplits⟩ := h.splits w' hw'
    rw [hcode, hget, Option.some.injEq] at hget'
    subst hget'
    have heq : w' = w := by
      cases w
      cases w'
      simp_all [splits_iff]
    exact heq ▸ hw'

theorem WrittenAs.nodup (h : m.WrittenAs ws) : ws.Nodup :=
  h.ordered.imp fun hbefore heq => WrittenBefore.ne hbefore (congrArg WrittenOption.code heq)

/-- There is only one row of options that meets the description of a map. -/
theorem WrittenAs.unique (h : m.WrittenAs ws) (h' : m.WrittenAs ws') : ws = ws' := by
  have hperm : ws.Perm ws' :=
    (List.perm_ext_iff_of_nodup h.nodup h'.nodup).mpr fun _ => h.mem_iff.trans h'.mem_iff.symm
  refine hperm.eq_of_pairwise ?_ h.ordered h'.ordered
  intro v w _ _ hvw hwv
  exact absurd hwv (WrittenBefore.asymm hvw)

/-- Writing the options of a map behind what a buffer holds leaves that as it is and
puts one row of items and a code of 255 behind it.  A reader finds those items and
no others there, whatever follows. -/
theorem encode_layout (m : OptionMap) (buffer : Bytes) :
    ∃ ws, m.WrittenAs ws ∧ (∀ ws', m.WrittenAs ws' → ws' = ws) ∧
      (buffer ++ m.encode).take buffer.length = buffer ∧
      (buffer ++ m.encode).drop buffer.length =
        (ws.flatMap WrittenOption.items).flatMap Item.encode ++ [255] ∧
      ∀ rest, Scan ((buffer ++ m.encode).drop buffer.length ++ rest)
        (ws.flatMap WrittenOption.items) .whole := by
  have hwritten := m.writtenAs_writtenEntries
  have hitems : (m.writtenEntries.map WrittenOption.ofEntry).flatMap WrittenOption.items =
      m.items := by
    rw [items_eq_flatMap, List.flatMap_map]
    rfl
  refine ⟨_, hwritten, fun _ h => h.unique hwritten, List.take_left, ?_, ?_⟩
  · rw [List.drop_left, hitems]
    rfl
  · intro rest
    rw [List.drop_left, hitems]
    exact m.scan_encode_append rest

end OptionMap

-- the message type comes first, 0 is left out, and an empty value has an item
example : (OptionMap.ofList [(0, [9]), (12, []), (53, [1]), (50, [7])]).encode =
    [53, 1, 1, 12, 0, 50, 1, 7, 255] := by
  cbv

end DhcpServer
