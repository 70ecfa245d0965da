import DhcpServer.Proofs.Area.Cells
import DhcpServer.Proofs.Datagram.Decoding
import Mathlib.Logic.Relation

/-!
# One packet, many datagrams

Options can be written in many ways that no receiver can tell apart: with zeros
between the items, with a value in one item or in several, in another order, and
with anything behind the end (`Rewrites`).  All that counts of the items of an
area is which codes occur, the octets of each code, and the overload octet that
is announced last (`SameContent`).

`wire_forms_alike` says that datagrams with the same front whose areas are
rewritten, or have the same content, hold the same packet or none at all.
-/

namespace DhcpServer

/-! ## Items with the same content -/

/-- Two rows of items show the same codes, the octets of each code are the same in
all, and the same overload octet is announced, if any.  Nothing else counts of
the overload option. -/
structure SameContent (items items' : List Item) : Prop where
  code_iff : ∀ code, code ≠ OptionCode.overload →
    ((∃ item ∈ items, item.code = code) ↔ ∃ item ∈ items', item.code = code)
  octets_eq : ∀ code, code ≠ OptionCode.overload →
    (payloads code items).flatten = (payloads code items').flatten
  announced_eq : announced items = announced items'

namespace SameContent

variable {items items' more more' : List Item}

theorem refl (items : List Item) : SameContent items items :=
  ⟨fun _ _ => Iff.rfl, fun _ _ => rfl, rfl⟩

theorem append (h : SameContent items items') (hmore : SameContent more more') :
    SameContent (items ++ more) (items' ++ more') := by
  refine ⟨fun code hcode => ?_, fun code hcode => ?_, ?_⟩
  · simp only [List.mem_append, or_and_right, exists_or, h.code_iff code hcode,
      hmore.code_iff code hcode]
  · rw [payloads_append, payloads_append, List.flatten_append, List.flatten_append,
      h.octets_eq code hcode, hmore.octets_eq code hcode]
  · rw [announced_append, announced_append, h.announced_eq, hmore.announced_eq]

/-- Whether a code occurs and the octets that it has decide what is gathered. -/
theorem extended_eq (h : SameContent items items') {code : UInt8}
    (hcode : code ≠ OptionCode.overload) (value : Option Bytes) :
    extended value (payloads code items) = extended value (payloads code items') := by
  unfold extended
  simp only [payloads_eq_nil_iff, h.code_iff code hcode, h.octets_eq code hcode]

theorem foldl_add_eq (h : SameContent items items') (g : Gathered) :
    items.foldl Gathered.add g = items'.foldl Gathered.add g := by
  apply Gathered.ext
  · rw [options_foldl_add, options_foldl_add]
    apply OptionMap.ext
    intro code
    rw [get?_gather, get?_gather]
    split
    · rfl
    · rename_i hcode
      exact h.extended_eq hcode _
  · rw [overload_foldl_add, overload_foldl_add, h.announced_eq]

/-- One item may be written as several of its code, if there is at least one. -/
theorem split {code : UInt8} (hcode : code ≠ OptionCode.overload) {pieces : List Bytes}
    (hpieces : pieces ≠ []) :
    SameContent [⟨code, pieces.flatten⟩] (pieces.map (Item.mk code)) := by
  refine ⟨fun other _ => ?_, fun other _ => ?_, ?_⟩
  · obtain ⟨piece, hpiece⟩ := List.exists_mem_of_ne_nil pieces hpieces
    constructor
    · rintro ⟨item, hitem, rfl⟩
      rw [List.mem_singleton.mp hitem]
      exact ⟨⟨code, piece⟩, List.mem_map_of_mem hpiece, rfl⟩
    · rintro ⟨item, hitem, rfl⟩
      obtain ⟨_, -, rfl⟩ := List.mem_map.mp hitem
      exact ⟨_, List.mem_singleton_self _, rfl⟩
  · by_cases h : code = other
    · subst h
      rw [payloads_map_mk]
      simp [payloads]
    · rw [payloads_map_mk_of_ne h, payloads_cons_of_ne [] h]
      rfl
  · rw [announced_eq_none, announced_eq_none]
    · intro item hitem
      obtain ⟨_, -, rfl⟩ := List.mem_map.mp hitem
      exact hcode
    · intro item hitem
      rw [List.mem_singleton.mp hitem]
      exact hcode

/-- Two neighbours of different codes may change places. -/
theorem swap {a b : Item} (h : a.code ≠ b.code) : SameContent [a, b] [b, a] := by
  refine ⟨fun code _ => ?_, fun code _ => ?_, ?_⟩
  · simp [or_comm]
  · by_cases ha : a.code = code
    · have hb : b.code ≠ code := fun hb => h (ha.trans hb.symm)
      simp [payloads, ha, hb]
    · by_cases hb : b.code = code <;> simp [payloads, ha, hb]
  · -- one of the two announces nothing, so it does not matter which comes last
    have hnone : announced [a] = none ∨ announced [b] = none := by
      by_cases ha : a.code = OptionCode.overload
      · exact .inr (announced_cons_of_ne [] fun hb => h (ha.trans hb.symm))
      · exact .inl (announced_cons_of_ne [] ha)
    show announced ([a] ++ [b]) = announced ([b] ++ [a])
    rw [announced_append, announced_append]
    rcases hnone with hnone | hnone
    · rw [hnone, Option.or_none, Option.none_or]
    · rw [hnone, Option.or_none, Option.none_or]

end SameContent

/-- Areas that end alike and have the same content are read alike. -/
theorem read_eq_of_sameContent {area area' : Bytes} {items items' : List Item} {ending : Ending}
    (h : Scan area items ending) (h' : Scan area' items' ending)
    (hsame : SameContent items items') (g : Gathered) : g.read area = g.read area' := by
  rw [read_of_scan g h, read_of_scan g h', hsame.foldl_add_eq]

/-! ## Rewriting an area -/

/-- An area is written in another way, behind some cells of it: the octets after
its end are replaced, zeros are put in, an item is split into several of its
code, or two items with at most zeros between them change places.  The codes of
those two differ, and no overload item is split. -/
inductive Rewrites : Bytes → Bytes → Prop
  | behindEnd (before : List Cell) (rest rest' : Bytes) :
      Rewrites (Cell.row before ++ OptionCode.stop :: rest)
        (Cell.row before ++ OptionCode.stop :: rest')
  | space (before : List Cell) (n : Nat) (rest : Bytes) :
      Rewrites (Cell.row before ++ rest) (Cell.row before ++ (List.replicate n 0 ++ rest))
  | split (before : List Cell) (code : UInt8) (pieces : List Bytes) (rest : Bytes) :
      code ≠ OptionCode.overload → pieces ≠ [] → Item.Writable ⟨code, pieces.flatten⟩ →
      Rewrites (Cell.row before ++ (Item.encode ⟨code, pieces.flatten⟩ ++ rest))
        (Cell.row before ++ ((pieces.map (Item.mk code)).flatMap Item.encode ++ rest))
  | swap (before : List Cell) (a b : Item) (n : Nat) (rest : Bytes) :
      a.code ≠ b.code → a.Writable → b.Writable →
      Rewrites (Cell.row before ++ (a.encode ++ (List.replicate n 0 ++ (b.encode ++ rest))))
        (Cell.row before ++ (b.encode ++ (List.replicate n 0 ++ (a.encode ++ rest))))

/-- The pieces of an item that can be written can be written as items. -/
theorem Item.Writable.piece {code : UInt8} {pieces : List Bytes}
    (h : Item.Writable ⟨code, pieces.flatten⟩) :
    ∀ item ∈ pieces.map (Item.mk code), item.Writable := by
  intro item hitem
  obtain ⟨piece, hpiece, rfl⟩ := List.mem_map.mp hitem
  have hle : piece.length ≤ pieces.flatten.length :=
    (List.sublist_flatten_of_mem hpiece).length_le
  exact ⟨h.ne_pad, h.ne_stop, Nat.le_trans hle h.length_le⟩

/-- One rewriting makes no difference to the reader of an area. -/
theorem Rewrites.read_eq {area area' : Bytes} (h : Rewrites area area') (g : Gathered) :
    g.read area = g.read area' := by
  cases h with
  | behindEnd before rest rest' =>
      exact read_eq_of_sameContent (scan_row_append before (.stop rest))
        (scan_row_append before (.stop rest')) (.refl _) g
  | space before n rest =>
      obtain ⟨items, ending, hrest, -⟩ := exists_scan_read g rest
      exact read_eq_of_sameContent (scan_row_append before hrest)
        (scan_row_append before (scan_zeros_append n hrest)) (.refl _) g
  | split before code pieces rest hcode hpieces hw =>
      obtain ⟨items, ending, hrest, -⟩ := exists_scan_read g rest
      have hwhole := scan_row_append before (hw.scan_encode_append hrest)
      have hsplit := scan_row_append before (scan_flatMap_encode_append hw.piece hrest)
      have hsame : SameContent ([⟨code, pieces.flatten⟩] ++ items)
          (pieces.map (Item.mk code) ++ items) :=
        (SameContent.split hcode hpieces).append (.refl _)
      exact read_eq_of_sameContent hwhole hsplit ((SameContent.refl _).append hsame) g
  | swap before a b n rest hcodes ha hb =>
      obtain ⟨items, ending, hrest, -⟩ := exists_scan_read g rest
      have hab := scan_row_append before
        (ha.scan_encode_append (scan_zeros_append n (hb.scan_encode_append hrest)))
      have hba := scan_row_append before
        (hb.scan_encode_append (scan_zeros_append n (ha.scan_encode_append hrest)))
      have hsame : SameContent ([a, b] ++ items) ([b, a] ++ items) :=
        (SameContent.swap hcodes).append (.refl _)
      exact read_eq_of_sameContent hab hba ((SameContent.refl _).append hsame) g

/-- Nor do any number of them, forth and back. -/
theorem read_eq_of_eqvGen {area area' : Bytes} (h : Relation.EqvGen Rewrites area area')
    (g : Gathered) : g.read area = g.read area' := by
  induction h with
  | rel _ _ h => exact h.read_eq g
  | refl _ => rfl
  | symm _ _ _ ih => exact ih.symm
  | trans _ _ _ _ _ ih ih' => exact ih.trans ih'

namespace Packet

/-! ## The datagram around an area -/

/-- A datagram is its front and what the area behind that gathers. -/
theorem ofBytes?_append_congr {front area area' : Bytes} (hfront : front.length = 240)
    (h : Gathered.read ⟨.empty, some 0⟩ area = Gathered.read ⟨.empty, some 0⟩ area') :
    ofBytes? (front ++ area) = ofBytes? (front ++ area') := by
  by_cases hheader : ∃ header : Header, front = header.toBytes
  · obtain ⟨header, rfl⟩ := hheader
    unfold ofBytes?
    simp only [Header.read?_toBytes_append, bind, Option.bind_some, h]
  · -- without a header there is no packet, whatever the area says
    have hnone : ∀ area, ofBytes? (front ++ area) = none := by
      intro area
      rw [Option.eq_none_iff_forall_ne_some]
      intro p hp
      obtain ⟨header, hb⟩ := header_of_ofBytes? hp
      rw [List.drop_left' hfront] at hb
      exact hheader ⟨header, List.append_cancel_right hb⟩
    rw [hnone, hnone]

/-- Two datagrams whose first 240 octets agree hold the same packet, or both hold
none, if the area behind them is rewritten any number of times, forth and back,
or if it is any other well-formed area with the same content. -/
theorem wire_forms_alike {front : Bytes} (hfront : front.length = 240) :
    (∀ area area', Relation.EqvGen Rewrites area area' →
      ofBytes? (front ++ area) = ofBytes? (front ++ area')) ∧
    ∀ area area' items items', Scan area items .whole → Scan area' items' .whole →
      SameContent items items' → ofBytes? (front ++ area) = ofBytes? (front ++ area') := by
  constructor
  · intro area area' h
    exact ofBytes?_append_congr hfront (read_eq_of_eqvGen h _)
  · intro area area' items items' hscan hscan' hsame
    exact ofBytes?_append_congr hfront (read_eq_of_sameContent hscan hscan' hsame _)

/-- A host name and a message type, with the end behind them, are rewritten in four
steps; a third area with their content has no end. -/
theorem wire_forms_alike_host_name :
    let front := (Header.blank 1).toBytes
    let area : Bytes := [12, 2, 65, 66, 53, 1, 1, 255]
    let area' : Bytes := [53, 1, 1, 0, 12, 1, 65, 12, 1, 66, 255, 7]
    let area'' : Bytes := [53, 1, 1, 12, 2, 65, 66]
    let p : Packet := ⟨Header.blank 1, ⟨[(12, [65, 66]), (53, [1])], by decide⟩⟩
    front.length = 240 ∧ Relation.EqvGen Rewrites area area' ∧
      ofBytes? (front ++ area) = some p ∧ ofBytes? (front ++ area') = some p ∧
      ofBytes? (front ++ area'') = some p := by
  intro front area area' area'' p
  have hfront : front.length = 240 := Header.length_toBytes _
  have hname : Item.Writable ⟨12, [65, 66]⟩ := ⟨by decide, by decide, by decide⟩
  have htype : Item.Writable ⟨53, [1]⟩ := ⟨by decide, by decide, by decide⟩
  have hletter : Item.Writable ⟨12, [65]⟩ := ⟨by decide, by decide, by decide⟩
  have hother : Item.Writable ⟨12, [66]⟩ := ⟨by decide, by decide, by decide⟩
  have hswap : Rewrites area [53, 1, 1, 12, 2, 65, 66, 255] :=
    .swap [] ⟨12, [65, 66]⟩ ⟨53, [1]⟩ 0 [255] (by decide) hname htype
  have hsplit : Rewrites [53, 1, 1, 12, 2, 65, 66, 255] [53, 1, 1, 12, 1, 65, 12, 1, 66, 255] :=
    .split [.item _ htype] 12 [[65], [66]] [255] (by decide) (by decide) hname
  have hspace : Rewrites [53, 1, 1, 12, 1, 65, 12, 1, 66, 255]
      [53, 1, 1, 0, 12, 1, 65, 12, 1, 66, 255] :=
    .space [.item _ htype] 1 _
  have hend : Rewrites [53, 1, 1, 0, 12, 1, 65, 12, 1, 66, 255] area' :=
    .behindEnd [.item _ htype, .space, .item _ hletter, .item _ hother] [] [7]
  have hrewritten : Relation.EqvGen Rewrites area area' :=
    .trans _ _ _ (.rel _ _ hswap) (.trans _ _ _ (.rel _ _ hsplit)
      (.trans _ _ _ (.rel _ _ hspace) (.rel _ _ hend)))
  have hscan : Scan area [⟨12, [65, 66]⟩, ⟨53, [1]⟩] .whole :=
    hname.scan_encode_append (htype.scan_encode_append (.stop []))
  have hscan'' : Scan area'' [⟨53, [1]⟩, ⟨12, [65, 66]⟩] .whole :=
    htype.scan_encode_append (hname.scan_encode_append .exhausted)
  have hp : ofBytes? (front ++ area) = some p :=
    ofBytes?_append_eq_some_iff.mpr ⟨_, [], [], hscan, rfl, rfl, rfl⟩
  obtain ⟨halike, hcontent⟩ := wire_forms_alike hfront
  refine ⟨hfront, hrewritten, hp, ?_, ?_⟩
  · rw [← halike area area' hrewritten, hp]
  · rw [← hcontent area area'' _ _ hscan hscan'' (SameContent.swap (by decide)), hp]

end Packet

end DhcpServer
