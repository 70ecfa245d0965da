import DhcpServer.Proofs.Area.Gathering

/-!
# What a written area holds

The area that an option map is written as scans to the items of the map,
whatever stands behind it (`scan_encode_append`).  Gathering those items gives
the map back, without the three codes that have a meaning of their own in an
area (`gather_items`): a long value is split and joined again, and no item of a
written area can be mistaken for space, for the end or for another code.
-/

namespace DhcpServer

/-! ## Pieces -/

theorem flatten_pieces (value : Bytes) : (pieces value).flatten = value := by
  induction value using pieces.induct with
  | case1 value h => rw [pieces, if_pos h, List.flatten_singleton]
  | case2 value h ih =>
      rw [pieces, if_neg h, List.flatten_cons, ih, List.take_append_drop]

theorem pieces_ne_nil (value : Bytes) : pieces value ≠ [] := by
  rw [pieces]
  split
  · exact List.cons_ne_nil _ _
  · exact List.cons_ne_nil _ _

theorem length_le_of_mem_pieces {value piece : Bytes} (h : piece ∈ pieces value) :
    piece.length ≤ Item.maxPayload := by
  induction value using pieces.induct with
  | case1 value hle =>
      rw [pieces, if_pos hle, List.mem_singleton] at h
      rw [h]
      exact hle
  | case2 value hle ih =>
      rw [pieces, if_neg hle, List.mem_cons] at h
      rcases h with rfl | h
      · rw [List.length_take]
        exact Nat.min_le_left _ _
      · exact ih h

theorem itemsOf_eq_singleton {code : UInt8} {value : Bytes}
    (h : value.length ≤ Item.maxPayload) : itemsOf code value = [⟨code, value⟩] := by
  rw [itemsOf, pieces, if_pos h]
  rfl

/-- Splitting a value for the wire and joining it again changes nothing. -/
theorem extended_none_pieces (value : Bytes) : extended none (pieces value) = some value := by
  rw [extended, if_neg (pieces_ne_nil value), flatten_pieces]
  rfl

/-! ## Items that an area can hold -/

/-- The item can be told from space and from the end, and its length fits into
one octet. -/
structure Item.Writable (item : Item) : Prop where
  ne_pad : item.code ≠ OptionCode.pad
  ne_stop : item.code ≠ OptionCode.stop
  length_le : item.payload.length ≤ Item.maxPayload

/-- Whatever a scan finds can be written. -/
theorem Scan.writable {area : Bytes} {items : List Item} {ending : Ending}
    (h : Scan area items ending) : ∀ item ∈ items, item.Writable := by
  induction h with
  | exhausted => exact fun item hi => absurd hi List.not_mem_nil
  | stop => exact fun item hi => absurd hi List.not_mem_nil
  | broken => exact fun item hi => absurd hi List.not_mem_nil
  | pad _ ih => exact ih
  | @item code size payload _ _ _ hp hs hl _ ih =>
      intro item hi
      rcases List.mem_cons.mp hi with rfl | hi
      · refine ⟨hp, hs, ?_⟩
        have hsize : size.toNat < 256 := size.toNat_lt
        show payload.length ≤ 255
        omega
      · exact ih item hi

theorem Item.Writable.scan_encode_append {item : Item} (hw : item.Writable) {rest : Bytes}
    {items : List Item} {ending : Ending} (h : Scan rest items ending) :
    Scan (item.encode ++ rest) (item :: items) ending := by
  have hle : item.payload.length ≤ 255 := hw.length_le
  have hl : item.payload.length = (UInt8.ofNat item.payload.length).toNat := by
    rw [UInt8.toNat_ofNat', Nat.mod_eq_of_lt (by omega)]
  exact .item hw.ne_pad hw.ne_stop hl h

theorem scan_flatMap_encode_append {items more : List Item} {rest : Bytes} {ending : Ending}
    (hw : ∀ item ∈ items, item.Writable) (h : Scan rest more ending) :
    Scan (items.flatMap Item.encode ++ rest) (items ++ more) ending := by
  induction items with
  | nil => exact h
  | cons item items ih =>
      rw [List.flatMap_cons, List.append_assoc, List.cons_append]
      have hrest := ih fun i hi => hw i (List.mem_cons_of_mem _ hi)
      exact (hw item List.mem_cons_self).scan_encode_append hrest

/-- Zeros in front of an area make no difference to its items. -/
theorem scan_zeros_append (n : Nat) {rest : Bytes} {items : List Item} {ending : Ending}
    (h : Scan rest items ending) : Scan (List.replicate n 0 ++ rest) items ending := by
  induction n with
  | zero => exact h
  | succ n ih =>
      rw [List.replicate_succ, List.cons_append]
      exact .pad ih

/-- A field of zeros is an area without options. -/
theorem scan_replicate_zero (n : Nat) : Scan (List.replicate n 0) [] .whole := by
  simpa using scan_zeros_append n .exhausted

/-! ## The items of a map -/

/-- The pieces of a value, none if there is no value. -/
def piecesOf? (value : Option Bytes) : List Bytes :=
  match value with
  | some value => pieces value
  | none => []

theorem length_le_of_mem_piecesOf? {value : Option Bytes} {piece : Bytes}
    (h : piece ∈ piecesOf? value) : piece.length ≤ Item.maxPayload := by
  cases value with
  | none => exact absurd h List.not_mem_nil
  | some value => exact length_le_of_mem_pieces h

theorem payloads_map_mk (code : UInt8) (ps : List Bytes) :
    payloads code (ps.map (Item.mk code)) = ps := by
  have hall : (ps.map (Item.mk code)).filter (·.code = code) = ps.map (Item.mk code) :=
    List.filter_eq_self.mpr fun item hi => by
      obtain ⟨p, -, rfl⟩ := List.mem_map.mp hi
      exact decide_eq_true rfl
  rw [payloads, hall, List.map_map]
  exact List.map_id _

theorem payloads_map_mk_of_ne {code other : UInt8} (h : other ≠ code) (ps : List Bytes) :
    payloads code (ps.map (Item.mk other)) = [] :=
  payloads_eq_nil fun item hi => by
    obtain ⟨p, -, rfl⟩ := List.mem_map.mp hi
    exact h

theorem OptionMap.standsApart_eq_false_iff {code : UInt8} :
    OptionMap.standsApart code = false ↔
      code ≠ OptionCode.messageType ∧ code ≠ OptionCode.pad ∧ code ≠ OptionCode.stop := by
  simp [OptionMap.standsApart, and_assoc]

/-- The items of the entries that are written in ascending order. -/
def OptionMap.orderedItems (es : List (UInt8 × Bytes)) : List Item :=
  (es.filter fun e => !OptionMap.standsApart e.1).flatMap fun e => itemsOf e.1 e.2

theorem OptionMap.items_eq (m : OptionMap) :
    m.items = (piecesOf? (m.get? OptionCode.messageType)).map (Item.mk OptionCode.messageType) ++
      OptionMap.orderedItems m.entries := by
  unfold OptionMap.items
  cases m.get? OptionCode.messageType <;> rfl

theorem OptionMap.orderedItems_cons (e : UInt8 × Bytes) (es : List (UInt8 × Bytes)) :
    OptionMap.orderedItems (e :: es) =
      if OptionMap.standsApart e.1 then OptionMap.orderedItems es
      else itemsOf e.1 e.2 ++ OptionMap.orderedItems es := by
  unfold OptionMap.orderedItems
  by_cases h : OptionMap.standsApart e.1 = true
  · rw [if_pos h, List.filter_cons_of_neg (by simpa using h)]
  · rw [if_neg h, List.filter_cons_of_pos (by simpa using h), List.flatMap_cons]

theorem OptionMap.writable_of_mem_items {m : OptionMap} {item : Item} (h : item ∈ m.items) :
    item.Writable := by
  rw [OptionMap.items_eq, List.mem_append] at h
  rcases h with h | h
  · obtain ⟨piece, hp, rfl⟩ := List.mem_map.mp h
    have hpad : OptionCode.messageType ≠ OptionCode.pad := by decide
    have hstop : OptionCode.messageType ≠ OptionCode.stop := by decide
    exact ⟨hpad, hstop, length_le_of_mem_piecesOf? hp⟩
  · obtain ⟨e, he, hi⟩ := List.mem_flatMap.mp h
    obtain ⟨piece, hp, rfl⟩ := List.mem_map.mp hi
    have hapart : OptionMap.standsApart e.1 = false := by
      simpa using (List.mem_filter.mp he).2
    obtain ⟨-, hpad, hstop⟩ := OptionMap.standsApart_eq_false_iff.mp hapart
    exact ⟨hpad, hstop, length_le_of_mem_pieces hp⟩

/-- A written area ends where the map ends, whatever stands behind it. -/
theorem OptionMap.scan_encode_append (m : OptionMap) (rest : Bytes) :
    Scan (m.encode ++ rest) m.items .whole := by
  have hw : ∀ item ∈ m.items, item.Writable := fun _ => OptionMap.writable_of_mem_items
  have h := scan_flatMap_encode_append hw (Scan.stop rest)
  rw [List.append_nil] at h
  rw [OptionMap.encode, List.append_assoc]
  exact h

/-- The entries that are written in ascending order hold the payloads of every
code that does not stand apart.  Since the codes ascend, a code that was found
does not come again. -/
theorem payloads_orderedItems (code : UInt8) {es : List (UInt8 × Bytes)}
    (hes : es.Pairwise fun a b => a.1 < b.1) :
    payloads code (OptionMap.orderedItems es) =
      if OptionMap.standsApart code then [] else piecesOf? (OptionMap.find? code es) := by
  induction es with
  | nil => exact (ite_self _).symm
  | cons e es ih =>
      obtain ⟨he, hes⟩ := List.pairwise_cons.mp hes
      have ih := ih hes
      rw [OptionMap.orderedItems_cons, OptionMap.find?]
      by_cases hcode : e.1 = code
      · -- the code stands at the front, and the order keeps it out of the rest
        subst hcode
        have hnone : OptionMap.find? e.1 es = none := OptionMap.find?_eq_none_of_lt he
        rw [hnone, show piecesOf? none = [] from rfl, ite_self] at ih
        rw [if_pos rfl]
        split
        · exact ih
        · rw [payloads_append, ih, itemsOf, payloads_map_mk, List.append_nil]
          rfl
      · rw [if_neg hcode, ← ih]
        split
        · rfl
        · rw [payloads_append, itemsOf, payloads_map_mk_of_ne hcode, List.nil_append]

/-- The payloads of a code in the items of a map are the pieces of its value,
but space and end are not written. -/
theorem payloads_items (m : OptionMap) (code : UInt8) :
    payloads code m.items =
      if code = OptionCode.pad ∨ code = OptionCode.stop then []
      else piecesOf? (m.get? code) := by
  rw [OptionMap.items_eq, payloads_append, payloads_orderedItems code m.ascending]
  by_cases htype : code = OptionCode.messageType
  · subst htype
    rw [if_pos (by decide), if_neg (by decide), List.append_nil, payloads_map_mk]
  · rw [payloads_map_mk_of_ne (Ne.symm htype), List.nil_append]
    by_cases hmark : code = OptionCode.pad ∨ code = OptionCode.stop
    · rw [if_pos hmark, if_pos]
      rcases hmark with rfl | rfl <;> decide
    · rw [if_neg hmark, if_neg]
      · rfl
      · rw [Bool.not_eq_true, OptionMap.standsApart_eq_false_iff]
        exact ⟨htype, fun h => hmark (Or.inl h), fun h => hmark (Or.inr h)⟩

/-! ## What the wire carries -/

/-- The options that a written area carries: all but those with the codes for
space, for the end and for the overload option. -/
def OptionMap.carried (m : OptionMap) : OptionMap :=
  ((m.erase OptionCode.pad).erase OptionCode.overload).erase OptionCode.stop

theorem OptionMap.get?_carried (m : OptionMap) (code : UInt8) :
    m.carried.get? code =
      if code = OptionCode.pad ∨ code = OptionCode.overload ∨ code = OptionCode.stop then none
      else m.get? code := by
  rw [OptionMap.carried, OptionMap.get?_erase, OptionMap.get?_erase, OptionMap.get?_erase]
  by_cases hp : code = OptionCode.pad <;> by_cases ho : code = OptionCode.overload <;>
    by_cases hs : code = OptionCode.stop <;> simp [hp, ho, hs]

/-- Gathering what was written gives back what the wire carries. -/
theorem gather_items (m : OptionMap) : OptionMap.empty.gather m.items = m.carried := by
  apply OptionMap.ext
  intro code
  rw [get?_gather_empty, joined_eq_extended, payloads_items, OptionMap.get?_carried]
  by_cases ho : code = OptionCode.overload
  · rw [if_pos ho, if_pos (Or.inr (Or.inl ho))]
  · rw [if_neg ho]
    by_cases hmark : code = OptionCode.pad ∨ code = OptionCode.stop
    · rw [if_pos hmark, if_pos (hmark.imp id Or.inr)]
      rfl
    · rw [if_neg hmark, if_neg]
      · cases m.get? code with
        | none => rfl
        | some value => exact extended_none_pieces value
      · rintro (h | h | h)
        · exact hmark (Or.inl h)
        · exact ho h
        · exact hmark (Or.inr h)

end DhcpServer
