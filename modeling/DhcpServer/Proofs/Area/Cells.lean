import DhcpServer.Proofs.Area.Written

/-!
# Areas as rows of cells

An area is a row of cells, each an octet that fills space or an item, and a tail:
nothing, a code of 255 with anything behind it, or the front of an item whose
octets end too soon.  Every area splits in this way (`exists_split_of_scan`), and
in no other (`split_unique`).

Reading accepts an area exactly if its tail is not an incomplete item, and in
any case it gathers the items of the row and no others: `Gathered.read_area`.
-/

namespace DhcpServer

/-! ## Cells and tails -/

/-- What stands in an area: an octet that fills space, or an item that can be
told from space and from the end and whose length fits into one octet. -/
inductive Cell where
  | space
  | item (item : Item) (writable : item.Writable)

namespace Cell

def encode : Cell → Bytes
  | space => [OptionCode.pad]
  | item i _ => i.encode

def item? : Cell → Option Item
  | space => none
  | item i _ => some i

/-- The octets of a row of cells. -/
def row (cells : List Cell) : Bytes := cells.flatMap encode

/-- The items of a row of cells. -/
def items (cells : List Cell) : List Item := cells.filterMap item?

theorem row_cons (cell : Cell) (cells : List Cell) : row (cell :: cells) = cell.encode ++ row cells :=
  List.flatMap_cons

end Cell

/-- What follows the last cell of an area. -/
inductive Tail : Bytes → Ending → Prop
  | exhausted : Tail [] .whole
  | stop (rest : Bytes) : Tail (OptionCode.stop :: rest) .whole
  | broken {code : UInt8} {rest : Bytes} :
      code ≠ OptionCode.pad → code ≠ OptionCode.stop → TooShort rest →
      Tail (code :: rest) .cutOff

theorem Tail.scan {tail : Bytes} {ending : Ending} (h : Tail tail ending) :
    Scan tail [] ending := by
  cases h with
  | exhausted => exact .exhausted
  | stop rest => exact .stop rest
  | broken hp hs hshort => exact .broken hp hs hshort

/-! ## Splitting an area -/

/-- Cells in front of an area put their items in front of its items. -/
theorem scan_row_append (cells : List Cell) {rest : Bytes} {items : List Item} {ending : Ending}
    (h : Scan rest items ending) : Scan (Cell.row cells ++ rest) (Cell.items cells ++ items) ending := by
  induction cells with
  | nil => exact h
  | cons cell cells ih =>
      rw [Cell.row_cons, List.append_assoc]
      cases cell with
      | space => exact .pad ih
      | item i hw => exact hw.scan_encode_append ih

/-- An item that was scanned is encoded as it stood there. -/
theorem Item.encode_of_length {code size : UInt8} {payload : Bytes}
    (h : payload.length = size.toNat) : Item.encode ⟨code, payload⟩ = code :: size :: payload := by
  show code :: UInt8.ofNat payload.length :: payload = _
  rw [h, UInt8.ofNat_toNat]

/-- Every area is a row of cells with a tail.  By induction on its scan. -/
theorem exists_split_of_scan {area : Bytes} {items : List Item} {ending : Ending}
    (h : Scan area items ending) :
    ∃ cells tail, area = Cell.row cells ++ tail ∧ Tail tail ending ∧ Cell.items cells = items := by
  induction h with
  | exhausted => exact ⟨[], [], rfl, .exhausted, rfl⟩
  | stop rest => exact ⟨[], _, rfl, .stop rest, rfl⟩
  | broken hp hs hshort => exact ⟨[], _, rfl, .broken hp hs hshort, rfl⟩
  | pad _ ih =>
      obtain ⟨cells, tail, rfl, htail, rfl⟩ := ih
      exact ⟨.space :: cells, tail, rfl, htail, rfl⟩
  | @item code size payload _ _ _ hp hs hl hrest ih =>
      obtain ⟨cells, tail, rfl, htail, rfl⟩ := ih
      have hw : Item.Writable ⟨code, payload⟩ :=
        (Scan.item hp hs hl hrest).writable _ List.mem_cons_self
      refine ⟨.item ⟨code, payload⟩ hw :: cells, tail, ?_, htail, rfl⟩
      rw [Cell.row_cons, Cell.encode, Item.encode_of_length hl, List.append_assoc]
      rfl

/-! ## There is only one split -/

/-- No tail begins with a cell. -/
theorem Tail.ne_encode_append {tail : Bytes} {ending : Ending} (h : Tail tail ending) (cell : Cell)
    (rest : Bytes) : tail ≠ cell.encode ++ rest := by
  cases cell with
  | space =>
      intro htail
      cases h with
      | exhausted => cases htail
      | stop => exact absurd (List.cons.inj htail).1 (by decide)
      | broken hp => exact hp (List.cons.inj htail).1
  | item i hw =>
      rintro rfl
      -- a tail has no items, but this area would have one
      obtain ⟨items, ending', hrest, -⟩ := exists_scan_read ⟨.empty, none⟩ rest
      have hsome : Scan (i.encode ++ rest) (i :: items) ending' := hw.scan_encode_append hrest
      exact List.cons_ne_nil _ _ (hsome.unique h.scan).1

theorem Tail.unique {tail : Bytes} {ending ending' : Ending} (h : Tail tail ending)
    (h' : Tail tail ending') : ending = ending' :=
  (h.scan.unique h'.scan).2

/-- The first cell of an area is told by its octets. -/
theorem Cell.encode_append_inj {cell cell' : Cell} {rest rest' : Bytes}
    (h : cell.encode ++ rest = cell'.encode ++ rest') : cell = cell' ∧ rest = rest' := by
  cases cell with
  | space =>
      cases cell' with
      | space => exact ⟨rfl, (List.cons.inj h).2⟩
      | item i hw => exact absurd (List.cons.inj h).1.symm hw.ne_pad
  | item i hw =>
      cases cell' with
      | space => exact absurd (List.cons.inj h).1 hw.ne_pad
      | item i' hw' =>
          obtain ⟨items, ending, hrest, -⟩ := exists_scan_read ⟨.empty, none⟩ rest
          obtain ⟨items', ending', hrest', -⟩ := exists_scan_read ⟨.empty, none⟩ rest'
          -- both are the first item of one scan
          have hscan : Scan (i.encode ++ rest) (i :: items) ending := hw.scan_encode_append hrest
          have hscan' : Scan (i'.encode ++ rest') (i' :: items') ending' :=
            hw'.scan_encode_append hrest'
          have hsame : Scan (i.encode ++ rest) (i' :: items') ending' := by
            rw [show i.encode ++ rest = i'.encode ++ rest' from h]
            exact hscan'
          obtain rfl : i = i' := (List.cons.inj (hscan.unique hsame).1).1
          exact ⟨rfl, List.append_cancel_left h⟩

/-- An area splits into cells and a tail in one way only. -/
theorem split_unique {cells cells' : List Cell} {tail tail' : Bytes} {ending ending' : Ending}
    (ht : Tail tail ending) (ht' : Tail tail' ending')
    (h : Cell.row cells ++ tail = Cell.row cells' ++ tail') : cells = cells' ∧ tail = tail' := by
  induction cells generalizing cells' with
  | nil =>
      cases cells' with
      | nil => exact ⟨rfl, h⟩
      | cons cell' cells' =>
          rw [Cell.row_cons, List.append_assoc] at h
          exact absurd h (ht.ne_encode_append cell' _)
  | cons cell cells ih =>
      rw [Cell.row_cons, List.append_assoc] at h
      cases cells' with
      | nil => exact absurd h.symm (ht'.ne_encode_append cell _)
      | cons cell' cells' =>
          rw [Cell.row_cons, List.append_assoc] at h
          obtain ⟨rfl, hrest⟩ := Cell.encode_append_inj h
          obtain ⟨rfl, rfl⟩ := ih hrest
          exact ⟨rfl, rfl⟩

/-! ## Reading -/

/-- An area that is a row of cells, which either fills it or is followed by a
code of 255 and any octets. -/
def IsRow (area : Bytes) : Prop :=
  ∃ cells, area = Cell.row cells ∨ ∃ rest, area = Cell.row cells ++ OptionCode.stop :: rest

theorem isRow_iff_wellFormed {area : Bytes} : IsRow area ↔ WellFormed area := by
  constructor
  · rintro ⟨cells, rfl | ⟨rest, rfl⟩⟩
    · have h := scan_row_append cells .exhausted
      rw [List.append_nil] at h
      exact ⟨_, h⟩
    · exact ⟨_, scan_row_append cells (.stop rest)⟩
  · rintro ⟨items, h⟩
    obtain ⟨cells, tail, rfl, htail, -⟩ := exists_split_of_scan h
    cases htail with
    | exhausted => exact ⟨cells, .inl (List.append_nil _)⟩
    | stop rest => exact ⟨cells, .inr ⟨rest, rfl⟩⟩

/-- What is gathered from the items of a row: each code but the overload option
has their payloads at the end of its value, the overload option is not stored,
and its last octet counts, if that is of interest. -/
structure Gathered.GathersFrom (before after : Gathered) (items : List Item) : Prop where
  option_eq : ∀ code, code ≠ OptionCode.overload →
    after.options.get? code = extended (before.options.get? code) (payloads code items)
  overload_option_eq :
    after.options.get? OptionCode.overload = before.options.get? OptionCode.overload
  overload_eq : after.overload = before.overload.map fun v => (announced items).getD v

theorem Gathered.gathersFrom_foldl_add (g : Gathered) (items : List Item) :
    g.GathersFrom (items.foldl Gathered.add g) items := by
  refine ⟨fun code hcode => ?_, ?_, overload_foldl_add g items⟩
  · rw [options_foldl_add, get?_gather, if_neg hcode]
  · rw [options_foldl_add, get?_gather, if_pos rfl]

/-- **Reading an area** accepts it exactly if it is a row of cells, up to its end
or to a code of 255.  Accepted or not, an area splits into cells and a tail in
one way, and what is gathered comes from the items among those cells. -/
theorem Gathered.read_area (g : Gathered) (area : Bytes) :
    ((g.read area).2 = true ↔ IsRow area) ∧
      ∃ cells tail ending, area = Cell.row cells ++ tail ∧ Tail tail ending ∧
        (∀ cells' tail' ending', area = Cell.row cells' ++ tail' → Tail tail' ending' →
          cells' = cells ∧ tail' = tail ∧ ending' = ending) ∧
        ((g.read area).2 = true ↔ ending = .whole) ∧
        g.GathersFrom (g.read area).1 (Cell.items cells) := by
  refine ⟨read_accepts_iff.trans isRow_iff_wellFormed.symm, ?_⟩
  obtain ⟨items, ending, hscan, hread⟩ := exists_scan_read g area
  obtain ⟨cells, tail, rfl, htail, rfl⟩ := exists_split_of_scan hscan
  refine ⟨cells, tail, ending, rfl, htail, ?_, ?_, ?_⟩
  · intro cells' tail' ending' harea htail'
    obtain ⟨rfl, rfl⟩ := split_unique htail' htail harea.symm
    exact ⟨rfl, rfl, htail'.unique htail⟩
  · rw [hread, decide_eq_true_eq]
  · rw [hread]
    exact g.gathersFrom_foldl_add (Cell.items cells)

-- the second item lacks an octet of its payload, and what stands before it counts
example :
    Gathered.read ⟨.ofList [(12, [65])], some 0⟩ [0, 12, 1, 66, 52, 1, 3, 50, 2, 10] =
      (⟨.ofList [(12, [65, 66])], some 3⟩, false) := by
  cbv

end DhcpServer
