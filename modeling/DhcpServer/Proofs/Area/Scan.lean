import DhcpServer.OptionArea

/-!
# The grammar of option areas

An area is a row of items with zeros between them.  It ends where its octets
end or at a code of 255, whatever follows that; or it breaks off, because the
octets end inside an item.  `Scan` says so without reference to any reader.

Every area has exactly one scan (`exists_scan_read`, `Scan.unique`), and reading
an area adds the items of its scan one after the other (`read_of_scan`).
-/

namespace DhcpServer

/-- How an area ends: where it may, or inside an item. -/
inductive Ending where
  | whole
  | cutOff
deriving DecidableEq, Repr

/-- The octets after a code end before its payload does. -/
def TooShort : Bytes → Prop
  | [] => True
  | size :: rest => rest.length < size.toNat

/-- The complete items of an area, in order, and how the area ends. -/
inductive Scan : Bytes → List Item → Ending → Prop
  | exhausted : Scan [] [] .whole
  | stop (rest : Bytes) : Scan (OptionCode.stop :: rest) [] .whole
  | broken {code : UInt8} {rest : Bytes} :
      code ≠ OptionCode.pad → code ≠ OptionCode.stop → TooShort rest →
      Scan (code :: rest) [] .cutOff
  | pad {rest : Bytes} {items : List Item} {ending : Ending} :
      Scan rest items ending → Scan (OptionCode.pad :: rest) items ending
  | item {code size : UInt8} {payload rest : Bytes} {items : List Item} {ending : Ending} :
      code ≠ OptionCode.pad → code ≠ OptionCode.stop → payload.length = size.toNat →
      Scan rest items ending →
      Scan (code :: size :: (payload ++ rest)) (⟨code, payload⟩ :: items) ending

/-- An area that does not break off inside an item. -/
def WellFormed (area : Bytes) : Prop := ∃ items, Scan area items .whole

/-! ## The payload of an item -/

theorem Gathered.payload?_eq_some_iff {bs payload next : Bytes} :
    Gathered.payload? bs = some (payload, next) ↔
      ∃ size : UInt8, bs = size :: (payload ++ next) ∧ payload.length = size.toNat := by
  cases bs with
  | nil => simp [Gathered.payload?]
  | cons size rest =>
      rw [Gathered.payload?, Bytes.splitAt?_eq_some_iff]
      constructor
      · rintro ⟨rfl, hl⟩
        exact ⟨size, rfl, hl⟩
      · rintro ⟨size', h, hl⟩
        rw [List.cons.injEq] at h
        obtain ⟨rfl, rfl⟩ := h
        exact ⟨rfl, hl⟩

theorem Gathered.payload?_eq_none_iff {bs : Bytes} :
    Gathered.payload? bs = none ↔ TooShort bs := by
  cases bs with
  | nil => simp [Gathered.payload?, TooShort]
  | cons size rest => rw [Gathered.payload?, Bytes.splitAt?_eq_none_iff, TooShort]

/-! ## One step of a scan -/

@[simp] theorem scan_nil_iff {items : List Item} {ending : Ending} :
    Scan [] items ending ↔ items = [] ∧ ending = .whole := by
  constructor
  · intro h
    cases h
    exact ⟨rfl, rfl⟩
  · rintro ⟨rfl, rfl⟩
    exact .exhausted

@[simp] theorem scan_pad_iff {rest : Bytes} {items : List Item} {ending : Ending} :
    Scan (OptionCode.pad :: rest) items ending ↔ Scan rest items ending := by
  constructor
  · intro h
    cases h with
    | pad h => exact h
    | broken hp => exact absurd rfl hp
    | item hp => exact absurd rfl hp
  · exact .pad

@[simp] theorem scan_stop_iff {rest : Bytes} {items : List Item} {ending : Ending} :
    Scan (OptionCode.stop :: rest) items ending ↔ items = [] ∧ ending = .whole := by
  constructor
  · intro h
    cases h with
    | stop => exact ⟨rfl, rfl⟩
    | broken _ hs => exact absurd rfl hs
    | item _ hs => exact absurd rfl hs
  · rintro ⟨rfl, rfl⟩
    exact .stop rest

section Code

variable {code : UInt8} {rest payload next : Bytes} {items : List Item} {ending : Ending}

theorem scan_broken_iff (hp : code ≠ OptionCode.pad) (hs : code ≠ OptionCode.stop)
    (h : Gathered.payload? rest = none) :
    Scan (code :: rest) items ending ↔ items = [] ∧ ending = .cutOff := by
  constructor
  · intro hscan
    cases hscan with
    | stop => exact absurd rfl hs
    | pad => exact absurd rfl hp
    | broken => exact ⟨rfl, rfl⟩
    | item _ _ hl _ =>
        rw [Gathered.payload?_eq_some_iff.mpr ⟨_, rfl, hl⟩] at h
        exact absurd h (Option.some_ne_none _)
  · rintro ⟨rfl, rfl⟩
    exact .broken hp hs (Gathered.payload?_eq_none_iff.mp h)

theorem scan_item_iff (hp : code ≠ OptionCode.pad) (hs : code ≠ OptionCode.stop)
    (h : Gathered.payload? rest = some (payload, next)) :
    Scan (code :: rest) items ending ↔
      ∃ more, items = ⟨code, payload⟩ :: more ∧ Scan next more ending := by
  constructor
  · intro hscan
    cases hscan with
    | stop => exact absurd rfl hs
    | pad => exact absurd rfl hp
    | broken _ _ hshort =>
        rw [Gathered.payload?_eq_none_iff.mpr hshort] at h
        exact absurd h.symm (Option.some_ne_none _)
    | item _ _ hl hmore =>
        rw [Gathered.payload?_eq_some_iff.mpr ⟨_, rfl, hl⟩, Option.some.injEq,
          Prod.mk.injEq] at h
        obtain ⟨rfl, rfl⟩ := h
        exact ⟨_, rfl, hmore⟩
  · rintro ⟨more, rfl, hmore⟩
    obtain ⟨size, rfl, hl⟩ := Gathered.payload?_eq_some_iff.mp h
    exact .item hp hs hl hmore

end Code

/-! ## Reading is scanning -/

/-- Every area has a scan, and reading adds its items in order. -/
theorem exists_scan_read (g : Gathered) (area : Bytes) :
    ∃ items ending, Scan area items ending ∧
      g.read area = (items.foldl Gathered.add g, decide (ending = .whole)) := by
  induction g, area using Gathered.read.induct with
  | case1 g => exact ⟨[], .whole, .exhausted, by rw [Gathered.read]; rfl⟩
  | case2 g rest ih =>
      obtain ⟨items, ending, hscan, hread⟩ := ih
      refine ⟨items, ending, .pad hscan, ?_⟩
      rw [Gathered.read, if_pos rfl, hread]
  | case3 g rest hp =>
      refine ⟨[], .whole, .stop rest, ?_⟩
      rw [Gathered.read, if_neg hp, if_pos rfl]
      rfl
  | case4 g code rest hp hs h =>
      refine ⟨[], .cutOff, (scan_broken_iff hp hs h).mpr ⟨rfl, rfl⟩, ?_⟩
      rw [Gathered.read, if_neg hp, if_neg hs]
      split
      · rfl
      · rename_i hsome
        exact absurd (hsome.symm.trans h) (Option.some_ne_none _)
  | case5 g code rest hp hs payload next h _ ih =>
      obtain ⟨items, ending, hscan, hread⟩ := ih
      refine ⟨⟨code, payload⟩ :: items, ending,
        (scan_item_iff hp hs h).mpr ⟨items, rfl, hscan⟩, ?_⟩
      rw [Gathered.read, if_neg hp, if_neg hs]
      -- the reader keeps the equation of its match, so `h` cannot be rewritten there
      split
      · rename_i hnone
        exact absurd (h.symm.trans hnone) (Option.some_ne_none _)
      · rename_i payload' next' hsome
        rw [h, Option.some.injEq, Prod.mk.injEq] at hsome
        obtain ⟨rfl, rfl⟩ := hsome
        rw [hread, List.foldl_cons]

/-- An area has only one scan. -/
theorem Scan.unique {area : Bytes} {items items' : List Item} {ending ending' : Ending}
    (h : Scan area items ending) (h' : Scan area items' ending') :
    items = items' ∧ ending = ending' := by
  induction h generalizing items' ending' with
  | exhausted =>
      rw [scan_nil_iff] at h'
      exact ⟨h'.1.symm, h'.2.symm⟩
  | stop rest =>
      rw [scan_stop_iff] at h'
      exact ⟨h'.1.symm, h'.2.symm⟩
  | broken hp hs hshort =>
      rw [scan_broken_iff hp hs (Gathered.payload?_eq_none_iff.mpr hshort)] at h'
      exact ⟨h'.1.symm, h'.2.symm⟩
  | pad _ ih => exact ih (scan_pad_iff.mp h')
  | item hp hs hl _ ih =>
      rw [scan_item_iff hp hs (Gathered.payload?_eq_some_iff.mpr ⟨_, rfl, hl⟩)] at h'
      obtain ⟨more, rfl, hmore⟩ := h'
      obtain ⟨rfl, rfl⟩ := ih hmore
      exact ⟨rfl, rfl⟩

theorem read_of_scan (g : Gathered) {area : Bytes} {items : List Item} {ending : Ending}
    (h : Scan area items ending) :
    g.read area = (items.foldl Gathered.add g, decide (ending = .whole)) := by
  obtain ⟨items', ending', h', hread⟩ := exists_scan_read g area
  obtain ⟨rfl, rfl⟩ := h.unique h'
  exact hread

/-- An area is accepted exactly if it is well formed. -/
theorem read_accepts_iff {g : Gathered} {area : Bytes} :
    (g.read area).2 = true ↔ WellFormed area := by
  constructor
  · intro hread
    obtain ⟨items, ending, h, heq⟩ := exists_scan_read g area
    rw [heq, decide_eq_true_eq] at hread
    exact ⟨items, hread ▸ h⟩
  · rintro ⟨items, h⟩
    rw [read_of_scan g h]
    rfl

end DhcpServer
