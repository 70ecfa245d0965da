import DhcpServer.Bytes

/-!
# Option maps

A packet has at most one value for each option code.  The values are kept as a
list of entries in strictly ascending order of code, which is the order in
which they are listed and written.  Since the order is part of the type, a map
is determined by its lookups: `OptionMap.ext`.
-/

namespace DhcpServer

/-- Values by option code, in ascending order of code. -/
structure OptionMap where
  entries : List (UInt8 × Bytes)
  ascending : entries.Pairwise fun a b => a.1 < b.1
deriving DecidableEq

namespace OptionMap

/-! ### Entries -/

/-- The value of a code in a list of entries. -/
def find? (code : UInt8) : List (UInt8 × Bytes) → Option Bytes
  | [] => none
  | e :: es => if e.1 = code then some e.2 else find? code es

/-- Entries with the code set to the value, at its place in the order. -/
def place (code : UInt8) (value : Bytes) : List (UInt8 × Bytes) → List (UInt8 × Bytes)
  | [] => [(code, value)]
  | e :: es =>
    if code < e.1 then (code, value) :: e :: es
    else if e.1 = code then (code, value) :: es
    else e :: place code value es

theorem mem_place {code : UInt8} {value : Bytes} {es : List (UInt8 × Bytes)} {x : UInt8 × Bytes}
    (h : x ∈ place code value es) : x = (code, value) ∨ x ∈ es := by
  induction es with
  | nil => simpa [place] using h
  | cons e es ih =>
    simp only [place] at h
    split at h
    · simpa using h
    · split at h
      · simp only [List.mem_cons] at h
        rcases h with rfl | h
        · exact Or.inl rfl
        · exact Or.inr (List.mem_cons_of_mem _ h)
      · simp only [List.mem_cons] at h
        rcases h with rfl | h
        · exact Or.inr List.mem_cons_self
        · exact (ih h).imp id (List.mem_cons_of_mem _)

theorem ascending_place (code : UInt8) (value : Bytes) {es : List (UInt8 × Bytes)}
    (h : es.Pairwise fun a b => a.1 < b.1) :
    (place code value es).Pairwise fun a b => a.1 < b.1 := by
  induction es with
  | nil => simp [place]
  | cons e es ih =>
    obtain ⟨he, hes⟩ := List.pairwise_cons.mp h
    simp only [place]
    split
    · rename_i hlt
      refine List.pairwise_cons.mpr ⟨?_, h⟩
      intro x hx
      rcases List.mem_cons.mp hx with rfl | hx
      · exact hlt
      · exact UInt8.lt_trans hlt (he x hx)
    · split
      · rename_i heq
        refine List.pairwise_cons.mpr ⟨?_, hes⟩
        intro x hx
        exact heq ▸ he x hx
      · rename_i hnlt hne
        refine List.pairwise_cons.mpr ⟨?_, ih hes⟩
        intro x hx
        rcases mem_place hx with rfl | hx
        · have hnlt' : ¬ code.toNat < e.1.toNat := fun hl => hnlt (UInt8.lt_iff_toNat_lt.mpr hl)
          have hne' : e.1.toNat ≠ code.toNat := fun he => hne (UInt8.toNat_inj.mp he)
          exact UInt8.lt_iff_toNat_lt.mpr (by dsimp only; omega)
        · exact he x hx

/-! ### Operations -/

def empty : OptionMap := ⟨[], List.Pairwise.nil⟩

instance : Inhabited OptionMap := ⟨empty⟩

def get? (m : OptionMap) (code : UInt8) : Option Bytes :=
  find? code m.entries

/-- Whether a code has a value, which may be empty. -/
def contains (m : OptionMap) (code : UInt8) : Bool :=
  (m.get? code).isSome

/-- The map with the value of one code replaced. -/
def insert (m : OptionMap) (code : UInt8) (value : Bytes) : OptionMap :=
  ⟨place code value m.entries, ascending_place code value m.ascending⟩

/-- The map without a value for one code. -/
def erase (m : OptionMap) (code : UInt8) : OptionMap :=
  ⟨m.entries.filter (·.1 ≠ code), m.ascending.filter _⟩

/-- The map with more octets at the end of the value of one code, which is
there afterwards in any case. -/
def extend (m : OptionMap) (code : UInt8) (more : Bytes) : OptionMap :=
  m.insert code ((m.get? code).getD [] ++ more)

/-- The map of the listed values, where of two values for one code the later
counts. -/
def ofList (es : List (UInt8 × Bytes)) : OptionMap :=
  es.foldl (fun m e => m.insert e.1 e.2) empty

/-! ### Lookups -/

theorem find?_place (code other : UInt8) (value : Bytes) (es : List (UInt8 × Bytes)) :
    find? other (place code value es) = if other = code then some value else find? other es := by
  induction es with
  | nil =>
    simp only [place, find?]
    by_cases h : other = code
    · simp [h]
    · simp [h, Ne.symm h]
  | cons e es ih =>
    simp only [place]
    split
    · simp only [find?]
      by_cases h : other = code
      · simp [h]
      · simp [h, Ne.symm h]
    · split
      · rename_i heq
        simp only [find?, heq]
        by_cases h : other = code
        · simp [h]
        · simp [h, Ne.symm h]
      · rename_i hne
        simp only [find?, ih]
        by_cases h : e.1 = other
        · have : other ≠ code := h ▸ hne
          simp [h, this]
        · simp [h]

theorem find?_filter_ne (code other : UInt8) (es : List (UInt8 × Bytes)) :
    find? other (es.filter (·.1 ≠ code)) = if other = code then none else find? other es := by
  induction es with
  | nil => simp [find?]
  | cons e es ih =>
    by_cases he : e.1 = code
    · rw [List.filter_cons_of_neg (by simp [he]), ih, find?]
      by_cases h : other = code
      · simp [h]
      · have : e.1 ≠ other := fun hh => h (hh ▸ he)
        simp [h, this]
    · rw [List.filter_cons_of_pos (by simp [he]), find?, ih, find?]
      by_cases h : e.1 = other
      · have : other ≠ code := h ▸ he
        simp [h, this]
      · simp [h]

@[simp] theorem get?_empty (code : UInt8) : empty.get? code = none := rfl

/-- Setting one code leaves the values of all others. -/
theorem get?_insert (m : OptionMap) (code other : UInt8) (value : Bytes) :
    (m.insert code value).get? other = if other = code then some value else m.get? other :=
  find?_place code other value m.entries

/-- Dropping one code leaves the values of all others. -/
theorem get?_erase (m : OptionMap) (code other : UInt8) :
    (m.erase code).get? other = if other = code then none else m.get? other :=
  find?_filter_ne code other m.entries

theorem get?_extend (m : OptionMap) (code other : UInt8) (more : Bytes) :
    (m.extend code more).get? other =
      if other = code then some ((m.get? code).getD [] ++ more) else m.get? other :=
  get?_insert m code other _

theorem find?_eq_none_of_lt {code : UInt8} {es : List (UInt8 × Bytes)}
    (h : ∀ e ∈ es, code < e.1) : find? code es = none := by
  induction es with
  | nil => rfl
  | cons e es ih =>
    have hne : e.1 ≠ code := fun he => UInt8.lt_irrefl _ (he ▸ h e List.mem_cons_self)
    simp only [find?, hne, ↓reduceIte]
    exact ih fun x hx => h x (List.mem_cons_of_mem _ hx)

theorem mem_of_find?_eq_some {code : UInt8} {value : Bytes} {es : List (UInt8 × Bytes)}
    (h : find? code es = some value) : (code, value) ∈ es := by
  induction es with
  | nil => simp [find?] at h
  | cons e es ih =>
    simp only [find?] at h
    split at h
    · rename_i he
      simp only [Option.some.injEq] at h
      have : e = (code, value) := Prod.ext he h
      exact this ▸ List.mem_cons_self
    · exact List.mem_cons_of_mem _ (ih h)

theorem find?_cons_self (e : UInt8 × Bytes) (es : List (UInt8 × Bytes)) :
    find? e.1 (e :: es) = some e.2 := by
  simp [find?]

/-- Entries do not begin below ascending ones with the same lookups. -/
theorem not_lt_of_find?_eq {a b : UInt8 × Bytes} {as bs : List (UInt8 × Bytes)}
    (hb : (b :: bs).Pairwise fun x y => x.1 < y.1)
    (h : ∀ code, find? code (a :: as) = find? code (b :: bs)) : ¬ a.1 < b.1 := by
  intro hlt
  have hnone : find? a.1 (b :: bs) = none := find?_eq_none_of_lt fun e he => by
    rcases List.mem_cons.mp he with rfl | he
    · exact hlt
    · exact UInt8.lt_trans hlt ((List.pairwise_cons.mp hb).1 e he)
  have hsome := find?_cons_self a as
  rw [h, hnone] at hsome
  cases hsome

/-- Entries in strict order with the same lookups are the same entries. -/
theorem eq_of_find?_eq {as bs : List (UInt8 × Bytes)} (ha : as.Pairwise fun a b => a.1 < b.1)
    (hb : bs.Pairwise fun a b => a.1 < b.1) (h : ∀ code, find? code as = find? code bs) :
    as = bs := by
  induction as generalizing bs with
  | nil =>
    cases bs with
    | nil => rfl
    | cons b bs =>
      have hsome := find?_cons_self b bs
      rw [← h] at hsome
      cases hsome
  | cons a as ih =>
    cases bs with
    | nil =>
      have hsome := find?_cons_self a as
      rw [h] at hsome
      cases hsome
    | cons b bs =>
      obtain ⟨hal, has⟩ := List.pairwise_cons.mp ha
      obtain ⟨hbl, hbs⟩ := List.pairwise_cons.mp hb
      have hcode : a.1 = b.1 := UInt8.le_antisymm
        (UInt8.not_lt.mp (not_lt_of_find?_eq ha fun code => (h code).symm))
        (UInt8.not_lt.mp (not_lt_of_find?_eq hb h))
      have hvalue : a.2 = b.2 := by
        have := h a.1
        simpa [find?, hcode] using this
      have hrest : ∀ code, find? code as = find? code bs := by
        intro code
        by_cases hc : a.1 = code
        · rw [find?_eq_none_of_lt fun e he => hc ▸ hal e he,
            find?_eq_none_of_lt fun e he => (hcode ▸ hc : b.1 = code) ▸ hbl e he]
        · have := h code
          simpa [find?, hc, hcode ▸ hc] using this
      rw [ih has hbs hrest, Prod.ext hcode hvalue]

/-- A map is determined by its lookups. -/
@[ext] theorem ext {a b : OptionMap} (h : ∀ code, a.get? code = b.get? code) : a = b := by
  have := eq_of_find?_eq a.ascending b.ascending h
  cases a
  cases b
  simp_all

end OptionMap

end DhcpServer
