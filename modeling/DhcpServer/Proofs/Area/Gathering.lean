import DhcpServer.Proofs.Area.Scan

/-!
# What a row of items comes to

A row of items gives every code one value: the payloads of its items, joined in
order (`joined`).  The overload option is left out of that; of its items the
last one with a payload of one octet counts (`announced`).

The main statements are `get?_gather` and `overload_foldl_add`, one for each
part of what has been gathered.  Both are inductions over the items.
-/

namespace DhcpServer

/-! ## The views: a value for each code, and the overload octet -/

/-- The payloads of the items with a code, in order. -/
def payloads (code : UInt8) (items : List Item) : List Bytes :=
  (items.filter (·.code = code)).map (·.payload)

/-- The value that items give to a code: nothing if no item has it, and
otherwise the payloads one after the other. -/
def joined (code : UInt8) (items : List Item) : Option Bytes :=
  if payloads code items = [] then none else some (payloads code items).flatten

/-- The one octet of a payload that has one octet. -/
def singleOctet? : Bytes → Option UInt8
  | [octet] => some octet
  | _ => none

/-- The octet in the last overload item that has exactly one. -/
def announced (items : List Item) : Option UInt8 :=
  ((payloads OptionCode.overload items).filterMap singleOctet?).getLast?

/-- A value with more payloads at its end; none makes no difference. -/
def extended (value : Option Bytes) (more : List Bytes) : Option Bytes :=
  if more = [] then value else some (value.getD [] ++ more.flatten)

/-- The map with the payloads of items at the end of the values of their codes. -/
def OptionMap.gather (m : OptionMap) (items : List Item) : OptionMap :=
  (items.foldl Gathered.add ⟨m, none⟩).options

theorem payloads_append (code : UInt8) (as bs : List Item) :
    payloads code (as ++ bs) = payloads code as ++ payloads code bs := by
  rw [payloads, List.filter_append, List.map_append]
  rfl

theorem payloads_cons_of_eq (item : Item) (items : List Item) :
    payloads item.code (item :: items) = item.payload :: payloads item.code items := by
  rw [payloads, List.filter_cons_of_pos (by simp), List.map_cons]
  rfl

theorem payloads_cons_of_ne {code : UInt8} {item : Item} (items : List Item)
    (h : item.code ≠ code) : payloads code (item :: items) = payloads code items := by
  rw [payloads, List.filter_cons_of_neg (by simpa using h)]
  rfl

theorem payloads_eq_nil_iff {code : UInt8} {items : List Item} :
    payloads code items = [] ↔ ¬ ∃ item ∈ items, item.code = code := by
  simp [payloads]

theorem payloads_eq_nil {code : UInt8} {items : List Item} (h : ∀ item ∈ items, item.code ≠ code) :
    payloads code items = [] :=
  payloads_eq_nil_iff.mpr fun ⟨item, hi, hcode⟩ => h item hi hcode

theorem joined_eq_none {code : UInt8} {items : List Item}
    (h : ∀ item ∈ items, item.code ≠ code) : joined code items = none := by
  rw [joined, if_pos (payloads_eq_nil h)]

theorem joined_eq_extended (code : UInt8) (items : List Item) :
    joined code items = extended none (payloads code items) := by
  rw [joined, extended, Option.getD_none, List.nil_append]

theorem extended_cons (value : Option Bytes) (p : Bytes) (ps : List Bytes) :
    extended value (p :: ps) = extended (some (value.getD [] ++ p)) ps := by
  unfold extended
  rw [if_neg (List.cons_ne_nil p ps), List.flatten_cons, ← List.append_assoc]
  by_cases h : ps = []
  · rw [if_pos h, h, List.flatten_nil, List.append_nil]
  · rw [if_neg h, Option.getD_some]

/-! ## Options -/

theorem Gathered.ext {g g' : Gathered} (hoptions : g.options = g'.options)
    (hoverload : g.overload = g'.overload) : g = g' := by
  cases g
  cases g'
  cases hoptions
  cases hoverload
  rfl

theorem options_add (g : Gathered) (item : Item) :
    (g.add item).options =
      if item.code = OptionCode.overload then g.options
      else g.options.extend item.code item.payload := by
  unfold Gathered.add
  split
  · split <;> rfl
  · rfl

/-- What is gathered of options does not depend on what was announced. -/
theorem options_foldl_add (g : Gathered) (items : List Item) :
    (items.foldl Gathered.add g).options = g.options.gather items := by
  unfold OptionMap.gather
  induction items generalizing g with
  | nil => rfl
  | cons item items ih =>
      rw [List.foldl_cons, List.foldl_cons, ih, ih (Gathered.add _ item), options_add,
        options_add]

theorem OptionMap.gather_append (m : OptionMap) (as bs : List Item) :
    m.gather (as ++ bs) = (m.gather as).gather bs := by
  rw [OptionMap.gather, List.foldl_append, options_foldl_add]
  rfl

theorem OptionMap.gather_cons (m : OptionMap) (item : Item) (items : List Item) :
    m.gather (item :: items) =
      (if item.code = OptionCode.overload then m
        else m.extend item.code item.payload).gather items := by
  rw [OptionMap.gather, List.foldl_cons, options_foldl_add, options_add]

/-- Each code but the overload option gets its payloads at the end of the value
that it had; the overload option is never stored. -/
theorem get?_gather (m : OptionMap) (items : List Item) (code : UInt8) :
    (m.gather items).get? code =
      if code = OptionCode.overload then m.get? code
      else extended (m.get? code) (payloads code items) := by
  induction items generalizing m with
  | nil => exact (ite_self _).symm
  | cons item items ih =>
      rw [OptionMap.gather_cons, ih]
      by_cases hcode : code = OptionCode.overload
      · -- an overload item changes nothing, and any other item leaves this code alone
        rw [if_pos hcode, if_pos hcode]
        split
        · rfl
        · rename_i hi
          rw [OptionMap.get?_extend, if_neg fun h : code = item.code => hi (h.symm.trans hcode)]
      · rw [if_neg hcode, if_neg hcode]
        by_cases hi : item.code = code
        · subst hi
          rw [if_neg hcode, OptionMap.get?_extend, if_pos rfl, payloads_cons_of_eq,
            extended_cons]
        · rw [payloads_cons_of_ne items hi]
          split
          · rfl
          · rw [OptionMap.get?_extend, if_neg (Ne.symm hi)]

theorem get?_gather_empty (items : List Item) (code : UInt8) :
    (OptionMap.empty.gather items).get? code =
      if code = OptionCode.overload then none else joined code items := by
  rw [get?_gather, OptionMap.get?_empty, joined_eq_extended]

/-! ## The overload octet -/

theorem overload_add (g : Gathered) (item : Item) :
    (g.add item).overload =
      if item.code = OptionCode.overload then
        g.overload.map fun v => (singleOctet? item.payload).getD v
      else g.overload := by
  unfold Gathered.add
  split
  · rcases item with ⟨_, _ | ⟨octet, _ | ⟨second, tail⟩⟩⟩ <;> simp [singleOctet?]
  · rfl

theorem announced_eq_none {items : List Item}
    (h : ∀ item ∈ items, item.code ≠ OptionCode.overload) : announced items = none := by
  rw [announced, payloads_eq_nil h]
  rfl

theorem announced_append (as bs : List Item) :
    announced (as ++ bs) = (announced bs).or (announced as) := by
  rw [announced, payloads_append, List.filterMap_append, List.getLast?_append]
  rfl

theorem announced_cons_of_ne {item : Item} (items : List Item)
    (h : item.code ≠ OptionCode.overload) : announced (item :: items) = announced items := by
  rw [announced, payloads_cons_of_ne items h]
  rfl

theorem announced_cons_of_eq {item : Item} (items : List Item)
    (h : item.code = OptionCode.overload) :
    announced (item :: items) = (announced items).or (singleOctet? item.payload) := by
  have hp := payloads_cons_of_eq item []
  rw [h] at hp
  have hsingle : announced [item] = singleOctet? item.payload := by
    rw [announced, hp]
    cases ho : singleOctet? item.payload <;> simp [ho, payloads]
  rw [← hsingle]
  exact announced_append [item] items

/-- The last octet that was announced counts, and what was there before only if
none was. -/
theorem overload_foldl_add (g : Gathered) (items : List Item) :
    (items.foldl Gathered.add g).overload =
      g.overload.map fun v => (announced items).getD v := by
  induction items generalizing g with
  | nil => exact Option.map_id_apply.symm
  | cons item items ih =>
      rw [List.foldl_cons, ih, overload_add]
      by_cases h : item.code = OptionCode.overload
      · rw [if_pos h, announced_cons_of_eq items h, Option.map_map]
        cases announced items <;> rfl
      · rw [if_neg h, announced_cons_of_ne items h]

-- the last item has another code, and the one before it two octets
example : announced [⟨52, [1]⟩, ⟨52, [3]⟩, ⟨52, [1, 2]⟩, ⟨51, [2]⟩] = some 3 := by decide

end DhcpServer
