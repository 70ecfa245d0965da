import DhcpServer.Proofs.RequestLog.Text

/-!
# Hardware addresses read back

The text of a hardware address is split at its colons, and each group is read as the
octet that its two digits stand for (`ofText?`).  Reading takes the text of an address
and no other text for that address, so every address has one text, and no two
addresses of whatever lengths have the same: `text_faithful`.

Every third character of such a text is a colon and the last group has none behind it
(`getElem?_text_eq_colon_iff`), so no two colons stand together and none at an end.
-/

namespace DhcpServer

/-! ## Groups of two digits -/

namespace HexText

/-- Two digits in lower case. -/
structure IsPair (group : List Char) : Prop where
  length_eq : group.length = 2
  digits : ∀ c ∈ group, c ∈ lowerDigits

/-- The octet that a group of two digits stands for. -/
def octet? (group : List Char) : Option UInt8 :=
  if group.length = 2 then (value? group).map UInt8.ofNat else none

theorem isPair_octet (b : UInt8) : IsPair (octet b) :=
  ⟨rfl, fun _ hc => mem_lowerDigits_of_mem_octet hc⟩

theorem colon_not_mem_octet (b : UInt8) : ':' ∉ octet b := by
  intro h
  exact absurd (mem_lowerDigits_of_mem_octet h) (by decide)

/-- A character is read as a number only if it is the digit of that number. -/
theorem digit_of_digit? {c : Char} {n : Nat} (h : digit? c = some n) : n < 16 ∧ digit n = c := by
  unfold digit? at h
  split at h
  · next hc =>
    have hlo : 48 ≤ c.toNat := Char.le_def.mp hc.1
    have hhi : c.toNat ≤ 57 := Char.le_def.mp hc.2
    obtain rfl := Option.some.inj h
    refine ⟨by omega, ?_⟩
    rw [digit, if_pos (by omega), Nat.add_sub_cancel' hlo, Char.ofNat_toNat]
  · split at h
    · next hc =>
      have hlo : 97 ≤ c.toNat := Char.le_def.mp hc.1
      have hhi : c.toNat ≤ 102 := Char.le_def.mp hc.2
      obtain rfl := Option.some.inj h
      refine ⟨by omega, ?_⟩
      rw [digit, if_neg (by omega), Nat.add_sub_cancel' (by omega), Char.ofNat_toNat]
    · contradiction

theorem digits_of_value? {high low : Char} {n : Nat} (h : value? [high, low] = some n) :
    ∃ x y, x < 16 ∧ y < 16 ∧ digit x = high ∧ digit y = low ∧ 16 * x + y = n := by
  obtain ⟨x, hx, h⟩ := Option.bind_eq_some_iff.mp h
  obtain ⟨y, hy, h⟩ := Option.bind_eq_some_iff.mp h
  obtain ⟨hx16, hhigh⟩ := digit_of_digit? hx
  obtain ⟨hy16, hlow⟩ := digit_of_digit? hy
  have hn : 16 * (16 * 0 + x) + y = n := Option.some.inj h
  exact ⟨x, y, hx16, hy16, hhigh, hlow, by omega⟩

/-- A group is read as an octet exactly if it is written as the octet is shown. -/
theorem octet?_eq_some_iff {group : List Char} {b : UInt8} :
    octet? group = some b ↔ group = octet b := by
  constructor
  · intro h
    obtain ⟨hsize, h⟩ := Option.ite_none_right_eq_some.mp h
    obtain ⟨high, low, rfl⟩ := List.length_eq_two.mp hsize
    obtain ⟨n, hvalue, rfl⟩ := Option.map_eq_some_iff.mp h
    obtain ⟨x, y, hx, hy, rfl, rfl, rfl⟩ := digits_of_value? hvalue
    have hn : (UInt8.ofNat (16 * x + y)).toNat = 16 * x + y := by
      rw [UInt8.toNat_ofNat']
      omega
    rw [octet, hn, show (16 * x + y) / 16 = x by omega, show (16 * x + y) % 16 = y by omega]
  · rintro rfl
    rw [octet?, if_pos (isPair_octet b).length_eq, value?_octet, Option.map_some,
      UInt8.ofNat_toNat]

end HexText

/-! ## The text of an address -/

namespace HardwareAddress

/-- The groups between the colons of a text; the empty text has no groups. -/
def groups (shown : List Char) : List (List Char) :=
  if shown = [] then [] else shown.splitOn ':'

/-- The address whose octets the groups of a text stand for. -/
def ofText? (shown : List Char) : Option Bytes :=
  (groups shown).mapM HexText.octet?

/-- A text consists of the groups, each of two digits, with a single colon between any
two that follow each other and none at either end. -/
structure ConsistsOf (shown : List Char) (parts : List (List Char)) : Prop where
  pairs : ∀ part ∈ parts, HexText.IsPair part
  shown_eq : shown = [':'].intercalate parts
  single : ¬ [':', ':'] <:+: shown
  not_first : shown.head? ≠ some ':'
  not_last : shown.getLast? ≠ some ':'

theorem intercalate_groups (shown : List Char) : [':'].intercalate (groups shown) = shown := by
  unfold groups
  split
  · next h => rw [h, List.intercalate_nil]
  · exact List.intercalate_splitOn ':'

/-- The groups of the text of an address are the octets as they are shown. -/
theorem groups_text (address : Bytes) : groups (text address) = address.map HexText.octet := by
  cases address with
  | nil => rfl
  | cons b bs =>
      have hparts : ∀ part ∈ (b :: bs).map HexText.octet, ':' ∉ part := by
        intro part hpart
        obtain ⟨c, -, rfl⟩ := List.mem_map.mp hpart
        exact HexText.colon_not_mem_octet c
      have hne : text (b :: bs) ≠ [] := by
        intro h
        have hlength := length_text (b :: bs)
        rw [h, List.length_nil, List.length_cons] at hlength
        omega
      rw [groups, if_neg hne, text_eq_intercalate]
      exact List.splitOn_intercalate ':' hparts (List.cons_ne_nil _ _)

theorem mapM_octet?_eq_some_iff {parts : List (List Char)} {address : Bytes} :
    parts.mapM HexText.octet? = some address ↔ parts = address.map HexText.octet := by
  induction parts generalizing address with
  | nil =>
      cases address with
      | nil => exact iff_of_true rfl rfl
      | cons b bs => exact iff_of_false (fun h => nomatch h) (fun h => nomatch h)
  | cons part parts ih =>
      rw [List.mapM_cons]
      constructor
      · intro h
        obtain ⟨b, hb, h⟩ := Option.bind_eq_some_iff.mp h
        obtain ⟨bs, hbs, h⟩ := Option.bind_eq_some_iff.mp h
        obtain rfl := Option.some.inj h
        rw [HexText.octet?_eq_some_iff.mp hb, ih.mp hbs, List.map_cons]
      · intro h
        cases address with
        | nil => contradiction
        | cons b bs =>
            obtain ⟨hpart, hparts⟩ := List.cons.inj h
            rw [HexText.octet?_eq_some_iff.mpr hpart, ih.mpr hparts]
            rfl

/-- The text of an address is read as the address, and no other text is. -/
theorem ofText?_eq_some_iff {shown : List Char} {address : Bytes} :
    ofText? shown = some address ↔ shown = text address := by
  rw [ofText?, mapM_octet?_eq_some_iff]
  constructor
  · intro h
    rw [← intercalate_groups shown, h, text_eq_intercalate]
  · rintro rfl
    exact groups_text address

-- A group that lacks its leading zero stands for no octet.
example : ofText? ['0', '0', ':', '0', 'a'] = some [0, 10] := by decide
example : ofText? ['0', '0', ':', 'a'] = none := by decide

/-- The colons of a text stand at every third place. -/
theorem getElem?_text_eq_colon_iff (address : Bytes) (i : Nat) :
    (text address)[i]? = some ':' ↔ i % 3 = 2 ∧ i < (text address).length := by
  -- An octet is shown without a colon, and `text` shows one octet more with each step.
  have hoctet : ∀ (b : UInt8) (i : Nat), (HexText.octet b)[i]? ≠ some ':' := fun b i h =>
    HexText.colon_not_mem_octet b (List.mem_of_getElem? h)
  induction address using text.induct generalizing i with
  | case1 => simp [text]
  | case2 b =>
      refine iff_of_false (hoctet b i) ?_
      rintro ⟨hi, hlt⟩
      have hlt : i < 2 := hlt
      omega
  | case3 b c bs ih =>
      rcases i with _ | _ | _ | j
      · exact iff_of_false (hoctet b 0) (fun h => absurd h.1 (by decide))
      · exact iff_of_false (hoctet b 1) (fun h => absurd h.1 (by decide))
      · exact iff_of_true rfl ⟨rfl, Nat.le_add_left 3 _⟩
      · have hrest : (text (c :: bs))[j]? = some ':' ↔
            j % 3 = 2 ∧ j < (text (c :: bs)).length := ih j
        show (text (c :: bs))[j]? = some ':' ↔
          (j + 3) % 3 = 2 ∧ j + 3 < (text (c :: bs)).length + 3
        rw [hrest, Nat.add_mod_right, Nat.add_lt_add_iff_right]

theorem consistsOf_text (address : Bytes) : ConsistsOf (text address) (groups (text address)) := by
  have hlength := length_text address
  refine ⟨?_, (intercalate_groups _).symm, ?_, ?_, ?_⟩
  · intro part hpart
    rw [groups_text] at hpart
    obtain ⟨b, -, rfl⟩ := List.mem_map.mp hpart
    exact HexText.isPair_octet b
  · rintro ⟨front, rest, h⟩
    have hfirst : (text address)[front.length]? = some ':' := by
      rw [← h]
      simp
    have hsecond : (text address)[front.length + 1]? = some ':' := by
      rw [← h]
      simp
    -- The places of two colons differ by a multiple of three.
    obtain ⟨hmod, -⟩ := (getElem?_text_eq_colon_iff _ _).mp hfirst
    obtain ⟨hmod', -⟩ := (getElem?_text_eq_colon_iff _ _).mp hsecond
    omega
  · intro h
    rw [List.head?_eq_getElem?, getElem?_text_eq_colon_iff] at h
    exact absurd h.1 (by decide)
  · intro h
    rw [List.getLast?_eq_getElem?, getElem?_text_eq_colon_iff] at h
    omega

/-- The text of a hardware address has three characters for each octet but no colon
after the last.  It consists of as many groups of two digits as the address has
octets, it is read as the address and is the only text that is, and no other address
has it. -/
theorem text_faithful (address : Bytes) :
    (text address).length = (if address = [] then 0 else 3 * address.length - 1) ∧
    (groups (text address)).length = address.length ∧
    ConsistsOf (text address) (groups (text address)) ∧
    (∀ shown, ofText? shown = some address ↔ shown = text address) ∧
    ∀ other, text other = text address ↔ other = address := by
  refine ⟨?_, ?_, consistsOf_text address, fun shown => ofText?_eq_some_iff, fun other => ?_⟩
  · rw [length_text]
    split
    · next h => rw [h, List.length_nil]
    · rfl
  · rw [groups_text, List.length_map]
  · constructor
    · intro h
      have hread : ofText? (text other) = some address := ofText?_eq_some_iff.mpr h
      rw [ofText?_eq_some_iff.mpr rfl] at hread
      exact Option.some.inj hread
    · exact congrArg text

end HardwareAddress

end DhcpServer
