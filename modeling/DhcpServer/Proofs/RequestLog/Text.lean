import DhcpServer.Errno
import DhcpServer.RequestLog
import Mathlib.Data.List.Forall2

/-!
# What the texts of a line say

Numbers and addresses are read back from the texts that stand for them.
`HexText.value?` reads hexadecimal digits: `value?_word` says that the eight digits
of a double word stand for that word, and `text_eq_intercalate` with `value?_octet`
that a hardware address is shown octet by octet.

None of these texts has a zero character in it, nor has the description of an error,
so a line that is made of them reaches the system log whole.
-/

namespace DhcpServer

/-! ## Hexadecimal digits -/

namespace HexText

/-- The number that a lower-case hexadecimal digit stands for. -/
def digit? (c : Char) : Option Nat :=
  if '0' ≤ c ∧ c ≤ '9' then some (c.toNat - 48)
  else if 'a' ≤ c ∧ c ≤ 'f' then some (c.toNat - 87)
  else none

/-- The number that digits stand for if a number stands in front of them. -/
def valueAfter? (n : Nat) : List Char → Option Nat
  | [] => some n
  | c :: text => (digit? c).bind fun d => valueAfter? (16 * n + d) text

/-- The number that a row of hexadecimal digits stands for. -/
def value? (text : List Char) : Option Nat := valueAfter? 0 text

theorem digit?_digit : ∀ n < 16, digit? (digit n) = some n := by decide

/-- The hexadecimal digits in lower case. -/
def lowerDigits : List Char :=
  ['0', '1', '2', '3', '4', '5', '6', '7', '8', '9', 'a', 'b', 'c', 'd', 'e', 'f']

theorem digit_mem_lowerDigits : ∀ n < 16, digit n ∈ lowerDigits := by decide

theorem valueAfter?_octet_append (n : Nat) (b : UInt8) (text : List Char) :
    valueAfter? n (octet b ++ text) = valueAfter? (256 * n + b.toNat) text := by
  have hb : b.toNat < 256 := b.toNat_lt
  show valueAfter? n (digit (b.toNat / 16) :: digit (b.toNat % 16) :: text) = _
  rw [valueAfter?, digit?_digit _ (by omega), Option.bind_some, valueAfter?,
    digit?_digit _ (by omega), Option.bind_some]
  congr 1
  omega

theorem value?_octet (b : UInt8) : value? (octet b) = some b.toNat := by
  have h := valueAfter?_octet_append 0 b []
  rwa [List.append_nil, Nat.mul_zero, Nat.zero_add] at h

/-- The digits of a double word stand for that word. -/
theorem value?_word (w : UInt32) : value? (word w) = some w.toNat := by
  have hw : w.toNat < 0x100000000 := w.toNat_lt
  show valueAfter? 0 (octet _ ++ (octet _ ++ (octet _ ++ (octet _ ++ [])))) = _
  simp only [valueAfter?_octet_append, valueAfter?, UInt8.toNat_ofNat', Option.some.injEq]
  omega

theorem mem_lowerDigits_of_mem_octet {b : UInt8} {c : Char} (h : c ∈ octet b) :
    c ∈ lowerDigits := by
  have hlt : b.toNat < 256 := b.toNat_lt
  rcases List.mem_pair.mp h with rfl | rfl
  · exact digit_mem_lowerDigits _ (by omega)
  · exact digit_mem_lowerDigits _ (by omega)

theorem zero_not_mem_octet (b : UInt8) : '\x00' ∉ octet b := by
  intro h
  exact absurd (mem_lowerDigits_of_mem_octet h) (by decide)

theorem zero_not_mem_word (w : UInt32) : '\x00' ∉ word w := by
  intro h
  obtain ⟨b, -, hb⟩ := List.mem_flatMap.mp h
  exact zero_not_mem_octet b hb

end HexText

/-! ## Texts put together -/

/-- The characters of a text that is written out are looked at as they stand, and
need not be read from its octets first. -/
theorem zero_not_mem_ofList {text : List Char} (h : '\x00' ∉ text) :
    '\x00' ∉ (String.ofList text).toList := by
  rwa [String.toList_ofList]

/-- A character that is neither in the parts of a text nor between them. -/
theorem not_mem_intercalate {c : Char} {between : List Char} {parts : List (List Char)}
    (hbetween : c ∉ between) (hparts : ∀ part ∈ parts, c ∉ part) :
    c ∉ between.intercalate parts := by
  induction parts with
  | nil => exact List.not_mem_nil
  | cons part parts ih =>
      obtain ⟨hpart, hrest⟩ := List.forall_mem_cons.mp hparts
      cases parts with
      | nil => rwa [List.intercalate_singleton]
      | cons next parts =>
          rw [List.intercalate_cons_cons, List.mem_append, List.mem_append]
          exact not_or_intro (not_or_intro hpart hbetween) (ih hrest)

/-- A hardware address is shown octet by octet, with colons in between. -/
theorem HardwareAddress.text_eq_intercalate (bs : Bytes) :
    text bs = [':'].intercalate (bs.map HexText.octet) := by
  induction bs with
  | nil => rfl
  | cons b bs ih =>
      cases bs with
      | nil => exact List.intercalate_singleton.symm
      | cons c bs =>
          rw [text, ih]
          simp only [List.map_cons, List.intercalate_cons_cons, List.append_assoc,
            List.singleton_append]

theorem HardwareAddress.zero_not_mem_text (bs : Bytes) : '\x00' ∉ text bs := by
  rw [text_eq_intercalate]
  refine not_mem_intercalate (by decide) fun part hpart => ?_
  obtain ⟨b, -, rfl⟩ := List.mem_map.mp hpart
  exact HexText.zero_not_mem_octet b

/-! ## Decimal digits -/

theorem zero_not_mem_repr (n : Nat) : '\x00' ∉ (toString n).toList := by
  intro h
  have hdigit := Nat.isDigit_of_mem_toDigits (by decide) (by decide)
    (show '\x00' ∈ Nat.toDigits 10 n by simpa [toString, Nat.repr] using h)
  exact absurd hdigit (by decide)

theorem zero_not_mem_toString (i : Int) : '\x00' ∉ (toString i).toList := by
  cases i with
  | ofNat n => exact zero_not_mem_repr n
  | negSucc n =>
      show '\x00' ∉ ("-" ++ toString (n + 1)).toList
      rw [String.toList_append, List.mem_append]
      exact not_or_intro (by decide) (zero_not_mem_repr (n + 1))

theorem Errno.zero_not_mem_description (errno : Errno) :
    '\x00' ∉ (description errno).toList := by
  unfold description
  split
  case h_133 =>
    rw [String.toList_append, List.mem_append, not_or]
    exact ⟨zero_not_mem_ofList (by decide), zero_not_mem_toString _⟩
  all_goals exact zero_not_mem_ofList (by decide)

theorem Ipv4.zero_not_mem_text (a : Ipv4) : '\x00' ∉ a.text.toList := by
  rw [text, String.toList_intercalate]
  refine not_mem_intercalate (by decide) fun part hpart => ?_
  rw [List.map_map] at hpart
  obtain ⟨b, -, rfl⟩ := List.mem_map.mp hpart
  exact zero_not_mem_repr b.toNat

/-- An address is never shown as the word that stands for none. -/
theorem Ipv4.text_ne_none (a : Ipv4) : a.text ≠ "none" := by
  have hdot : '.' ∈ a.text.toList := by
    rw [text, String.toList_intercalate, bytes, BigEndian.encode32, List.map_cons, List.map_cons,
      List.map_cons, List.map_cons, List.intercalate_cons_cons]
    exact List.mem_append_left _ (List.mem_append_right _ (.head _))
  intro h
  rw [h] at hdot
  exact absurd hdot (by decide)

end DhcpServer
