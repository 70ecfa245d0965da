import DhcpServer.BigEndian

/-!
# Hexadecimal text

Octets and words are shown with lower-case hexadecimal digits, two for each
octet, leading zeros included.
-/

namespace DhcpServer.HexText

/-- The digit of a number below sixteen. -/
def digit (n : Nat) : Char :=
  if n < 10 then Char.ofNat (48 + n) else Char.ofNat (87 + n)

/-- The two digits of an octet. -/
def octet (b : UInt8) : List Char :=
  [digit (b.toNat / 16), digit (b.toNat % 16)]

/-- The digits of an octet string, two for each octet. -/
def octets (bs : Bytes) : List Char :=
  bs.flatMap octet

/-- The eight digits of a double word. -/
def word (w : UInt32) : List Char :=
  octets (BigEndian.encode32 w)

/-- The digits of a number without leading zeros; zero has one digit. -/
def short (n : Nat) : List Char :=
  if n < 16 then [digit n] else short (n / 16) ++ [digit (n % 16)]

theorem length_octets (bs : Bytes) : (octets bs).length = 2 * bs.length := by
  induction bs with
  | nil => rfl
  | cons b bs ih =>
    simp only [octets, List.flatMap_cons, List.length_append, List.length_cons] at ih ⊢
    simp only [octet, List.length_cons, List.length_nil]
    omega

@[simp] theorem length_word (w : UInt32) : (word w).length = 8 := by
  simp [word, length_octets]

end DhcpServer.HexText
