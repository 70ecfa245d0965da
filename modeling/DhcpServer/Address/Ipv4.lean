import DhcpServer.BigEndian

/-!
# IPv4 addresses

An address is one double word.  Its text is the four octets in decimal,
separated by dots.
-/

namespace DhcpServer

/-- An IPv4 address, most significant octet first. -/
structure Ipv4 where
  word : UInt32
deriving DecidableEq, Repr

namespace Ipv4

/-- The address that stands for no address at all. -/
def unspecified : Ipv4 := ⟨0⟩

/-- The address of every host on the link. -/
def broadcast : Ipv4 := ⟨0xffffffff⟩

instance : Inhabited Ipv4 := ⟨unspecified⟩

/-- The four octets in network order. -/
def bytes (a : Ipv4) : Bytes := BigEndian.encode32 a.word

/-- The address with the given octets. -/
def ofOctets (a b c d : UInt8) : Ipv4 := ⟨BigEndian.decode32 a b c d⟩

/-- An address at the front of a string, and what follows it. -/
def read? (bs : Bytes) : Option (Ipv4 × Bytes) :=
  (BigEndian.read32? bs).map fun r => (⟨r.1⟩, r.2)

/-- The address that a string of exactly four octets is. -/
def exactly? (bs : Bytes) : Option Ipv4 :=
  (BigEndian.exactly32? bs).map Ipv4.mk

/-- Decimal octets separated by dots. -/
def text (a : Ipv4) : String :=
  String.intercalate "." (a.bytes.map fun b => toString b.toNat)

/-- The number below 256 that decimal digits write. -/
def octet? (digits : List Char) : Option UInt8 :=
  if digits.isEmpty || !digits.all Char.isDigit || 3 < digits.length then none
  else
    let n := digits.foldl (fun n c => n * 10 + (c.toNat - '0'.toNat)) 0
    if n < 256 then some (UInt8.ofNat n) else none

/-- The address written as four decimal octets separated by dots. -/
def ofText? (text : List Char) : Option Ipv4 :=
  match text.splitOn '.' with
  | [a, b, c, d] => do return ofOctets (← octet? a) (← octet? b) (← octet? c) (← octet? d)
  | _ => none

@[simp] theorem length_bytes (a : Ipv4) : a.bytes.length = 4 := rfl

@[simp] theorem read?_bytes_append (a : Ipv4) (rest : Bytes) :
    read? (a.bytes ++ rest) = some (a, rest) := by
  simp [read?, bytes]

theorem eq_bytes_append {bs rest : Bytes} {a : Ipv4} (h : read? bs = some (a, rest)) :
    bs = a.bytes ++ rest := by
  obtain ⟨⟨w, r⟩, hw, he⟩ := Option.map_eq_some_iff.mp h
  simp only [Prod.mk.injEq] at he
  obtain ⟨rfl, rfl⟩ := he
  exact BigEndian.eq_encode32_append hw

@[simp] theorem exactly?_bytes (a : Ipv4) : exactly? a.bytes = some a := by
  simp [exactly?, bytes]

end Ipv4

end DhcpServer
