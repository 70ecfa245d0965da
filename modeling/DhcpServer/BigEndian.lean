import DhcpServer.Bytes

/-!
# Words in network order

Every number of more than one octet stands in a packet with its most
significant octet first.  Writing is stated by division, so that reading back
is plain arithmetic: `decode16_encode16`, `decode32_encode32`.
-/

namespace DhcpServer.BigEndian

/-- The two octets of a word, most significant first. -/
def encode16 (w : UInt16) : Bytes :=
  [UInt8.ofNat (w.toNat / 0x100), UInt8.ofNat w.toNat]

/-- The word with the given octets, most significant first. -/
def decode16 (a b : UInt8) : UInt16 :=
  UInt16.ofNat (a.toNat * 0x100 + b.toNat)

/-- The four octets of a double word, most significant first. -/
def encode32 (w : UInt32) : Bytes :=
  [UInt8.ofNat (w.toNat / 0x1000000), UInt8.ofNat (w.toNat / 0x10000),
    UInt8.ofNat (w.toNat / 0x100), UInt8.ofNat w.toNat]

/-- The double word with the given octets, most significant first. -/
def decode32 (a b c d : UInt8) : UInt32 :=
  UInt32.ofNat (a.toNat * 0x1000000 + b.toNat * 0x10000 + c.toNat * 0x100 + d.toNat)

/-- A double word at the front of a string, and what follows it. -/
def read32? : Bytes → Option (UInt32 × Bytes)
  | a :: b :: c :: d :: rest => some (decode32 a b c d, rest)
  | _ => none

/-- A word at the front of a string, and what follows it. -/
def read16? : Bytes → Option (UInt16 × Bytes)
  | a :: b :: rest => some (decode16 a b, rest)
  | _ => none

/-- The double word that a string of exactly four octets is. -/
def exactly32? : Bytes → Option UInt32
  | [a, b, c, d] => some (decode32 a b c d)
  | _ => none

@[simp] theorem length_encode16 (w : UInt16) : (encode16 w).length = 2 := rfl

@[simp] theorem length_encode32 (w : UInt32) : (encode32 w).length = 4 := rfl

theorem decode16_encode16 (w : UInt16) :
    decode16 (UInt8.ofNat (w.toNat / 0x100)) (UInt8.ofNat w.toNat) = w := by
  have hw : w.toNat < 0x10000 := w.toNat_lt
  apply UInt16.toNat_inj.mp
  simp only [decode16, UInt16.toNat_ofNat', UInt8.toNat_ofNat']
  omega

@[simp] theorem read16?_encode16_append (w : UInt16) (rest : Bytes) :
    read16? (encode16 w ++ rest) = some (w, rest) := by
  simp only [read16?, encode16, List.cons_append, List.nil_append, decode16_encode16]

theorem decode32_encode32 (w : UInt32) :
    decode32 (UInt8.ofNat (w.toNat / 0x1000000)) (UInt8.ofNat (w.toNat / 0x10000))
      (UInt8.ofNat (w.toNat / 0x100)) (UInt8.ofNat w.toNat) = w := by
  have hw : w.toNat < 0x100000000 := w.toNat_lt
  apply UInt32.toNat_inj.mp
  simp only [decode32, UInt32.toNat_ofNat', UInt8.toNat_ofNat']
  omega

@[simp] theorem read32?_encode32_append (w : UInt32) (rest : Bytes) :
    read32? (encode32 w ++ rest) = some (w, rest) := by
  simp only [read32?, encode32, List.cons_append, List.nil_append, decode32_encode32]

@[simp] theorem exactly32?_encode32 (w : UInt32) : exactly32? (encode32 w) = some w := by
  simp only [exactly32?, encode32, decode32_encode32]

private theorem octet_eq {n : Nat} {x : UInt8} (h : n % 0x100 = x.toNat) : UInt8.ofNat n = x := by
  apply UInt8.toNat_inj.mp
  simpa using h

/-- Reading keeps every octet: the word is written as the octets it was read
from. -/
theorem encode32_decode32 (a b c d : UInt8) : encode32 (decode32 a b c d) = [a, b, c, d] := by
  have ha : a.toNat < 0x100 := a.toNat_lt
  have hb : b.toNat < 0x100 := b.toNat_lt
  have hc : c.toNat < 0x100 := c.toNat_lt
  have hd : d.toNat < 0x100 := d.toNat_lt
  simp only [encode32, decode32, UInt32.toNat_ofNat', List.cons.injEq, and_true]
  exact ⟨octet_eq (by omega), octet_eq (by omega), octet_eq (by omega), octet_eq (by omega)⟩

theorem encode16_decode16 (a b : UInt8) : encode16 (decode16 a b) = [a, b] := by
  have ha : a.toNat < 0x100 := a.toNat_lt
  have hb : b.toNat < 0x100 := b.toNat_lt
  simp only [encode16, decode16, UInt16.toNat_ofNat', List.cons.injEq, and_true]
  exact ⟨octet_eq (by omega), octet_eq (by omega)⟩

/-- The number that two octets write. -/
theorem toNat_decode16 (a b : UInt8) : (decode16 a b).toNat = a.toNat * 0x100 + b.toNat := by
  have ha : a.toNat < 0x100 := a.toNat_lt
  have hb : b.toNat < 0x100 := b.toNat_lt
  rw [decode16, UInt16.toNat_ofNat']
  omega

/-- The number that four octets write. -/
theorem toNat_decode32 (a b c d : UInt8) :
    (decode32 a b c d).toNat =
      a.toNat * 0x1000000 + b.toNat * 0x10000 + c.toNat * 0x100 + d.toNat := by
  have ha : a.toNat < 0x100 := a.toNat_lt
  have hb : b.toNat < 0x100 := b.toNat_lt
  have hc : c.toNat < 0x100 := c.toNat_lt
  have hd : d.toNat < 0x100 := d.toNat_lt
  rw [decode32, UInt32.toNat_ofNat']
  omega

/-- The octets of a word are its digits to the base 256. -/
theorem toNat_encode16 (w : UInt16) :
    (encode16 w).map UInt8.toNat = [w.toNat / 0x100, w.toNat % 0x100] := by
  have hw : w.toNat < 0x10000 := w.toNat_lt
  simp only [encode16, List.map_cons, List.map_nil, UInt8.toNat_ofNat', List.cons.injEq, and_true]
  exact Nat.mod_eq_of_lt (by omega)

/-- The octets of a double word are its digits to the base 256. -/
theorem toNat_encode32 (w : UInt32) :
    (encode32 w).map UInt8.toNat =
      [w.toNat / 0x1000000, w.toNat / 0x10000 % 0x100, w.toNat / 0x100 % 0x100,
        w.toNat % 0x100] := by
  have hw : w.toNat < 0x100000000 := w.toNat_lt
  simp only [encode32, List.map_cons, List.map_nil, UInt8.toNat_ofNat', List.cons.injEq, and_true]
  exact Nat.mod_eq_of_lt (by omega)

theorem eq_encode32_append {bs rest : Bytes} {w : UInt32} (h : read32? bs = some (w, rest)) :
    bs = encode32 w ++ rest := by
  unfold read32? at h
  split at h
  · simp only [Option.some.injEq, Prod.mk.injEq] at h
    rw [← h.1, ← h.2, encode32_decode32]
    simp
  · simp at h

theorem eq_encode16_append {bs rest : Bytes} {w : UInt16} (h : read16? bs = some (w, rest)) :
    bs = encode16 w ++ rest := by
  unfold read16? at h
  split at h
  · simp only [Option.some.injEq, Prod.mk.injEq] at h
    rw [← h.1, ← h.2, encode16_decode16]
    simp
  · simp at h

end DhcpServer.BigEndian
