import DhcpServer.Bytes

/-!
# Fields of a fixed number of octets

The hardware address, server name and boot file fields of a packet have a
fixed length whatever they hold.  A `Block n` is an octet string with that
length in its type.
-/

namespace DhcpServer

/-- Exactly `n` octets. -/
structure Block (n : Nat) where
  bytes : Bytes
  length_bytes : bytes.length = n
deriving DecidableEq

namespace Block

variable {n : Nat}

@[ext] theorem ext {a b : Block n} (h : a.bytes = b.bytes) : a = b := by
  cases a
  cases b
  simp_all

/-- The field that holds zeros only. -/
def zero (n : Nat) : Block n :=
  ⟨List.replicate n 0, by simp⟩

/-- The field that starts with the given octets, as many as fit, and is zero
from there on. -/
def fill (n : Nat) (bs : Bytes) : Block n :=
  ⟨bs.take n ++ List.replicate (n - bs.length) 0, by simp; omega⟩

/-- A field at the front of a string, and what follows it. -/
def read? (n : Nat) (bs : Bytes) : Option (Block n × Bytes) :=
  match h : Bytes.splitAt? n bs with
  | some (front, rest) => some (⟨front, (Bytes.splitAt?_eq_some_iff.mp h).2⟩, rest)
  | none => none

/-- The octets before the first zero, or all of them if there is none. -/
def text (b : Block n) : Bytes :=
  b.bytes.takeWhile (· ≠ 0)

@[simp] theorem bytes_zero : (zero n).bytes = List.replicate n 0 := rfl

theorem read?_eq_some_iff {bs rest : Bytes} {b : Block n} :
    read? n bs = some (b, rest) ↔ bs = b.bytes ++ rest := by
  unfold read?
  constructor
  · intro h
    split at h
    · rename_i front tail hs
      simp only [Option.some.injEq, Prod.mk.injEq] at h
      rw [← h.1, ← h.2]
      exact (Bytes.splitAt?_eq_some_iff.mp hs).1
    · simp at h
  · rintro rfl
    have hs : Bytes.splitAt? n (b.bytes ++ rest) = some (b.bytes, rest) :=
      Bytes.splitAt?_eq_some_iff.mpr ⟨rfl, b.length_bytes⟩
    split
    · rename_i front tail ht
      rw [hs] at ht
      simp only [Option.some.injEq, Prod.mk.injEq] at ht
      simp only [Option.some.injEq, Prod.mk.injEq]
      exact ⟨ext ht.1.symm, ht.2.symm⟩
    · rename_i ht
      simp [hs] at ht

@[simp] theorem read?_append (b : Block n) (rest : Bytes) :
    read? n (b.bytes ++ rest) = some (b, rest) :=
  read?_eq_some_iff.mpr rfl

end Block

end DhcpServer
