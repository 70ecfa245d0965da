/-!
# Octet strings

Datagrams, option areas and hardware addresses are finite strings of octets.
This file fixes their type and the one way in which every reader of this
library takes them apart: a leading piece of a given length, or nothing if the
string is too short for it.
-/

namespace DhcpServer

/-- A finite string of octets. -/
abbrev Bytes := List UInt8

namespace Bytes

/-- The first `n` octets and what follows them, if there are that many. -/
def splitAt? : Nat → Bytes → Option (Bytes × Bytes)
  | 0, bs => some ([], bs)
  | _ + 1, [] => none
  | n + 1, b :: bs => (splitAt? n bs).map fun parts => (b :: parts.1, parts.2)

/-- The first octet and what follows it, if there is one. -/
def byte? : Bytes → Option (UInt8 × Bytes)
  | [] => none
  | b :: bs => some (b, bs)

theorem byte?_eq_some_iff {bs rest : Bytes} {b : UInt8} :
    byte? bs = some (b, rest) ↔ bs = b :: rest := by
  cases bs <;> simp [byte?]

/-- A piece comes off exactly when it stands at the front and has the length
asked for. -/
theorem splitAt?_eq_some_iff {n : Nat} {bs front rest : Bytes} :
    splitAt? n bs = some (front, rest) ↔ bs = front ++ rest ∧ front.length = n := by
  induction n generalizing bs front with
  | zero =>
    constructor
    · intro h
      simp only [splitAt?, Option.some.injEq, Prod.mk.injEq] at h
      simp [← h.1, ← h.2]
    · rintro ⟨rfl, h⟩
      simp [splitAt?, List.length_eq_zero_iff.mp h]
  | succ n ih =>
    cases bs with
    | nil =>
      constructor
      · intro h
        simp [splitAt?] at h
      · rintro ⟨h, hl⟩
        have : front = [] := (List.append_eq_nil_iff.mp h.symm).1
        simp [this] at hl
    | cons b bs =>
      constructor
      · intro h
        obtain ⟨⟨f, r⟩, hs, he⟩ := Option.map_eq_some_iff.mp h
        simp only [Prod.mk.injEq] at he
        obtain ⟨rfl, rfl⟩ := he
        obtain ⟨hb, hl⟩ := ih.mp hs
        simp [hb, hl]
      · rintro ⟨h, hl⟩
        cases front with
        | nil => simp at hl
        | cons f front =>
          simp only [List.cons_append, List.cons.injEq] at h
          have := ih.mpr ⟨h.2, by simpa using hl⟩
          simp [splitAt?, this, h.1]

theorem splitAt?_append {front rest : Bytes} :
    splitAt? front.length (front ++ rest) = some (front, rest) :=
  splitAt?_eq_some_iff.mpr ⟨rfl, rfl⟩

/-- Only a string that is too short has no front of the length asked for. -/
theorem splitAt?_eq_none_iff {n : Nat} {bs : Bytes} :
    splitAt? n bs = none ↔ bs.length < n := by
  induction n generalizing bs with
  | zero => simp [splitAt?]
  | succ n ih =>
    cases bs with
    | nil => simp [splitAt?]
    | cons b bs => simp [splitAt?, ih]

theorem length_of_splitAt? {n : Nat} {bs front rest : Bytes}
    (h : splitAt? n bs = some (front, rest)) : rest.length + n = bs.length := by
  obtain ⟨rfl, rfl⟩ := splitAt?_eq_some_iff.mp h
  simp [Nat.add_comm]

end Bytes

end DhcpServer
