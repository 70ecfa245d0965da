/-!
# Bind addresses

The address to listen on is given as a host and a service with a colon between
them; the last colon counts.  An empty address stands for the service of DHCP
servers on any host.
-/

namespace DhcpServer.BindAddress

/-- The address that is meant when none is given. -/
def standard : String := ":67"

/-- The address that is meant. -/
def meant (address : String) : String :=
  if address.isEmpty then standard else address

/-- What stands before and after the last of a character, if there is one. -/
def splitAtLast? (c : Char) : List Char → Option (List Char × List Char)
  | [] => none
  | d :: ds =>
    match splitAtLast? c ds with
    | some (front, back) => some (d :: front, back)
    | none => if d = c then some ([], ds) else none

/-- The host and the service of an address. -/
def split? (address : String) : Option (String × String) :=
  (splitAtLast? ':' address.toList).map fun parts =>
    (String.ofList parts.1, String.ofList parts.2)

theorem splitAtLast?_eq_none_iff {c : Char} {cs : List Char} :
    splitAtLast? c cs = none ↔ c ∉ cs := by
  induction cs with
  | nil => simp [splitAtLast?]
  | cons d ds ih =>
    simp only [splitAtLast?]
    cases h : splitAtLast? c ds with
    | none =>
      have := ih.mp h
      by_cases hd : d = c
      · simp [hd]
      · simp [hd, this, Ne.symm hd]
    | some parts =>
      have hc : c ∈ ds := by
        apply Classical.byContradiction
        intro hn
        simp [ih.mpr hn] at h
      simp [hc]

/-- The parts are what stands around the last colon. -/
theorem splitAtLast?_eq_some_iff {c : Char} {cs front back : List Char} :
    splitAtLast? c cs = some (front, back) ↔ cs = front ++ c :: back ∧ c ∉ back := by
  induction cs generalizing front back with
  | nil => simp [splitAtLast?]
  | cons d ds ih =>
    simp only [splitAtLast?]
    cases h : splitAtLast? c ds with
    | none =>
      have hn := splitAtLast?_eq_none_iff.mp h
      constructor
      · intro hs
        dsimp only at hs
        split at hs
        · rename_i hd
          simp only [Option.some.injEq, Prod.mk.injEq] at hs
          obtain ⟨rfl, rfl⟩ := hs
          exact ⟨by simp [hd], hn⟩
        · simp at hs
      · rintro ⟨he, hb⟩
        cases front with
        | nil =>
          simp only [List.nil_append, List.cons.injEq] at he
          simp [he.1, he.2]
        | cons f front =>
          simp only [List.cons_append, List.cons.injEq] at he
          exact absurd (he.2 ▸ (by simp : c ∈ front ++ c :: back)) hn
    | some parts =>
      obtain ⟨f, b⟩ := parts
      obtain ⟨hds, hb⟩ := ih.mp h
      constructor
      · intro hs
        simp only [Option.some.injEq, Prod.mk.injEq] at hs
        obtain ⟨rfl, rfl⟩ := hs
        exact ⟨by simp [hds], hb⟩
      · rintro ⟨he, hback⟩
        cases front with
        | nil =>
          simp only [List.nil_append, List.cons.injEq] at he
          exact absurd (he.2 ▸ hds ▸ (by simp : c ∈ f ++ c :: b)) hback
        | cons g front =>
          simp only [List.cons_append, List.cons.injEq] at he
          have := ih.mpr ⟨he.2, hback⟩
          rw [h] at this
          simp only [Option.some.injEq, Prod.mk.injEq] at this
          simp [he.1, this.1, this.2]

end DhcpServer.BindAddress
