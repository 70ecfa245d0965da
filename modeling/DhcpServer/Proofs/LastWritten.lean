/-!
# What was written last

A view of a state shows what was written to it last, if each step either writes the
view or leaves it alone.
-/

namespace DhcpServer

variable {σ α β : Type}

/-- What the steps write last, if any of them writes. -/
def lastWritten? (write? : α → Option β) (steps : List α) : Option β :=
  (steps.filterMap write?).getLast?

theorem lastWritten?_cons (write? : α → Option β) (a : α) (steps : List α) :
    lastWritten? write? (a :: steps) = (lastWritten? write? steps).or (write? a) := by
  unfold lastWritten?
  cases h : write? a with
  | none => rw [List.filterMap_cons_none h, Option.or_none]
  | some b =>
      rw [List.filterMap_cons_some h, List.getLast?_cons]
      cases (steps.filterMap write?).getLast? <;> rfl

/-- By induction on the steps.  Those that follow are read off the state after the
first one. -/
theorem view_foldl {step : σ → α → σ} {view : σ → β} {write? : α → Option β}
    {steps : List α} (h : ∀ s, ∀ a ∈ steps, view (step s a) = (write? a).getD (view s)) (s : σ) :
    view (steps.foldl step s) = (lastWritten? write? steps).getD (view s) := by
  induction steps generalizing s with
  | nil => rfl
  | cons a steps ih =>
      obtain ⟨ha, hsteps⟩ := List.forall_mem_cons.mp (fun b hb s => h s b hb)
      rw [List.foldl_cons, ih (fun s b hb => hsteps b hb s), ha, lastWritten?_cons]
      cases lastWritten? write? steps <;> rfl

end DhcpServer
