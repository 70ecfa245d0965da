import DhcpServer.Run

/-!
# What runs do to states

Properties of runs, each of which holds of one run after another if it holds of
both: that a run leaves a view of the state alone (`Keeps`), that it makes only
events of a kind besides (`Spares`), and that it takes states with one property to
values and states with another (`Ensures`).
-/

namespace DhcpServer.Run

variable {σ τ α β : Type}

/-! ## Views that are left alone -/

/-- A run that leaves a view of its states alone. -/
def Keeps (view : σ → τ) (x : Run σ α) : Prop := ∀ s, view (x s).state = view s

namespace Keeps

variable {view : σ → τ}

theorem pure (a : α) : Keeps view (Pure.pure a) := fun _ => rfl

theorem get : Keeps view Run.get := fun _ => rfl

theorem bind {x : Run σ α} {f : α → Run σ β} (hx : Keeps view x) (hf : ∀ a, Keeps view (f a)) :
    Keeps view (x >>= f) :=
  fun s => (hf _ _).trans (hx s)

end Keeps

/-! ## Events of a kind -/

/-- A run that leaves a view of its states alone and makes only events of a kind. -/
structure Spares (view : σ → τ) (kind : Event → Prop) (x : Run σ α) : Prop where
  keeps : Keeps view x
  events : ∀ s, ∀ e ∈ (x s).events, kind e

namespace Spares

variable {view : σ → τ} {kind : Event → Prop}

theorem silent {x : Run σ α} (hstate : Keeps view x) (hevents : ∀ s, (x s).events = []) :
    Spares view kind x :=
  ⟨hstate, fun s _ he => absurd (hevents s ▸ he) List.not_mem_nil⟩

theorem pure (a : α) : Spares view kind (Pure.pure a) := .silent (fun _ => rfl) fun _ => rfl

theorem get : Spares view kind Run.get := .silent (fun _ => rfl) fun _ => rfl

theorem modify {f : σ → σ} (h : ∀ s, view (f s) = view s) : Spares view kind (Run.modify f) :=
  .silent h fun _ => rfl

theorem emit {e : Event} (h : kind e) : Spares view kind (Run.emit e) :=
  ⟨fun _ => rfl, fun _ _ he => List.mem_singleton.mp he ▸ h⟩

theorem log (s : LogSettings) (level : LogLevel) (line : String)
    (hkind : ∀ entry ∈ s.write level line, kind (.log entry)) :
    Spares view kind (Run.log s level line) := by
  refine ⟨fun _ => rfl, fun _ e he => ?_⟩
  obtain ⟨entry, hentry, rfl⟩ := List.mem_map.mp he
  exact hkind entry hentry

theorem mono {x : Run σ α} {kind' : Event → Prop} (hx : Spares view kind x)
    (h : ∀ e, kind e → kind' e) : Spares view kind' x :=
  ⟨hx.keeps, fun s e he => h e (hx.events s e he)⟩

/-- What follows need only be good for the values that there are. -/
theorem bind_value {x : Run σ α} {f : α → Run σ β} (hx : Spares view kind x)
    (hf : ∀ s, Spares view kind (f (x s).value)) : Spares view kind (x >>= f) := by
  refine ⟨fun s => ((hf s).keeps _).trans (hx.keeps s), fun s e he => ?_⟩
  exact (List.mem_append.mp he).elim (hx.events s e) ((hf s).events _ e)

theorem bind {x : Run σ α} {f : α → Run σ β} (hx : Spares view kind x)
    (hf : ∀ a, Spares view kind (f a)) : Spares view kind (x >>= f) :=
  hx.bind_value fun _ => hf _

end Spares

/-! ## Before and after -/

/-- A run takes states with one property to values and states with another. -/
def Ensures (before : σ → Prop) (x : Run σ α) (after : α → σ → Prop) : Prop :=
  ∀ s, before s → after (x s).value (x s).state

namespace Ensures

variable {before : σ → Prop} {after : β → σ → Prop}

theorem pure (a : α) : Ensures before (Pure.pure a) fun _ => before := fun _ h => h

theorem bind {x : Run σ α} {between : α → σ → Prop} {f : α → Run σ β}
    (hx : Ensures before x between) (hf : ∀ a, Ensures (between a) (f a) after) :
    Ensures before (x >>= f) after :=
  fun s h => hf (x s).value (x s).state (hx s h)

end Ensures

end DhcpServer.Run
