import DhcpServer.Event

/-!
# Runs

A run takes a state to a value, a new state and the events on the way.  One run
after another gives the events of the first and then those of the second, so a
run over a list of answers is put together from the runs over single answers.
-/

namespace DhcpServer

structure Outcome (σ α : Type) where
  value : α
  state : σ
  events : List Event

/-- A computation on a state of type `σ` that makes events. -/
def Run (σ α : Type) : Type := σ → Outcome σ α

namespace Run

variable {σ τ α β : Type}

instance : Monad (Run σ) where
  pure a := fun s => ⟨a, s, []⟩
  bind x f := fun s =>
    let first := x s
    let second := f first.value first.state
    ⟨second.value, second.state, first.events ++ second.events⟩

def get : Run σ σ := fun s => ⟨s, s, []⟩

def modify (f : σ → σ) : Run σ Unit := fun s => ⟨(), f s, []⟩

def emit (e : Event) : Run σ Unit := fun s => ⟨(), s, [e]⟩

def emits (es : List Event) : Run σ Unit := fun s => ⟨(), s, es⟩

def log (settings : LogSettings) (level : LogLevel) (line : String) : Run σ Unit :=
  emits ((settings.write level line).map .log)

/-- A run on a part of the state. -/
def on (part : σ → τ) (put : τ → σ → σ) (x : Run τ α) : Run σ α := fun s =>
  let r := x (part s)
  ⟨r.value, put r.state s, r.events⟩

@[simp] theorem pure_apply (a : α) (s : σ) : (pure a : Run σ α) s = ⟨a, s, []⟩ := rfl

@[simp] theorem bind_apply (x : Run σ α) (f : α → Run σ β) (s : σ) :
    (x >>= f) s =
      ⟨(f (x s).value (x s).state).value, (f (x s).value (x s).state).state,
        (x s).events ++ (f (x s).value (x s).state).events⟩ := rfl

@[simp] theorem get_apply (s : σ) : (get : Run σ σ) s = ⟨s, s, []⟩ := rfl

@[simp] theorem modify_apply (f : σ → σ) (s : σ) : modify f s = ⟨(), f s, []⟩ := rfl

@[simp] theorem emit_apply (e : Event) (s : σ) : emit e s = ⟨(), s, [e]⟩ := rfl

@[simp] theorem emits_apply (es : List Event) (s : σ) : emits es s = ⟨(), s, es⟩ := rfl

@[simp] theorem on_apply (part : σ → τ) (put : τ → σ → σ) (x : Run τ α) (s : σ) :
    on part put x s = ⟨(x (part s)).value, put (x (part s)).state s, (x (part s)).events⟩ := rfl

theorem id_map (x : Run σ α) : id <$> x = x := by
  funext s
  change (⟨(x s).value, (x s).state, (x s).events ++ []⟩ : Outcome σ α) = x s
  rw [List.append_nil]

theorem pure_bind (a : α) (f : α → Run σ β) : pure a >>= f = f a := by
  funext s
  simp

theorem bind_assoc {γ : Type} (x : Run σ α) (f : α → Run σ β) (g : β → Run σ γ) :
    x >>= f >>= g = x >>= fun a => f a >>= g := by
  funext s
  simp [List.append_assoc]

instance : LawfulMonad (Run σ) :=
  LawfulMonad.mk' (Run σ) id_map pure_bind bind_assoc

end Run

end DhcpServer
