import DhcpServer.Server

/-!
# One answer after the other

Equations for the runs of a server that has a connection: what comes of one
answer, of a list of answers, and of serving as a whole.
-/

namespace DhcpServer.Server

variable {κ ι : Type} [Connection κ ι] {meanwhile : ι → Run (Server κ) Unit}
  {handler : Handler κ} {s : Server κ}

/-! ## One answer -/

section

variable {a : ι} {c : κ} {stopping : Bool} {n : Nat} {settings : LogSettings}

theorem step_of_waiting (hs : (meanwhile a s).state = ⟨some c, stopping, n, settings⟩)
    (ha : (Connection.attempt a c).value = none) :
    step meanwhile handler a s =
      ⟨.waiting, ⟨some (Connection.attempt a c).state, stopping, n, settings⟩,
        (meanwhile a s).events ++ (Connection.attempt a c).events⟩ := by
  unfold step
  simp only [Run.bind_apply, hs, onConnection, ha, Run.pure_apply, List.append_nil]

theorem step_of_error {failure : Failure}
    (hs : (meanwhile a s).state = ⟨some c, stopping, n, settings⟩)
    (ha : (Connection.attempt a c).value = some (.error failure)) :
    step meanwhile handler a s =
      ⟨.ended (if stopping then none else some failure),
        ⟨some (Connection.attempt a c).state, stopping, n, settings⟩,
        (meanwhile a s).events ++ (Connection.attempt a c).events⟩ := by
  unfold step
  simp only [Run.bind_apply, hs, onConnection, ha, excuse, Run.get_apply, Run.pure_apply,
    List.append_nil]
  rfl

theorem step_of_datagram {d : Datagram}
    (hs : (meanwhile a s).state = ⟨some c, stopping, n, settings⟩)
    (ha : (Connection.attempt a c).value = some (.ok d)) :
    let dealt := dispatch handler d ⟨some (Connection.attempt a c).state, stopping, n, settings⟩
    step meanwhile handler a s =
      ⟨if dealt.state.stopping then .ended none else .served, dealt.state,
        (meanwhile a s).events ++ ((Connection.attempt a c).events ++ dealt.events)⟩ := by
  intro dealt
  unfold step
  simp only [Run.bind_apply, hs, onConnection, ha, Run.get_apply, Run.pure_apply,
    List.append_nil]
  rfl

end

/-! ## All answers -/

theorem serveOver_nil {c : κ} {stopping : Bool} {n : Nat} {settings : LogSettings} :
    serveOver meanwhile handler [] ⟨some c, stopping, n, settings⟩ =
      ⟨⟨if stopping then none else some (Connection.exhausted c).value, 1, []⟩,
        ⟨some (Connection.exhausted c).state, stopping, n, settings⟩,
        (Connection.exhausted c).events⟩ := by
  unfold serveOver
  simp only [Run.bind_apply, onConnection, excuse, Run.get_apply, Run.pure_apply,
    List.append_nil]
  rfl

theorem serveOver_cons_of_ended {a : ι} {rest : List ι} {failure : Option Failure}
    (h : (step meanwhile handler a s).value = .ended failure) :
    serveOver meanwhile handler (a :: rest) s =
      ⟨⟨failure, 1, rest⟩, (step meanwhile handler a s).state,
        (step meanwhile handler a s).events⟩ := by
  rw [serveOver, Run.bind_apply, h]
  simp only [Run.pure_apply, List.append_nil]

theorem serveOver_cons_of_waiting {a : ι} {rest : List ι}
    (h : (step meanwhile handler a s).value = .waiting) :
    let later := serveOver meanwhile handler rest (step meanwhile handler a s).state
    serveOver meanwhile handler (a :: rest) s =
      ⟨later.value, later.state, (step meanwhile handler a s).events ++ later.events⟩ := by
  intro later
  rw [serveOver, Run.bind_apply, h]

theorem serveOver_cons_of_served {a : ι} {rest : List ι}
    (h : (step meanwhile handler a s).value = .served) :
    let later := serveOver meanwhile handler rest (step meanwhile handler a s).state
    serveOver meanwhile handler (a :: rest) s =
      ⟨{ later.value with waits := later.value.waits + 1 }, later.state,
        (step meanwhile handler a s).events ++ later.events⟩ := by
  intro later
  rw [serveOver, Run.bind_apply, h]
  simp only [Run.bind_apply, Run.pure_apply, List.append_nil]
  rfl

/-! ## Serving -/

theorem serve_of_stopping {c : κ} {n : Nat} {settings : LogSettings} (answers : List ι) :
    serve meanwhile handler answers ⟨some c, true, n, settings⟩ =
      ⟨⟨none, 0, answers⟩, ⟨some c, true, n, settings⟩, []⟩ :=
  rfl

theorem serve_of_not_stopping {c : κ} {n : Nat} {settings : LogSettings} (answers : List ι) :
    serve meanwhile handler answers ⟨some c, false, n, settings⟩ =
      serveOver meanwhile handler answers ⟨some c, false, n, settings⟩ :=
  rfl

end DhcpServer.Server
