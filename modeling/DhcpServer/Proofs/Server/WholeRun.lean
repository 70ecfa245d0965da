import DhcpServer.Proofs.Server.ClientMessages
import DhcpServer.Proofs.Server.Serving

/-!
# Whole runs of a server

A server makes one read after the other up to the first that fails, or during
which or during whose handling it is told to stop, and hands on every message
that it reads until then: `serve_whole_run`.  `step_spec` says what one read
does, and `exists_servedUntil` carries it over all reads by induction.
-/

namespace DhcpServer

/-! ## Reads -/

/-- The message that a read delivers. -/
def ChannelAnswer.message? (a : ChannelAnswer) : Option Message :=
  match a.received with
  | .ok d => d.clientMessage?
  | .error _ => none

namespace Server

/-- What the reads of a connection come to: the answers, and then the end. -/
def reads (answers : List ChannelAnswer) : List ChannelAnswer :=
  answers ++ [⟨false, .error .endOfFile⟩]

/-- The messages that reads deliver, in order. -/
def messages (reads : List ChannelAnswer) : List Message :=
  reads.filterMap ChannelAnswer.message?

section

variable (stops : Nat → Message → Bool) (n : Nat)

/-- The server is told to stop during a read or when its message is handled, if
`n` messages were handled before the first read and `stops` says when handling
a message tells the server to stop. -/
def StopsAt (reads : List ChannelAnswer) (k : Nat) : Prop :=
  ∃ a, reads[k]? = some a ∧ (a.stops = true ∨
    ∃ m, a.message? = some m ∧ stops (n + (messages (reads.take k)).length) m = true)

/-- A read fails. -/
def FailsAt (reads : List ChannelAnswer) (k : Nat) (failure : Failure) : Prop :=
  ∃ a, reads[k]? = some a ∧ a.received = .error failure

/-- A read is the first that fails or stops the server. -/
structure EndsAt (reads : List ChannelAnswer) (k : Nat) : Prop where
  before : ∀ j < k, ¬ StopsAt stops n reads j ∧ ∀ failure, ¬ FailsAt reads j failure
  ends : StopsAt stops n reads k ∨ ∃ failure, FailsAt reads k failure

/-- Serving made the reads up to one of them, handed on their messages, and
failed only if that read did and nobody had told the server to stop. -/
structure ServedUntil (answers : List ChannelAnswer) (k : Nat)
    (o : Outcome (Server Channel) (Served ChannelAnswer)) : Prop where
  waits_eq : o.value.waits = k + 1
  rest_eq : o.value.rest = answers.drop (k + 1)
  handedOn_eq : handedOn o.events = messages ((reads answers).take (k + 1))
  stopped : StopsAt stops n (reads answers) k → o.value.failure = none
  failed : ∀ failure, ¬ StopsAt stops n (reads answers) k →
    FailsAt (reads answers) k failure → o.value.failure = some failure

end

theorem reads_cons (a : ChannelAnswer) (rest : List ChannelAnswer) :
    reads (a :: rest) = a :: reads rest :=
  rfl

theorem messages_cons (a : ChannelAnswer) (rest : List ChannelAnswer) :
    messages (a :: rest) = a.message?.toList ++ messages rest := by
  rw [messages, List.filterMap_cons]
  cases a.message? <;> rfl

section

variable {stops : Nat → Message → Bool} {n k : Nat} {a : ChannelAnswer}
  {rest : List ChannelAnswer}

theorem stopsAt_zero :
    StopsAt stops n (a :: rest) 0 ↔ (a.stops || a.message?.any (stops n)) = true := by
  rw [Bool.or_eq_true, Option.any_eq_true]
  constructor
  · rintro ⟨b, hb, h⟩
    obtain rfl : a = b := Option.some.inj hb
    exact h
  · intro h
    exact ⟨a, rfl, h⟩

theorem stopsAt_succ :
    StopsAt stops n (a :: rest) (k + 1) ↔ StopsAt stops (n + a.message?.toList.length) rest k := by
  unfold StopsAt
  rw [List.getElem?_cons_succ, List.take_succ_cons, messages_cons, List.length_append,
    Nat.add_assoc]

theorem failsAt_zero {failure : Failure} :
    FailsAt (a :: rest) 0 failure ↔ a.received = .error failure := by
  constructor
  · rintro ⟨b, hb, h⟩
    obtain rfl : a = b := Option.some.inj hb
    exact h
  · intro h
    exact ⟨a, rfl, h⟩

theorem failsAt_succ {failure : Failure} :
    FailsAt (a :: rest) (k + 1) failure ↔ FailsAt rest k failure :=
  Iff.rfl

theorem EndsAt.zero (h : StopsAt stops n (a :: rest) 0 ∨ ∃ failure, FailsAt (a :: rest) 0 failure) :
    EndsAt stops n (a :: rest) 0 :=
  ⟨fun j hj => absurd hj (Nat.not_lt_zero j), h⟩

/-- A read that goes well moves the end of serving one read on. -/
theorem EndsAt.succ (h : EndsAt stops (n + a.message?.toList.length) rest k)
    (hgoes : ¬ StopsAt stops n (a :: rest) 0) (hok : ∀ failure, ¬ FailsAt (a :: rest) 0 failure) :
    EndsAt stops n (a :: rest) (k + 1) := by
  constructor
  · intro j hj
    cases j with
    | zero => exact ⟨hgoes, hok⟩
    | succ j =>
        obtain ⟨hs, hf⟩ := h.before j (Nat.lt_of_succ_lt_succ hj)
        exact ⟨fun hstop => hs (stopsAt_succ.mp hstop),
          fun failure hfail => hf failure (failsAt_succ.mp hfail)⟩
  · rcases h.ends with hs | ⟨failure, hf⟩
    · exact .inl (stopsAt_succ.mpr hs)
    · exact .inr ⟨failure, failsAt_succ.mpr hf⟩

theorem ServedUntil.last {failure : Option Failure} {s : Server Channel} {es : List Event}
    (hhanded : handedOn es = a.message?.toList)
    (hstopped : StopsAt stops n (reads (a :: rest)) 0 → failure = none)
    (hfailed : ∀ failure', ¬ StopsAt stops n (reads (a :: rest)) 0 →
      FailsAt (reads (a :: rest)) 0 failure' → failure = some failure') :
    ServedUntil stops n (a :: rest) 0 ⟨⟨failure, 1, rest⟩, s, es⟩ := by
  refine ⟨rfl, rfl, ?_, hstopped, hfailed⟩
  rw [reads_cons, List.take_succ_cons, messages_cons, hhanded]
  exact (List.append_nil _).symm

theorem ServedUntil.next {o : Outcome (Server Channel) (Served ChannelAnswer)} {es : List Event}
    (h : ServedUntil stops (n + a.message?.toList.length) rest k o)
    (hhanded : handedOn es = a.message?.toList) :
    ServedUntil stops n (a :: rest) (k + 1)
      ⟨{ o.value with waits := o.value.waits + 1 }, o.state, es ++ o.events⟩ := by
  refine ⟨congrArg (· + 1) h.waits_eq, h.rest_eq, ?_, ?_, ?_⟩
  · rw [handedOn_append, hhanded, h.handedOn_eq, reads_cons, List.take_succ_cons, messages_cons]
  · exact fun hs => h.stopped (stopsAt_succ.mp hs)
  · intro failure hs hf
    exact h.failed failure (fun hs' => hs (stopsAt_succ.mpr hs')) (failsAt_succ.mp hf)

end

/-! ## One read -/

theorem attempt_value (a : ChannelAnswer) (c : Channel) :
    (Connection.attempt a c).value = some (a.received.map (·.cut receiveCapacity)) :=
  rfl

section

variable {meanwhile : ChannelAnswer → Run (Server Channel) Unit} {handler : Handler Channel}
  {stops : Nat → Message → Bool} (hmeanwhile : ∀ a, Does (meanwhile a) a.stops [])
  (hdoes : ∀ n m, Does (handler n m) (stops n m) [m])
include hmeanwhile hdoes

/-- A read is handed on if it is a message; it ends serving if the server was
told to stop by then, and otherwise if it failed. -/
theorem step_spec (a : ChannelAnswer) (c : Channel) (n : Nat) (settings : LogSettings) :
    ∃ c', (step meanwhile handler a ⟨some c, false, n, settings⟩).state =
        ⟨some c', a.stops || a.message?.any (stops n), n + a.message?.toList.length, settings⟩ ∧
      handedOn (step meanwhile handler a ⟨some c, false, n, settings⟩).events =
        a.message?.toList ∧
      (step meanwhile handler a ⟨some c, false, n, settings⟩).value =
        if a.stops || a.message?.any (stops n) then .ended none
        else match a.received with
          | .error failure => .ended (some failure)
          | .ok _ => .served := by
  obtain ⟨c₁, h₁⟩ := (hmeanwhile a).state_eq c false n settings
  have he₁ := (hmeanwhile a).handedOn_eq c false n settings
  rw [Bool.false_or] at h₁
  cases hr : a.received with
  | error failure =>
      have hnone : a.message? = none := by rw [ChannelAnswer.message?, hr]
      have hattempt : (Connection.attempt a c₁).value = some (.error failure) := by
        rw [attempt_value, hr]
        rfl
      -- nothing is handed on, so only the wait itself can have stopped the server
      rw [step_of_error h₁ hattempt, hnone]
      refine ⟨c₁, ?_, ?_, ?_⟩
      · rw [Option.any_none, Bool.or_false]
        rfl
      · rw [handedOn_append, he₁]
        rfl
      · cases a.stops <;> rfl
  | ok d =>
      have hsome : a.message? = (d.cut receiveCapacity).message? := by
        rw [ChannelAnswer.message?, hr, d.message?_cut]
      have hattempt : (Connection.attempt a c₁).value = some (.ok (d.cut receiveCapacity)) := by
        rw [attempt_value, hr]
        rfl
      obtain ⟨c₂, h₂, he₂⟩ := dispatch_spec hdoes (d.cut receiveCapacity)
        (Connection.attempt a c₁).state a.stops n settings
      rw [step_of_datagram h₁ hattempt, h₂, hsome]
      refine ⟨c₂, rfl, ?_, rfl⟩
      rw [handedOn_append, handedOn_append, he₁, he₂]
      rfl

/-! ## All reads -/

/-- Serving comes to an end, and that is at the first read that fails or stops
the server.  By induction on the answers, with what was handled before. -/
theorem exists_servedUntil (answers : List ChannelAnswer) (c : Channel) (n : Nat)
    (settings : LogSettings) :
    ∃ k, EndsAt stops n (reads answers) k ∧ ServedUntil stops n answers k
      (serveOver meanwhile handler answers ⟨some c, false, n, settings⟩) := by
  induction answers generalizing c n with
  | nil =>
      have hfails : FailsAt (reads []) 0 .endOfFile := failsAt_zero.mpr rfl
      have hgoes : ¬ StopsAt stops n (reads []) 0 := by
        rw [reads, List.nil_append, stopsAt_zero]
        exact Bool.false_ne_true
      refine ⟨0, .zero (.inr ⟨_, hfails⟩), ?_⟩
      rw [serveOver_nil]
      refine ⟨rfl, rfl, rfl, fun h => absurd h hgoes, ?_⟩
      intro failure _ hf
      exact congrArg some (Except.error.inj (failsAt_zero.mp hf))
  | cons a rest ih =>
      obtain ⟨c', hstate, hhanded, hvalue⟩ := step_spec hmeanwhile hdoes a c n settings
      by_cases htold : (a.stops || a.message?.any (stops n)) = true
      · -- whatever came of this read, it is the last one and no failure
        rw [if_pos htold] at hvalue
        have hstops : StopsAt stops n (reads (a :: rest)) 0 := stopsAt_zero.mpr htold
        refine ⟨0, .zero (.inl hstops), ?_⟩
        rw [serveOver_cons_of_ended hvalue]
        exact .last hhanded (fun _ => rfl) fun _ h => absurd hstops h
      · rw [if_neg htold] at hvalue
        have hgoes : ¬ StopsAt stops n (reads (a :: rest)) 0 := fun h => htold (stopsAt_zero.mp h)
        cases hr : a.received with
        | error failure =>
            rw [hr] at hvalue
            refine ⟨0, .zero (.inr ⟨failure, failsAt_zero.mpr hr⟩), ?_⟩
            rw [serveOver_cons_of_ended hvalue]
            refine .last hhanded (fun h => absurd h hgoes) fun failure' _ h => ?_
            exact congrArg some (Except.error.inj (hr.symm.trans (failsAt_zero.mp h)))
        | ok d =>
            rw [hr] at hvalue
            have hok : ∀ failure, ¬ FailsAt (reads (a :: rest)) 0 failure := by
              intro failure h
              rw [reads_cons, failsAt_zero, hr] at h
              exact absurd h (by simp)
            rw [Bool.not_eq_true] at htold
            rw [htold] at hstate
            obtain ⟨k, hends, hserved⟩ := ih c' (n + a.message?.toList.length)
            refine ⟨k + 1, .succ hends hgoes hok, ?_⟩
            rw [serveOver_cons_of_served hvalue, hstate]
            exact hserved.next hhanded

end

/-! ## Serving -/

/-- A server that was told to stop before it serves reads nothing, and that is no
failure.  Otherwise serving ends at the first read that fails or stops the
server: all reads up to that one are made, and each that is a message from a
client is handed on once, in the order of the reads. -/
theorem serve_whole_run (c : Channel) (stopped : Bool) (n : Nat) (settings : LogSettings)
    (early : Bool) (script : Nat → Message → List (Deed Channel)) (answers : List ChannelAnswer) :
    let stops := fun n m => (script n m).any Deed.stops
    let program : Run (Server Channel) (Served ChannelAnswer) := do
      if early then stop
      serve (stopDuring ChannelAnswer.stops) (performing script) answers
    let o := program ⟨some c, stopped, n, settings⟩
    ((stopped || early) = true → o.value = ⟨none, 0, answers⟩ ∧ handedOn o.events = []) ∧
      ((stopped || early) = false →
        ∃ k, EndsAt stops n (reads answers) k ∧ ServedUntil stops n answers k o) := by
  intro stops program o
  have hbefore : Does (if early then stop else pure () : Run (Server Channel) Unit) early [] := by
    cases early with
    | false => exact .pure ()
    | true => exact does_stop
  -- a stop in front of serving is a run of its own, which hands on nothing
  have hprogram : program = (if early then stop else pure ()) >>= fun _ =>
      serve (stopDuring ChannelAnswer.stops) (performing script) answers := by
    cases early <;> rfl
  obtain ⟨c', hstate⟩ := hbefore.state_eq c stopped n settings
  have hnone := hbefore.handedOn_eq c stopped n settings
  have ho : o = (program ⟨some c, stopped, n, settings⟩) := rfl
  rw [hprogram, Run.bind_apply, hstate] at ho
  constructor
  · intro h
    rw [h, serve_of_stopping] at ho
    rw [ho]
    exact ⟨rfl, by rw [handedOn_append, hnone]; rfl⟩
  · intro h
    rw [h, serve_of_not_stopping] at ho
    obtain ⟨k, hends, hserved⟩ := exists_servedUntil (does_stopDuring ChannelAnswer.stops)
      (does_performing script) answers c' n settings
    refine ⟨k, hends, ?_⟩
    rw [ho]
    refine ⟨hserved.waits_eq, hserved.rest_eq, ?_, hserved.stopped, hserved.failed⟩
    rw [handedOn_append, hnone]
    exact hserved.handedOn_eq

-- a datagram that is no message, and then a failure that a stop excuses
example :
    (serve (stopDuring ChannelAnswer.stops) (performing fun _ _ => [])
      [⟨false, .ok ⟨[1], .unspecified, 3⟩⟩, ⟨true, .error .shutDown⟩]
      (start (some (⟨[], []⟩ : Channel)) .initial)).value = ⟨none, 2, []⟩ := by
  rfl

end Server

end DhcpServer
