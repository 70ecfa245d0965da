import DhcpServer.Daemon
import DhcpServer.Proofs.Link.Calls
import DhcpServer.Proofs.Server.Serving

/-!
# The daemon serves

The daemon makes one call that waits for a datagram after the other.  A call
that brings a datagram leaves lines in the log, and one that is interrupted
leaves nothing; serving ends with the first call during which a signal is heeded,
or that fails otherwise: `exists_served`.

`step_of_goes`, `step_of_heeded` and `step_of_failed` are the three ways that one
call can go.
-/

namespace DhcpServer

/-! ## Calls -/

namespace ReceiveAnswer

/-- The number of the signal that is heeded during a call, if there is one. -/
def heeded? (a : ReceiveAnswer) : Option Int :=
  match a.signal with
  | some ⟨number, false⟩ => some number
  | _ => none

theorem heeded?_eq_some_iff {a : ReceiveAnswer} {number : Int} :
    a.heeded? = some number ↔ a.signal = some ⟨number, false⟩ := by
  unfold heeded?
  rcases a.signal with _ | ⟨number', _ | _⟩ <;> simp

/-- A call with which serving ends. -/
def Ends (a : ReceiveAnswer) : Prop := a.heeded?.isSome ∨ a.Fails

end ReceiveAnswer

namespace Daemon

/-! ## What is left in the log -/

/-- What a line leaves. -/
def logged (s : LogSettings) (level : LogLevel) (line : String) : List Event :=
  (s.write level line).map .log

/-- What a datagram leaves: the lines of its message, or one that says why it is
discarded. -/
def dealt (s : LogSettings) (d : Datagram) : List Event :=
  match d.message? with
  | some m => m.logLines.flatMap (logged s .info)
  | none => d.complaint?.toList.flatMap (logged s .debug)

/-- What a call leaves with which serving does not end. -/
def turn (s : LogSettings) (a : ReceiveAnswer) : List Event :=
  .receive a.errno :: if a.errno = 0 then dealt s (a.datagram.cut receiveCapacity) else []

/-- What a signal leaves that is heeded; the error number is the answer to
shutting the socket down. -/
def noticed (s : LogSettings) (number : Int) (errno : Errno) : List Event :=
  logged s .info ("d4serve: received signal " ++ toString number ++ "; stopping") ++
    .shutdownSocket errno :: if errno = 0 ∨ errno = Errno.notConnected then []
      else logged s .info
        ("dhcp4: Failed to shut down the listening socket: " ++ Errno.description errno)

/-- What the call leaves with which serving ends. -/
def lastTurn (s : LogSettings) (errno : Errno) (a : ReceiveAnswer) : List Event :=
  match a.heeded? with
  | some number => noticed s number errno ++ [.receive a.errno]
  | none => [.receive a.errno]

/-- Why serving ends with a call, unless a signal is heeded during it. -/
def reason? (a : ReceiveAnswer) : Option Failure :=
  match a.heeded? with
  | some _ => none
  | none => some (.system a.errno)

theorem log_apply {κ : Type} (level : LogLevel) (line : String) (s : Server κ) :
    Server.log level line s = ⟨(), s, logged s.settings level line⟩ :=
  rfl

theorem forM_log {κ : Type} (lines : List String) (s : Server κ) :
    (lines.forM (Server.log .info) : Run (Server κ) Unit) s =
      ⟨(), s, lines.flatMap (logged s.settings .info)⟩ := by
  induction lines with
  | nil => rfl
  | cons line lines ih =>
      show ((Server.log .info line >>= fun _ => lines.forM (Server.log .info)) :
        Run (Server κ) Unit) s = _
      rw [Run.bind_apply, log_apply, ih]
      rfl

theorem dispatch_logRequests (d : Datagram) {κ : Type} (c : Option κ) (stopping : Bool) (n : Nat)
    (s : LogSettings) : ∃ n', Server.dispatch logRequests d ⟨c, stopping, n, s⟩ =
      ⟨(), ⟨c, stopping, n', s⟩, dealt s d⟩ := by
  have hsome := d.complaint?_isSome
  unfold Server.dispatch dealt
  cases hm : d.message? with
  | none =>
      obtain ⟨line, hline⟩ := Option.isSome_iff_exists.mp (hsome.trans (congrArg Option.isNone hm))
      rw [hline]
      exact ⟨n, congrArg _ (List.append_nil _).symm⟩
  | some m =>
      rw [hm, Option.isNone_some, Option.isSome_eq_false_iff, Option.isNone_iff_eq_none] at hsome
      rw [hsome]
      refine ⟨n + 1, ?_⟩
      show logRequests n m _ = _
      exact forM_log m.logLines _

/-! ## One call -/

section

variable {a : ReceiveAnswer} {l : Link} {n : Nat} {s : LogSettings}

theorem stop_of_open {stopping : Bool} (hopen : l.isOpen = true) :
    let answer := Answers.next l.answers.shutdown
    (Server.stop : Run (Server Link) Unit) ⟨some l, stopping, n, s⟩ =
      ⟨(), ⟨some { l with isShutDown := true, answers := { l.answers with shutdown := answer.2 } },
          true, n, s⟩,
        .shutdownSocket answer.1 :: if answer.1 = 0 ∨ answer.1 = Errno.notConnected then []
          else logged s .info ("dhcp4: Failed to shut down the listening socket: " ++
            Errno.description answer.1)⟩ := by
  intro answer
  have hconnection : Server.onConnection none (Connection.shutdown : Run Link (Option Failure))
      ⟨some l, true, n, s⟩ =
      ⟨if answer.1 = Errno.notConnected then none else Failure.ofErrno? answer.1,
        ⟨some { l with isShutDown := true, answers := { l.answers with shutdown := answer.2 } },
          true, n, s⟩, [.shutdownSocket answer.1]⟩ := by
    show (⟨(Link.shutdown l).value, ⟨some (Link.shutdown l).state, true, n, s⟩,
      (Link.shutdown l).events⟩ : Outcome (Server Link) (Option Failure)) = _
    rw [Link.shutdown_of_open hopen]
  unfold Server.stop
  rw [Run.bind_apply, Run.modify_apply, Run.bind_apply]
  dsimp only
  rw [hconnection]
  dsimp only
  by_cases hpeer : answer.1 = Errno.notConnected
  · rw [if_pos hpeer, if_pos (.inr hpeer)]
    rfl
  · rw [if_neg hpeer, Failure.ofErrno?]
    by_cases hzero : answer.1 = 0
    · rw [if_pos hzero, if_pos (.inl hzero)]
      rfl
    · rw [if_neg hzero, if_neg (not_or_intro hzero hpeer)]
      rfl

theorem heed_of_heeded {number : Int} (hopen : l.isOpen = true)
    (h : a.heeded? = some number) :
    let answer := Answers.next l.answers.shutdown
    heed a ⟨some l, false, n, s⟩ =
      ⟨(), ⟨some { l with isShutDown := true, answers := { l.answers with shutdown := answer.2 } },
          true, n, s⟩,
        noticed s number answer.1⟩ := by
  intro answer
  rw [heed, ReceiveAnswer.heeded?_eq_some_iff.mp h]
  dsimp only
  rw [Run.bind_apply, log_apply]
  dsimp only
  rw [stop_of_open hopen]
  rfl

theorem heed_of_not_heeded (h : a.heeded? = none) : heed a = pure () := by
  unfold ReceiveAnswer.heeded? at h
  unfold heed
  rcases hsignal : a.signal with _ | ⟨number, _ | _⟩
  · rfl
  · rw [hsignal] at h
    cases h
  · rfl

theorem attempt_apply (a : ReceiveAnswer) (l : Link) :
    (Connection.attempt a l : Outcome Link (Option Received)) =
      ⟨if a.errno = Errno.interrupted ∧ l.isShutDown = false then none
        else some (a.outcome receiveCapacity l.isShutDown), l, [.receive a.errno]⟩ :=
  Link.attempt_apply receiveCapacity a l

theorem heed_state_of_not_heeded (h : a.heeded? = none) :
    (heed a ⟨some l, false, n, s⟩).state = ⟨some l, false, n, s⟩ := by
  rw [heed_of_not_heeded h]
  rfl

/-- A call that brings a datagram or is interrupted, and during which no signal is
heeded. -/
theorem step_of_goes (hup : l.isShutDown = false) (h : ¬ a.Ends) :
    ∃ n', Server.step heed logRequests a ⟨some l, false, n, s⟩ =
      ⟨if a.errno = 0 then .served else .waiting, ⟨some l, false, n', s⟩, turn s a⟩ := by
  obtain ⟨hheeded, hfails⟩ := not_or.mp h
  rw [Option.not_isSome_iff_eq_none] at hheeded
  have hs := heed_state_of_not_heeded (l := l) (n := n) (s := s) hheeded
  by_cases hzero : a.errno = 0
  · have ha : (Connection.attempt a l).value = some (.ok (a.datagram.cut receiveCapacity)) := by
      have hgoes : ¬ (a.errno = Errno.interrupted ∧ l.isShutDown = false) :=
        fun h => absurd (hzero.symm.trans h.1) (by decide)
      rw [attempt_apply, if_neg hgoes, hup, ReceiveAnswer.outcome, if_neg (not_not_intro hzero)]
      rfl
    obtain ⟨n', hdispatch⟩ := dispatch_logRequests (a.datagram.cut receiveCapacity) (some l) false
      n s
    refine ⟨n', ?_⟩
    rw [Server.step_of_datagram hs ha, attempt_apply, hdispatch, heed_of_not_heeded hheeded,
      if_pos hzero, turn, if_pos hzero]
    rfl
  · have hintr : a.errno = Errno.interrupted :=
      Decidable.byContradiction fun hintr => hfails ⟨hzero, hintr⟩
    have ha : (Connection.attempt a l).value = none := by
      rw [attempt_apply, if_pos ⟨hintr, hup⟩]
    refine ⟨n, ?_⟩
    rw [Server.step_of_waiting hs ha, attempt_apply, heed_of_not_heeded hheeded, if_neg hzero, turn,
      if_neg hzero]
    rfl

/-- A call during which a signal is heeded, whatever it returns. -/
theorem step_of_heeded {number : Int} (hopen : l.isOpen = true) (h : a.heeded? = some number) :
    let answer := Answers.next l.answers.shutdown
    Server.step heed logRequests a ⟨some l, false, n, s⟩ =
      ⟨.ended none,
        ⟨some { l with isShutDown := true, answers := { l.answers with shutdown := answer.2 } },
          true, n, s⟩, noticed s number answer.1 ++ [.receive a.errno]⟩ := by
  intro answer
  have hheed := heed_of_heeded (n := n) (s := s) hopen h
  have hs := congrArg Outcome.state hheed
  -- the link is shut down by now, so a datagram is a failure too
  have ha : ∃ failure, (Connection.attempt a { l with
      isShutDown := true, answers := { l.answers with shutdown := answer.2 } }).value =
        some (.error failure) := by
    rw [attempt_apply, if_neg (fun h => Bool.noConfusion h.2), ReceiveAnswer.outcome]
    split
    · exact ⟨_, rfl⟩
    · exact ⟨_, rfl⟩
  obtain ⟨failure, ha⟩ := ha
  rw [Server.step_of_error hs ha, attempt_apply, hheed]
  rfl

/-- A call that fails while no signal is heeded. -/
theorem step_of_failed (h : a.heeded? = none) (hfails : a.Fails) :
    Server.step heed logRequests a ⟨some l, false, n, s⟩ =
      ⟨.ended (some (.system a.errno)), ⟨some l, false, n, s⟩, [.receive a.errno]⟩ := by
  have hs := heed_state_of_not_heeded (l := l) (n := n) (s := s) h
  have ha : (Connection.attempt a l).value = some (.error (.system a.errno)) := by
    rw [attempt_apply, if_neg (fun h => hfails.2 h.1), ReceiveAnswer.outcome, if_pos hfails.1]
  rw [Server.step_of_error hs ha, attempt_apply, heed_of_not_heeded h]
  rfl

end

/-! ## All calls -/

/-- A call is the first with which serving ends. -/
structure EndsWith (calls : List ReceiveAnswer) (k : Nat) (a : ReceiveAnswer) : Prop where
  call_eq : calls[k]? = some a
  before : ∀ b ∈ calls.take k, ¬ b.Ends
  ends : a.Ends

theorem EndsWith.zero {a : ReceiveAnswer} (calls : List ReceiveAnswer) (h : a.Ends) :
    EndsWith (a :: calls) 0 a :=
  ⟨rfl, List.forall_mem_nil _, h⟩

theorem EndsWith.succ {a b : ReceiveAnswer} {calls : List ReceiveAnswer} {k : Nat}
    (h : EndsWith calls k a) (hb : ¬ b.Ends) : EndsWith (b :: calls) (k + 1) a :=
  ⟨h.call_eq, List.forall_mem_cons.mpr ⟨hb, h.before⟩, h.ends⟩

/-- What serving leaves behind that ends with a call. -/
structure ServedUntil (calls : List ReceiveAnswer) (k : Nat) (a : ReceiveAnswer) (l : Link)
    (s : LogSettings) (o : Outcome (Server Link) (Served ReceiveAnswer)) : Prop where
  failure_eq : o.value.failure = reason? a
  link : ∃ l', o.state.connection = some l' ∧ l'.isOpen = true ∧
    l'.answers.close = l.answers.close
  events_eq : o.events =
    (calls.take k).flatMap (turn s) ++ lastTurn s (Answers.next l.answers.shutdown).1 a

/-- A call with which serving does not end puts what it leaves in front. -/
theorem ServedUntil.succ {calls : List ReceiveAnswer} {k : Nat} {a b : ReceiveAnswer} {l : Link}
    {s : LogSettings} {o o' : Outcome (Server Link) (Served ReceiveAnswer)}
    (h : ServedUntil calls k a l s o) (hfailure : o'.value.failure = o.value.failure)
    (hstate : o'.state = o.state) (hevents : o'.events = turn s b ++ o.events) :
    ServedUntil (b :: calls) (k + 1) a l s o' := by
  refine ⟨hfailure.trans h.failure_eq, hstate ▸ h.link, ?_⟩
  rw [hevents, h.events_eq, List.take_succ_cons, List.flatMap_cons, List.append_assoc]

/-- Serving on an open link ends with one of the calls.  By induction on the
answers; the calls before leave the link as it is. -/
theorem exists_served (answers : List ReceiveAnswer) {l : Link} (hopen : l.isOpen = true)
    (hup : l.isShutDown = false) (n : Nat) (s : LogSettings) :
    ∃ k a, EndsWith (answers ++ [.unanswered]) k a ∧
      ServedUntil (answers ++ [.unanswered]) k a l s
        (Server.serveOver heed logRequests answers ⟨some l, false, n, s⟩) := by
  induction answers generalizing n with
  | nil =>
      refine ⟨0, .unanswered, .zero _ (.inr ⟨by decide, by decide⟩), ?_⟩
      rw [Server.serveOver_nil]
      exact ⟨rfl, ⟨l, rfl, hopen, rfl⟩, rfl⟩
  | cons a rest ih =>
      rw [List.cons_append]
      by_cases hends : a.Ends
      · refine ⟨0, a, .zero _ hends, ?_⟩
        cases hheeded : a.heeded? with
        | some number =>
            have hstep := step_of_heeded (n := n) (s := s) hopen hheeded
            rw [Server.serveOver_cons_of_ended (congrArg Outcome.value hstep), hstep]
            exact ⟨by rw [reason?, hheeded], ⟨_, rfl, hopen, rfl⟩, by rw [lastTurn, hheeded]; rfl⟩
        | none =>
            have hfails : a.Fails := by
              rcases hends with hsome | hfails
              · rw [hheeded] at hsome
                cases hsome
              · exact hfails
            have hstep := step_of_failed (l := l) (n := n) (s := s) hheeded hfails
            rw [Server.serveOver_cons_of_ended (congrArg Outcome.value hstep), hstep]
            exact ⟨by rw [reason?, hheeded], ⟨_, rfl, hopen, rfl⟩, by rw [lastTurn, hheeded]; rfl⟩
      · obtain ⟨n', hstep⟩ := step_of_goes (n := n) (s := s) hup hends
        obtain ⟨k, b, hlast, hserved⟩ := ih n'
        refine ⟨k + 1, b, hlast.succ hends, ?_⟩
        by_cases hzero : a.errno = 0
        · rw [if_pos hzero] at hstep
          rw [Server.serveOver_cons_of_served (congrArg Outcome.value hstep), hstep]
          exact hserved.succ rfl rfl rfl
        · rw [if_neg hzero] at hstep
          rw [Server.serveOver_cons_of_waiting (congrArg Outcome.value hstep), hstep]
          exact hserved.succ rfl rfl rfl

end Daemon

end DhcpServer
