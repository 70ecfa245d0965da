import DhcpServer.Daemon
import DhcpServer.Proofs.Link.Preparing
import DhcpServer.Proofs.Link.Silence

/-!
# Before the daemon serves

The command line is read and a link is set up before the first datagram is
waited for.  Neither waits for a datagram nor closes a socket, and neither uses
up an answer that a later call waits for.

The process gets past the command line if every choice on it is accepted
(`ended_eq_none_iff`), and past the set-up if it listens (`setUp_of_listens`).
Then the link is open.
-/

namespace DhcpServer

open Run (Prepares prepares_log)

namespace Daemon

/-- The daemon listens and knows where: setting up the link and looking up its
endpoint do not fail. -/
def Listens (settings : Settings) (answers : Answers) : Prop :=
  let r := Link.listen settings.log settings.address settings.device (Link.closed answers)
  r.value = none ∧ (Link.lookUpEndpoint r.state).value.isOk = true

instance (settings : Settings) (answers : Answers) : Decidable (Listens settings answers) :=
  inferInstanceAs (Decidable (_ ∧ _))

theorem prepares_die (settings : Settings) (line : String) :
    Prepares settings.log (die settings line) :=
  .bind (prepares_log _ _) fun _ => .bind (.emit ⟨rfl, trivial⟩) fun _ => .pure _

theorem prepares_setUp (settings : Settings) : Prepares settings.log (setUp settings) := by
  refine .bind (Link.prepares_listen _ _ _) fun result => ?_
  cases result with
  | some failure => exact .bind (prepares_die _ _) fun _ => .pure _
  | none =>
      refine .bind Link.prepares_lookUpEndpoint fun found => ?_
      cases found with
      | error failure => exact .bind (prepares_die _ _) fun _ => .pure _
      | ok endpoint =>
          refine .bind (prepares_log _ _) fun _ => .bind (.emit ⟨rfl, trivial⟩) fun _ => ?_
          exact .bind (.emit ⟨rfl, trivial⟩) fun _ => .pure _

variable {settings : Settings} {answers : Answers}

/-- A daemon that does not listen ends with status one. -/
theorem setUp_of_not_listens (h : ¬ Listens settings answers) :
    (setUp settings (Link.closed answers)).value = some (.exited 1) := by
  rw [setUp, Run.bind_apply]
  cases hlisten : (Link.listen settings.log settings.address settings.device
      (Link.closed answers)).value with
  | some failure => rfl
  | none =>
      dsimp only
      rw [Run.bind_apply]
      cases hfound : (Link.lookUpEndpoint (Link.listen settings.log settings.address
          settings.device (Link.closed answers)).state).value with
      | error failure => rfl
      | ok endpoint => exact absurd ⟨hlisten, congrArg Except.isOk hfound⟩ h

/-- A daemon that listens says where, starts its workers and waits for signals. -/
theorem exists_setUp_apply (h : Listens settings answers) :
    ∃ endpoint, setUp settings (Link.closed answers) =
      ⟨none,
        (Link.lookUpEndpoint (Link.listen settings.log settings.address settings.device
          (Link.closed answers)).state).state,
        (Link.listen settings.log settings.address settings.device (Link.closed answers)).events ++
          ((settings.log.write .info (listeningLine settings endpoint)).map .log ++
            [.startWorkers settings.workers, .awaitSignals])⟩ := by
  obtain ⟨hlisten, hfound⟩ := h
  rw [setUp, Run.bind_apply, hlisten]
  dsimp only
  rw [Run.bind_apply]
  cases hendpoint : (Link.lookUpEndpoint (Link.listen settings.log settings.address
      settings.device (Link.closed answers)).state).value with
  | error failure =>
      rw [hendpoint] at hfound
      cases hfound
  | ok endpoint =>
      refine ⟨endpoint, ?_⟩
      rw [Link.lookUpEndpoint_events]
      rfl

/-- A daemon that listens gets ready to serve, on a link that is open. -/
theorem setUp_of_listens (h : Listens settings answers) :
    (setUp settings (Link.closed answers)).value = none ∧
      (setUp settings (Link.closed answers)).state.isOpen = true := by
  have hopen : (Link.listen settings.log settings.address settings.device
      (Link.closed answers)).state.isOpen = true := by
    rw [(Link.setUpBy_listen settings.log settings.address settings.device answers).isOpen_eq, h.1]
    rfl
  obtain ⟨endpoint, hsetUp⟩ := exists_setUp_apply h
  rw [hsetUp]
  exact ⟨rfl, (Link.keeps_lookUpEndpoint _).trans hopen⟩

/-- The set-up leaves what is ahead of the link as it was. -/
theorem ahead_setUp (settings : Settings) (answers : Answers) :
    let l := (setUp settings (Link.closed answers)).state
    l.isShutDown = false ∧ l.answers.receive = answers.receive ∧
      l.answers.shutdown = answers.shutdown ∧ l.answers.close = answers.close := by
  have hahead := (prepares_setUp settings).keeps (Link.closed answers)
  simpa [Link.ahead, Link.closed] using hahead

/-- What the set-up of a daemon leaves that listens. -/
theorem exists_setUp_events (h : Listens settings answers) :
    ∃ endpoint, (setUp settings (Link.closed answers)).events =
      (Link.listen settings.log settings.address settings.device (Link.closed answers)).events ++
        ((settings.log.write .info (listeningLine settings endpoint)).map .log ++
          [.startWorkers settings.workers, .awaitSignals]) := by
  obtain ⟨endpoint, hsetUp⟩ := exists_setUp_apply h
  exact ⟨endpoint, congrArg Outcome.events hsetUp⟩

theorem awaitSignals_not_mem_die (settings : Settings) (line : String) (l : Link) :
    Event.awaitSignals ∉ (die settings line l).events := by
  intro h
  rcases List.mem_append.mp h with h | h
  · obtain ⟨record, -, hrecord⟩ := List.mem_map.mp h
    cases hrecord
  · cases List.mem_singleton.mp h

/-- The daemon waits for signals if it listens, and only then. -/
theorem awaitSignals_mem_setUp_iff :
    .awaitSignals ∈ (setUp settings (Link.closed answers)).events ↔ Listens settings answers := by
  constructor
  · intro h
    have hlisten : Event.awaitSignals ∉ (Link.listen settings.log settings.address
        settings.device (Link.closed answers)).events := by
      intro hmem
      rcases Link.of_mem_listen hmem with h | h | h <;> cases h
    rw [setUp, Run.bind_apply] at h
    cases hvalue : (Link.listen settings.log settings.address settings.device
        (Link.closed answers)).value with
    | some failure =>
        rw [hvalue] at h
        dsimp only at h
        rw [Run.bind_apply, Run.pure_apply, List.append_nil] at h
        exact absurd h (List.not_mem_append hlisten (awaitSignals_not_mem_die _ _ _))
    | none =>
        rw [hvalue] at h
        dsimp only at h
        rw [Run.bind_apply, Link.lookUpEndpoint_events] at h
        cases hfound : (Link.lookUpEndpoint (Link.listen settings.log settings.address
            settings.device (Link.closed answers)).state).value with
        | error failure =>
            rw [hfound] at h
            dsimp only at h
            rw [Run.bind_apply, Run.pure_apply, List.append_nil] at h
            exact absurd h (List.not_mem_append hlisten (awaitSignals_not_mem_die _ _ _))
        | ok endpoint => exact ⟨hvalue, congrArg Except.isOk hfound⟩
  · intro h
    obtain ⟨endpoint, hevents⟩ := exists_setUp_events h
    rw [hevents]
    exact List.mem_append_right _ (List.mem_append_right _ (.tail _ (.head _)))

end Daemon

/-! ## The command line -/

/-- A choice that the daemon starts with: it asks for neither the version nor
help, is valid, and asks for no threads that cannot be had. -/
def Choice.Accepted : Choice → Prop
  | .threads count => (ThreadCount.read? count.toList).isSome
  | .version => False
  | .help => False
  | .invalid => False
  | _ => True

namespace CommandLine

/-- The process gets past a command line if all choices on it are accepted. -/
theorem ended_eq_none_iff (s : Settings) (choices : List Choice) :
    (apply s choices).ended = none ↔ ∀ choice ∈ choices, choice.Accepted := by
  induction choices generalizing s with
  | nil => simp [apply]
  | cons choice rest ih =>
      rw [List.forall_mem_cons]
      have hgoes : ∀ {P : Prop} (s' : Settings), P →
          ((apply s' rest).ended = none ↔ P ∧ ∀ choice ∈ rest, choice.Accepted) :=
        fun s' hP => (ih s').trans (and_iff_right hP).symm
      have hends : ∀ {P : Prop} {status : Nat}, ¬ P →
          (some status = none ↔ P ∧ ∀ choice ∈ rest, choice.Accepted) :=
        fun hP => iff_of_false (Option.some_ne_none _) fun h => hP h.1
      cases choice with
      | bind _ => exact hgoes _ trivial
      | interface _ => exact hgoes _ trivial
      | debug => exact hgoes _ trivial
      | syslog => exact hgoes _ trivial
      | threads count =>
          rw [apply, Choice.Accepted]
          cases ThreadCount.read? count.toList with
          | some n => exact hgoes _ rfl
          | none => exact hends Bool.false_ne_true
      | version => exact hends not_false
      | help => exact hends not_false
      | invalid => exact hends not_false

theorem preparatory_apply (s : Settings) (choices : List Choice) :
    ∀ e ∈ (apply s choices).events, e.preparatory = true := by
  have hends : ∀ (s : Settings) status text, ∀ e ∈ (endWith s status text).events,
      e.preparatory = true := by
    intro s status text e he
    obtain rfl := List.mem_singleton.mp he
    rfl
  induction choices generalizing s with
  | nil => exact List.forall_mem_nil _
  | cons choice rest ih =>
      cases choice with
      | bind _ => exact ih _
      | interface _ => exact ih _
      | debug => exact ih _
      | syslog => exact List.forall_mem_cons.mpr ⟨rfl, ih _⟩
      | threads count =>
          rw [apply]
          cases ThreadCount.read? count.toList with
          | some n => exact ih _
          | none =>
              intro e he
              rcases List.mem_append.mp he with he | he
              · obtain ⟨record, -, rfl⟩ := List.mem_map.mp he
                rfl
              · obtain rfl := List.mem_singleton.mp he
                rfl
      | version => exact hends _ _ _
      | help => exact hends _ _ _
      | invalid => exact hends _ _ _

/-- Opening the system log is all that a command line does unless it ends the
process. -/
theorem of_mem_apply {s : Settings} {choices : List Choice} {e : Event}
    (h : e ∈ (apply s choices).events) :
    e = .log (LogSettings.opening logName) ∨
      (apply s choices).ended ≠ none ∧ (e.isLogEntry = true ∨ ∃ status, e = .exit status) := by
  induction choices generalizing s with
  | nil => cases h
  | cons choice rest ih =>
      cases choice with
      | bind _ => exact ih h
      | interface _ => exact ih h
      | debug => exact ih h
      | syslog =>
          rcases List.mem_cons.mp h with rfl | h
          · exact .inl rfl
          · exact ih h
      | threads count =>
          rw [apply] at h ⊢
          cases hcount : ThreadCount.read? count.toList with
          | some n =>
              rw [hcount] at h
              exact ih h
          | none =>
              rw [hcount] at h
              refine .inr ⟨Option.some_ne_none 1, ?_⟩
              rcases List.mem_append.mp h with h | h
              · obtain ⟨record, -, rfl⟩ := List.mem_map.mp h
                exact .inl rfl
              · exact .inr ⟨1, List.mem_singleton.mp h⟩
      | version => exact .inr ⟨Option.some_ne_none 0, .inr ⟨0, List.mem_singleton.mp h⟩⟩
      | help => exact .inr ⟨Option.some_ne_none 0, .inr ⟨0, List.mem_singleton.mp h⟩⟩
      | invalid => exact .inr ⟨Option.some_ne_none 1, .inr ⟨1, List.mem_singleton.mp h⟩⟩

/-- No command line asks for no threads at all. -/
theorem workers_pos_apply {s : Settings} (h : 0 < s.workers) (choices : List Choice) :
    0 < (apply s choices).settings.workers := by
  induction choices generalizing s with
  | nil => exact h
  | cons choice rest ih =>
      cases choice with
      | bind _ => exact ih h
      | interface _ => exact ih h
      | debug => exact ih h
      | syslog => exact ih h
      | threads count =>
          rw [apply]
          cases hcount : ThreadCount.read? count.toList with
          | some n => exact ih (ThreadCount.bounds_of_read? hcount).1
          | none => exact h
      | version => exact h
      | help => exact h
      | invalid => exact h

end CommandLine

end DhcpServer
