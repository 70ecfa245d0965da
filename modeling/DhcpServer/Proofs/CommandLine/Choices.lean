import DhcpServer.Proofs.Daemon.SetUp
import DhcpServer.Proofs.LastWritten

/-!
# Choices take effect from left to right

A choice that is accepted changes one setting, and opening the system log is all that
is seen of it: `apply_append`.  The process ends with the first choice that is not
accepted, and what stands behind it does not matter: `apply_of_exitStatus`.

If all choices are accepted, each setting is what the last choice of its kind says
(`settledBy_foldl_take`), so that the order of choices of different kinds does not
matter (`foldl_take_swap`).
-/

namespace DhcpServer

namespace Choice

/-- The option that a choice is made with, if there is such an option. -/
def flag? : Choice → Option Flag
  | bind _ => some .bind
  | interface _ => some .interface
  | threads _ => some .threads
  | debug => some .debug
  | syslog => some .syslog
  | version => some .version
  | help => some .help
  | invalid => none

/-- The status with which a choice ends the process, if it does. -/
def exitStatus? : Choice → Option Nat
  | threads count => if (ThreadCount.read? count.toList).isSome then none else some 1
  | version => some 0
  | help => some 0
  | invalid => some 1
  | _ => none

/-- The choices with which the process goes on are those that are accepted. -/
theorem exitStatus?_eq_none_iff {choice : Choice} :
    choice.exitStatus? = none ↔ choice.Accepted := by
  cases choice with
  | threads count =>
      show (if (ThreadCount.read? count.toList).isSome then none else some 1) = none ↔
        (ThreadCount.read? count.toList).isSome = true
      cases ThreadCount.read? count.toList <;> simp
  | _ => simp [exitStatus?, Accepted]

def address? : Choice → Option String
  | bind address => some address
  | _ => none

def device? : Choice → Option String
  | interface name => some name
  | _ => none

def workers? : Choice → Option Nat
  | threads count => ThreadCount.read? count.toList
  | _ => none

end Choice

namespace Settings

/-- The settings after a choice. -/
def take (s : Settings) : Choice → Settings
  | .bind address => { s with address }
  | .interface name => { s with device := name }
  | .threads count => { s with workers := (ThreadCount.read? count.toList).getD s.workers }
  | .debug => { s with log := s.log.setDebug true }
  | .syslog => { s with log := s.log.openSyslog }
  | _ => s

theorem take_take_swap (s : Settings) {a b : Choice} (h : a.flag? ≠ b.flag?) :
    (s.take a).take b = (s.take b).take a := by
  cases a <;> cases b <;> first | rfl | exact absurd rfl h

end Settings

namespace CommandLine

/-! ## Choices that are accepted -/

/-- What is seen of choices that are accepted. -/
def openings (choices : List Choice) : List Event :=
  (choices.filter (· = .syslog)).map fun _ => .log (LogSettings.opening logName)

/-- Choices that are accepted take effect before those that follow them. -/
theorem apply_append {before : List Choice} (h : ∀ choice ∈ before, choice.Accepted)
    (s : Settings) (after : List Choice) :
    apply s (before ++ after) =
      { apply (before.foldl Settings.take s) after with
        events := openings before ++ (apply (before.foldl Settings.take s) after).events } := by
  induction before generalizing s with
  | nil => rfl
  | cons choice before ih =>
      obtain ⟨hchoice, hbefore⟩ := List.forall_mem_cons.mp h
      have hnext := ih hbefore (s.take choice)
      cases choice with
      | bind _ => exact hnext
      | interface _ => exact hnext
      | debug => exact hnext
      | threads count =>
          obtain ⟨n, hn⟩ := Option.isSome_iff_exists.mp hchoice
          have htake : s.take (.threads count) = { s with workers := n } := by
            rw [Settings.take, hn, Option.getD_some]
          rw [htake] at hnext
          rw [List.cons_append, apply, hn, List.foldl_cons, htake]
          exact hnext
      | syslog =>
          show (apply (s.take .syslog) (before ++ after)).after _ = _
          rw [hnext]
          rfl
      | version => exact hchoice.elim
      | help => exact hchoice.elim
      | invalid => exact hchoice.elim

theorem apply_of_accepted {choices : List Choice} (h : ∀ choice ∈ choices, choice.Accepted)
    (s : Settings) :
    apply s choices = ⟨choices.foldl Settings.take s, "", none, openings choices⟩ := by
  have happend := apply_append h s []
  rw [List.append_nil] at happend
  rw [happend, apply, List.append_nil]

/-! ## The choice that ends the process -/

/-- The line that is left of a choice that ends the process, if it leaves one. -/
def lastWords (s : LogSettings) : Choice → List LogRecord
  | .threads count => s.write .critical ("invalid thread count '" ++ count ++ "'")
  | _ => []

/-- The process ends with the first choice that is not accepted, whatever follows. -/
theorem apply_of_exitStatus {last : Choice} {status : Nat} (h : last.exitStatus? = some status)
    (s : Settings) (after : List Choice) :
    apply s (last :: after) = apply s [last] ∧ (apply s [last]).settings = s ∧
      (apply s [last]).ended = some status ∧
      (apply s [last]).events = (lastWords s.log last).map .log ++ [.exit status] := by
  cases last with
  | threads count =>
      rw [Choice.exitStatus?] at h
      cases hcount : ThreadCount.read? count.toList with
      | some n =>
          rw [hcount] at h
          exact absurd h.symm (Option.some_ne_none status)
      | none =>
          rw [hcount] at h
          obtain rfl : 1 = status := Option.some.inj h
          simp only [apply, hcount]
          exact ⟨trivial, trivial, trivial, rfl⟩
  | version =>
      obtain rfl := Option.some.inj h
      exact ⟨rfl, rfl, rfl, rfl⟩
  | help =>
      obtain rfl := Option.some.inj h
      exact ⟨rfl, rfl, rfl, rfl⟩
  | invalid =>
      obtain rfl := Option.some.inj h
      exact ⟨rfl, rfl, rfl, rfl⟩
  | bind _ => exact absurd h.symm (Option.some_ne_none status)
  | interface _ => exact absurd h.symm (Option.some_ne_none status)
  | debug => exact absurd h.symm (Option.some_ne_none status)
  | syslog => exact absurd h.symm (Option.some_ne_none status)

/-- Whatever else there is, the process ends with that choice. -/
theorem start_of_exitStatus {log : LogSettings} {arguments : List String}
    {before after : List Choice} {last : Choice} {status : Nat}
    (hgiven : Choice.ofArguments (arguments.map LogSettings.upToZero) = before ++ last :: after)
    (haccepted : ∀ choice ∈ before, choice.Accepted) (hlast : last.exitStatus? = some status)
    (answers : Answers) :
    let s := before.foldl Settings.take (.initial log)
    Daemon.start log arguments answers = ⟨.exited status, (apply s [last]).printed,
      openings before ++ ((lastWords s.log last).map .log ++ [.exit status])⟩ := by
  intro s
  obtain ⟨hafter, -, hended, hevents⟩ := apply_of_exitStatus hlast s after
  have hread : read log arguments =
      { apply s [last] with events := openings before ++ (apply s [last]).events } := by
    rw [read, hgiven, apply_append haccepted, hafter]
  unfold Daemon.start
  dsimp only
  rw [hread]
  dsimp only
  rw [hended, hevents]

/-- All choices are accepted, or there is a first that ends the process. -/
theorem accepted_or_exists_exitStatus (choices : List Choice) :
    (∀ choice ∈ choices, choice.Accepted) ∨ ∃ before last after status,
      choices = before ++ last :: after ∧ (∀ choice ∈ before, choice.Accepted) ∧
        last.exitStatus? = some status := by
  cases hfirst : choices.findSome? Choice.exitStatus? with
  | none =>
      left
      intro choice hchoice
      exact Choice.exitStatus?_eq_none_iff.mp (List.findSome?_eq_none_iff.mp hfirst choice hchoice)
  | some status =>
      right
      obtain ⟨before, last, after, rfl, hlast, hbefore⟩ := List.findSome?_eq_some_iff.mp hfirst
      refine ⟨before, last, after, status, rfl, ?_, hlast⟩
      intro choice hchoice
      exact Choice.exitStatus?_eq_none_iff.mp (hbefore choice hchoice)

/-! ## The settings -/

/-- Each setting is what the last choice of its kind says, or as it is at first. -/
structure SettledBy (choices : List Choice) (s : Settings) : Prop where
  address_eq : s.address = (lastWritten? Choice.address? choices).getD ":67"
  device_eq : s.device = (lastWritten? Choice.device? choices).getD ""
  workers_eq : s.workers = (lastWritten? Choice.workers? choices).getD 2
  debug_iff : s.log.debug = true ↔ .debug ∈ choices
  toSyslog_iff : s.log.toSyslog = true ↔ .syslog ∈ choices

/-- What one choice turns on, and no other choice changes, is on after the choices if
it was on or if that choice is one of them. -/
theorem on_foldl_take (isOn : Settings → Bool) {switch : Choice}
    (h : ∀ s choice, isOn (s.take choice) = true ↔ isOn s = true ∨ switch = choice)
    (choices : List Choice) (s : Settings) :
    isOn (choices.foldl Settings.take s) = true ↔ isOn s = true ∨ switch ∈ choices := by
  induction choices generalizing s with
  | nil => simp
  | cons choice choices ih => rw [List.foldl_cons, ih, h, List.mem_cons, or_assoc]

theorem debug_take (s : Settings) (choice : Choice) :
    (s.take choice).log.debug = true ↔ s.log.debug = true ∨ .debug = choice := by
  cases choice <;> simp [Settings.take, LogSettings.setDebug, LogSettings.openSyslog]

theorem toSyslog_take (s : Settings) (choice : Choice) :
    (s.take choice).log.toSyslog = true ↔ s.log.toSyslog = true ∨ .syslog = choice := by
  cases choice <;> simp [Settings.take, LogSettings.setDebug, LogSettings.openSyslog]

theorem settledBy_foldl_take (choices : List Choice) :
    SettledBy choices (choices.foldl Settings.take (.initial .initial)) where
  address_eq := by
    refine view_foldl ?_ _
    intro s choice _
    cases choice <;> rfl
  device_eq := by
    refine view_foldl ?_ _
    intro s choice _
    cases choice <;> rfl
  workers_eq := by
    refine view_foldl ?_ _
    intro s choice _
    cases choice <;> rfl
  debug_iff :=
    (on_foldl_take (·.log.debug) debug_take choices _).trans (or_iff_right Bool.false_ne_true)
  toSyslog_iff :=
    (on_foldl_take (·.log.toSyslog) toSyslog_take choices _).trans (or_iff_right Bool.false_ne_true)

/-- Two choices of different kinds that stand side by side may change places. -/
theorem foldl_take_swap (front back : List Choice) {a b : Choice} (h : a.flag? ≠ b.flag?)
    (s : Settings) :
    (front ++ b :: a :: back).foldl Settings.take s =
      (front ++ a :: b :: back).foldl Settings.take s := by
  rw [List.foldl_append, List.foldl_append]
  simp only [List.foldl_cons]
  rw [Settings.take_take_swap _ h]

end CommandLine

end DhcpServer
