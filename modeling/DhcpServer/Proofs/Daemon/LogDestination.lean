import DhcpServer.Proofs.CommandLine.Choices
import DhcpServer.Proofs.Daemon.Requests

/-!
# Where lines go

A line goes to standard error as long as the system log has not been opened, and to the
system log from then on (`Directed`).  The system log is opened on the command line or
not at all, and all that follows writes its lines with the settings that the command
line has left: `writtenWith_run` for the daemon, and `Crew.Step.forall_kind` for threads
that write lines of their own.

So choices take effect in their order, each for what comes after it:
`choices_take_effect_in_order`.
-/

namespace DhcpServer

/-! ## Lines before and after the system log is opened -/

/-- The system log is opened. -/
def Event.opened : Event := .log (LogSettings.opening CommandLine.logName)

/-- Each line goes to one place: to standard error as long as the system log has not been
opened, and to the system log from then on. -/
def Directed (es : List Event) : Prop :=
  ∀ front entry back, es = front ++ .log entry :: back → .log entry ≠ Event.opened →
    (Event.opened ∉ front → ∃ text, entry = .stderr text) ∧
      (Event.opened ∈ front → ∃ priority line, entry = .syslog priority line)

section

variable {s : LogSettings} {es : List Event}

theorem exists_stderr_of_mem_write {level : LogLevel} {line : String} {entry : LogRecord}
    (hs : s.toSyslog = false) (h : entry ∈ s.write level line) : ∃ text, entry = .stderr text := by
  unfold LogSettings.write at h
  rw [hs, if_neg Bool.false_ne_true] at h
  split at h
  · exact ⟨_, List.mem_singleton.mp h⟩
  · cases h

theorem exists_syslog_of_mem_write {level : LogLevel} {line : String} {entry : LogRecord}
    (hs : s.toSyslog = true) (h : entry ∈ s.write level line) :
    ∃ priority line, entry = .syslog priority line := by
  unfold LogSettings.write at h
  rw [hs, if_pos rfl] at h
  split at h
  · exact ⟨_, _, List.mem_singleton.mp h⟩
  · cases h

theorem directed_of_unopened (hs : s.toSyslog = false) (h : ∀ e ∈ es, e.WrittenWith s) :
    Directed es := by
  rintro front entry back rfl -
  obtain ⟨hfront, hback⟩ := List.forall_mem_append.mp h
  constructor
  · intro _
    obtain ⟨level, line, hline⟩ := hback _ List.mem_cons_self
    exact exists_stderr_of_mem_write hs hline
  · intro hopened
    obtain ⟨level, line, hline⟩ := hfront _ hopened
    obtain ⟨text, htext⟩ := exists_stderr_of_mem_write hs hline
    cases htext

theorem directed_of_opened (hs : s.toSyslog = true)
    (h : ∀ e ∈ es, e = .opened ∨ e.WrittenWith s) : Directed (.opened :: es) := by
  intro front entry back heq hne
  cases front with
  | nil => exact absurd (List.cons.inj heq).1.symm hne
  | cons first front =>
      obtain ⟨rfl, rfl⟩ := List.cons.inj heq
      have hentry : ∃ level line, entry ∈ s.write level line :=
        (h _ (List.mem_append_right _ List.mem_cons_self)).resolve_left hne
      constructor
      · intro hopened
        exact absurd List.mem_cons_self hopened
      · intro _
        obtain ⟨level, line, hline⟩ := hentry
        exact exists_syslog_of_mem_write hs hline

end

namespace CommandLine

theorem mem_openings {choices : List Choice} {e : Event} (h : e ∈ openings choices) :
    e = .opened := by
  obtain ⟨choice, -, rfl⟩ := List.mem_map.mp h
  rfl

/-- The system log is the first thing to be opened, if it was chosen. -/
theorem openings_cases (choices : List Choice) :
    ((choices.foldl Settings.take (.initial .initial)).log.toSyslog = false ∧
        openings choices = []) ∨
      ((choices.foldl Settings.take (.initial .initial)).log.toSyslog = true ∧
        ∃ more, openings choices = .opened :: more) := by
  have hiff := (settledBy_foldl_take choices).toSyslog_iff
  cases hopenings : openings choices with
  | nil =>
      left
      refine ⟨?_, rfl⟩
      rw [← Bool.not_eq_true, hiff]
      intro hmem
      have hopened : Event.opened ∈ openings choices :=
        List.mem_map.mpr ⟨.syslog, List.mem_filter.mpr ⟨hmem, by decide⟩, rfl⟩
      rw [hopenings] at hopened
      cases hopened
  | cons first more =>
      right
      have hfirst : first ∈ openings choices := hopenings ▸ List.mem_cons_self
      obtain ⟨choice, hchoice, rfl⟩ := List.mem_map.mp hfirst
      obtain ⟨hmem, hsyslog⟩ := List.mem_filter.mp hchoice
      obtain rfl := of_decide_eq_true hsyslog
      exact ⟨hiff.mpr hmem, more, rfl⟩

theorem directed_openings_append {choices : List Choice} {es : List Event}
    (h : ∀ e ∈ es, e.WrittenWith (choices.foldl Settings.take (.initial .initial)).log) :
    Directed (openings choices ++ es) := by
  rcases openings_cases choices with ⟨hs, hnone⟩ | ⟨hs, more, hmore⟩
  · rw [hnone]
    exact directed_of_unopened hs h
  · rw [hmore]
    refine directed_of_opened hs ?_
    intro e he
    rcases List.mem_append.mp he with he | he
    · exact .inl (mem_openings (hmore ▸ List.mem_cons_of_mem _ he))
    · exact .inr (h e he)

end CommandLine

namespace Daemon

open CommandLine Relation

/-! ## The daemon -/

section

variable {settings : Settings} {answers : Answers}

theorem writtenWith_logged (s : LogSettings) (level : LogLevel) (line : String) :
    ∀ e ∈ logged s level line, e.WrittenWith s := by
  intro e he
  obtain ⟨entry, hentry, rfl⟩ := List.mem_map.mp he
  exact ⟨level, line, hentry⟩

/-- A daemon that does not listen is done with the set-up. -/
theorem runWith_of_not_listens (h : ¬ Listens settings answers) (handler : Handler Link) :
    (runWith handler settings (Link.closed answers)).events =
      (setUp settings (Link.closed answers)).events := by
  rw [runWith, Run.bind_apply, setUp_of_not_listens h]
  exact List.append_nil _

theorem writtenWith_run (settings : Settings) (answers : Answers) :
    ∀ e ∈ (run settings (Link.closed answers)).events, e.WrittenWith settings.log := by
  have hsetUp := (prepares_setUp settings).writtenWith (Link.closed answers)
  have hlines := writtenWith_logged settings.log
  by_cases h : Listens settings answers
  · obtain ⟨k, a, before, -, -, hrun, hbefore⟩ := exists_thread h
    rw [hrun, hbefore]
    simp only [List.forall_mem_append]
    refine ⟨⟨hsetUp, ?_, ?_⟩, ?_⟩
    · intro e he
      obtain ⟨call, -, hcall⟩ := List.mem_flatMap.mp he
      exact forall_mem_turn hlines trivial e hcall
    · exact forall_mem_lastTurn hlines trivial trivial
    · exact forall_mem_ending hlines trivial trivial answers (reason? a)
  · rw [run_eq_runWith, runWith_of_not_listens h]
    exact hsetUp

/-- The serving thread writes what the daemon writes, apart from the lines of messages. -/
theorem writtenWith_runWith_handOn (settings : Settings) (answers : Answers) :
    ∀ e ∈ (runWith handOn settings (Link.closed answers)).events, e.WrittenWith settings.log := by
  by_cases h : Listens settings answers
  · obtain ⟨k, a, before, -, hthread, hrun, -⟩ := exists_thread h
    intro e he
    cases e with
    | log entry =>
        refine writtenWith_run settings answers _ ?_
        rw [hthread] at he
        rw [hrun]
        rcases List.mem_append.mp he with he | he
        · exact List.mem_append_left _ (List.mem_flatMap.mpr ⟨_, he, List.mem_singleton_self _⟩)
        · exact List.mem_append_right _ he
    | _ => trivial
  · rw [runWith_of_not_listens h]
    exact (prepares_setUp settings).writtenWith _

end

/-! ## Threads that take turns -/

section

variable {s : LogSettings} {workers : Nat} {c c' : Crew}

/-- What is done and what is ahead of the serving thread is of a kind, if the lines of
messages are. -/
theorem Crew.Step.forall_kind {kind : Event → Prop}
    (hlines : ∀ line, ∀ e ∈ logged s .info line, kind e) (h : Crew.Step s workers c c')
    (hc : (∀ e ∈ c.done, kind e) ∧ ∀ e ∈ c.ahead, kind e) :
    (∀ e ∈ c'.done, kind e) ∧ ∀ e ∈ c'.ahead, kind e := by
  obtain ⟨hdone, hahead⟩ := hc
  cases h with
  | post m ahead waiting busy done => exact ⟨hdone, (List.forall_mem_cons.mp hahead).2⟩
  | take m ahead waiting waiting' busy busy' done once => exact ⟨hdone, hahead⟩
  | write line lines early late ahead waiting done =>
      exact ⟨List.forall_mem_append.mpr ⟨hdone, hlines line⟩, hahead⟩
  | rest early late ahead waiting done => exact ⟨hdone, hahead⟩
  | join ahead waiting busy done finished =>
      obtain ⟨hjoin, hahead⟩ := List.forall_mem_cons.mp hahead
      exact ⟨List.forall_mem_append.mpr ⟨hdone, List.forall_mem_singleton.mpr hjoin⟩, hahead⟩
  | act e ahead waiting busy done hpost hjoin =>
      obtain ⟨he, hahead⟩ := List.forall_mem_cons.mp hahead
      exact ⟨List.forall_mem_append.mpr ⟨hdone, List.forall_mem_singleton.mpr he⟩, hahead⟩

/-- The threads have yet to begin, or an event was the first that they did. -/
def Crew.BegunWith (first : Event) (later : List Event) (c : Crew) : Prop :=
  c = ⟨first :: later, [], [], []⟩ ∨ ∃ done, c.done = first :: done

/-- Nothing can come before the opening of the system log if that is ahead. -/
theorem Crew.Step.begunWith {later : List Event} (h : Crew.Step s workers c c')
    (hc : c.BegunWith .opened later) : c'.BegunWith .opened later := by
  rcases hc with rfl | ⟨done, hdone⟩
  · -- no worker has anything to write before the serving thread has handed a message on
    generalize hbusy : ([] : List (List String)) = busy at h
    cases h with
    | act => exact .inr ⟨[], rfl⟩
    | take m ahead waiting waiting' busy busy' done once => cases once.waiting_eq
    | write => exact absurd hbusy.symm (List.append_ne_nil_of_right_ne_nil _ (List.cons_ne_nil _ _))
    | rest => exact absurd hbusy.symm (List.append_ne_nil_of_right_ne_nil _ (List.cons_ne_nil _ _))
  · right
    cases h with
    | post m ahead waiting busy done => exact ⟨_, hdone⟩
    | take m ahead waiting waiting' busy busy' done once => exact ⟨_, hdone⟩
    | write line lines early late ahead waiting done =>
        exact ⟨_, congrArg (· ++ logged s .info line) hdone⟩
    | rest early late ahead waiting done => exact ⟨_, hdone⟩
    | join ahead waiting busy done finished => exact ⟨_, congrArg (· ++ [.joinWorkers]) hdone⟩
    | act e ahead waiting busy done hpost hjoin => exact ⟨_, congrArg (· ++ [e]) hdone⟩

/-- So it is however the threads have taken turns so far. -/
theorem Crew.forall_mem_done {kind : Event → Prop} {told : List Event}
    (hlines : ∀ line, ∀ e ∈ logged s .info line, kind e) (htold : ∀ e ∈ told, kind e)
    (h : ReflTransGen (Crew.Step s workers) ⟨told, [], [], []⟩ c) : ∀ e ∈ c.done, kind e := by
  suffices hboth : (∀ e ∈ c.done, kind e) ∧ ∀ e ∈ c.ahead, kind e from hboth.1
  induction h with
  | refl => exact ⟨List.forall_mem_nil _, htold⟩
  | tail _ hstep ih => exact hstep.forall_kind hlines ih

theorem Crew.begunWith_of_steps {later : List Event}
    (h : ReflTransGen (Crew.Step s workers) ⟨.opened :: later, [], [], []⟩ c) :
    c.BegunWith .opened later := by
  induction h with
  | refl => exact .inl rfl
  | tail _ hstep ih => exact hstep.begunWith ih

end

/-! ## Choices and lines in their order -/

/-- The process ends with a choice, after those before it have taken effect. -/
structure EndedBy (before : List Choice) (last : Choice) (status : Nat) (r : Result) : Prop where
  status_eq : r.status = .exited status
  openSocket_not_mem : .openSocket ∉ r.events
  events_eq : r.events = CommandLine.openings before ++
    ((lastWords (before.foldl Settings.take (.initial .initial)).log last).map .log ++
      [.exit status])

/-- All choices have taken effect.  The last of a kind decides, and it makes no difference
in which order two neighbours of different kinds stand. -/
structure TakenEffect (choices : List Choice) (line : CommandLine.Result) : Prop where
  ended_eq : line.ended = none
  events_eq : line.events = CommandLine.openings choices
  settledBy : SettledBy choices line.settings
  settings_swap : ∀ front a b back, choices = front ++ a :: b :: back → a.flag? ≠ b.flag? →
    (apply (.initial .initial) (front ++ b :: a :: back)).settings = line.settings

section

variable {arguments : List String} {answers : Answers}

theorem read_of_accepted
    (h : ∀ choice ∈ Choice.ofArguments (arguments.map LogSettings.upToZero), choice.Accepted) :
    let choices := Choice.ofArguments (arguments.map LogSettings.upToZero)
    read .initial arguments =
      ⟨choices.foldl Settings.take (.initial .initial), "", none, CommandLine.openings choices⟩ :=
  apply_of_accepted h _

theorem endedBy_start {before after : List Choice} {last : Choice} {status : Nat}
    (hgiven : Choice.ofArguments (arguments.map LogSettings.upToZero) = before ++ last :: after)
    (haccepted : ∀ choice ∈ before, choice.Accepted) (hlast : last.exitStatus? = some status) :
    EndedBy before last status (start .initial arguments answers) := by
  have hstart : start .initial arguments answers = _ :=
    start_of_exitStatus hgiven haccepted hlast answers
  refine ⟨congrArg _ hstart, ?_, congrArg _ hstart⟩
  simp [hstart, CommandLine.openings]

theorem takenEffect_read
    (h : ∀ choice ∈ Choice.ofArguments (arguments.map LogSettings.upToZero), choice.Accepted) :
    TakenEffect (Choice.ofArguments (arguments.map LogSettings.upToZero))
      (read .initial arguments) := by
  rw [read_of_accepted h]
  refine ⟨rfl, rfl, settledBy_foldl_take _, ?_⟩
  intro front a b back hgiven hkinds
  have hswapped : ∀ choice ∈ front ++ b :: a :: back, choice.Accepted := by
    intro choice hchoice
    refine h choice ?_
    rw [hgiven]
    exact ((List.Perm.swap a b back).append_left front).mem_iff.mp hchoice
  rw [apply_of_accepted hswapped, foldl_take_swap front back hkinds, ← hgiven]

theorem events_start_of_accepted
    (h : ∀ choice ∈ Choice.ofArguments (arguments.map LogSettings.upToZero), choice.Accepted) :
    (start .initial arguments answers).events =
      CommandLine.openings (Choice.ofArguments (arguments.map LogSettings.upToZero)) ++
        (run (read .initial arguments).settings (Link.closed answers)).events := by
  have htaken := takenEffect_read h
  rw [(start_of_goes answers htaken.ended_eq).2, htaken.events_eq]

theorem directed_start (arguments : List String) (answers : Answers) :
    Directed (start .initial arguments answers).events := by
  rcases accepted_or_exists_exitStatus (Choice.ofArguments (arguments.map LogSettings.upToZero))
    with haccepted | ⟨before, last, after, status, hgiven, haccepted, hlast⟩
  · rw [events_start_of_accepted haccepted, read_of_accepted haccepted]
    exact directed_openings_append (writtenWith_run _ answers)
  · rw [(endedBy_start hgiven haccepted hlast).events_eq]
    refine directed_openings_append (List.forall_mem_append.mpr ⟨?_, ?_⟩)
    · cases last with
      | threads count => exact writtenWith_logged _ _ _
      | _ => exact List.forall_mem_nil _
    · exact List.forall_mem_singleton.mpr trivial

theorem directed_done {c : Crew}
    (haccepted : ∀ choice ∈ Choice.ofArguments (arguments.map LogSettings.upToZero),
      choice.Accepted)
    (h : ReflTransGen (Crew.Step (read .initial arguments).settings.log
      (read .initial arguments).settings.workers)
      ⟨thread .initial arguments answers, [], [], []⟩ c) :
    Directed c.done := by
  let choices := Choice.ofArguments (arguments.map LogSettings.upToZero)
  let settings := choices.foldl Settings.take (.initial .initial)
  let told := (runWith handOn settings (Link.closed answers)).events
  have htold : ∀ e ∈ told, e.WrittenWith settings.log := writtenWith_runWith_handOn settings answers
  have hlines := writtenWith_logged settings.log .info
  have hread : read .initial arguments = ⟨settings, "", none, CommandLine.openings choices⟩ :=
    read_of_accepted haccepted
  have hthread : thread .initial arguments answers = CommandLine.openings choices ++ told := by
    rw [thread, hread]
  rw [hthread, hread] at h
  rcases openings_cases choices with ⟨hs, hnone⟩ | ⟨hs, more, hmore⟩
  · rw [hnone, List.nil_append] at h
    exact directed_of_unopened hs (Crew.forall_mem_done hlines htold h)
  · rw [hmore, List.cons_append] at h
    have hdone : ∀ e ∈ c.done, e = .opened ∨ e.WrittenWith settings.log := by
      refine Crew.forall_mem_done (fun line e he => .inr (hlines line e he)) ?_ h
      rw [← List.cons_append, ← hmore]
      intro e he
      rcases List.mem_append.mp he with he | he
      · exact .inl (mem_openings he)
      · exact .inr (htold e he)
    rcases Crew.begunWith_of_steps h with rfl | ⟨done, heq⟩
    · -- nothing has been written yet, so that any settings will do
      exact directed_of_unopened (s := .initial) rfl (List.forall_mem_nil _)
    · rw [heq] at hdone ⊢
      exact directed_of_opened hs (List.forall_mem_cons.mp hdone).2

/-- Choices take effect from left to right.  The process ends with the first that ends
it, and opens no socket.  If there is none, all have taken effect before the daemon runs.
Each line of the whole run goes where the choices up to then say, however the threads
take turns. -/
theorem choices_take_effect_in_order (arguments : List String) (answers : Answers) :
    let choices := Choice.ofArguments (arguments.map LogSettings.upToZero)
    let line := read .initial arguments
    let r := start .initial arguments answers
    (∀ before last after status, choices = before ++ last :: after →
      (∀ choice ∈ before, choice.Accepted) → last.exitStatus? = some status →
      EndedBy before last status r) ∧
      ((∀ choice ∈ choices, choice.Accepted) →
        TakenEffect choices line ∧
          r.events = CommandLine.openings choices ++
            (run line.settings (Link.closed answers)).events ∧
          ∀ c, ReflTransGen (Crew.Step line.settings.log line.settings.workers)
            ⟨thread .initial arguments answers, [], [], []⟩ c → Directed c.done) ∧
      Directed r.events := by
  intro choices line r
  refine ⟨?_, ?_, directed_start arguments answers⟩
  · intro before last after status hgiven haccepted hlast
    exact endedBy_start hgiven haccepted hlast
  · intro haccepted
    refine ⟨takenEffect_read haccepted, events_start_of_accepted haccepted, ?_⟩
    intro c hsteps
    exact directed_done haccepted hsteps

/-- No threads are asked for once the system log has been opened; help is asked for in
vain. -/
theorem choices_take_effect_in_order_refused :
    let r := start .initial ["-ds", "--threads=0", "-h"] (.receiving [])
    r.status = .exited 1 ∧ Directed r.events ∧
      r.events = [.opened, .log (.syslog 2 "invalid thread count '0'"), .exit 1] := by
  intro r
  have hgiven : Choice.ofArguments (["-ds", "--threads=0", "-h"].map LogSettings.upToZero) =
      [.debug, .syslog] ++ .threads "0" :: [.help] := by decide +kernel
  have haccepted : ∀ choice ∈ [Choice.debug, .syslog], choice.Accepted := by
    simp [Choice.Accepted]
  have hlast : (Choice.threads "0").exitStatus? = some 1 := by decide +kernel
  obtain ⟨hends, -, hdirected⟩ := choices_take_effect_in_order ["-ds", "--threads=0", "-h"]
    (.receiving [])
  obtain ⟨hstatus, -, hevents⟩ := hends _ _ _ 1 hgiven haccepted hlast
  refine ⟨hstatus, hdirected, hevents.trans ?_⟩
  decide +kernel

end

end Daemon

end DhcpServer
