import DhcpServer.Proofs.Daemon.Serving
import DhcpServer.Proofs.Daemon.SetUp
import DhcpServer.Proofs.RequestLog.Lines

/-!
# How the daemon ends

The signal handler waits for one signal only: `Signalled` says during which call
a signal is heeded, if all signals are told.  A daemon that listens makes the
calls up to the first during which a signal is heeded or that fails otherwise,
closes its socket once and ends with status zero if that was a signal, whatever
the calls return then: `termination`.

The lines that the end leaves are told as records (`toldOfSignal`, `toldOfClosing`,
`toldOfFailure`), apart from how the daemon writes them.
-/

namespace DhcpServer.Daemon

/-! ## The one signal that is waited for -/

/-- A signal is heeded during a call: it is the first signal of all, and its
delivery is not given up. -/
structure Signalled (calls : List ReceiveAnswer) (k : Nat) (number : Int) : Prop where
  first : ∀ b ∈ calls.take k, b.signal = none
  comes : ∃ a, calls[k]? = some a ∧ a.signal = some ⟨number, false⟩

/-- A call fails, and not because it is interrupted. -/
def FailsAt (calls : List ReceiveAnswer) (k : Nat) : Prop :=
  ∃ a, calls[k]? = some a ∧ a.Fails

/-- A call is the first during which a signal is heeded or that fails. -/
structure EndsAt (calls : List ReceiveAnswer) (k : Nat) : Prop where
  before : ∀ j < k, (∀ number, ¬ Signalled calls j number) ∧ ¬ FailsAt calls j
  ends : (∃ number, Signalled calls k number) ∨ FailsAt calls k

/-- An answer without its signal. -/
def silenced (a : ReceiveAnswer) : ReceiveAnswer := { a with signal := none }

theorem map_silenced_withFirstSignal (calls : List ReceiveAnswer) :
    (withFirstSignal calls).map silenced = calls.map silenced := by
  induction calls with
  | nil => rfl
  | cons a rest ih =>
      rw [withFirstSignal, List.map_cons, List.map_cons]
      split
      · show _ :: (rest.map silenced).map silenced = _
        rw [List.map_map]
        rfl
      · rw [ih]

theorem withFirstSignal_unanswered (answers : List ReceiveAnswer) :
    withFirstSignal answers ++ [.unanswered] = withFirstSignal (answers ++ [.unanswered]) := by
  induction answers with
  | nil => rfl
  | cons a rest ih =>
      rw [List.cons_append, withFirstSignal, withFirstSignal, List.cons_append]
      split
      · rw [withoutSignals, withoutSignals, List.map_append]
        rfl
      · rw [ih]

theorem signalled_zero {a : ReceiveAnswer} {rest : List ReceiveAnswer} {number : Int} :
    Signalled (a :: rest) 0 number ↔ a.heeded? = some number := by
  rw [ReceiveAnswer.heeded?_eq_some_iff]
  constructor
  · rintro ⟨-, b, hb, hsignal⟩
    obtain rfl := Option.some.inj hb
    exact hsignal
  · exact fun h => ⟨List.forall_mem_nil _, a, rfl, h⟩

theorem signalled_succ {a : ReceiveAnswer} {rest : List ReceiveAnswer} {k : Nat} {number : Int} :
    Signalled (a :: rest) (k + 1) number ↔ a.signal = none ∧ Signalled rest k number := by
  constructor
  · rintro ⟨hfirst, hcomes⟩
    obtain ⟨ha, hfirst⟩ := List.forall_mem_cons.mp hfirst
    exact ⟨ha, hfirst, hcomes⟩
  · rintro ⟨ha, hfirst, hcomes⟩
    exact ⟨List.forall_mem_cons.mpr ⟨ha, hfirst⟩, hcomes⟩

theorem not_signalled_withoutSignals {a : ReceiveAnswer} {rest : List ReceiveAnswer} {k : Nat}
    (h : (withoutSignals rest)[k]? = some a) : a.heeded? = none := by
  rw [withoutSignals, List.getElem?_map] at h
  obtain ⟨b, -, rfl⟩ := Option.map_eq_some_iff.mp h
  rfl

/-- The signals that are left are those that are heeded. -/
theorem heeded?_withFirstSignal {calls : List ReceiveAnswer} {k : Nat} {a : ReceiveAnswer}
    (h : (withFirstSignal calls)[k]? = some a) (number : Int) :
    a.heeded? = some number ↔ Signalled calls k number := by
  induction calls generalizing k with
  | nil => cases h
  | cons b rest ih =>
      rw [withFirstSignal] at h
      cases k with
      | zero =>
          obtain rfl := Option.some.inj h
          exact signalled_zero.symm
      | succ k =>
          rw [List.getElem?_cons_succ] at h
          rw [signalled_succ]
          cases hb : b.signal with
          | some signal =>
              rw [hb, Option.isSome_some, if_pos rfl] at h
              rw [not_signalled_withoutSignals h]
              exact iff_of_false (fun h => by cases h) fun h => by cases h.1
          | none =>
              rw [hb, Option.isSome_none, if_neg Bool.false_ne_true] at h
              exact (ih h).trans (and_iff_right rfl).symm

theorem getElem?_withFirstSignal (calls : List ReceiveAnswer) (k : Nat) :
    (withFirstSignal calls)[k]?.map silenced = calls[k]?.map silenced := by
  rw [← List.getElem?_map, ← List.getElem?_map, map_silenced_withFirstSignal]

theorem failsAt_iff {calls : List ReceiveAnswer} {k : Nat} :
    FailsAt calls k ↔ ∃ a, calls[k]?.map silenced = some a ∧ a.Fails := by
  constructor
  · rintro ⟨a, ha, hfails⟩
    exact ⟨silenced a, by rw [ha, Option.map_some], hfails⟩
  · rintro ⟨a, ha, hfails⟩
    obtain ⟨b, hb, rfl⟩ := Option.map_eq_some_iff.mp ha
    exact ⟨b, hb, hfails⟩

/-- Serving ends with the calls that it ought to end with. -/
theorem ends_withFirstSignal_iff {calls : List ReceiveAnswer} {k : Nat} :
    (∃ a, (withFirstSignal calls)[k]? = some a ∧ a.Ends) ↔
      (∃ number, Signalled calls k number) ∨ FailsAt calls k := by
  have hfails : FailsAt (withFirstSignal calls) k ↔ FailsAt calls k := by
    rw [failsAt_iff, failsAt_iff, getElem?_withFirstSignal]
  constructor
  · rintro ⟨a, ha, hheeded | hfail⟩
    · obtain ⟨number, hnumber⟩ := Option.isSome_iff_exists.mp hheeded
      exact .inl ⟨number, (heeded?_withFirstSignal ha number).mp hnumber⟩
    · exact .inr (hfails.mp ⟨a, ha, hfail⟩)
  · rintro (⟨number, hsignalled⟩ | hfail)
    · obtain ⟨b, hb, -⟩ := hsignalled.comes
      obtain ⟨a, ha, -⟩ := Option.map_eq_some_iff.mp
        ((getElem?_withFirstSignal calls k).trans (congrArg _ hb))
      have hnumber := (heeded?_withFirstSignal ha number).mpr hsignalled
      exact ⟨a, ha, .inl (Option.isSome_iff_exists.mpr ⟨number, hnumber⟩)⟩
    · obtain ⟨a, ha, hfail⟩ := hfails.mpr hfail
      exact ⟨a, ha, .inr hfail⟩

theorem EndsWith.endsAt {calls : List ReceiveAnswer} {k : Nat} {a : ReceiveAnswer}
    (h : EndsWith (withFirstSignal calls) k a) : EndsAt calls k := by
  constructor
  · intro j hj
    rw [← not_exists, ← not_or, ← ends_withFirstSignal_iff]
    rintro ⟨b, hb, hends⟩
    rw [← List.getElem?_take_of_lt hj] at hb
    exact h.before b (List.mem_of_getElem? hb) hends
  · exact ends_withFirstSignal_iff.mp ⟨a, h.call_eq, h.ends⟩

/-- Signals leave nothing that is not told of the call with which serving ends. -/
theorem flatMap_turn_withFirstSignal (s : LogSettings) (calls : List ReceiveAnswer) (k : Nat) :
    ((withFirstSignal calls).take k).flatMap (turn s) = (calls.take k).flatMap (turn s) := by
  have hsilenced : ∀ calls : List ReceiveAnswer,
      calls.flatMap (turn s) = (calls.map silenced).flatMap (turn s) :=
    fun calls => (List.flatMap_map silenced (turn s) calls).symm
  rw [hsilenced, List.map_take, map_silenced_withFirstSignal, ← List.map_take, ← hsilenced]

/-! ## Closing -/

/-- What the end of the daemon leaves: the socket is closed. -/
def closing (s : LogSettings) (errno : Errno) : List Event :=
  [.joinWorkers, .close] ++ if errno = 0 then []
    else logged s .info ("d4serve: failed to close socket: " ++ Errno.description errno)

/-- The status that the daemon ends with once it has served. -/
def statusOf : Option Failure → Status
  | some _ => .returned 1
  | none => .returned 0

/-- What is left at last if serving failed. -/
def complaint (s : LogSettings) : Option Failure → List Event
  | some failure => logged s .error ("d4serve: receive failed: " ++ failure.message)
  | none => []

/-- An open link is closed whatever the system answers. -/
theorem finish_of_open {l : Link} (hopen : l.isOpen = true) (settings : Settings)
    (ended : Option Failure) :
    (finish settings ended l).value = statusOf ended ∧
      (finish settings ended l).events =
        closing settings.log (Answers.next l.answers.close).1 ++ complaint settings.log ended := by
  unfold finish closing
  rw [Run.bind_apply, Run.emit_apply, Run.bind_apply]
  dsimp only
  rw [Link.close_of_open hopen]
  dsimp only
  by_cases hzero : (Answers.next l.answers.close).1 = 0
  · rw [Failure.ofErrno?, if_pos hzero, if_pos hzero]
    cases ended with
    | none => exact ⟨rfl, rfl⟩
    | some failure =>
        simp only [Run.bind_apply, Run.pure_apply, List.append_nil]
        exact ⟨rfl, rfl⟩
  · rw [Failure.ofErrno?, if_neg hzero, if_neg hzero]
    dsimp only
    rw [Run.bind_apply]
    cases ended with
    | none => exact ⟨rfl, rfl⟩
    | some failure =>
        simp only [Run.bind_apply, Run.pure_apply, List.append_nil]
        exact ⟨rfl, rfl⟩

/-! ## The records of the end -/

/-- A line as it stands in the log, whole; informative lines have priority six. -/
def told (s : LogSettings) (priority : Nat) (line : String) : Event :=
  .log (recordedAt s priority line)

/-- All that a heeded signal leaves: its line, and shutting the socket down, with a
line more unless the system agrees or answers that there is no peer (107). -/
def toldOfSignal (s : LogSettings) (number : Int) (errno : Errno) : List Event :=
  [told s 6 ("d4serve: received signal " ++ toString number ++ "; stopping"),
    .shutdownSocket errno] ++
  if errno = 0 ∨ errno = 107 then [] else
    [told s 6 ("dhcp4: Failed to shut down the listening socket: " ++ Errno.description errno)]

/-- All that closing the socket leaves, once the workers are done: a line more if the
system refuses. -/
def toldOfClosing (s : LogSettings) (errno : Errno) : List Event :=
  [.joinWorkers, .close] ++
  if errno = 0 then [] else
    [told s 6 ("d4serve: failed to close socket: " ++ Errno.description errno)]

/-- The line that says why no more datagrams are received, with the priority of an
error. -/
def toldOfFailure (s : LogSettings) (errno : Errno) : List Event :=
  [told s 3 ("d4serve: receive failed: " ++ Errno.description errno)]

section

variable (s : LogSettings)

/-- A line that no zero character cuts is told as it stands. -/
theorem logged_eq_told {level : LogLevel} (hlevel : level ≠ .debug) {line : String}
    (hzero : '\x00' ∉ line.toList) : logged s level line = [told s level.priority line] := by
  rw [logged, write_eq_recordedAt s hlevel hzero]
  rfl

theorem logged_description {level : LogLevel} (hlevel : level ≠ .debug) {start : String}
    (hzero : '\x00' ∉ start.toList) (errno : Errno) :
    logged s level (start ++ Errno.description errno) =
      [told s level.priority (start ++ Errno.description errno)] := by
  refine logged_eq_told s hlevel ?_
  rw [String.toList_append, List.mem_append]
  exact not_or_intro hzero errno.zero_not_mem_description

theorem noticed_eq (number : Int) (errno : Errno) :
    noticed s number errno = toldOfSignal s number errno := by
  have hzero : '\x00' ∉
      ("d4serve: received signal " ++ toString number ++ "; stopping").toList := by
    simp only [String.toList_append, List.mem_append, zero_not_mem_toString, or_false]
    decide
  rw [noticed, logged_eq_told s LogLevel.noConfusion hzero,
    logged_description s LogLevel.noConfusion (by decide)]
  rfl

theorem closing_eq (errno : Errno) : closing s errno = toldOfClosing s errno := by
  rw [closing, logged_description s LogLevel.noConfusion (by decide)]
  rfl

theorem complaint_eq (errno : Errno) :
    complaint s (some (.system errno)) = toldOfFailure s errno :=
  logged_description s LogLevel.noConfusion (by decide) errno

end

/-! ## What the events tell -/

section

variable {s : LogSettings} {kind : Event → Prop}
  (hlines : ∀ level line, ∀ e ∈ logged s level line, kind e)

include hlines

theorem forall_mem_dealt (d : Datagram) : ∀ e ∈ dealt s d, kind e := by
  intro e he
  unfold dealt at he
  split at he
  · obtain ⟨line, -, hline⟩ := List.mem_flatMap.mp he
    exact hlines _ line e hline
  · obtain ⟨line, -, hline⟩ := List.mem_flatMap.mp he
    exact hlines _ line e hline

theorem forall_mem_turn {a : ReceiveAnswer} (hreceive : kind (.receive a.errno)) :
    ∀ e ∈ turn s a, kind e := by
  refine List.forall_mem_cons.mpr ⟨hreceive, ?_⟩
  split
  · exact forall_mem_dealt hlines _
  · exact List.forall_mem_nil _

theorem forall_mem_noticed (number : Int) {errno : Errno}
    (hshutdown : kind (.shutdownSocket errno)) : ∀ e ∈ noticed s number errno, kind e := by
  refine List.forall_mem_append.mpr ⟨hlines _ _, List.forall_mem_cons.mpr ⟨hshutdown, ?_⟩⟩
  split
  · exact List.forall_mem_nil _
  · exact hlines _ _

theorem forall_mem_lastTurn {errno : Errno} {a : ReceiveAnswer}
    (hshutdown : kind (.shutdownSocket errno)) (hreceive : kind (.receive a.errno)) :
    ∀ e ∈ lastTurn s errno a, kind e := by
  have hlast : ∀ e ∈ [Event.receive a.errno], kind e := List.forall_mem_singleton.mpr hreceive
  unfold lastTurn
  split
  · exact List.forall_mem_append.mpr ⟨forall_mem_noticed hlines _ hshutdown, hlast⟩
  · exact hlast

theorem forall_mem_complaint (ended : Option Failure) : ∀ e ∈ complaint s ended, kind e := by
  cases ended with
  | none => exact List.forall_mem_nil _
  | some failure => exact hlines _ _

end

section

variable (s : LogSettings)

theorem preparatory_logged (level : LogLevel) (line : String) :
    ∀ e ∈ logged s level line, e.preparatory = true := by
  intro e he
  obtain ⟨record, -, rfl⟩ := List.mem_map.mp he
  rfl

theorem waitsAndCloses_turn (a : ReceiveAnswer) :
    waitsAndCloses (turn s a) = [.receive a.errno] := by
  have hrest : ∀ e ∈ (if a.errno = 0 then dealt s (a.datagram.cut receiveCapacity) else []),
      e.preparatory = true := by
    split
    · exact forall_mem_dealt (preparatory_logged s) _
    · exact List.forall_mem_nil _
  exact congrArg (.receive a.errno :: ·) (waitsAndCloses_of_preparatory hrest)

theorem waitsAndCloses_flatMap_turn (calls : List ReceiveAnswer) :
    waitsAndCloses (calls.flatMap (turn s)) = calls.map (.receive ·.errno) := by
  induction calls with
  | nil => rfl
  | cons a rest ih =>
      rw [List.flatMap_cons, waitsAndCloses_append, ih, waitsAndCloses_turn]
      rfl

theorem waitsAndCloses_lastTurn (errno : Errno) (a : ReceiveAnswer) :
    waitsAndCloses (lastTurn s errno a) = [.receive a.errno] := by
  unfold lastTurn
  cases a.heeded? with
  | some number =>
      have hnoticed : ∀ e ∈ noticed s number errno, e.preparatory = true :=
        forall_mem_noticed (preparatory_logged s) number rfl
      rw [waitsAndCloses_append, waitsAndCloses_of_preparatory hnoticed]
      rfl
  | none => rfl

theorem waitsAndCloses_closing (errno : Errno) : waitsAndCloses (closing s errno) = [.close] := by
  have hrest : ∀ e ∈ (if errno = 0 then [] else
      logged s .info ("d4serve: failed to close socket: " ++ Errno.description errno)),
      e.preparatory = true := by
    split
    · exact List.forall_mem_nil _
    · exact preparatory_logged s _ _
  rw [closing, waitsAndCloses_append, waitsAndCloses_of_preparatory hrest]
  rfl

end

/-! ## The whole run -/

/-- How a run ends with one of the calls: it makes the calls up to that one and
then closes the socket, once.  If a signal is heeded during that call, all that
is left of it is what tells of the signal: no request and no failure. -/
structure EndedWith (settings : Settings) (answers : Answers) (before : List Event) (k : Nat)
    (a : ReceiveAnswer) (r : Result) : Prop where
  calls_eq : waitsAndCloses r.events =
    (answers.calls.take (k + 1)).map (.receive ·.errno) ++ [.close]
  signalled : ∀ number, Signalled answers.calls k number →
    r.status = .returned 0 ∧
      r.events = before ++ (answers.calls.take k).flatMap (turn settings.log) ++
        toldOfSignal settings.log number (Answers.next answers.shutdown).1 ++
        [.receive a.errno] ++ toldOfClosing settings.log (Answers.next answers.close).1
  failed : (∀ number, ¬ Signalled answers.calls k number) →
    r.status = .returned 1 ∧
      r.events = before ++ (answers.calls.take k).flatMap (turn settings.log) ++
        [.receive a.errno] ++ toldOfClosing settings.log (Answers.next answers.close).1 ++
        toldOfFailure settings.log a.errno

theorem exists_serve (settings : Settings) {l : Link} (hopen : l.isOpen = true)
    (hup : l.isShutDown = false) :
    ∃ k a l', EndsWith (withFirstSignal l.answers.calls) k a ∧ l'.isOpen = true ∧
      l'.answers.close = l.answers.close ∧
      serve settings l = ⟨reason? a, l',
        (l.answers.calls.take k).flatMap (turn settings.log) ++
          lastTurn settings.log (Answers.next l.answers.shutdown).1 a⟩ := by
  obtain ⟨k, a, hends, hserved⟩ := exists_served (withFirstSignal l.answers.receive) hopen hup 0
    settings.log
  rw [withFirstSignal_unanswered] at hends hserved
  obtain ⟨l', hl', hopen', hclose'⟩ := hserved.link
  refine ⟨k, a, l', hends, hopen', hclose', ?_⟩
  let o := Server.serveOver heed logRequests (withFirstSignal l.answers.receive)
    ⟨some l, false, 0, settings.log⟩
  show (⟨o.value.failure, o.state.connection.getD l, o.events⟩ :
    Outcome Link (Option Failure)) = _
  rw [hserved.failure_eq, hl', hserved.events_eq, flatMap_turn_withFirstSignal]
  rfl

theorem run_of_not_listens {settings : Settings} {answers : Answers}
    (h : ¬ Listens settings answers) :
    (run settings (Link.closed answers)).value = .exited 1 ∧
      waitsAndCloses (run settings (Link.closed answers)).events = [] := by
  rw [run, Run.bind_apply, setUp_of_not_listens h]
  refine ⟨rfl, ?_⟩
  rw [waitsAndCloses_append,
    waitsAndCloses_of_preparatory ((prepares_setUp settings).preparatory _)]
  rfl

theorem exists_run_of_listens {settings : Settings} {answers : Answers}
    (h : Listens settings answers) :
    ∃ k a, EndsWith (withFirstSignal answers.calls) k a ∧
      (run settings (Link.closed answers)).value = statusOf (reason? a) ∧
      (run settings (Link.closed answers)).events =
        (setUp settings (Link.closed answers)).events ++
          (answers.calls.take k).flatMap (turn settings.log) ++
          lastTurn settings.log (Answers.next answers.shutdown).1 a ++
          closing settings.log (Answers.next answers.close).1 ++
          complaint settings.log (reason? a) := by
  obtain ⟨hready, hopen⟩ := setUp_of_listens h
  -- serving finds the link as it was before, apart from being open
  obtain ⟨hup, hreceive, hshutdown, hclose⟩ := ahead_setUp settings answers
  obtain ⟨k, a, l', hends, hopen', hclose', hserve⟩ := exists_serve settings hopen hup
  obtain ⟨hvalue, hevents⟩ := finish_of_open hopen' settings (reason? a)
  rw [Answers.calls, hreceive] at hends hserve
  rw [hshutdown] at hserve
  rw [hclose', hclose] at hevents
  refine ⟨k, a, hends, ?_, ?_⟩
  all_goals
    rw [run, Run.bind_apply, hready]
    dsimp only
    rw [Run.bind_apply, hserve]
    dsimp only
  · exact hvalue
  · simp only [hevents, List.append_assoc]
    rfl

theorem start_of_goes {log : LogSettings} {arguments : List String} (answers : Answers)
    (h : (CommandLine.read log arguments).ended = none) :
    let line := CommandLine.read log arguments
    (start log arguments answers).status = (run line.settings (Link.closed answers)).value ∧
      (start log arguments answers).events =
        line.events ++ (run line.settings (Link.closed answers)).events := by
  unfold start
  dsimp only
  rw [h]
  dsimp only
  exact ⟨rfl, rfl⟩

/-- The events of a run tell how it ended. -/
theorem EndedWith.of_events {settings : Settings} {answers : Answers} {before : List Event}
    {k : Nat} {a b : ReceiveAnswer} {r : Result} (hbefore : ∀ e ∈ before, e.preparatory = true)
    (ha : (withFirstSignal answers.calls)[k]? = some a) (hb : answers.calls[k]? = some b)
    (herrno : a.errno = b.errno) (hstatus : r.status = statusOf (reason? a))
    (hevents : r.events = before ++ (answers.calls.take k).flatMap (turn settings.log) ++
      lastTurn settings.log (Answers.next answers.shutdown).1 a ++
      closing settings.log (Answers.next answers.close).1 ++
      complaint settings.log (reason? a)) : EndedWith settings answers before k b r := by
  have hcomplaint := forall_mem_complaint (preparatory_logged settings.log) (reason? a)
  constructor
  · rw [hevents, waitsAndCloses_append, waitsAndCloses_append, waitsAndCloses_append,
      waitsAndCloses_append, waitsAndCloses_of_preparatory hbefore, waitsAndCloses_flatMap_turn,
      waitsAndCloses_lastTurn, waitsAndCloses_closing, waitsAndCloses_of_preparatory hcomplaint,
      List.take_add_one, hb, herrno, List.map_append, List.append_nil]
    rfl
  · intro number hsignalled
    have hheeded := (heeded?_withFirstSignal ha number).mpr hsignalled
    rw [reason?, hheeded] at hstatus hevents
    rw [lastTurn, hheeded] at hevents
    refine ⟨hstatus, ?_⟩
    rw [hevents, herrno, complaint, List.append_nil, ← List.append_assoc, noticed_eq, closing_eq]
  · intro hnone
    have hheeded : a.heeded? = none :=
      Option.eq_none_iff_forall_ne_some.mpr fun number h =>
        hnone number ((heeded?_withFirstSignal ha number).mp h)
    rw [reason?, hheeded] at hstatus hevents
    rw [lastTurn, hheeded] at hevents
    refine ⟨hstatus, ?_⟩
    rw [hevents, herrno, closing_eq, complaint_eq]

/-- A daemon whose command line is accepted ends with status one before it waits
for a datagram if it does not listen.  Otherwise it makes the calls up to the
first during which a signal is heeded or that fails, and ends with status zero
if that was a signal, with status one and the failure in the log if not. -/
theorem termination (log : LogSettings) (arguments : List String) (answers : Answers)
    (haccepted : ∀ choice ∈ Choice.ofArguments (arguments.map LogSettings.upToZero),
      choice.Accepted) :
    let line := CommandLine.read log arguments
    let r := start log arguments answers
    (¬ Listens line.settings answers → r.status = .exited 1 ∧ waitsAndCloses r.events = []) ∧
      (Listens line.settings answers → ∃ k a, answers.calls[k]? = some a ∧
        EndsAt answers.calls k ∧
        EndedWith line.settings answers
          (line.events ++ (setUp line.settings (Link.closed answers)).events) k a r) := by
  intro line r
  have hgoes : line.ended = none := (CommandLine.ended_eq_none_iff _ _).mpr haccepted
  have hquiet : ∀ e ∈ line.events, e.preparatory = true := CommandLine.preparatory_apply _ _
  obtain ⟨hstatus, hevents⟩ : r.status = (run line.settings (Link.closed answers)).value ∧
      r.events = line.events ++ (run line.settings (Link.closed answers)).events :=
    start_of_goes answers hgoes
  constructor
  · intro h
    obtain ⟨hvalue, hcalls⟩ := run_of_not_listens h
    refine ⟨hstatus.trans hvalue, ?_⟩
    rw [hevents, waitsAndCloses_append, waitsAndCloses_of_preparatory hquiet, hcalls]
    rfl
  · intro h
    obtain ⟨k, a, hends, hvalue, hserved⟩ := exists_run_of_listens h
    obtain ⟨b, hb, hsilenced⟩ := Option.map_eq_some_iff.mp
      ((getElem?_withFirstSignal answers.calls k).symm.trans (congrArg _ hends.call_eq))
    have herrno : a.errno = b.errno := (congrArg ReceiveAnswer.errno hsilenced).symm
    refine ⟨k, b, hb, hends.endsAt, .of_events (List.forall_mem_append.mpr
      ⟨hquiet, (prepares_setUp line.settings).preparatory _⟩) hends.call_eq hb herrno
      (hstatus.trans hvalue) ?_⟩
    rw [hevents, hserved]
    simp only [List.append_assoc]

/-- A signal comes while the second call waits, and the socket cannot be shut
down. -/
theorem termination_signalled :
    let datagram : ReceiveAnswer := ⟨false, none, 0, [1], .ofIpv4 (.ofOctets 10 0 0 7) 68, []⟩
    let interrupted : ReceiveAnswer := ⟨false, some ⟨15, false⟩, 4, [], .empty, []⟩
    let answers := { Answers.receiving [datagram, interrupted] with shutdown := [9] }
    let r := start .initial ["-d"] answers
    (∀ choice ∈ Choice.ofArguments (["-d"].map LogSettings.upToZero), choice.Accepted) ∧
      Listens (CommandLine.read .initial ["-d"]).settings answers ∧
      Signalled answers.calls 1 15 ∧
      waitsAndCloses r.events = [.receive 0, .receive 4, .close] ∧ r.status = .returned 0 := by
  intro datagram interrupted answers r
  have haccepted : ∀ choice ∈ Choice.ofArguments (["-d"].map LogSettings.upToZero),
      choice.Accepted := by
    rw [show Choice.ofArguments (["-d"].map LogSettings.upToZero) = [.debug] by decide +kernel]
    exact List.forall_mem_singleton.mpr trivial
  have hlistens : Listens (CommandLine.read .initial ["-d"]).settings answers := by
    rw [show (CommandLine.read .initial ["-d"]).settings = ⟨":67", "", 2, ⟨false, true⟩⟩ by
      decide +kernel]
    decide +kernel
  have hsignalled : Signalled answers.calls 1 15 :=
    ⟨List.forall_mem_singleton.mpr rfl, interrupted, rfl, rfl⟩
  have hcalls : waitsAndCloses r.events = [.receive 0, .receive 4, .close] := by decide +kernel
  obtain ⟨k, a, -, -, hended⟩ := (termination .initial ["-d"] answers haccepted).2 hlistens
  have hk : k = 1 := by
    have hlength := congrArg List.length (hended.calls_eq.symm.trans hcalls)
    rw [List.length_append, List.length_map, List.length_take] at hlength
    change min (k + 1) 3 + 1 = 3 at hlength
    omega
  subst hk
  exact ⟨haccepted, hlistens, hsignalled, hcalls, (hended.signalled 15 hsignalled).1⟩

end DhcpServer.Daemon
