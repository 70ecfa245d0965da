import DhcpServer.Proofs.Daemon.HandingOn
import DhcpServer.Proofs.RequestLog.Lines

/-!
# Requests in the log

The threads of the daemon take turns as they like (`Crew.Step`), yet by the time the
process exits each message that was received has left its lines in the log, once:
`logs_each_request_once`.

Of the lines that the daemon leaves, only those of messages tell a request.
`requestRecords_turn` says so of one call; the induction over the calls carries it
to the whole run.  Nothing in a run hands a datagram to the system.
-/

namespace DhcpServer

/-! ## Events of answering -/

/-- An event of answering a message, up to the call that hands a datagram to the
system. -/
def Event.isAnswering : Event → Bool
  | .transmit _ _ => true
  | .sent _ => true
  | .sendFailed => true
  | .replied _ _ => true
  | .noSuchReply => true
  | _ => false

/-- No message is answered. -/
def Unanswering (es : List Event) : Prop := ∀ e ∈ es, e.isAnswering = false

theorem Unanswering.append {es fs : List Event} (hes : Unanswering es) (hfs : Unanswering fs) :
    Unanswering (es ++ fs) :=
  List.forall_mem_append.mpr ⟨hes, hfs⟩

theorem Event.isAnswering_of_isLogEntry {e : Event} (h : e.isLogEntry = true) :
    e.isAnswering = false := by
  cases e with
  | log record => rfl
  | _ => cases h

theorem Event.isAnswering_of_isPreparing {e : Event} (h : e.isPreparing = true) :
    e.isAnswering = false := by
  cases e with
  | transmit t errno => cases h
  | sent datagram => cases h
  | sendFailed => cases h
  | replied start reports => cases h
  | noSuchReply => cases h
  | _ => rfl

namespace Daemon

open Relation (ReflTransGen)

/-! ## Lines that tell a request -/

section

variable (s : LogSettings)

theorem requestRecords_of_wordless {es : List Event} (h : Link.Wordless es) :
    requestRecords es = [] := by
  refine List.filterMap_eq_nil_iff.mpr fun e he => ?_
  cases e with
  | log record => cases h _ he
  | _ => rfl

theorem requestRecords_logged {start line : String} (hstart : Apart start)
    (hline : ∃ rest, line = start ++ rest) (level : LogLevel) :
    requestRecords (logged s level line) = [] :=
  requestRecords_of_apart hstart hline s level

/-- No line that says why a datagram is discarded tells a request. -/
theorem requestRecords_complaint {d : Datagram} {line : String} (h : d.complaint? = some line) :
    requestRecords (logged s .debug line) = [] := by
  have hmalformed : Apart "dhcp4: Discarding malformed " := by decide +kernel
  have hnotRequest : Apart "dhcp4: Discarding non-request (op " := by decide +kernel
  have hunwanted : Apart "dhcp4: Discarding message of type " := by decide +kernel
  unfold Datagram.complaint? at h
  cases hverdict : d.verdict with
  | malformed =>
      rw [hverdict] at h
      obtain rfl := Option.some.inj h
      rw [String.append_assoc, String.append_assoc]
      exact requestRecords_logged s hmalformed ⟨_, rfl⟩ _
  | notRequest op =>
      rw [hverdict] at h
      obtain rfl := Option.some.inj h
      rw [String.append_assoc, String.append_assoc]
      exact requestRecords_logged s hnotRequest ⟨_, rfl⟩ _
  | unwanted kind =>
      rw [hverdict] at h
      obtain rfl := Option.some.inj h
      rw [String.append_assoc, String.append_assoc]
      exact requestRecords_logged s hunwanted ⟨_, rfl⟩ _
  | accepted m =>
      rw [hverdict] at h
      cases h

/-- A call leaves the lines of the message that it brings, and no other that tells a
request. -/
theorem requestRecords_turn (a : ReceiveAnswer) :
    requestRecords (turn s a) =
      a.message?.toList.flatMap fun m => m.logLines.map (recorded s) := by
  show requestRecords (if a.errno = 0 then dealt s (a.datagram.cut receiveCapacity) else []) = _
  rw [ReceiveAnswer.message?]
  split
  · rw [dealt, Datagram.message?_cut]
    cases hm : a.datagram.clientMessage? with
    | some m =>
        have hkind := (clientMessage?_spec hm).2.2
        rw [Option.toList_some, List.flatMap_singleton]
        exact requestRecords_logLines hkind s
    | none =>
        obtain ⟨line, hline⟩ := Datagram.exists_complaint?_of_message?
          ((Datagram.message?_cut a.datagram).trans hm)
        rw [hline]
        simp only [Option.toList_some, List.flatMap_singleton]
        exact requestRecords_complaint s hline
  · rfl

theorem requestRecords_flatMap_turn (calls : List ReceiveAnswer) :
    requestRecords (calls.flatMap (turn s)) =
      (calls.filterMap ReceiveAnswer.message?).flatMap fun m => m.logLines.map (recorded s) := by
  induction calls with
  | nil => rfl
  | cons a rest ih =>
      rw [List.flatMap_cons, requestRecords_append, requestRecords_turn, ih, List.filterMap_cons]
      cases a.message? with
      | none => rfl
      | some m =>
          dsimp only
          rw [Option.toList_some, List.flatMap_singleton, List.flatMap_cons]

theorem requestRecords_noticed (number : Int) (errno : Errno) :
    requestRecords (noticed s number errno) = [] := by
  have hsignal : Apart "d4serve: received signal " := by decide +kernel
  have hfailed : Apart "dhcp4: Failed to shut down the listening socket: " := by decide +kernel
  unfold noticed
  rw [requestRecords_append,
    requestRecords_logged s hsignal ⟨_, String.append_assoc⟩]
  show requestRecords (if errno = 0 ∨ errno = Errno.notConnected then [] else _) = []
  split
  · rfl
  · exact requestRecords_logged s hfailed ⟨_, rfl⟩ _

theorem requestRecords_lastTurn (errno : Errno) (a : ReceiveAnswer) :
    requestRecords (lastTurn s errno a) = [] := by
  unfold lastTurn
  cases a.heeded? with
  | none => rfl
  | some number =>
      dsimp only
      rw [requestRecords_append, requestRecords_noticed]
      rfl

theorem requestRecords_ending (answers : Answers) (ended : Option Failure) :
    requestRecords (ending s answers ended) = [] := by
  have hclose : Apart "d4serve: failed to close socket: " := by decide +kernel
  have hfailed : Apart "d4serve: receive failed: " := by decide +kernel
  unfold ending closing
  rw [requestRecords_append, requestRecords_append]
  have hcomplaint : requestRecords (complaint s ended) = [] := by
    cases ended with
    | none => rfl
    | some failure => exact requestRecords_logged s hfailed ⟨_, rfl⟩ _
  rw [hcomplaint, List.append_nil]
  show requestRecords (if (Answers.next answers.close).1 = 0 then [] else _) = []
  split
  · rfl
  · exact requestRecords_logged s hclose ⟨_, rfl⟩ _

end

/-- Nothing tells a request before the daemon serves. -/
theorem requestRecords_setUp {settings : Settings} {answers : Answers}
    (h : Listens settings answers) :
    requestRecords (setUp settings (Link.closed answers)).events = [] := by
  have hlistening : Apart "d4serve: listening on " := by decide +kernel
  obtain ⟨endpoint, hevents⟩ := exists_setUp_events h
  have hlisten : Link.Wordless (Link.listen settings.log settings.address settings.device
      (Link.closed answers)).events := Link.reticent_listen _ _ _ _ h.1
  have hline : ∃ rest, listeningLine settings endpoint = "d4serve: listening on " ++ rest :=
    ⟨_, String.append_assoc⟩
  rw [hevents, requestRecords_append, requestRecords_append, requestRecords_of_wordless hlisten,
    requestRecords_of_apart hlistening hline]
  rfl

theorem requestRecords_of_accepted {log : LogSettings} {arguments : List String}
    (h : (CommandLine.read log arguments).ended = none) :
    requestRecords (CommandLine.read log arguments).events = [] := by
  refine List.filterMap_eq_nil_iff.mpr fun e he => ?_
  rcases CommandLine.of_mem_apply he with rfl | ⟨hended, -⟩
  · exact if_neg (by decide)
  · exact absurd h hended

/-! ## Runs without answers -/

section

variable (s : LogSettings)

theorem unanswering_logged (level : LogLevel) (line : String) :
    Unanswering (logged s level line) :=
  fun _ he => Event.isAnswering_of_isLogEntry (isLogEntry_of_mem_logged he)

theorem unanswering_turn (a : ReceiveAnswer) : Unanswering (turn s a) :=
  forall_mem_turn (unanswering_logged s) rfl

theorem unanswering_lastTurn (errno : Errno) (a : ReceiveAnswer) :
    Unanswering (lastTurn s errno a) :=
  forall_mem_lastTurn (unanswering_logged s) rfl rfl

theorem unanswering_ending (answers : Answers) (ended : Option Failure) :
    Unanswering (ending s answers ended) :=
  forall_mem_ending (unanswering_logged s) rfl rfl answers ended

end

theorem unanswering_setUp {settings : Settings} {answers : Answers}
    (h : Listens settings answers) :
    Unanswering (setUp settings (Link.closed answers)).events := by
  obtain ⟨endpoint, hevents⟩ := exists_setUp_events h
  rw [hevents]
  refine .append (fun e he => Event.isAnswering_of_isPreparing (Link.isPreparing_of_mem_listen h.1 he)) ?_
  refine .append (unanswering_logged settings.log .info (listeningLine settings endpoint)) ?_
  exact List.forall_mem_cons.mpr ⟨rfl, List.forall_mem_singleton.mpr rfl⟩

theorem unanswering_of_accepted {log : LogSettings} {arguments : List String}
    (h : (CommandLine.read log arguments).ended = none) :
    Unanswering (CommandLine.read log arguments).events := by
  intro e he
  rcases CommandLine.of_mem_apply he with rfl | ⟨hended, -⟩
  · rfl
  · exact absurd h hended

/-! ## The whole run -/

/-- The daemon waits for signals, and then for datagrams, if its command line is
accepted and it listens. -/
theorem awaitSignals_mem_start_iff {log : LogSettings} {arguments : List String}
    {answers : Answers} :
    let line := CommandLine.read log arguments
    .awaitSignals ∈ (start log arguments answers).events ↔
      line.ended = none ∧ Listens line.settings answers := by
  intro line
  have hline : Event.awaitSignals ∉ line.events := by
    intro h
    rcases CommandLine.of_mem_apply h with h | ⟨-, h | ⟨status, h⟩⟩ <;> cases h
  cases hended : line.ended with
  | some code =>
      have hstart : (start log arguments answers).events = line.events := by
        unfold start
        dsimp only
        rw [hended]
      rw [hstart]
      exact iff_of_false hline fun h => Option.some_ne_none code h.1
  | none =>
      rw [(start_of_goes answers hended).2, List.mem_append, or_iff_right hline, and_iff_right rfl]
      by_cases h : Listens line.settings answers
      · refine iff_of_true ?_ h
        rw [run, Run.bind_apply]
        exact List.mem_append_left _ (awaitSignals_mem_setUp_iff.mpr h)
      · refine iff_of_false ?_ h
        rw [run, Run.bind_apply, setUp_of_not_listens h]
        dsimp only
        rw [Run.pure_apply, List.append_nil]
        exact fun hmem => h (awaitSignals_mem_setUp_iff.mp hmem)

/-- What is there by the time the process exits that has received the answers to
the calls. -/
structure LogsRequests (s : LogSettings) (calls : List ReceiveAnswer) (es : List Event) :
    Prop where
  /-- Each line of each message is there once, and no other record tells a request. -/
  requests : (requestRecords es).Perm
    ((calls.filterMap ReceiveAnswer.message?).flatMap fun m => m.logLines.map (recorded s))
  /-- The lines are there once the workers have ended. -/
  in_time : ∃ early late, es = early ++ .joinWorkers :: late ∧ requestRecords late = []
  unanswered : Unanswering es

theorem LogsRequests.of_exits {s : LogSettings} {workers : Nat} {calls : List ReceiveAnswer}
    {answers : Answers} {ended : Option Failure} {before es : List Event}
    (hrequests : requestRecords (before.flatMap (atOnce s)) =
      (calls.filterMap ReceiveAnswer.message?).flatMap fun m => m.logLines.map (recorded s))
    (hunanswered : Unanswering (before.flatMap (atOnce s)))
    (h : Exits s workers (before ++ ending s answers ended) es) : LogsRequests s calls es := by
  let behind := (ending s answers ended).tail
  have hending : ending s answers ended = .joinWorkers :: behind := rfl
  have hbehind : ∀ m, .handled m ∉ behind := by
    intro m hm
    exact handled_not_mem_ending s answers ended m (List.mem_of_mem_tail hm)
  have hlate : requestRecords behind = [] := requestRecords_ending s answers ended
  have hquiet : Unanswering behind :=
    fun e he => unanswering_ending s answers ended e (List.mem_of_mem_tail he)
  obtain ⟨early, rfl, hperm⟩ := Exits.spec hbehind h
  refine ⟨?_, ⟨early, behind, rfl, hlate⟩, ?_⟩
  · have hjoin : requestRecords (.joinWorkers :: behind) = [] := hlate
    rw [requestRecords_append, hjoin, List.append_nil, ← hrequests]
    exact hperm.filterMap _
  · refine .append (fun e he => ?_) (List.forall_mem_cons.mpr ⟨rfl, hquiet⟩)
    exact hunanswered e (hperm.mem_iff.mp he)

section

variable {log : LogSettings} {arguments : List String} {answers : Answers}

/-- What the daemon does up to the end of serving, if it deals with messages at once. -/
def served (log : LogSettings) (arguments : List String) (answers : Answers) (k : Nat)
    (a : ReceiveAnswer) : List Event :=
  let line := CommandLine.read log arguments
  line.events ++ ((setUp line.settings (Link.closed answers)).events ++
    ((answers.calls.take k).flatMap (turn line.settings.log) ++
      lastTurn line.settings.log (Answers.next answers.shutdown).1 a))

/-- The serving thread of a daemon that listens: by the end of serving it has done what
the daemon has, with messages handed on. -/
theorem exists_served_thread (hgoes : (CommandLine.read log arguments).ended = none)
    (hlistens : Listens (CommandLine.read log arguments).settings answers) :
    let s := (CommandLine.read log arguments).settings.log
    ∃ k a before, EndsAt answers.calls k ∧
      thread log arguments answers = before ++ ending s answers (reason? a) ∧
      before.flatMap (atOnce s) = served log arguments answers k a ∧
      (start log arguments answers).events = (thread log arguments answers).flatMap (atOnce s) := by
  intro s
  let line := CommandLine.read log arguments
  obtain ⟨k, a, before, hends, hthread, hrun, hbefore⟩ := exists_thread hlistens
  have htold : thread log arguments answers =
      line.events ++ before ++ ending s answers (reason? a) := by
    rw [List.append_assoc, ← hthread]
    rfl
  -- the command line hands on nothing
  have hline : (line.events ++ before).flatMap (atOnce s) =
      line.events ++ before.flatMap (atOnce s) := by
    rw [List.flatMap_append, flatMap_atOnce_eq_self]
    intro m hm
    rcases CommandLine.of_mem_apply hm with h | ⟨h, -⟩
    · cases h
    · exact h hgoes
  refine ⟨k, a, line.events ++ before, hends.endsAt, htold, ?_, ?_⟩
  · rw [hline, hbefore]
    rfl
  · rw [(start_of_goes answers hgoes).2, hrun, htold, List.flatMap_append, hline,
      flatMap_atOnce_eq_self (handled_not_mem_ending _ _ _), List.append_assoc]

theorem requestRecords_served (hgoes : (CommandLine.read log arguments).ended = none)
    (hlistens : Listens (CommandLine.read log arguments).settings answers) (k : Nat)
    (a : ReceiveAnswer) :
    requestRecords (served log arguments answers k a) =
      ((answers.calls.take k).filterMap ReceiveAnswer.message?).flatMap fun m =>
        m.logLines.map (recorded (CommandLine.read log arguments).settings.log) := by
  unfold served
  rw [requestRecords_append, requestRecords_append, requestRecords_append,
    requestRecords_of_accepted hgoes, requestRecords_setUp hlistens, requestRecords_flatMap_turn,
    requestRecords_lastTurn, List.append_nil]
  rfl

theorem unanswering_served (hgoes : (CommandLine.read log arguments).ended = none)
    (hlistens : Listens (CommandLine.read log arguments).settings answers) (k : Nat)
    (a : ReceiveAnswer) : Unanswering (served log arguments answers k a) := by
  refine .append (unanswering_of_accepted hgoes) (.append (unanswering_setUp hlistens)
    (.append (fun e he => ?_) (unanswering_lastTurn _ _ _)))
  obtain ⟨call, -, hcall⟩ := List.mem_flatMap.mp he
  exact unanswering_turn _ call e hcall

end

/-- **The daemon logs each request once** and answers none.  In a run that gets to
the point where it serves, the threads get to the end however they take turns, and
to deal with each message at once is one way of taking turns.  By the end each
message that was received has left its lines in the log, whole and once, before the
serving thread went on to close the socket; no other record tells a request, and no
datagram was handed to the system. -/
theorem logs_each_request_once (log : LogSettings) (arguments : List String) (answers : Answers)
    (hserves : .awaitSignals ∈ (start log arguments answers).events) :
    let settings := (CommandLine.read log arguments).settings
    let told := thread log arguments answers
    Exits settings.log settings.workers told (start log arguments answers).events ∧
      (∀ c, ReflTransGen (Crew.Step settings.log settings.workers) ⟨told, [], [], []⟩ c →
        ∃ c', c'.ahead = [] ∧ ReflTransGen (Crew.Step settings.log settings.workers) c c') ∧
      ∃ k, EndsAt answers.calls k ∧
        (∀ a ∈ answers.calls.take k, ∀ m, a.message? = some m → Tells a.datagram m m.logLines) ∧
        ∀ es, Exits settings.log settings.workers told es →
          LogsRequests settings.log (answers.calls.take k) es := by
  intro settings told
  obtain ⟨hgoes, hlistens⟩ := awaitSignals_mem_start_iff.mp hserves
  have hworkers : 0 < settings.workers := CommandLine.workers_pos_apply Nat.zero_lt_two _
  obtain ⟨k, a, before, hends, htold, hbefore, hstart⟩ := exists_served_thread hgoes hlistens
  refine ⟨?_, fun c _ => Crew.exists_end hworkers c, k, hends, ?_, ?_⟩
  · rw [hstart]
    exact exits_flatMap_atOnce hworkers told
  · intro a _ m hm
    rw [ReceiveAnswer.message?] at hm
    split at hm
    · exact tells_of_clientMessage? hm
    · cases hm
  · intro es hexits
    have hrequests := requestRecords_served hgoes hlistens k a
    have hunanswered := unanswering_served hgoes hlistens k a
    rw [← hbefore] at hrequests hunanswered
    have hended : Exits settings.log settings.workers
        (before ++ ending settings.log answers (reason? a)) es := by rwa [← htold]
    exact .of_exits hrequests hunanswered hended

/-- A request arrives, then a datagram that is discarded, then a signal; the lines of
the request are in the log. -/
theorem logs_each_request_once_request :
    let payload : Bytes := [1, 1, 6, 0, 0, 0, 0xAB, 1] ++ List.replicate 20 0 ++
      [2, 0, 0, 0, 0, 7] ++ List.replicate 202 0 ++
      [0x63, 0x82, 0x53, 0x63, 53, 1, 3, 50, 2, 10, 0, 54, 1, 9, 50, 2, 0, 5, 255]
    let request : ReceiveAnswer := ⟨false, none, 0, payload, .ofIpv4 (.ofOctets 10 0 0 7) 68,
      [⟨0, 8, some 3⟩]⟩
    let other : ReceiveAnswer := { request with payload := [1] }
    let interrupted : ReceiveAnswer := ⟨false, some ⟨15, false⟩, 4, [], .empty, []⟩
    let answers := Answers.receiving [request, other, interrupted]
    let r := start .initial ["-s", "-t4"] answers
    .awaitSignals ∈ r.events ∧
      Exits ⟨true, false⟩ 4 (thread .initial ["-s", "-t4"] answers) r.events ∧
      ∀ es, Exits ⟨true, false⟩ 4 (thread .initial ["-s", "-t4"] answers) es →
        (requestRecords es).Perm
          [.syslog 6 "dhcp4: REQUEST xid=0000ab01 chaddr=02:00:00:00:00:07 ciaddr=0.0.0.0 if=3",
            .syslog 6 "dhcp4:   requested=10.0.0.5 server=none"] := by
  intro payload request other interrupted answers r
  have hserves : .awaitSignals ∈ r.events := by decide +kernel
  have hsettings : (CommandLine.read .initial ["-s", "-t4"]).settings =
      ⟨":67", "", 4, ⟨true, false⟩⟩ := by decide +kernel
  obtain ⟨hexits, -, k, hends, -, hlogs⟩ := logs_each_request_once .initial ["-s", "-t4"] answers
    hserves
  rw [hsettings] at hexits hlogs
  -- the two datagrams are received before the signal comes
  have hreceived : ∀ j < 2, ∀ a, answers.calls[j]? = some a → a.signal = none ∧ a.errno = 0 := by
    intro j hj a ha
    obtain rfl | rfl : j = 0 ∨ j = 1 := by omega
    all_goals
      obtain rfl := Option.some.inj ha
      exact ⟨rfl, rfl⟩
  have hsignalled : Signalled answers.calls 2 15 := by
    refine ⟨fun b hb => ?_, interrupted, rfl, rfl⟩
    rcases List.mem_pair.mp hb with rfl | rfl <;> rfl
  have hk : k = 2 := by
    refine Nat.le_antisymm (Nat.not_lt.mp fun h => ?_) (Nat.not_lt.mp fun h => ?_)
    · exact (hends.before 2 h).1 15 hsignalled
    · rcases hends.ends with ⟨number, -, a, ha, hsignal⟩ | ⟨a, ha, hfails⟩
      · rw [(hreceived k h a ha).1] at hsignal
        cases hsignal
      · exact hfails.1 (hreceived k h a ha).2
  have hlines : ((answers.calls.take 2).filterMap ReceiveAnswer.message?).flatMap
      (fun m => m.logLines.map (recorded ⟨true, false⟩)) =
        [.syslog 6 "dhcp4: REQUEST xid=0000ab01 chaddr=02:00:00:00:00:07 ciaddr=0.0.0.0 if=3",
          .syslog 6 "dhcp4:   requested=10.0.0.5 server=none"] := by decide +kernel
  subst hk
  refine ⟨hserves, hexits, fun es hes => ?_⟩
  rw [← hlines]
  exact (hlogs es hes).requests

end Daemon

end DhcpServer
