import DhcpServer.Proofs.Daemon.Termination
import DhcpServer.Proofs.Daemon.Workers
import DhcpServer.Proofs.Server.Listening

/-!
# Handing messages on

The serving thread of the daemon is the daemon with another handler: one that only
hands each message on (`handOn`).  `Fills` says that a run does what another does,
with each message that the other hands on dealt with at once.  It holds of serving
with the two handlers, since it holds of what they do about one message:
`fills_serveOver`.  So the events of the daemon are those of its serving thread with
each message dealt with at once (`exists_thread`).
-/

namespace DhcpServer.Daemon

/-! ## Runs that deal with messages at once -/

section

variable {s : LogSettings} {α β : Type}

/-- A run of a server that has a connection does what another run does, with every
message dealt with at once that the other hands on. -/
def Fills (s : LogSettings) (x y : Run (Server Link) α) : Prop :=
  ∀ l stopping n, ∃ l' stopping' n',
    (x ⟨some l, stopping, n, s⟩).state = ⟨some l', stopping', n', s⟩ ∧
    x ⟨some l, stopping, n, s⟩ = ⟨(y ⟨some l, stopping, n, s⟩).value,
      (y ⟨some l, stopping, n, s⟩).state,
      (y ⟨some l, stopping, n, s⟩).events.flatMap (atOnce s)⟩

theorem Fills.pure (a : α) : Fills s (Pure.pure a) (Pure.pure a) :=
  fun l stopping n => ⟨l, stopping, n, rfl, rfl⟩

theorem Fills.bind {x y : Run (Server Link) α} {f g : α → Run (Server Link) β}
    (hx : Fills s x y) (hf : ∀ a, Fills s (f a) (g a)) : Fills s (x >>= f) (y >>= g) := by
  intro l stopping n
  obtain ⟨l₁, stopping₁, n₁, hstate, heq⟩ := hx l stopping n
  obtain ⟨l₂, stopping₂, n₂, hstate', heq'⟩ :=
    hf (y ⟨some l, stopping, n, s⟩).value l₁ stopping₁ n₁
  have hstate₁ : (y ⟨some l, stopping, n, s⟩).state = ⟨some l₁, stopping₁, n₁, s⟩ :=
    (congrArg Outcome.state heq).symm.trans hstate
  refine ⟨l₂, stopping₂, n₂, ?_, ?_⟩
  · rw [Run.bind_apply, heq]
    dsimp only
    rw [hstate₁]
    exact hstate'
  · rw [Run.bind_apply, Run.bind_apply, heq]
    dsimp only
    rw [hstate₁, heq', List.flatMap_append]

/-- A run that hands on nothing. -/
theorem Fills.of_does {x : Run (Server Link) α} {stops : Bool} (h : Server.Does x stops []) :
    Fills s x x := by
  intro l stopping n
  obtain ⟨l', hstate⟩ := h.state_eq l stopping n s
  refine ⟨l', stopping || stops, n, hstate, ?_⟩
  have hnone : ∀ m, Event.handled m ∉ (x ⟨some l, stopping, n, s⟩).events := by
    intro m hm
    have hmem : m ∈ handedOn (x ⟨some l, stopping, n, s⟩).events :=
      List.mem_filterMap.mpr ⟨_, hm, rfl⟩
    rw [h.handedOn_eq] at hmem
    cases hmem
  rw [flatMap_atOnce_eq_self hnone]

theorem Fills.get {f g : Server Link → Run (Server Link) β} (hf : ∀ st, Fills s (f st) (g st)) :
    Fills s (Run.get >>= f) (Run.get >>= g) :=
  Fills.bind (fun l stopping n => ⟨l, stopping, n, rfl, rfl⟩) hf

end

/-! ## Serving -/

/-- The handler that only hands messages on. -/
def handOn : Handler Link := fun _ m => Run.emit (.handled m)

instance : QuietConnection Link where
  send datagram l := handedOn_of_sending ((Link.sends_send datagram).events l)
  shutdown := by
    rintro ⟨_ | _, isShutDown, localEndpoint, answers⟩
    · rfl
    · rfl

section

variable {s : LogSettings}

theorem does_heed (a : ReceiveAnswer) : ∃ stops, Server.Does (heed a) stops [] := by
  unfold heed
  split
  · exact ⟨_, (Server.does_log _ _).bind fun _ => Server.does_stop⟩
  · exact ⟨_, .pure ()⟩

theorem fills_handler (n : Nat) (m : Message) : Fills s (logRequests n m) (handOn n m) := by
  intro l stopping n
  have hlogs : logRequests n m ⟨some l, stopping, n, s⟩ =
      ⟨(), ⟨some l, stopping, n, s⟩, m.logLines.flatMap (logged s .info)⟩ :=
    forM_log m.logLines _
  refine ⟨l, stopping, n, congrArg Outcome.state hlogs, hlogs.trans ?_⟩
  exact congrArg _ (List.append_nil _).symm

theorem fills_dispatch (d : Datagram) :
    Fills s (Server.dispatch logRequests d) (Server.dispatch handOn d) := by
  rw [Server.dispatch, Server.dispatch]
  cases d.complaint? with
  | some line => exact .of_does (Server.does_log _ _)
  | none =>
      cases d.message? with
      | none => exact .pure ()
      | some m =>
          refine .get fun st => ?_
          show Fills s (Run.modify _ >>= fun _ => logRequests st.handled m)
            (Run.modify _ >>= fun _ => handOn st.handled m)
          refine Fills.bind ?_ fun _ => fills_handler _ m
          exact fun l stopping n => ⟨l, stopping, st.handled + 1, rfl, rfl⟩

theorem fills_excuse (failure : Failure) :
    Fills s (Server.excuse failure) (Server.excuse failure) :=
  .get fun _ => .pure _

theorem fills_step (a : ReceiveAnswer) :
    Fills s (Server.step heed logRequests a) (Server.step heed handOn a) := by
  obtain ⟨stops, hheed⟩ := does_heed a
  refine (Fills.of_does hheed).bind fun _ => ?_
  have hattempt : Run.Quiet (Connection.attempt a : Run Link (Option Received)) := fun l => by
    rw [attempt_apply]
    rfl
  refine (Fills.of_does (Server.does_onConnection hattempt _)).bind fun received => ?_
  match received with
  | none => exact .pure _
  | some (.error failure) => exact (fills_excuse failure).bind fun _ => .pure _
  | some (.ok d) => exact (fills_dispatch d).bind fun _ => .get fun _ => .pure _

theorem fills_serveOver (answers : List ReceiveAnswer) :
    Fills s (Server.serveOver heed logRequests answers)
      (Server.serveOver heed handOn answers) := by
  induction answers with
  | nil =>
      have hexhausted : Run.Quiet (Connection.exhausted : Run Link Failure) := fun _ => rfl
      refine (Fills.of_does (Server.does_onConnection hexhausted _)).bind fun failure => ?_
      exact (fills_excuse failure).bind fun _ => .pure _
  | cons a rest ih =>
      refine (fills_step a).bind fun progress => ?_
      cases progress with
      | waiting => exact ih
      | served => exact ih.bind fun _ => .pure _
      | ended failure => exact .pure _

end

/-! ## The serving thread -/

/-- Serving with a handler of one's choice. -/
def serveWith (handler : Handler Link) (settings : Settings) : Run Link (Option Failure) := fun l =>
  let server := Server.start (some l) settings.log
  let r := Server.serve heed handler (withFirstSignal l.answers.receive) server
  ⟨r.value.failure, r.state.connection.getD l, r.events⟩

/-- The daemon with a handler of one's choice. -/
def runWith (handler : Handler Link) (settings : Settings) : Run Link Status := do
  match ← setUp settings with
  | some status => return status
  | none => finish settings (← serveWith handler settings)

/-- What the serving thread of the daemon does, which hands messages on. -/
def thread (log : LogSettings) (arguments : List String) (answers : Answers) : List Event :=
  let line := CommandLine.read log arguments
  line.events ++ (runWith handOn line.settings (Link.closed answers)).events

/-- The daemon is the one whose handler logs requests. -/
theorem run_eq_runWith (settings : Settings) : run settings = runWith logRequests settings :=
  rfl

theorem serveWith_fills (settings : Settings) (l : Link) :
    serveWith logRequests settings l =
      ⟨(serveWith handOn settings l).value, (serveWith handOn settings l).state,
        (serveWith handOn settings l).events.flatMap (atOnce settings.log)⟩ := by
  obtain ⟨-, -, -, -, heq⟩ := fills_serveOver (s := settings.log)
    (withFirstSignal l.answers.receive) l false 0
  unfold serveWith Server.start
  dsimp only
  rw [Server.serve_of_not_stopping, Server.serve_of_not_stopping, heq]

/-- Nothing is handed on before serving. -/
theorem handled_not_mem_setUp {settings : Settings} {answers : Answers}
    (h : Listens settings answers) (m : Message) :
    .handled m ∉ (setUp settings (Link.closed answers)).events := by
  obtain ⟨endpoint, hevents⟩ := exists_setUp_events h
  rw [hevents]
  simp only [List.mem_append, List.mem_map, List.mem_cons, List.not_mem_nil, reduceCtorEq,
    and_false, exists_false, or_false]
  intro hmem
  cases Link.isPreparing_of_mem_listen h.1 hmem

/-- What the end of the daemon leaves. -/
def ending (s : LogSettings) (answers : Answers) (ended : Option Failure) : List Event :=
  closing s (Answers.next answers.close).1 ++ complaint s ended

theorem isLogEntry_of_mem_logged {s : LogSettings} {level : LogLevel} {line : String} {e : Event}
    (h : e ∈ logged s level line) : e.isLogEntry = true := by
  obtain ⟨record, -, rfl⟩ := List.mem_map.mp h
  rfl

theorem forall_mem_ending {s : LogSettings} {kind : Event → Prop}
    (hlines : ∀ level line, ∀ e ∈ logged s level line, kind e) (hjoin : kind .joinWorkers)
    (hclose : kind .close) (answers : Answers) (ended : Option Failure) :
    ∀ e ∈ ending s answers ended, kind e := by
  refine List.forall_mem_append.mpr ⟨?_, forall_mem_complaint hlines ended⟩
  refine List.forall_mem_cons.mpr ⟨hjoin, List.forall_mem_cons.mpr ⟨hclose, ?_⟩⟩
  split
  · exact List.forall_mem_nil _
  · exact hlines _ _

/-- Nothing is handed on after serving. -/
theorem handled_not_mem_ending (s : LogSettings) (answers : Answers) (ended : Option Failure)
    (m : Message) : .handled m ∉ ending s answers ended := by
  have hlines : ∀ level line, ∀ e ∈ logged s level line, e ≠ .handled m := by
    rintro level line _ he rfl
    cases isLogEntry_of_mem_logged he
  exact fun h =>
    forall_mem_ending hlines Event.noConfusion Event.noConfusion answers ended _ h rfl

/-- A daemon that listens does what its serving thread does, with each message dealt
with at once.  What comes before the end is what is left of the calls. -/
theorem exists_thread {settings : Settings} {answers : Answers} (h : Listens settings answers) :
    ∃ k a before, EndsWith (withFirstSignal answers.calls) k a ∧
      (runWith handOn settings (Link.closed answers)).events =
        before ++ ending settings.log answers (reason? a) ∧
      (run settings (Link.closed answers)).events =
        before.flatMap (atOnce settings.log) ++ ending settings.log answers (reason? a) ∧
      before.flatMap (atOnce settings.log) =
        (setUp settings (Link.closed answers)).events ++
          ((answers.calls.take k).flatMap (turn settings.log) ++
            lastTurn settings.log (Answers.next answers.shutdown).1 a) := by
  obtain ⟨hready, hopen⟩ := setUp_of_listens h
  obtain ⟨hup, hreceive, hshutdown, hclose⟩ := ahead_setUp settings answers
  let l := (setUp settings (Link.closed answers)).state
  let told := (serveWith handOn settings l).events
  obtain ⟨k, a, l', hends, hopen', hclose', hserve⟩ := exists_serve settings hopen hup
  -- the two ways of serving end alike
  obtain ⟨hvalue, hstate, hserved⟩ := Outcome.mk.inj (hserve.symm.trans (serveWith_fills settings l))
  have hending := (finish_of_open hopen' settings (reason? a)).2
  rw [Answers.calls, hreceive, hshutdown] at hserved
  rw [Answers.calls, hreceive] at hends
  rw [hclose', hclose] at hending
  have hbefore : ((setUp settings (Link.closed answers)).events ++ told).flatMap
      (atOnce settings.log) = (setUp settings (Link.closed answers)).events ++
        told.flatMap (atOnce settings.log) := by
    rw [List.flatMap_append, flatMap_atOnce_eq_self (handled_not_mem_setUp h)]
  refine ⟨k, a, (setUp settings (Link.closed answers)).events ++ told, hends, ?_, ?_, ?_⟩
  · rw [runWith, Run.bind_apply, hready]
    dsimp only
    rw [Run.bind_apply, ← hvalue, ← hstate, hending, List.append_assoc]
    rfl
  · rw [hbefore, run_eq_runWith, runWith, Run.bind_apply, hready]
    dsimp only
    rw [Run.bind_apply, serveWith_fills]
    dsimp only
    rw [← hvalue, ← hstate, hending, List.append_assoc]
    rfl
  · rw [hbefore, ← hserved]
    rfl

end DhcpServer.Daemon
