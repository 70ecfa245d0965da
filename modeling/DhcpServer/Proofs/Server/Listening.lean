import DhcpServer.Proofs.Link.Calls
import DhcpServer.Proofs.Link.Preparing
import DhcpServer.Proofs.Link.SettingUp
import DhcpServer.Proofs.Server.ClientMessages
import DhcpServer.Proofs.Server.Serving

/-!
# Listening and serving

A server that sets up its own link serves on it until a call fails that waits
for a datagram, and closes the link then.  Its handler has the messages and can
send, but neither shuts the link down nor closes it: `Server.Errand`.

`Run.Spares` says of all that is done while serving what it leaves alone of the
link; `called_of_connection` says what comes of one call, and `exists_attendedUntil`
carries that over all calls by induction.  Either the set-up fails then, or
`exists_servedAndClosed` tells the whole run.
-/

namespace DhcpServer

/-- The message that a call brings, if it brings one. -/
def ReceiveAnswer.message? (a : ReceiveAnswer) : Option Message :=
  if a.errno = 0 then a.datagram.clientMessage? else none

/-! ## Sending on a link -/

/-- An event of a handler that does nothing with the link but to send. -/
def Event.isSending : Event → Bool
  | .log _ => true
  | .transmit _ _ => true
  | .sent _ => true
  | .sendFailed => true
  | .replied _ _ => true
  | .noSuchReply => true
  | _ => false

/-- An event that may come while a socket is open. -/
def Event.isServing : Event → Bool
  | .openSocket => false
  | .release => false
  | .close => false
  | _ => true

theorem Event.isServing_of_isSending {e : Event} (h : e.isSending = true) : e.isServing = true := by
  cases e with
  | openSocket => cases h
  | release => cases h
  | close => cases h
  | _ => rfl

theorem handedOn_of_sending {es : List Event} (h : ∀ e ∈ es, e.isSending = true) :
    handedOn es = [] :=
  handedOn_of_kind (fun _ => Bool.false_ne_true) h

theorem returned_of_sending {es : List Event} (h : ∀ e ∈ es, e.isSending = true) :
    returned es = [] := by
  refine List.filterMap_eq_nil_iff.mpr fun e he => ?_
  have hsending := h e he
  cases e with
  | receive errno => cases hsending
  | _ => rfl

/-- What serving leaves alone of a link: whether it is open and shut down, and
the answers to closing it. -/
def Link.held (l : Link) : Bool × Bool × List Errno := (l.isOpen, l.isShutDown, l.answers.close)

open Run (Spares)

/-- A run that does nothing with a link but to send. -/
abbrev Link.Sends {α : Type} (x : Run Link α) : Prop := Spares Link.held (·.isSending = true) x

namespace Link

theorem sends_transmitOver (t : Transmission) (answers : List SendAnswer) :
    Sends (transmitOver t answers) := by
  induction answers with
  | nil => exact .bind (.emit rfl) fun _ => .pure _
  | cons a rest ih =>
      refine .bind (.emit rfl) fun _ => ?_
      split
      · exact .pure _
      split
      · exact ih
      · exact .pure _

theorem sends_transmit (t : Transmission) : Sends (transmit t) := by
  refine .bind .get fun l => ?_
  split
  · refine .bind .get fun l => .bind (sends_transmitOver t _) fun result => ?_
    exact .bind (.modify fun _ => rfl) fun _ => .pure _
  · exact .bind (.emit rfl) fun _ => .pure _

theorem sends_send (datagram : Outgoing) :
    Sends (Connection.send datagram : Run Link (Option Failure)) := by
  have hsend : Sends (send datagram) := by
    unfold send
    split
    · exact sends_transmit _
    · exact .pure _
  refine Spares.bind hsend fun result => ?_
  cases result with
  | error failure => exact .pure _
  | ok sent => exact .pure _

end Link

/-! ## Handlers that only send -/

namespace Server

/-- One thing that a handler does about a message if it has the messages and can
send: it starts a reply, or does work of its own. -/
inductive Errand where
  | reply (kind : ReplyKind) (steps : List ReplyStep)
  | work (x : Run Link Unit) (sends : Link.Sends x)

def Errand.deed : Errand → Deed Link
  | reply kind steps => .act (.reply kind steps)
  | work x sends => .aside (.work x fun l => handedOn_of_sending (sends.events l))

/-- The handler that does the errands of a script about each message. -/
def attending (script : Nat → Message → List Errand) : Handler Link :=
  performing fun n m => (script n m).map Errand.deed

/-- What serving leaves alone of a server. -/
abbrev held (s : Server Link) : Option (Bool × Bool × List Errno) × Bool × LogSettings :=
  heldBy Link.held s

theorem spares_perform (m : Message) (errand : Errand) :
    Spares held (·.isSending = true) (perform m errand.deed) := by
  cases errand with
  | work x sends => exact spares_onConnection sends ()
  | reply kind steps =>
      refine (spares_answer Link.sends_send m kind steps).bind fun result => ?_
      cases result with
      | none => exact .emit rfl
      | some result => exact .emit rfl

theorem spares_performAll (m : Message) (errands : List Errand) :
    Spares held (·.isSending = true) (performAll m (errands.map Errand.deed)) := by
  induction errands with
  | nil => exact .pure ()
  | cons errand errands ih => exact (spares_perform m errand).bind fun _ => ih

theorem dispatch_attending (script : Nat → Message → List Errand) (d : Datagram)
    (s : Server Link) :
    let o := dispatch (attending script) d s
    o.state.held = s.held ∧ handedOn o.events = d.message?.toList ∧ returned o.events = [] ∧
      ∀ e ∈ o.events, e.isServing = true := by
  cases hm : d.message? with
  | none =>
      obtain ⟨line, -, hdispatch⟩ := exists_dispatch_of_complaint hm (attending script)
      rw [hdispatch]
      have hlog : Spares held (·.isSending = true) (log .debug line : Run (Server Link) Unit) :=
        .bind .get fun _ => .log _ _ _ fun _ _ => rfl
      have hsending := hlog.events s
      exact ⟨hlog.keeps s, handedOn_of_sending hsending, returned_of_sending hsending,
        fun e he => Event.isServing_of_isSending (hsending e he)⟩
  | some m =>
      rw [dispatch_of_message hm]
      have herrands := spares_performAll m (script s.handled m)
      let dealt := performAll m ((script s.handled m).map Errand.deed)
        { s with handled := s.handled + 1 }
      have hsending : ∀ e ∈ dealt.events, e.isSending = true := herrands.events _
      show dealt.state.held = s.held ∧ handedOn ([.handled m] ++ dealt.events) = [m] ∧
        returned ([.handled m] ++ dealt.events) = [] ∧
        ∀ e ∈ [.handled m] ++ dealt.events, e.isServing = true
      refine ⟨herrands.keeps _, ?_, ?_, ?_⟩
      · rw [handedOn_append, handedOn_of_sending hsending]
        rfl
      · rw [returned_append, returned_of_sending hsending]
        rfl
      · exact List.forall_mem_cons.mpr
          ⟨rfl, fun e he => Event.isServing_of_isSending (hsending e he)⟩

/-! ## One call -/

/-- What a call comes to on a link that nobody shuts down. -/
structure Called (a : ReceiveAnswer) (s : Server Link) (o : Outcome (Server Link) Progress) :
    Prop where
  value_eq : o.value =
    if a.errno = 0 then .served
    else if a.errno = Errno.interrupted then .waiting
    else .ended (some (.system a.errno))
  held_eq : o.state.held = s.held
  handedOn_eq : handedOn o.events = a.message?.toList
  returned_eq : returned o.events = [a.errno]
  serving : ∀ e ∈ o.events, e.isServing = true

section

variable {meanwhile : ReceiveAnswer → Run (Server Link) Unit}
  (hcalm : ∀ a s, meanwhile a s = ⟨(), s, []⟩) (script : Nat → Message → List Errand)
include hcalm

theorem called_of_connection (a : ReceiveAnswer) {l : Link} (hup : l.isShutDown = false) (n : Nat)
    (settings : LogSettings) :
    Called a ⟨some l, false, n, settings⟩
      (step meanwhile (attending script) a ⟨some l, false, n, settings⟩) := by
  let s : Server Link := ⟨some l, false, n, settings⟩
  have hs : (meanwhile a s).state = ⟨some l, false, n, settings⟩ := by rw [hcalm]
  have hnothing : (meanwhile a s).events = [] := by rw [hcalm]
  have hattempt : Connection.attempt a l = _ := Link.attempt_apply receiveCapacity a l
  by_cases hzero : a.errno = 0
  -- a datagram, which goes to the handler or is discarded
  · have hd : (Connection.attempt a l).value = some (.ok (a.datagram.cut receiveCapacity)) := by
      have hgoes : ¬ (a.errno = Errno.interrupted ∧ l.isShutDown = false) :=
        fun h => absurd (hzero.symm.trans h.1) (by decide)
      rw [hattempt, if_neg hgoes, hup, ReceiveAnswer.outcome, if_neg (not_not_intro hzero)]
      rfl
    obtain ⟨hheld, hhanded, hreturned, hserving⟩ :=
      dispatch_attending script (a.datagram.cut receiveCapacity) s
    have hgoes : (dispatch (attending script) (a.datagram.cut receiveCapacity) s).state.stopping =
        false := congrArg (·.2.1) hheld
    rw [step_of_datagram hs hd, hnothing, hattempt, hgoes]
    refine ⟨(if_pos hzero).symm, hheld, ?_, ?_, ?_⟩
    · rw [ReceiveAnswer.message?, if_pos hzero, ← Datagram.message?_cut]
      exact hhanded
    · exact congrArg (a.errno :: ·) hreturned
    · exact List.forall_mem_cons.mpr ⟨rfl, hserving⟩
  · have hnone : a.message? = none := if_neg hzero
    by_cases hintr : a.errno = Errno.interrupted
    -- an interruption: nobody has shut the link down, and the wait goes on
    · have hwaits : (Connection.attempt a l).value = none := by
        rw [hattempt, if_pos ⟨hintr, hup⟩]
      rw [step_of_waiting hs hwaits, hnothing, hattempt]
      refine ⟨?_, rfl, ?_, rfl, List.forall_mem_singleton.mpr rfl⟩
      · rw [if_neg hzero, if_pos hintr]
      · rw [hnone]
        rfl
    -- any other failure ends serving, since the server was not told to stop
    · have hfails : (Connection.attempt a l).value = some (.error (.system a.errno)) := by
        rw [hattempt, if_neg (fun h => hintr h.1), ReceiveAnswer.outcome, if_pos hzero]
      rw [step_of_error hs hfails, hnothing, hattempt]
      refine ⟨?_, rfl, ?_, rfl, List.forall_mem_singleton.mpr rfl⟩
      · rw [if_neg hzero, if_neg hintr]
        rfl
      · rw [hnone]
        rfl

end

/-! ## All calls -/

/-- A server has a connection that nobody shut down, and was not told to stop. -/
def IsUp (s : Server Link) : Prop :=
  ∃ l n settings, s = ⟨some l, false, n, settings⟩ ∧ l.isShutDown = false

theorem IsUp.of_held {s s' : Server Link} (h : s.IsUp) (hheld : s'.held = s.held) : s'.IsUp := by
  obtain ⟨l, n, settings, rfl, hup⟩ := h
  obtain ⟨connection, stopping, n', settings'⟩ := s'
  obtain ⟨hconnection, rfl, rfl⟩ : connection.map Link.held = (some l).map Link.held ∧
      stopping = false ∧ settings' = settings := by
    simpa only [heldBy, Prod.mk.injEq] using hheld
  obtain ⟨l', rfl, hl'⟩ := Option.map_eq_some_iff.mp hconnection
  exact ⟨l', n', _, rfl, (congrArg (·.2.1) hl').trans hup⟩

/-- What serving comes to that ends with a call which fails. -/
structure AttendedUntil (before : List ReceiveAnswer) (call : ReceiveAnswer) (s : Server Link)
    (o : Outcome (Server Link) (Served ReceiveAnswer)) : Prop where
  failure_eq : o.value.failure = some (.system call.errno)
  held_eq : o.state.held = s.held
  handedOn_eq : handedOn o.events = before.filterMap ReceiveAnswer.message?
  returned_eq : returned o.events = before.map ReceiveAnswer.errno ++ [call.errno]
  serving : ∀ e ∈ o.events, e.isServing = true

/-- A call that does not fail puts what it comes to in front. -/
theorem AttendedUntil.cons {a call : ReceiveAnswer} {before : List ReceiveAnswer}
    {s : Server Link} {first : Outcome (Server Link) Progress}
    {o o' : Outcome (Server Link) (Served ReceiveAnswer)} (hfirst : Called a s first)
    (h : AttendedUntil before call first.state o) (hfailure : o'.value.failure = o.value.failure)
    (hstate : o'.state = o.state) (hevents : o'.events = first.events ++ o.events) :
    AttendedUntil (a :: before) call s o' := by
  refine ⟨hfailure.trans h.failure_eq, ?_, ?_, ?_, ?_⟩
  · rw [hstate, h.held_eq, hfirst.held_eq]
  · rw [hevents, handedOn_append, hfirst.handedOn_eq, h.handedOn_eq, List.filterMap_cons]
    cases a.message? <;> rfl
  · rw [hevents, returned_append, hfirst.returned_eq, h.returned_eq]
    rfl
  · rw [hevents]
    exact List.forall_mem_append.mpr ⟨hfirst.serving, h.serving⟩

section

variable {meanwhile : ReceiveAnswer → Run (Server Link) Unit}
  (hcalm : ∀ a s, meanwhile a s = ⟨(), s, []⟩) (script : Nat → Message → List Errand)
include hcalm

/-- Serving ends with the first call that fails.  By induction on the answers;
what is held of the server stays, so that nobody shuts the link down. -/
theorem exists_attendedUntil (answers : List ReceiveAnswer) {s : Server Link} (hs : s.IsUp) :
    ∃ before call after, answers ++ [.unanswered] = before ++ call :: after ∧
      (∀ b ∈ before, ¬ b.Fails) ∧ call.Fails ∧
      AttendedUntil before call s (serveOver meanwhile (attending script) answers s) := by
  induction answers generalizing s with
  | nil =>
      obtain ⟨l, n, settings, rfl, hup⟩ := hs
      -- the call for which no answer is left fails
      refine ⟨[], .unanswered, [], rfl, List.forall_mem_nil _, ⟨by decide, by decide⟩, ?_⟩
      rw [serveOver_nil]
      exact ⟨rfl, rfl, rfl, rfl, List.forall_mem_singleton.mpr rfl⟩
  | cons a rest ih =>
      have hcalled : Called a s (step meanwhile (attending script) a s) := by
        obtain ⟨l, n, settings, rfl, hup⟩ := hs
        exact called_of_connection hcalm script a hup n settings
      by_cases hfails : a.Fails
      · have hvalue := hcalled.value_eq
        rw [if_neg hfails.1, if_neg hfails.2] at hvalue
        refine ⟨[], a, rest ++ [.unanswered], rfl, List.forall_mem_nil _, hfails, ?_⟩
        rw [serveOver_cons_of_ended hvalue]
        have hnone : a.message? = none := if_neg hfails.1
        refine ⟨rfl, hcalled.held_eq, ?_, hcalled.returned_eq, hcalled.serving⟩
        rw [hcalled.handedOn_eq, hnone]
        rfl
      · obtain ⟨before, call, after, hcalls, hgoes, hlast, hserved⟩ :=
          ih (hs.of_held hcalled.held_eq)
        refine ⟨a :: before, call, after, congrArg (a :: ·) hcalls,
          List.forall_mem_cons.mpr ⟨hfails, hgoes⟩, hlast, ?_⟩
        have hvalue := hcalled.value_eq
        by_cases hzero : a.errno = 0
        · rw [if_pos hzero] at hvalue
          rw [serveOver_cons_of_served hvalue]
          exact .cons hcalled hserved rfl rfl rfl
        · have hintr : a.errno = Errno.interrupted :=
            Decidable.byContradiction fun h => hfails ⟨hzero, h⟩
          rw [if_neg hzero, if_pos hintr] at hvalue
          rw [serveOver_cons_of_waiting hvalue]
          exact .cons hcalled hserved rfl rfl rfl

end

/-! ## Serving on a link of its own -/

theorem returned_listen (s : LogSettings) (address device : String) (a : Answers) :
    returned (Link.listen s address device (.closed a)).events = [] := by
  refine List.filterMap_eq_nil_iff.mpr fun e he => ?_
  cases e with
  | receive errno => rcases Link.of_mem_listen he with h | h | h <;> cases h
  | _ => rfl

theorem handedOn_listen (s : LogSettings) (address device : String) (a : Answers) :
    handedOn (Link.listen s address device (.closed a)).events = [] := by
  refine List.filterMap_eq_nil_iff.mpr fun e he => ?_
  cases e with
  | handled m => rcases Link.of_mem_listen he with h | h | h <;> cases h
  | _ => rfl

theorem listenAndServe_of_failed {s : LogSettings} {address : String} {handler : Handler Link}
    {l : Link} {failure : Failure} (h : (Link.listen s address "" l).value = some failure) :
    listenAndServe s address handler l =
      ⟨some failure, (Link.listen s address "" l).state, (Link.listen s address "" l).events⟩ := by
  rw [listenAndServe, Run.bind_apply, h]
  simp only [Run.pure_apply, List.append_nil]

/-- What is left in the log if the link cannot be closed. -/
def closeEntries (s : LogSettings) (failure : Option Failure) : List LogRecord :=
  failure.toList.flatMap fun failure =>
    s.write .info ("dhcp4: Failed to close the listening socket: " ++ failure.message)

theorem onLink_apply (s : LogSettings) (handler : Handler Link) (l : Link) :
    let o := serveOver (fun _ => pure ()) handler l.answers.receive (start (some l) s)
    listenAndServe.onLink handler s l = ⟨o.value, o.state.connection.getD l, o.events⟩ :=
  rfl

theorem listenAndServe_of_listens {s : LogSettings} {address : String} {handler : Handler Link}
    {l l' : Link} {o : Outcome (Server Link) (Served ReceiveAnswer)}
    (h : (Link.listen s address "" l).value = none)
    (ho : serveOver (fun _ => pure ()) handler (Link.listen s address "" l).state.answers.receive
      (start (some (Link.listen s address "" l).state) s) = o)
    (hconnection : o.state.connection = some l') (hopen : l'.isOpen = true) :
    let answer := Answers.next l'.answers.close
    listenAndServe s address handler l =
      ⟨o.value.failure,
        { l' with isOpen := false, answers := { l'.answers with close := answer.2 } },
        (Link.listen s address "" l).events ++ (o.events ++ .close ::
          (closeEntries s (Failure.ofErrno? answer.1)).map .log)⟩ := by
  intro answer
  have hserving : listenAndServe.onLink handler s (Link.listen s address "" l).state =
      ⟨o.value, l', o.events⟩ := by
    rw [onLink_apply, ho, hconnection]
    rfl
  unfold listenAndServe
  rw [Run.bind_apply, h]
  dsimp only
  rw [Run.bind_apply (listenAndServe.onLink handler s), hserving]
  dsimp only
  rw [Run.bind_apply, Link.close_of_open hopen, closeEntries]
  dsimp only
  cases Failure.ofErrno? (Answers.next l'.answers.close).1 with
  | none => rfl
  | some failure =>
      simp only [Run.bind_apply, Run.pure_apply, List.append_nil, Option.toList_some,
        List.flatMap_singleton]
      rfl

theorem exists_listenAndServe {s : LogSettings} {address : String} {a : Answers}
    (script : Nat → Message → List Errand)
    (h : (Link.listen s address "" (.closed a)).value = none) :
    ∃ before call after served, a.calls = before ++ call :: after ∧ (∀ b ∈ before, ¬ b.Fails) ∧
      call.Fails ∧
      AttendedUntil before call (start (some (Link.listen s address "" (.closed a)).state) s)
        served ∧
      (listenAndServe s address (attending script) (.closed a)).value = served.value.failure ∧
      (listenAndServe s address (attending script) (.closed a)).state.isOpen = false ∧
      (listenAndServe s address (attending script) (.closed a)).events =
        (Link.listen s address "" (.closed a)).events ++ (served.events ++ .close ::
          (closeEntries s (Failure.ofErrno? (Answers.next a.close).1)).map .log) := by
  have hahead := (Link.prepares_listen s address "").keeps (.closed a)
  obtain ⟨hup, hreceive, -, hclose⟩ :
      (Link.listen s address "" (.closed a)).state.isShutDown = false ∧
      (Link.listen s address "" (.closed a)).state.answers.receive = a.receive ∧
      (Link.listen s address "" (.closed a)).state.answers.shutdown = a.shutdown ∧
      (Link.listen s address "" (.closed a)).state.answers.close = a.close := by
    simpa [Link.ahead, Link.closed] using hahead
  have hopen : (Link.listen s address "" (.closed a)).state.isOpen = true :=
    (Link.setsUp_listen s address "" a).isOpen_iff.mpr h
  obtain ⟨before, call, after, hcalls, hgoes, hfails, hserved⟩ :=
    exists_attendedUntil (fun _ _ => rfl) script a.receive
      (s := start (some (Link.listen s address "" (.closed a)).state) s) ⟨_, 0, s, rfl, hup⟩
  obtain ⟨l', hconnection, hheld⟩ := Option.map_eq_some_iff.mp (congrArg Prod.fst hserved.held_eq)
  have hstill : l'.isOpen = true := (congrArg Prod.fst hheld).trans hopen
  have hclose' : l'.answers.close = a.close := (congrArg (·.2.2) hheld).trans hclose
  refine ⟨before, call, after, _, hcalls, hgoes, hfails, hserved, ?_⟩
  rw [listenAndServe_of_listens h (congrFun (congrArg _ hreceive) _) hconnection hstill, hclose']
  exact ⟨rfl, rfl, rfl⟩

instance (call : ReceiveAnswer) : Decidable call.Fails :=
  inferInstanceAs (Decidable (_ ∧ _))

/-- The set-up fails, or else the first call does that fails. -/
theorem value_listenAndServe (s : LogSettings) (address : String)
    (script : Nat → Message → List Errand) (a : Answers) :
    (listenAndServe s address (attending script) (.closed a)).value =
      match Stage.problem? (Link.listenStages address "" a) with
      | some failure => some failure
      | none => (a.calls.find? fun call => call.Fails).map fun call => .system call.errno := by
  rw [← (Link.setsUp_listen s address "" a).value_eq]
  cases hset : (Link.listen s address "" (.closed a)).value with
  | some failure => rw [listenAndServe_of_failed hset]
  | none =>
      obtain ⟨before, call, after, served, hcalls, hgoes, hfails, hserved, hvalue, -, -⟩ :=
        exists_listenAndServe script hset
      have hfirst : a.calls.find? (fun call => call.Fails) = some call := by
        rw [List.find?_eq_some_iff_append]
        refine ⟨decide_eq_true hfails, before, after, hcalls, fun b hb => ?_⟩
        rw [decide_eq_false (hgoes b hb)]
        rfl
      rw [hvalue, hserved.failure_eq, hfirst]
      rfl

/-- A server has listened, served on its link up to a call that failed, and then
closed the link. -/
structure ServedAndClosed (before : List ReceiveAnswer) (call : ReceiveAnswer)
    (set o : Outcome Link (Option Failure)) : Prop where
  value_eq : o.value = some (.system call.errno)
  isOpen_eq : o.state.isOpen = false
  handedOn_eq : handedOn o.events = before.filterMap ReceiveAnswer.message?
  returned_eq : returned o.events = before.map ReceiveAnswer.errno ++ [call.errno]
  closed : ∃ (served : List Event) (entries : List LogRecord),
    o.events = set.events ++ (served ++ .close :: entries.map .log) ∧
      ∀ e ∈ served, e.isServing = true

theorem exists_servedAndClosed {s : LogSettings} {address : String} {a : Answers}
    (script : Nat → Message → List Errand)
    (h : (Link.listen s address "" (.closed a)).value = none) :
    ∃ before call after, a.calls = before ++ call :: after ∧ (∀ b ∈ before, ¬ b.Fails) ∧
      call.Fails ∧ ServedAndClosed before call (Link.listen s address "" (.closed a))
        (listenAndServe s address (attending script) (.closed a)) := by
  obtain ⟨before, call, after, served, hcalls, hgoes, hfails, hserved, hvalue, hclosed, hevents⟩ :=
    exists_listenAndServe script h
  let entries := closeEntries s (Failure.ofErrno? (Answers.next a.close).1)
  have hlogs : returned (entries.map .log) = [] := by
    refine returned_of_sending fun e he => ?_
    obtain ⟨entry, -, rfl⟩ := List.mem_map.mp he
    rfl
  have hclose : handedOn (.close :: entries.map .log) = [] := handedOn_map_log entries
  have hclose' : returned (.close :: entries.map .log) = [] := hlogs
  refine ⟨before, call, after, hcalls, hgoes, hfails, hvalue.trans hserved.failure_eq, hclosed,
    ?_, ?_, served.events, entries, hevents, hserved.serving⟩
  · rw [hevents, handedOn_append, handedOn_append, handedOn_listen, hserved.handedOn_eq, hclose,
      List.nil_append, List.append_nil]
  · rw [hevents, returned_append, returned_append, returned_listen, hserved.returned_eq, hclose',
      List.nil_append, List.append_nil]

theorem ServedAndClosed.count_eq {before : List ReceiveAnswer} {call : ReceiveAnswer}
    {set o : Outcome Link (Option Failure)} (h : ServedAndClosed before call set o) {e : Event}
    (hserving : e.isServing = false) (hlog : e.isLogEntry = false) :
    o.events.count e = set.events.count e + [Event.close].count e := by
  obtain ⟨served, entries, hevents, hserved⟩ := h.closed
  have hnone : served.count e = 0 := by
    refine List.count_eq_zero.mpr fun he => ?_
    rw [hserved e he] at hserving
    cases hserving
  have hnone' : (entries.map Event.log).count e = 0 := by
    refine List.count_eq_zero.mpr fun he => ?_
    obtain ⟨entry, -, rfl⟩ := List.mem_map.mp he
    cases hlog
  rw [hevents, List.append_cons, List.count_append, List.count_append, List.count_append, hnone,
    hnone', Nat.zero_add, Nat.add_zero]

/-! ### What holds whether or not the link is set up -/

section

variable (s : LogSettings) (address : String) (script : Nat → Message → List Errand) (a : Answers)

theorem exists_failure_listenAndServe :
    ∃ failure, (listenAndServe s address (attending script) (.closed a)).value = some failure := by
  cases hset : (Link.listen s address "" (.closed a)).value with
  | some failure =>
      rw [listenAndServe_of_failed hset]
      exact ⟨failure, rfl⟩
  | none =>
      obtain ⟨before, call, after, -, -, -, hserved⟩ := exists_servedAndClosed script hset
      exact ⟨_, hserved.value_eq⟩

theorem listenAndServe_ne_success {a : Answers} (h : a.Genuine) :
    (listenAndServe s address (attending script) (.closed a)).value ≠ some (.system 0) := by
  cases hset : (Link.listen s address "" (.closed a)).value with
  | some failure =>
      have hlisten := Link.listen_ne_success s address "" h
      rw [hset] at hlisten
      rw [listenAndServe_of_failed hset]
      exact hlisten
  | none =>
      obtain ⟨before, call, after, -, -, hfails, hserved⟩ := exists_servedAndClosed script hset
      intro hsuccess
      rw [hserved.value_eq, Option.some.injEq, Failure.system.injEq] at hsuccess
      exact hfails.1 hsuccess

theorem isOpen_listenAndServe :
    (listenAndServe s address (attending script) (.closed a)).state.isOpen = false := by
  cases hset : (Link.listen s address "" (.closed a)).value with
  | some failure =>
      rw [listenAndServe_of_failed hset, ← Bool.not_eq_true,
        (Link.setsUp_listen s address "" a).isOpen_iff, hset]
      exact Option.some_ne_none failure
  | none =>
      obtain ⟨before, call, after, -, -, -, hserved⟩ := exists_servedAndClosed script hset
      exact hserved.isOpen_eq

theorem count_openSocket_listenAndServe :
    (listenAndServe s address (attending script) (.closed a)).events.count .openSocket ≤ 1 := by
  have hset_le := Link.count_openSocket_listen s address "" a
  cases hset : (Link.listen s address "" (.closed a)).value with
  | some failure =>
      rw [listenAndServe_of_failed hset]
      exact hset_le
  | none =>
      obtain ⟨before, call, after, -, -, -, hserved⟩ := exists_servedAndClosed script hset
      have hclose : [Event.close].count .openSocket = 0 := rfl
      rw [hserved.count_eq rfl rfl, hclose, Nat.add_zero]
      exact hset_le

/-- A socket that was opened is closed or given up, and only once. -/
theorem count_disposals :
    let o := listenAndServe s address (attending script) (.closed a)
    o.events.count .close + o.events.count .release =
      if Event.openSocket ∈ o.events ∧ a.openSocket.headD 0 = 0 then 1 else 0 := by
  intro o
  have hset := Link.setsUp_listen s address "" a
  have hclose : (Link.listen s address "" (.closed a)).events.count .close = 0 :=
    List.count_eq_zero.mpr hset.close_not_mem
  have hrelease := hset.count_release
  cases hvalue : (Link.listen s address "" (.closed a)).value with
  | some failure =>
      -- given up in the set-up
      have ho : o = ⟨some failure, _, _⟩ := listenAndServe_of_failed hvalue
      rw [hvalue] at hrelease
      rw [ho, hclose, hrelease, Nat.zero_add]
      simp only [ne_eq, reduceCtorEq, not_false_eq_true, and_true]
  | none =>
      -- closed after serving
      obtain ⟨before, call, after, -, -, -, hserved⟩ := exists_servedAndClosed script hvalue
      rw [hvalue, if_neg (fun h => h.2 rfl)] at hrelease
      obtain ⟨hopened, hzero⟩ := Link.opened_of_listens hvalue
      have hmem : Event.openSocket ∈ o.events := by
        obtain ⟨served, entries, hevents, -⟩ := hserved.closed
        rw [hevents]
        exact List.mem_append_left _ hopened
      rw [hserved.count_eq rfl rfl, hserved.count_eq rfl rfl, hclose, hrelease,
        if_pos ⟨hmem, hzero⟩]
      rfl

end

/-- **A server on a link of its own** fails in any case.  If the link cannot be
set up, that is why, and nothing is received.  Otherwise it serves up to the
first call that fails, hands on each message that it has received by then once
and in order, and fails as that call did, whatever closing the link comes to.
A socket that was opened is closed or given up, and only once. -/
theorem listenAndServe_whole_run (s : LogSettings) (address : String)
    (script : Nat → Message → List Errand) (a : Answers) :
    let set := Link.listen s address "" (.closed a)
    let o := listenAndServe s address (attending script) (.closed a)
    (∃ failure, o.value = some failure) ∧
      (a.Genuine → o.value ≠ some (.system 0)) ∧
      (∀ errnos, (listenAndServe s address (attending script)
        (.closed { a with close := errnos })).value = o.value) ∧
      (∀ failure, set.value = some failure → o = ⟨some failure, set.state, set.events⟩ ∧
        returned o.events = [] ∧ handedOn o.events = []) ∧
      (set.value = none → ∃ before call after, a.calls = before ++ call :: after ∧
        (∀ b ∈ before, ¬ b.Fails) ∧ call.Fails ∧ ServedAndClosed before call set o) ∧
      o.state.isOpen = false ∧
      o.events.count .openSocket ≤ 1 ∧
      o.events.count .close + o.events.count .release =
        if Event.openSocket ∈ o.events ∧ a.openSocket.headD 0 = 0 then 1 else 0 := by
  intro set o
  refine ⟨exists_failure_listenAndServe s address script a,
    listenAndServe_ne_success s address script, fun errnos => ?_, fun failure hset => ?_,
    exists_servedAndClosed script, isOpen_listenAndServe s address script a,
    count_openSocket_listenAndServe s address script a, count_disposals s address script a⟩
  · show (listenAndServe s address (attending script) (.closed { a with close := errnos })).value =
      (listenAndServe s address (attending script) (.closed a)).value
    rw [value_listenAndServe, value_listenAndServe]
    rfl
  · have ho : o = ⟨some failure, set.state, set.events⟩ := listenAndServe_of_failed hset
    rw [ho]
    exact ⟨rfl, returned_listen s address "" a, handedOn_listen s address "" a⟩

/-- A discovery is received and handed on; then receiving fails, and closing too. -/
theorem listenAndServe_whole_run_discovery :
    let discover : Bytes := [1, 1, 6, 0, 0, 0, 0, 1, 0, 0, 0x80, 0] ++ List.replicate 224 0 ++
      [0x63, 0x82, 0x53, 0x63, 53, 1, 1, 255]
    let received : ReceiveAnswer := ⟨false, none, 0, discover, .ofIpv4 (.ofOctets 10 0 0 7) 68, []⟩
    let again : ReceiveAnswer := ⟨false, none, 4, [], .empty, []⟩
    let failed : ReceiveAnswer := ⟨false, none, 9, [], .empty, []⟩
    let a := { Answers.receiving [received, again, failed] with close := [5] }
    let o := listenAndServe .initial ":67" (attending fun _ _ => [.reply .offer [.send]]) (.closed a)
    a.Genuine ∧ (Link.listen .initial ":67" "" (.closed a)).value = none ∧
      o.value = some (.system 9) ∧ (handedOn o.events).length = 1 ∧
      returned o.events = [0, 4, 9] ∧ o.events.count .close + o.events.count .release = 1 := by
  intro discover received again failed a o
  have hgenuine : a.Genuine := fun _ h => absurd h List.not_mem_nil
  have hset : (Link.listen .initial ":67" "" (.closed a)).value = none := by decide +kernel
  obtain ⟨-, -, -, -, hserves, -, -, hdisposed⟩ := listenAndServe_whole_run .initial ":67"
    (fun _ _ => [.reply .offer [.send]]) a
  have hopened : Event.openSocket ∈ o.events ∧ a.openSocket.headD 0 = 0 := by decide +kernel
  rw [if_pos hopened] at hdisposed
  obtain ⟨before, call, after, hcalls, -, -, hserved⟩ := hserves hset
  have hreturned : returned o.events = [0, 4] ++ [9] := by decide +kernel
  obtain ⟨hbefore, hcall⟩ := List.append_inj' (hserved.returned_eq.symm.trans hreturned) rfl
  have hlength : before.length = 2 := by
    rw [← List.length_map ReceiveAnswer.errno, hbefore]
    rfl
  have hcalls : before ++ call :: after = [received, again] ++ [failed, .unanswered] := hcalls.symm
  obtain ⟨rfl, -⟩ := List.append_inj hcalls hlength
  refine ⟨hgenuine, hset, ?_, ?_, hreturned, hdisposed⟩
  · rw [hserved.value_eq, List.singleton_inj.mp hcall]
  · rw [hserved.handedOn_eq]
    decide +kernel

end Server

end DhcpServer
