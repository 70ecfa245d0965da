import DhcpServer.Proofs.Server.Replies

/-!
# Replies do not disturb serving

What a handler does with replies, to whichever message and by whichever way, and
whether they can be sent, has no part in what the server reads, hands on and comes
to: two handlers that tell the server to stop about the same messages are served
alike.  `EndsAt.congr` says that serving ends at the same read, and
`ServedUntil.unique` that it comes to the same there.  `uses_serveOver` says what
serving itself asks of the connection, by induction on the answers.

Nor has it a part in the messages: what is handed on is what the reads deliver, and
every reply goes on telling the message that it was built for.
-/

namespace DhcpServer

/-! ## Where serving ends -/

namespace Server

section

variable {stops stops' : Nat → Message → Bool} {n k : Nat} {answers : List ChannelAnswer}

/-- The message of a read stands behind those of the reads before. -/
theorem getElem?_messages {reads : List ChannelAnswer} {a : ChannelAnswer} {m : Message}
    (ha : reads[k]? = some a) (hm : a.message? = some m) :
    (messages reads)[(messages (reads.take k)).length]? = some m := by
  induction reads generalizing k with
  | nil => cases ha
  | cons b rest ih =>
      cases k with
      | zero =>
          obtain rfl : b = a := Option.some.inj ha
          rw [messages_cons, hm]
          rfl
      | succ k =>
          rw [List.take_succ_cons, messages_cons, messages_cons, List.length_append,
            List.getElem?_append_right (Nat.le_add_right _ _), Nat.add_sub_cancel_left]
          exact ih ha

/-- The server is told to stop at the same reads if it is about the same messages
that are delivered. -/
theorem stopsAt_congr {reads : List ChannelAnswer}
    (h : ∀ i m, (messages reads)[i]? = some m → stops (n + i) m = stops' (n + i) m) :
    StopsAt stops n reads k ↔ StopsAt stops' n reads k := by
  constructor
  · rintro ⟨a, ha, htold | ⟨m, hm, hstop⟩⟩
    · exact ⟨a, ha, .inl htold⟩
    · rw [h _ m (getElem?_messages ha hm)] at hstop
      exact ⟨a, ha, .inr ⟨m, hm, hstop⟩⟩
  · rintro ⟨a, ha, htold | ⟨m, hm, hstop⟩⟩
    · exact ⟨a, ha, .inl htold⟩
    · rw [← h _ m (getElem?_messages ha hm)] at hstop
      exact ⟨a, ha, .inr ⟨m, hm, hstop⟩⟩

theorem EndsAt.congr {reads : List ChannelAnswer}
    (h : ∀ i m, (messages reads)[i]? = some m → stops (n + i) m = stops' (n + i) m)
    (hends : EndsAt stops n reads k) : EndsAt stops' n reads k := by
  refine ⟨fun j hj => ?_, hends.ends.imp_left (stopsAt_congr h).mp⟩
  obtain ⟨hgoes, hok⟩ := hends.before j hj
  exact ⟨mt (stopsAt_congr h).mpr hgoes, hok⟩

/-- Serving ends at one read only. -/
theorem EndsAt.unique {reads : List ChannelAnswer} {k' : Nat} (h : EndsAt stops n reads k)
    (h' : EndsAt stops n reads k') : k = k' := by
  have hle : ∀ {i j}, EndsAt stops n reads i → EndsAt stops n reads j → ¬ i < j := by
    intro i j hi hj hlt
    obtain ⟨hgoes, hok⟩ := hj.before i hlt
    rcases hi.ends with hstop | ⟨failure, hfail⟩
    · exact hgoes hstop
    · exact hok failure hfail
  exact Nat.le_antisymm (Nat.not_lt.mp (hle h' h)) (Nat.not_lt.mp (hle h h'))

/-- What serving comes to is settled by the read at which it ends. -/
theorem ServedUntil.unique {o o' : Outcome (Server Channel) (Served ChannelAnswer)}
    (hends : EndsAt stops n (reads answers) k)
    (h : ∀ i m, (messages (reads answers))[i]? = some m → stops (n + i) m = stops' (n + i) m)
    (hserved : ServedUntil stops n answers k o) (hserved' : ServedUntil stops' n answers k o') :
    o.value = o'.value ∧ handedOn o.events = handedOn o'.events := by
  have hfailure : o.value.failure = o'.value.failure := by
    by_cases hstop : StopsAt stops n (reads answers) k
    · rw [hserved.stopped hstop, hserved'.stopped ((stopsAt_congr h).mp hstop)]
    · rcases hends.ends with hstop' | ⟨failure, hfail⟩
      · exact absurd hstop' hstop
      · rw [hserved.failed failure hstop hfail,
          hserved'.failed failure (mt (stopsAt_congr h).mpr hstop) hfail]
  have hwaits : o.value.waits = o'.value.waits := hserved.waits_eq.trans hserved'.waits_eq.symm
  have hrest : o.value.rest = o'.value.rest := hserved.rest_eq.trans hserved'.rest_eq.symm
  refine ⟨?_, hserved.handedOn_eq.trans hserved'.handedOn_eq.symm⟩
  calc o.value = ⟨o.value.failure, o.value.waits, o.value.rest⟩ := rfl
    _ = ⟨o'.value.failure, o'.value.waits, o'.value.rest⟩ := by rw [hfailure, hwaits, hrest]
    _ = o'.value := rfl

end

end Server

/-! ## What serving itself asks of a connection -/

namespace Server

section

variable {κ α : Type}

/-- A run on a server with a connection does nothing that shows among the uses of
the connection. -/
def Untold (x : Run (Server (Watched κ)) α) : Prop :=
  ∀ w stopping n settings, ∃ w' stopping',
    (x ⟨some w, stopping, n, settings⟩).state = ⟨some w', stopping', n, settings⟩ ∧
      w'.uses = w.uses

/-- The server, with a list of what its connection was used for. -/
def watch (uses : List Use) (s : Server κ) : Server (Watched κ) :=
  ⟨s.connection.map (⟨·, uses⟩), s.stopping, s.handled, s.settings⟩

theorem forget_watch (uses : List Use) (s : Server κ) : (s.watch uses).forget = s := by
  obtain ⟨_ | c, stopping, n, settings⟩ := s <;> rfl

/-- A run on the connection that is watched.  What it does with the connection is
not among the uses. -/
def unseen (x : Run (Server κ) α) : Run (Server (Watched κ)) α := fun s =>
  let r := x s.forget
  ⟨r.value, r.state.watch s.uses, r.events⟩

theorem forgets_unseen (x : Run (Server κ) α) : Run.SeenAs forget (unseen x) x := by
  intro s
  show x s.forget = ⟨_, ((x s.forget).state.watch s.uses).forget, _⟩
  rw [forget_watch]
  rfl

theorem untold_unseen {x : Run (Server κ) α} {stops : Bool} {messages : List Message}
    (hdoes : Does x stops messages) : Untold (unseen x) := by
  intro w stopping n settings
  obtain ⟨c', hstate⟩ := hdoes.state_eq w.connection stopping n settings
  refine ⟨⟨c', w.uses⟩, stopping || stops, ?_, rfl⟩
  show (x ⟨some w.connection, stopping, n, settings⟩).state.watch w.uses = _
  rw [hstate]
  rfl

end

variable {meanwhile : ChannelAnswer → Run (Server (Watched Channel)) Unit}
  {handler : Handler (Watched Channel)} (hmeanwhile : ∀ a, Untold (meanwhile a))
  (hhandler : ∀ n m, Untold (handler n m))

include hhandler in
theorem uses_dispatch (d : Datagram) (w : Watched Channel) (stopping : Bool) (n : Nat)
    (settings : LogSettings) :
    ∃ w' stopping' n', (dispatch handler d ⟨some w, stopping, n, settings⟩).state =
      ⟨some w', stopping', n', settings⟩ ∧ w'.uses = w.uses := by
  cases hm : d.message? with
  | none =>
      obtain ⟨line, -, hdispatch⟩ := exists_dispatch_of_complaint hm handler
      rw [hdispatch]
      exact ⟨w, stopping, n, rfl, rfl⟩
  | some m =>
      rw [dispatch_of_message hm]
      obtain ⟨w', stopping', hstate, huses⟩ := hhandler n m w stopping (n + 1) settings
      exact ⟨w', stopping', n + 1, hstate, huses⟩

include hmeanwhile hhandler

/-- With one answer a wait comes to an end, and serving asks nothing else of the
connection. -/
theorem uses_step (a : ChannelAnswer) (w : Watched Channel) (stopping : Bool) (n : Nat)
    (settings : LogSettings) :
    let o := step meanwhile handler a ⟨some w, stopping, n, settings⟩
    o.value ≠ .waiting ∧ ∃ w' stopping' n', o.state = ⟨some w', stopping', n', settings⟩ ∧
      w'.uses = w.uses ++ [.waited a.read] := by
  intro o
  obtain ⟨w₁, stopping₁, hstate, huses⟩ := hmeanwhile a w stopping n settings
  let w₂ : Watched Channel := ⟨w₁.connection, w₁.uses ++ [.waited a.read]⟩
  have hattempt : (Connection.attempt a w₁ : Outcome (Watched Channel) (Option Received)) =
      ⟨some a.read, w₂, []⟩ := rfl
  have hwaited : w₂.uses = w.uses ++ [.waited a.read] := by rw [← huses]
  cases hread : a.read with
  | error failure =>
      rw [hread] at hattempt hwaited
      have ho : o = _ := step_of_error hstate (congrArg Outcome.value hattempt)
      rw [ho, hattempt]
      exact ⟨Progress.noConfusion, w₂, stopping₁, n, rfl, hwaited⟩
  | ok d =>
      rw [hread] at hattempt hwaited
      have ho : o = _ := step_of_datagram hstate (congrArg Outcome.value hattempt)
      obtain ⟨w', stopping', n', hdealt, hkept⟩ :=
        uses_dispatch hhandler d w₂ stopping₁ n settings
      rw [ho, hattempt, hdealt]
      refine ⟨?_, w', stopping', n', rfl, hkept.trans hwaited⟩
      cases stopping' with
      | false => exact Progress.noConfusion
      | true => exact Progress.noConfusion

/-- Serving asks for the reads up to the one at which it ends, and for nothing
else. -/
theorem uses_serveOver (answers : List ChannelAnswer) (w : Watched Channel) (stopping : Bool)
    (n : Nat) (settings : LogSettings) :
    let o := serveOver meanwhile handler answers ⟨some w, stopping, n, settings⟩
    o.state.uses = w.uses ++
      (((reads answers).take o.value.waits).map ChannelAnswer.read).map Use.waited := by
  induction answers generalizing w stopping n with
  | nil =>
      -- no answer is left, and the last wait fails
      rw [serveOver_nil]
      rfl
  | cons a rest ih =>
      intro o
      obtain ⟨hends, w', stopping', n', hstate, huses⟩ :=
        uses_step hmeanwhile hhandler a w stopping n settings
      cases hvalue : (step meanwhile handler a ⟨some w, stopping, n, settings⟩).value with
      | waiting => exact absurd hvalue hends
      | ended failure =>
          have ho : o = _ := serveOver_cons_of_ended hvalue
          rw [ho, hstate]
          exact huses
      | served =>
          have ho : o = _ := serveOver_cons_of_served hvalue
          rw [ho, hstate, reads_cons, List.take_succ_cons, List.map_cons, List.map_cons]
          show (serveOver meanwhile handler rest ⟨some w', stopping', n', settings⟩).state.uses = _
          rw [ih, huses, List.append_assoc]
          rfl

end Server

/-! ## Two handlers -/

namespace Server

section

variable {meanwhile meanwhile' : ChannelAnswer → Run (Server Channel) Unit}
  {handler handler' : Handler Channel} {stops stops' : Nat → Message → Bool}
  (hmeanwhile : ∀ a, Does (meanwhile a) a.stops [])
  (hmeanwhile' : ∀ a, Does (meanwhile' a) a.stops [])
  (hdoes : ∀ n m, Does (handler n m) (stops n m) [m])
  (hdoes' : ∀ n m, Does (handler' n m) (stops' n m) [m])

include hmeanwhile hdoes in
/-- What is handed on is what the reads deliver, as they deliver it. -/
theorem handedOn_serve (answers : List ChannelAnswer) (c : Channel) (stopping : Bool) (n : Nat)
    (settings : LogSettings) :
    let o := serve meanwhile handler answers ⟨some c, stopping, n, settings⟩
    handedOn o.events = messages ((reads answers).take o.value.waits) := by
  cases stopping with
  | true => rfl
  | false =>
      obtain ⟨k, -, hserved⟩ := exists_servedUntil hmeanwhile hdoes answers c n settings
      intro o
      rw [show o.value.waits = k + 1 from hserved.waits_eq]
      exact hserved.handedOn_eq

include hmeanwhile hmeanwhile' hdoes hdoes' in
/-- Two handlers that stop the server about the same messages lead to the same
result and the same messages. -/
theorem value_eq_of_stops {answers : List ChannelAnswer} {n : Nat}
    (hstops : ∀ i m, (messages (reads answers))[i]? = some m → stops (n + i) m = stops' (n + i) m)
    (c c' : Channel) (stopping : Bool) (settings : LogSettings) :
    let o := serve meanwhile handler answers ⟨some c, stopping, n, settings⟩
    let o' := serve meanwhile' handler' answers ⟨some c', stopping, n, settings⟩
    o.value = o'.value ∧ handedOn o.events = handedOn o'.events := by
  cases stopping with
  | true =>
      -- the server was told to stop before, and reads nothing
      exact ⟨rfl, rfl⟩
  | false =>
      -- both end at one read, and what they come to is settled by it
      obtain ⟨k, hends, hserved⟩ := exists_servedUntil hmeanwhile hdoes answers c n settings
      obtain ⟨k', hends', hserved'⟩ := exists_servedUntil hmeanwhile' hdoes' answers c' n settings
      obtain rfl : k = k' := (hends.congr hstops).unique hends'
      exact hserved.unique hends hstops hserved'

include hmeanwhile hdoes in
/-- Serving asks the connection for as many reads as it waits, and for nothing
else. -/
theorem uses_serve (answers : List ChannelAnswer) (c : Channel) (stopping : Bool) (n : Nat)
    (settings : LogSettings) :
    let o := serve (fun a => unseen (meanwhile a)) (fun n m => unseen (handler n m)) answers
      ⟨some (⟨c, []⟩ : Watched Channel), stopping, n, settings⟩
    o.state.uses =
      (((reads answers).take o.value.waits).map ChannelAnswer.read).map Use.waited := by
  cases stopping with
  | true => rfl
  | false =>
      exact uses_serveOver (fun a => untold_unseen (hmeanwhile a))
        (fun n m => untold_unseen (hdoes n m)) answers ⟨c, []⟩ false n settings

end

/-- **Replies do not disturb serving.**  Two handlers that tell the server to stop
about the same messages, whatever replies they send to those messages and to
earlier ones, by whichever way and on whichever thread, and whether those can be
sent, get the same messages from the same reads, as the reads deliver them, and
serving comes to the same; and every reply goes on telling the message that it was
built for. -/
theorem handlers_serve_alike (conduct conduct' : Conduct Channel ChannelAnswer)
    (answers : List ChannelAnswer) (c c' : Channel) (stopping : Bool) (n : Nat)
    (settings : LogSettings)
    (hstops : ∀ i m, (messages (reads answers))[i]? = some m →
      (conduct.deeds (n + i) m).any Deed.stops = (conduct'.deeds (n + i) m).any Deed.stops) :
    let run := fun (conduct : Conduct Channel ChannelAnswer) (c : Channel) =>
      serve (fun a => unseen (conduct.meanwhile ChannelAnswer.stops a))
        (fun n m => unseen (performing conduct.deeds n m)) answers
        ⟨some (⟨c, []⟩ : Watched Channel), stopping, n, settings⟩
    let o := run conduct c
    let o' := run conduct' c'
    o.value = o'.value ∧
      o.state.uses = o'.state.uses ∧
      o.state.uses =
        (((reads answers).take o.value.waits).map ChannelAnswer.read).map Use.waited ∧
      handedOn o.events = handedOn o'.events ∧
      handedOn o.events = messages ((reads answers).take o.value.waits) ∧
      ((∀ aside, conduct.Includes aside → aside.Unreporting) →
        ∀ i start reports, o.events[i]? = some (.replied start reports) →
          ((∃ m, lastHandedOn? (o.events.take i) = some m ∧ start.BuiltFor m) ∨
            conduct.Keeps start) ∧
          (∀ report ∈ reports, report.reply.request = start.request) ∧
          ∀ m, start.BuiltFor m → start.request = m) ∧
      serve (conduct.meanwhile ChannelAnswer.stops) (performing conduct.deeds) answers
          ⟨some c, stopping, n, settings⟩ = ⟨o.value, o.state.forget, o.events⟩ := by
  intro run o o'
  have hmeanwhile : ∀ conduct : Conduct Channel ChannelAnswer,
      ∀ a, Does (conduct.meanwhile ChannelAnswer.stops a) a.stops [] :=
    fun conduct => conduct.does_meanwhile ChannelAnswer.stops
  have hplain : ∀ conduct c, serve (conduct.meanwhile ChannelAnswer.stops)
      (performing conduct.deeds) answers ⟨some c, stopping, n, settings⟩ =
        ⟨(run conduct c).value, (run conduct c).state.forget, (run conduct c).events⟩ :=
    fun conduct c => forgets_serve (fun a => forgets_unseen _) (fun n m => forgets_unseen _)
      answers ⟨some ⟨c, []⟩, stopping, n, settings⟩
  have huses : ∀ conduct c, (run conduct c).state.uses =
      (((reads answers).take (run conduct c).value.waits).map ChannelAnswer.read).map Use.waited :=
    fun conduct c => uses_serve (hmeanwhile conduct) (does_performing conduct.deeds) answers c
      stopping n settings
  obtain ⟨hvalue, hhanded⟩ := value_eq_of_stops (hmeanwhile conduct) (hmeanwhile conduct')
    (does_performing conduct.deeds) (does_performing conduct'.deeds) hstops c c' stopping settings
  have hmessages := handedOn_serve (hmeanwhile conduct) (does_performing conduct.deeds) answers c
    stopping n settings
  rw [hplain, hplain] at hvalue hhanded
  rw [hplain] at hmessages
  refine ⟨hvalue, ?_, huses conduct c, hhanded, hmessages, fun hquiet i start reports hi => ?_,
    hplain conduct c⟩
  · rw [huses conduct c, huses conduct' c']
    exact congrArg (fun served : Served ChannelAnswer =>
      (((reads answers).take served.waits).map ChannelAnswer.read).map Use.waited) hvalue
  · have hreports := reports_serve (Conduct.reports_meanwhile hquiet ChannelAnswer.stops)
      (Conduct.reports_performing hquiet) answers ⟨some c, stopping, n, settings⟩
    rw [hplain] at hreports
    obtain ⟨hbuilt, hrequests⟩ := hreports i start reports hi
    exact ⟨hbuilt, hrequests, fun m hm => hm.request_eq⟩

/-- One handler keeps its offer to the first message.  While the server waits for the
second and while it handles that, the handler makes another transaction of the
offer and tries to send it by ways of its own.  The other handler does nothing. -/
theorem handlers_serve_alike_kept :
    let discover : Bytes := [1, 1, 6, 0, 0, 0, 0, 1, 0, 0, 0x80, 0] ++ List.replicate 224 0 ++
      [0x63, 0x82, 0x53, 0x63, 53, 1, 1, 255]
    let d : Datagram := ⟨discover, ⟨.v4 (.ofOctets 10 0 0 7), 68⟩, 3⟩
    let steps : List KeptStep := [.edit (.setXid 7), .edit (Reply.leaseTime 60),
      .edit (Reply.yourAddress (.ofOctets 10 0 0 9)), .edit (Reply.serverId (.ofOctets 10 0 0 2)),
      .send none, .send (some ⟨⟨.v4 (.ofOctets 10 0 0 8), 1068⟩, 4, true⟩)]
    let asides : List (Aside Channel) :=
      (d.message?.bind (Reply.to? .offer)).toList.map (.proceed · steps)
    let keeping : Conduct Channel ChannelAnswer :=
      ⟨fun n _ => if n = 1 then asides.map .aside else [],
        fun n _ => if n = 1 then asides else [], fun _ _ => []⟩
    let idle : Conduct Channel ChannelAnswer := ⟨fun _ _ => [], fun _ _ => [], fun _ _ => []⟩
    let run := fun (conduct : Conduct Channel ChannelAnswer) (c : Channel) =>
      serve (fun a => unseen (conduct.meanwhile ChannelAnswer.stops a))
        (fun n m => unseen (performing conduct.deeds n m)) [⟨false, .ok d⟩, ⟨false, .ok d⟩]
        ⟨some (⟨c, []⟩ : Watched Channel), false, 0, .initial⟩
    let o := run keeping ⟨[some .shutDown], []⟩
    let o' := run idle ⟨[], []⟩
    o.value = o'.value ∧ o.state.uses = o'.state.uses ∧ handedOn o.events = handedOn o'.events ∧
      (handedOn o.events).length = 2 ∧
      ∃ start reports, o.events[2]? = some (.replied start reports) ∧
        d.message? = some start.request ∧ reports.length = 6 ∧
        ∀ report ∈ reports, report.reply.request = start.request := by
  intro discover d steps asides keeping idle run o o'
  have hlength : (handedOn o.events).length = 2 := by decide +kernel
  have hrequest : (o.events[2]?.bind Event.reply?).map (fun reply => some reply.1.request) =
      some d.message? := by decide +kernel
  have hsteps : (o.events[2]?.bind Event.reply?).map (fun reply => reply.2.length) = some 6 := by
    decide +kernel
  -- what is done beside serving is done with the kept reply, and stops nothing
  have hstops : ∀ n m, (keeping.deeds n m).any Deed.stops = (idle.deeds n m).any Deed.stops := by
    intro n m
    show (if n = 1 then asides.map .aside else []).any Deed.stops = false
    refine List.any_eq_false.mpr fun deed hdeed => ?_
    obtain ⟨aside, -, rfl⟩ := List.mem_map.mp (List.mem_ite_nil_right.mp hdeed).2
    exact Bool.false_ne_true
  have hquiet : ∀ aside, keeping.Includes aside → aside.Unreporting := by
    have hasides : ∀ aside ∈ asides, aside.Unreporting := by
      intro aside haside
      obtain ⟨reply, -, rfl⟩ := List.mem_map.mp haside
      trivial
    rintro aside (⟨n, m, haside⟩ | ⟨n, a, haside | haside⟩)
    · obtain ⟨aside', haside', h⟩ := List.mem_map.mp (List.mem_ite_nil_right.mp haside).2
      exact hasides aside (Deed.aside.inj h ▸ haside')
    · exact hasides aside (List.mem_ite_nil_right.mp haside).2
    · cases haside
  obtain ⟨hvalue, huses, -, hhanded, -, hreplies, -⟩ := handlers_serve_alike keeping idle
    [⟨false, .ok d⟩, ⟨false, .ok d⟩] ⟨[some .shutDown], []⟩ ⟨[], []⟩ false 0 .initial
    (fun i m _ => hstops (0 + i) m)
  refine ⟨hvalue, huses, hhanded, hlength, ?_⟩
  obtain ⟨⟨start, reports⟩, hreply, hstart⟩ := Option.map_eq_some_iff.mp hrequest
  obtain ⟨e, he, hreplied⟩ := Option.bind_eq_some_iff.mp hreply
  have hi : o.events[2]? = some (.replied start reports) := by rw [he, Event.eq_replied hreplied]
  rw [hreply] at hsteps
  exact ⟨start, reports, hi, hstart.symm, Option.some.inj hsteps,
    (hreplies hquiet 2 start reports hi).2.1⟩

end Server

end DhcpServer
