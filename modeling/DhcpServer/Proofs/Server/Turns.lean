import DhcpServer.Proofs.Reply.OnTheWire
import DhcpServer.Proofs.Server.Addressing
import DhcpServer.Proofs.Server.WholeRun

/-!
# Turns

A run of a server is a list of turns, one for each read: what happens while the
server waits, the read, and what is done about it.  A turn is `Accounted` if a
datagram that was read is either handed to the handler or complained about, and a
read that failed is neither.

`exists_turn` gives the turn of one read, and `exists_turns` those of a whole run,
by induction on the answers.  The turns are the same whether debug lines are
written or not, so they tell both runs at once; `Turn.events` says what they leave
in each.  There is one for every read up to the one at which serving ends, and
`waits_serve` says which that is.
-/

namespace DhcpServer

/-! ## Turns -/

/-- One read of a server and what is done about it. -/
structure Turn where
  /-- What happens while the server waits. -/
  during : List Event
  usedDuring : List Use
  read : Received
  /-- The line about a datagram that is discarded. -/
  complaint : Option String
  /-- What happens from when a message is handed on. -/
  handling : List Event
  usedHandling : List Use

/-- An event that belongs to the handling of no message. -/
def Event.IsIdle : Event → Prop
  | .handled _ => False
  | .replied _ _ => False
  | .noSuchReply => False
  | _ => True

/-- An event that may follow when a message is handed on: nothing else is handed
on, and a reply says of itself that it answers the message, whatever steps were
taken with it. -/
def Event.IsAbout (m : Message) : Event → Prop
  | .handled _ => False
  | .replied start reports => (∃ kind, Reply.to? kind m = some start) ∧ start.request = m ∧
      ∀ report ∈ reports, report.reply.request = m
  | _ => True

theorem Event.IsIdle.isAbout {e : Event} (h : e.IsIdle) (m : Message) : e.IsAbout m := by
  cases e with
  | handled _ => exact h
  | replied _ _ => exact h.elim
  | _ => exact trivial

/-- A datagram is handed on and not complained about, or complained about and not
handed on. -/
def Datagram.DealtWith (d : Datagram) (complaint : Option String) (handling : List Event) : Prop :=
  (∃ m es, d.message? = some m ∧ complaint = none ∧ handling = .handled m :: es ∧
    ∀ e ∈ es, e.IsAbout m) ∨
  ∃ line, d.complaint? = some line ∧ complaint = some line ∧ handling = []

/-- What a server reads, of which it takes what its buffer holds. -/
def ChannelAnswer.read (a : ChannelAnswer) : Received := a.received.map (·.cut receiveCapacity)

namespace Turn

/-- What a turn leaves, with the settings of the log. -/
def events (s : LogSettings) (t : Turn) : List Event :=
  t.during ++ ((t.complaint.toList.flatMap (s.write .debug)).map .log ++ t.handling)

/-- What the connection is used for in a turn. -/
def uses (t : Turn) : List Use := t.usedDuring ++ .waited t.read :: t.usedHandling

/-- What was read is accounted for. -/
structure Accounted (t : Turn) : Prop where
  idle : ∀ e ∈ t.during, e.IsIdle
  usedDuring_eq : ∀ u ∈ t.usedDuring, u = .shutDown
  usedHandling_eq : ∀ u ∈ t.usedHandling, u.received? = none
  failed : ∀ failure, t.read = .error failure → t.complaint = none ∧ t.handling = []
  dealt : ∀ d, t.read = .ok d → d.DealtWith t.complaint t.handling

end Turn

/-! ## What handlers leave -/

open Run (Spares SeenAs Adds)

/-- A run that leaves only events of a kind. -/
abbrev Run.Emits {σ α : Type} (kind : Event → Prop) (x : Run σ α) : Prop :=
  Spares (fun _ => ()) kind x

open Run (Emits)

theorem Run.Spares.emits {σ τ α : Type} {view : σ → τ} {kind : Event → Prop} {x : Run σ α}
    (h : Spares view kind x) : Emits kind x :=
  ⟨fun _ => rfl, h.events⟩

/-- A connection that leaves only idle events when it is used. -/
class IdleConnection (κ : Type) {ι : outParam Type} [Connection κ ι] : Prop where
  send : ∀ datagram, Emits Event.IsIdle (Connection.send datagram : Run κ (Option Failure))
  shutdown : Emits Event.IsIdle (Connection.shutdown : Run κ (Option Failure))

instance : IdleConnection Channel where
  send datagram := by
    refine ⟨fun _ => rfl, fun c e he => ?_⟩
    obtain rfl := List.mem_singleton.mp he
    split
    · trivial
    · trivial
  shutdown := by
    refine ⟨fun _ => rfl, fun c e he => ?_⟩
    obtain rfl := List.mem_singleton.mp he
    trivial

section

variable {κ ι : Type} [Connection κ ι]

instance [QuietConnection κ] : QuietConnection (Watched κ) where
  send datagram w := QuietConnection.send datagram w.connection
  shutdown w := QuietConnection.shutdown w.connection

instance [IdleConnection κ] : IdleConnection (Watched κ) where
  send datagram := ⟨fun _ => rfl, fun w => (IdleConnection.send datagram).events w.connection⟩
  shutdown := ⟨fun _ => rfl, fun w => IdleConnection.shutdown.events w.connection⟩

end

namespace Reply

variable {κ ι : Type} [Connection κ ι]

theorem request_take (r : Reply) (step : ReplyStep) (c : κ) :
    (r.take step c).value.reply.request = r.request := by
  cases step with
  | edit change =>
      rw [take]
      cases hedit : r.edit? change with
      | none => rfl
      | some changed =>
          obtain ⟨packet, -, rfl⟩ := Option.map_eq_some_iff.mp hedit
          rfl
  | send =>
      rw [take]
      cases r.query.outgoing r with
      | error failure => rfl
      | ok datagram => rfl

/-- Whatever steps are taken with a reply, it still tells the message that it
answers. -/
theorem request_takeAll (r : Reply) (steps : List ReplyStep) (c : κ) :
    ∀ report ∈ (r.takeAll steps c).value, report.reply.request = r.request := by
  induction steps generalizing r c with
  | nil => exact List.forall_mem_nil _
  | cons step steps ih =>
      refine List.forall_mem_cons.mpr ⟨r.request_take step c, fun report hreport => ?_⟩
      rw [ih _ _ report hreport, request_take]

end Reply

namespace Server

section

variable {κ ι : Type} [Connection κ ι]

/-- A reply that is answered with is one to the message, and remains so. -/
theorem request_of_answer {m : Message} {kind : ReplyKind} {steps : List ReplyStep}
    {s : Server κ} {start : Reply} {reports : List ReplyReport}
    (h : (answer m kind steps s).value = some (start, reports)) :
    Reply.to? kind m = some start ∧ ∀ report ∈ reports, report.reply.request = m := by
  unfold answer at h
  cases hreply : Reply.to? kind m with
  | none =>
      rw [hreply] at h
      cases h
  | some reply =>
      rw [hreply] at h
      obtain ⟨rfl, rfl⟩ := Prod.mk.inj (Option.some.inj h)
      refine ⟨rfl, ?_⟩
      rw [← Reply.request_of_to? hreply]
      obtain ⟨_ | c, stopping, n, settings⟩ := s
      · exact List.forall_mem_nil _
      · exact reply.request_takeAll steps c

variable [IdleConnection κ]

theorem emits_stop : Emits Event.IsIdle (stop : Run (Server κ) Unit) := by
  refine .bind (.modify fun _ => rfl) fun _ => ?_
  refine .bind (spares_onConnection IdleConnection.shutdown none).emits fun answer => ?_
  cases answer with
  | none => exact .pure ()
  | some failure => exact .bind .get fun _ => .log _ _ _ fun _ _ => trivial

theorem emits_stopDuring (stops : ι → Bool) (a : ι) :
    Emits Event.IsIdle (stopDuring stops a : Run (Server κ) Unit) := by
  rw [stopDuring]
  split
  · exact emits_stop
  · exact .pure ()

theorem emits_act (m : Message) (action : Action) :
    Emits (Event.IsAbout m) (act m action : Run (Server κ) Unit) := by
  have habout : ∀ e : Event, e.IsIdle → e.IsAbout m := fun e h => h.isAbout m
  cases action with
  | stop => exact emits_stop.mono habout
  | reply kind steps =>
      have hanswer := (spares_answer (κ := κ) IdleConnection.send m kind steps).emits
      refine Spares.bind_value (hanswer.mono habout) fun s => ?_
      cases hvalue : (answer m kind steps s).value with
      | none => exact .emit trivial
      | some result =>
          obtain ⟨start, reports⟩ := result
          obtain ⟨hstart, hreports⟩ := request_of_answer hvalue
          exact .emit ⟨⟨kind, hstart⟩, Reply.request_of_to? hstart, hreports⟩

theorem emits_actAll (m : Message) (actions : List Action) :
    Emits (Event.IsAbout m) (actAll m actions : Run (Server κ) Unit) := by
  induction actions with
  | nil => exact .pure ()
  | cons action actions ih => exact Spares.bind (emits_act m action) fun _ => ih

end

/-! ## What is the same with and without debug lines -/

section

variable {κ α : Type} {x : Run (Server κ) α} {stops : Bool} {messages : List Message}

/-- A run that does not heed whether debug lines are written goes the same way
with them and without. -/
theorem Does.exists_alike (hdoes : Does x stops messages)
    (halike : ∀ on, SeenAs (seen id (·.setDebug on)) x x) (c : κ) (stopping : Bool) (n : Nat)
    (toSyslog : Bool) :
    let o := x ⟨some c, stopping, n, ⟨toSyslog, false⟩⟩
    ∃ c' stopping', o.state = ⟨some c', stopping', n, ⟨toSyslog, false⟩⟩ ∧
      ∀ on, x ⟨some c, stopping, n, ⟨toSyslog, on⟩⟩ =
        ⟨o.value, ⟨some c', stopping', n, ⟨toSyslog, on⟩⟩, o.events⟩ := by
  intro o
  obtain ⟨c', hstate⟩ := hdoes.state_eq c stopping n ⟨toSyslog, false⟩
  refine ⟨c', _, hstate, fun on => ?_⟩
  have hon := halike on ⟨some c, stopping, n, ⟨toSyslog, false⟩⟩
  rw [hstate] at hon
  exact hon

end

/-- Lines other than debug lines are written with debug lines and without. -/
theorem write_setDebug (on : Bool) (settings : LogSettings) (line : String) :
    (settings.setDebug on).write .info line = settings.write .info line :=
  rfl

theorem alike_stopDuring (a : ChannelAnswer) (on : Bool) :
    SeenAs (seen id (·.setDebug on)) (stopDuring ChannelAnswer.stops a)
      (stopDuring ChannelAnswer.stops a : Run (Server (Watched Channel)) Unit) := by
  rw [stopDuring]
  split
  · exact seen_stop .id (write_setDebug on)
  · exact .pure ()

theorem adds_stopDuring (a : ChannelAnswer) :
    Adds uses (· = .shutDown)
      (stopDuring ChannelAnswer.stops a : Run (Server (Watched Channel)) Unit) := by
  rw [stopDuring]
  split
  · exact adds_stop
  · exact .pure ()

theorem received?_of_allows {m : Message} {u : Use} (h : m.Allows u) : u.received? = none := by
  rcases h with rfl | ⟨q, -, out, path, rfl, -⟩
  · rfl
  · rfl

/-! ## One read -/

variable (script : Nat → Message → List Action)

theorem exists_dealtWith (d : Datagram) (w : Watched Channel) (stopping : Bool) (n : Nat)
    (toSyslog : Bool) :
    ∃ (complaint : Option String) (handling : List Event) (used : List Use) (w' : Watched Channel)
      (stopping' : Bool) (n' : Nat), d.DealtWith complaint handling ∧ w'.uses = w.uses ++ used ∧
      (∀ u ∈ used, u.received? = none) ∧
      ∀ on, dispatch (scripted script) d ⟨some w, stopping, n, ⟨toSyslog, on⟩⟩ =
        ⟨(), ⟨some w', stopping', n', ⟨toSyslog, on⟩⟩,
          (complaint.toList.flatMap (LogSettings.write ⟨toSyslog, on⟩ .debug)).map .log ++
            handling⟩ := by
  cases hm : d.message? with
  | none =>
      -- discarded, which leaves the one line if debug lines are written
      obtain ⟨line, hline, hdispatch⟩ := exists_dispatch_of_complaint hm
        (scripted script : Handler (Watched Channel))
      refine ⟨some line, [], [], w, stopping, n, .inr ⟨line, hline, rfl, rfl⟩,
        (List.append_nil _).symm, List.forall_mem_nil _, fun on => ?_⟩
      rw [hdispatch, Option.toList_some, List.flatMap_singleton, List.append_nil]
      rfl
  | some m =>
      obtain ⟨w', stopping', hstate, halike⟩ := (does_scripted script n m).exists_alike
        (fun on => seen_scripted .id (write_setDebug on) script n m) w stopping (n + 1) toSyslog
      obtain ⟨used, hused, hallowed⟩ := adds_scripted script n m
        ⟨some w, stopping, n + 1, ⟨toSyslog, false⟩⟩
      rw [hstate] at hused
      -- handed on, and what the handler does then does not heed debug lines
      let es := (actAll m (script n m) ⟨some w, stopping, n + 1, ⟨toSyslog, false⟩⟩).events
      have habout : ∀ e ∈ es, e.IsAbout m := (emits_actAll m (script n m)).events _
      refine ⟨none, .handled m :: es, used, w', stopping', n + 1,
        .inl ⟨m, es, hm, rfl, rfl, habout⟩, hused,
        fun u hu => received?_of_allows (hallowed u hu), fun on => ?_⟩
      rw [dispatch_of_message hm]
      exact halike on

/-- The turn of one read, whether debug lines are written or not. -/
theorem exists_turn (a : ChannelAnswer) (w : Watched Channel) (stopping : Bool) (n : Nat)
    (toSyslog : Bool) :
    ∃ (t : Turn) (progress : Progress) (w' : Watched Channel) (stopping' : Bool) (n' : Nat),
      t.Accounted ∧ t.read = a.read ∧ progress ≠ .waiting ∧
      w'.uses = w.uses ++ t.uses ∧
      ∀ on, step (stopDuring ChannelAnswer.stops) (scripted script) a
          ⟨some w, stopping, n, ⟨toSyslog, on⟩⟩ =
        ⟨progress, ⟨some w', stopping', n', ⟨toSyslog, on⟩⟩, t.events ⟨toSyslog, on⟩⟩ := by
  obtain ⟨w₁, stopping₁, hstate, halike⟩ := (does_stopDuring ChannelAnswer.stops a).exists_alike
    (alike_stopDuring a) w stopping n toSyslog
  obtain ⟨usedDuring, hused, hshut⟩ := adds_stopDuring a ⟨some w, stopping, n, ⟨toSyslog, false⟩⟩
  rw [hstate] at hused
  have hidle := (emits_stopDuring ChannelAnswer.stops a).events ⟨some w, stopping, n, ⟨toSyslog, false⟩⟩
  -- from here on it does not matter which run the events of the wait are taken from
  generalize (stopDuring ChannelAnswer.stops a ⟨some w, stopping, n, ⟨toSyslog, false⟩⟩).events =
    during at halike hidle
  let received := a.read
  let w₂ : Watched Channel := ⟨w₁.connection, w₁.uses ++ [.waited received]⟩
  have hattempt : (Connection.attempt a w₁ : Outcome (Watched Channel) (Option Received)) =
      ⟨some received, w₂, []⟩ := rfl
  have hmeanwhile : ∀ on, (stopDuring ChannelAnswer.stops a
      ⟨some w, stopping, n, ⟨toSyslog, on⟩⟩).state = ⟨some w₁, stopping₁, n, ⟨toSyslog, on⟩⟩ :=
    fun on => congrArg Outcome.state (halike on)
  have huses : ∀ more, (w₁.uses ++ [.waited received]) ++ more =
      w.uses ++ (usedDuring ++ .waited received :: more) := by
    intro more
    rw [show w₁.uses = w.uses ++ usedDuring from hused, List.append_assoc, List.append_assoc]
    rfl
  cases hreceived : received with
  | error failure =>
      rw [hreceived] at hattempt
      refine ⟨⟨during, usedDuring, received, none, [], []⟩,
        .ended (if stopping₁ then none else some failure), w₂, stopping₁, n,
        ⟨hidle, hshut, List.forall_mem_nil _, fun _ _ => ⟨rfl, rfl⟩, fun d hd => ?_⟩, rfl,
        Progress.noConfusion, ?_, fun on => ?_⟩
      · rw [hreceived] at hd
        cases hd
      · exact (List.append_nil _).symm.trans (huses [])
      · rw [step_of_error (hmeanwhile on) (congrArg Outcome.value hattempt), halike, hattempt]
        rfl
  | ok d =>
      rw [hreceived] at hattempt
      obtain ⟨complaint, handling, used, w', stopping', n', hdealt, hused', hquiet, hdispatch⟩ :=
        exists_dealtWith script d w₂ stopping₁ n toSyslog
      refine ⟨⟨during, usedDuring, received, complaint, handling, used⟩,
        if stopping' then .ended none else .served, w', stopping', n',
        ⟨hidle, hshut, hquiet, fun failure hf => ?_, fun d' hd => ?_⟩, rfl, ?_, ?_,
        fun on => ?_⟩
      · rw [hreceived] at hf
        cases hf
      · rw [hreceived] at hd
        cases hd
        exact hdealt
      · cases stopping' with
        | false => exact Progress.noConfusion
        | true => exact Progress.noConfusion
      · exact hused'.trans (huses used)
      · rw [step_of_datagram (hmeanwhile on) (congrArg Outcome.value hattempt), halike, hattempt,
          hdispatch]
        rfl

/-! ## All reads -/

/-- The turns of a run, whether debug lines are written or not.  By induction on
the answers, with what happened before generalized. -/
theorem exists_turns (answers : List ChannelAnswer) (w : Watched Channel) (stopping : Bool)
    (n : Nat) (toSyslog : Bool) :
    ∃ (turns : List Turn) (served : Served ChannelAnswer) (w' : Watched Channel)
      (stopping' : Bool) (n' : Nat), (∀ t ∈ turns, t.Accounted) ∧
      turns.map Turn.read <+: (reads answers).map ChannelAnswer.read ∧
      served.waits = turns.length ∧
      w'.uses = w.uses ++ turns.flatMap Turn.uses ∧
      ∀ on, serveOver (stopDuring ChannelAnswer.stops) (scripted script) answers
          ⟨some w, stopping, n, ⟨toSyslog, on⟩⟩ =
        ⟨served, ⟨some w', stopping', n', ⟨toSyslog, on⟩⟩,
          turns.flatMap (Turn.events ⟨toSyslog, on⟩)⟩ := by
  induction answers generalizing w stopping n with
  | nil =>
      -- no answer is left, and the last wait fails
      let t : Turn := ⟨[], [], .error .endOfFile, none, [], []⟩
      refine ⟨[t], ⟨if stopping then none else some .endOfFile, 1, []⟩,
        ⟨w.connection, w.uses ++ [.waited (.error .endOfFile)]⟩, stopping, n,
        List.forall_mem_singleton.mpr ⟨List.forall_mem_nil _, List.forall_mem_nil _,
          List.forall_mem_nil _, fun _ _ => ⟨rfl, rfl⟩, fun d hd => ?_⟩, List.prefix_rfl, rfl,
        rfl, fun on => ?_⟩
      · cases hd
      · rw [serveOver_nil]
        rfl
  | cons a rest ih =>
      obtain ⟨t, progress, w₁, stopping₁, n₁, ht, hread, hends, huses, hstep⟩ :=
        exists_turn script a w stopping n toSyslog
      cases progress with
      | waiting => exact absurd rfl hends
      | ended failure =>
          refine ⟨[t], ⟨failure, 1, rest⟩, w₁, stopping₁, n₁, List.forall_mem_singleton.mpr ht, ?_,
            rfl, ?_, fun on => ?_⟩
          · rw [List.map_cons, hread]
            exact ⟨(reads rest).map ChannelAnswer.read, rfl⟩
          · rw [huses, List.flatMap_singleton]
          · rw [serveOver_cons_of_ended (congrArg Outcome.value (hstep on)), hstep,
              List.flatMap_singleton]
      | served =>
          obtain ⟨turns, served, w', stopping', n', hturns, hreads, hwaits, huses', hserved⟩ :=
            ih w₁ stopping₁ n₁
          refine ⟨t :: turns, { served with waits := served.waits + 1 }, w', stopping', n',
            List.forall_mem_cons.mpr ⟨ht, hturns⟩, ?_, congrArg (· + 1) hwaits, ?_, fun on => ?_⟩
          · rw [List.map_cons, hread]
            exact (List.prefix_cons_inj a.read).mpr hreads
          · rw [huses', huses, List.flatMap_cons, List.append_assoc]
          · rw [serveOver_cons_of_served (congrArg Outcome.value (hstep on)), hstep, hserved,
              List.flatMap_cons]

/-- The turns of serving: none if the server was told to stop before. -/
theorem exists_turns_serve (answers : List ChannelAnswer) (c : Channel) (stopping : Bool) (n : Nat)
    (toSyslog : Bool) :
    ∃ (turns : List Turn) (served : Served ChannelAnswer) (w : Watched Channel)
      (stopping' : Bool) (n' : Nat), (∀ t ∈ turns, t.Accounted) ∧
      turns.map Turn.read <+: (reads answers).map ChannelAnswer.read ∧
      served.waits = turns.length ∧ w.uses = turns.flatMap Turn.uses ∧
      ∀ on, serve (stopDuring ChannelAnswer.stops) (scripted script) answers
          ⟨some (⟨c, []⟩ : Watched Channel), stopping, n, ⟨toSyslog, on⟩⟩ =
        ⟨served, ⟨some w, stopping', n', ⟨toSyslog, on⟩⟩,
          turns.flatMap (Turn.events ⟨toSyslog, on⟩)⟩ := by
  cases stopping with
  | true =>
      exact ⟨[], ⟨none, 0, answers⟩, ⟨c, []⟩, true, n, List.forall_mem_nil _, List.nil_prefix, rfl,
        rfl, fun _ => rfl⟩
  | false => exact exists_turns script answers ⟨c, []⟩ false n toSyslog

end Server

/-! ## Counting -/

namespace Turn

/-- Whether a datagram was complained about. -/
def complains (t : Turn) : Bool := t.complaint.isSome

variable {t : Turn}

theorem Accounted.handedOn_events (h : t.Accounted) (s : LogSettings) :
    handedOn (t.events s) = handedOn t.handling := by
  have hidle : handedOn t.during = [] := handedOn_of_kind (fun _ => id) h.idle
  rw [events, handedOn_append, handedOn_append, hidle, handedOn_map_log]
  rfl

/-- What was read is handed on or complained about, and not both. -/
theorem Accounted.count_eq (h : t.Accounted) :
    (if t.read.isOk then 1 else 0) =
      (handedOn t.handling).length + if t.complains then 1 else 0 := by
  unfold complains
  cases hread : t.read with
  | error failure =>
      obtain ⟨hcomplaint, hhandling⟩ := h.failed failure hread
      rw [hcomplaint, hhandling]
      rfl
  | ok d =>
      rcases h.dealt d hread with ⟨m, es, -, hcomplaint, hhandling, habout⟩ |
        ⟨line, -, hcomplaint, hhandling⟩
      · have hnone : handedOn es = [] := handedOn_of_kind (fun _ => id) habout
        rw [hcomplaint, hhandling, ← List.singleton_append, handedOn_append, hnone]
        rfl
      · rw [hcomplaint, hhandling]
        rfl

/-- With debug lines a turn leaves one line more for a complaint. -/
theorem length_events (t : Turn) (toSyslog : Bool) :
    (t.events ⟨toSyslog, true⟩).length =
      (t.events ⟨toSyslog, false⟩).length + if t.complains then 1 else 0 := by
  unfold events complains
  cases t.complaint with
  | none => rfl
  | some line =>
      have hon : (LogSettings.write ⟨toSyslog, true⟩ .debug line).length = 1 :=
        LogSettings.length_write _ _ _
      have hoff : (LogSettings.write ⟨toSyslog, false⟩ .debug line).length = 0 :=
        LogSettings.length_write _ _ _
      rw [Option.toList_some, List.flatMap_singleton, List.flatMap_singleton]
      simp only [List.length_append, List.length_map, hon, hoff, Option.isSome_some, if_pos]
      omega

theorem received_uses (h : t.Accounted) : t.uses.filterMap Use.received? = [t.read] := by
  have hduring : t.usedDuring.filterMap Use.received? = [] :=
    List.filterMap_eq_nil_iff.mpr fun u hu => by rw [h.usedDuring_eq u hu]; rfl
  have hhandling : t.usedHandling.filterMap Use.received? = [] :=
    List.filterMap_eq_nil_iff.mpr h.usedHandling_eq
  rw [uses, List.filterMap_append, hduring, List.filterMap_cons, hhandling]
  rfl

end Turn

namespace Server

variable {turns : List Turn}

theorem received_turns (h : ∀ t ∈ turns, t.Accounted) :
    (turns.flatMap Turn.uses).filterMap Use.received? = turns.map Turn.read := by
  induction turns with
  | nil => rfl
  | cons t turns ih =>
      obtain ⟨ht, hturns⟩ := List.forall_mem_cons.mp h
      rw [List.flatMap_cons, List.filterMap_append, Turn.received_uses ht, ih hturns]
      rfl

/-- All successful reads are handed on or complained about. -/
theorem count_turns (h : ∀ t ∈ turns, t.Accounted) (s : LogSettings) :
    (turns.map Turn.read).countP (·.isOk) =
      (handedOn (turns.flatMap (Turn.events s))).length + turns.countP Turn.complains := by
  induction turns with
  | nil => rfl
  | cons t turns ih =>
      obtain ⟨ht, hturns⟩ := List.forall_mem_cons.mp h
      have hcount := ht.count_eq
      rw [List.map_cons, List.countP_cons, ih hturns, List.flatMap_cons, handedOn_append,
        ht.handedOn_events, List.length_append, List.countP_cons]
      omega

theorem length_turns (turns : List Turn) (toSyslog : Bool) :
    (turns.flatMap (Turn.events ⟨toSyslog, true⟩)).length =
      (turns.flatMap (Turn.events ⟨toSyslog, false⟩)).length + turns.countP Turn.complains := by
  induction turns with
  | nil => rfl
  | cons t turns ih =>
      rw [List.flatMap_cons, List.flatMap_cons, List.length_append, List.length_append, ih,
        t.length_events, List.countP_cons]
      omega

/-! ## With and without debug lines -/

theorem forgets_stopDuring (a : ChannelAnswer) :
    SeenAs forget (stopDuring ChannelAnswer.stops a)
      (stopDuring ChannelAnswer.stops a : Run (Server Channel) Unit) := by
  rw [stopDuring, stopDuring]
  split
  · exact forgets_stop
  · exact .pure ()

/-- Serving waits up to the read at which it ends, and not at all if the server
was told to stop before. -/
theorem waits_serve (script : Nat → Message → List Action) (answers : List ChannelAnswer)
    (c : Channel) (stopping : Bool) (n : Nat) (settings : LogSettings) :
    let o := serve (stopDuring ChannelAnswer.stops) (scripted script) answers
      ⟨some c, stopping, n, settings⟩
    (stopping = true → o.value.waits = 0) ∧
      (stopping = false →
        ∃ k, EndsAt (fun n m => decide (Action.stop ∈ script n m)) n (reads answers) k ∧
          o.value.waits = k + 1) := by
  intro o
  constructor
  · rintro rfl
    rfl
  · rintro rfl
    obtain ⟨k, hends, hserved⟩ := exists_servedUntil (does_stopDuring ChannelAnswer.stops)
      (does_scripted script) answers c n settings
    exact ⟨k, hends, hserved.waits_eq⟩

/-- **Debug lines** only tell what a server does anyway: with them and without, it
makes the same reads, uses its connection alike, comes to the same result and
goes through the same turns, one for each read up to the one at which serving
ends.  Each leaves the same but for the line about a datagram that is discarded.
Every successful read is a call of the handler or one such line. -/
theorem debug_lines_account_for_reads (script : Nat → Message → List Action)
    (answers : List ChannelAnswer) (c : Channel) (stopping : Bool) (n : Nat) (toSyslog : Bool) :
    let run := fun debug => serve (stopDuring ChannelAnswer.stops) (scripted script) answers
      ⟨some (⟨c, []⟩ : Watched Channel), stopping, n, ⟨toSyslog, debug⟩⟩
    ∃ turns : List Turn, (∀ t ∈ turns, t.Accounted) ∧
      turns.map Turn.read <+: (reads answers).map ChannelAnswer.read ∧
      (stopping = true → turns = []) ∧
      (stopping = false →
        ∃ k, EndsAt (fun n m => decide (Action.stop ∈ script n m)) n (reads answers) k ∧
          turns.length = k + 1) ∧
      (∀ debug, (run debug).events = turns.flatMap (Turn.events ⟨toSyslog, debug⟩)) ∧
      (∀ debug, (run debug).state.uses = turns.flatMap Turn.uses) ∧
      (run true).value = (run false).value ∧
      (run true).state = { (run false).state with settings := ⟨toSyslog, true⟩ } ∧
      (run true).events.length = (run false).events.length + turns.countP Turn.complains ∧
      ((run true).state.uses.filterMap Use.received?).countP (·.isOk) =
        (handedOn (run true).events).length + turns.countP Turn.complains ∧
      ∀ debug, serve (stopDuring ChannelAnswer.stops) (scripted script) answers
          ⟨some c, stopping, n, ⟨toSyslog, debug⟩⟩ =
        ⟨(run debug).value, (run debug).state.forget, (run debug).events⟩ := by
  intro run
  obtain ⟨turns, served, w, stopping', n', hturns, hreads, hwaits, huses, hrun⟩ :=
    exists_turns_serve script answers c stopping n toSyslog
  have hrun : ∀ debug, run debug = ⟨served, ⟨some w, stopping', n', ⟨toSyslog, debug⟩⟩,
      turns.flatMap (Turn.events ⟨toSyslog, debug⟩)⟩ := hrun
  have hused : ∀ debug, (run debug).state.uses = turns.flatMap Turn.uses := by
    intro debug
    rw [hrun]
    exact huses
  have hplain : ∀ debug, serve (stopDuring ChannelAnswer.stops) (scripted script) answers
      ⟨some c, stopping, n, ⟨toSyslog, debug⟩⟩ =
        ⟨(run debug).value, (run debug).state.forget, (run debug).events⟩ :=
    fun debug => forgets_serve forgets_stopDuring (forgets_scripted script) answers
      ⟨some ⟨c, []⟩, stopping, n, ⟨toSyslog, debug⟩⟩
  -- there are as many turns as waits, whichever of the runs is asked
  obtain ⟨hnone, hends⟩ := waits_serve script answers c stopping n ⟨toSyslog, false⟩
  rw [hplain, hrun, hwaits] at hnone hends
  refine ⟨turns, hturns, hreads, fun h => List.eq_nil_of_length_eq_zero (hnone h), hends,
    fun debug => ?_, hused, ?_, ?_, ?_, ?_, hplain⟩
  · rw [hrun]
  · rw [hrun, hrun]
  · rw [hrun, hrun]
  · rw [hrun, hrun]
    exact length_turns turns toSyslog
  · rw [hused, received_turns hturns, hrun]
    exact count_turns hturns _

/-- A datagram that is discarded and one that is handed on: three turns with the
end of the reads, and one line about the first datagram. -/
theorem debug_lines_account_for_reads_discarded :
    let discover : Bytes := [1, 1, 6, 0, 0, 0, 0, 1, 0, 0, 0, 0] ++ List.replicate 224 0 ++
      [0x63, 0x82, 0x53, 0x63, 53, 1, 1, 255]
    let run := fun debug => serve (stopDuring ChannelAnswer.stops) (scripted fun _ _ => [])
      [⟨false, .ok ⟨[1], .unspecified, 3⟩⟩, ⟨false, .ok ⟨discover, .unspecified, 3⟩⟩]
      ⟨some (⟨⟨[], []⟩, []⟩ : Watched Channel), false, 0, ⟨false, debug⟩⟩
    ∃ turns : List Turn, turns.length = 3 ∧ turns.countP Turn.complains = 1 ∧
      ((run true).state.uses.filterMap Use.received?).countP (·.isOk) = 2 ∧
      (handedOn (run true).events).length = 1 ∧
      ∀ debug, (run debug).events = turns.flatMap (Turn.events ⟨false, debug⟩) := by
  intro discover run
  obtain ⟨turns, hturns, -, -, -, hevents, huses, -, -, -, hcount, -⟩ :=
    debug_lines_account_for_reads (fun _ _ => [])
      [⟨false, .ok ⟨[1], .unspecified, 3⟩⟩, ⟨false, .ok ⟨discover, .unspecified, 3⟩⟩]
      ⟨[], []⟩ false 0 false
  have hreads : ((run true).state.uses.filterMap Use.received?).length = 3 := by decide +kernel
  have hok : ((run true).state.uses.filterMap Use.received?).countP (·.isOk) = 2 := by
    decide +kernel
  have hhanded : (handedOn (run true).events).length = 1 := by decide +kernel
  have huses : (run true).state.uses = turns.flatMap Turn.uses := huses true
  have hcount : ((run true).state.uses.filterMap Use.received?).countP (·.isOk) =
      (handedOn (run true).events).length + turns.countP Turn.complains := hcount
  refine ⟨turns, ?_, ?_, hok, hhanded, hevents⟩
  · rw [huses, received_turns hturns, List.length_map] at hreads
    exact hreads
  · rw [hok, hhanded] at hcount
    omega

end Server

end DhcpServer
