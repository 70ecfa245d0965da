import DhcpServer.Proofs.Datagram.Decoding
import DhcpServer.Proofs.Reply.Rules
import DhcpServer.Proofs.Run
import DhcpServer.Proofs.Server.ClientMessages
import DhcpServer.Proofs.Server.Watching

/-!
# Where replies go

While a server handles a message, whatever is written goes back to where the
datagram of that message came from, by the interface that it came in by; or to
all hosts, if the client has no address or asks for that.  What the handler does
to the packets of its replies has no part in it, and nothing is written about a
message that the protocol has no reply to: `replies_go_back`.

`Run.Adds` says what a run may use a connection for, and is proved for each part
of handling a message (`adds_dispatch`).  `ensures_step` makes of it what one
read and all that follows it leaves to be true, and `ensures_serveOver` carries
that over all reads by induction.
-/

namespace DhcpServer

/-! ## The rule -/

/-- A datagram replies to another: that one is a message that may be answered,
and it is told by its octets alone where a reply goes.  The flags of a message
begin at its tenth octet. -/
structure Outgoing.RepliesTo (out : Outgoing) (d : Datagram) : Prop where
  answerable : ∃ p, Packet.ofBytes? d.payload = some p ∧
    (p.messageType = 1 ∨ p.messageType = 3 ∨ p.messageType = 8)
  ifindex_eq : out.ifindex = d.ifindex
  port_eq : out.destination.port = d.source.port
  address_eq : out.destination.address =
    if d.source.address.isUnspecified = true ∨ d.payload.getD 10 0 &&& 0x80 ≠ 0
      then .v4 .broadcast else d.source.address

theorem Message.query_of_ofArrival? {arrival : Arrival} {path : Option ReturnPath} {m : Message}
    {q : Query} (h : ofArrival? arrival path = some m) (hq : m.query? = some q) :
    q = ⟨arrival, path⟩ ∧ (arrival.packet.messageType = 1 ∨ arrival.packet.messageType = 3 ∨
      arrival.packet.messageType = 8) := by
  rw [Datagram.ofArrival?_eq_match] at h
  split at h
  case h_1 hcode =>
    obtain rfl := Option.some.inj h
    exact ⟨(Option.some.inj hq).symm, .inl hcode⟩
  case h_2 hcode =>
    obtain rfl := Option.some.inj h
    exact ⟨(Option.some.inj hq).symm, .inr (.inl hcode)⟩
  case h_5 hcode =>
    obtain rfl := Option.some.inj h
    exact ⟨(Option.some.inj hq).symm, .inr (.inr hcode)⟩
  all_goals
    cases h
    try cases hq

theorem Packet.high_flags_of_ofBytes? {b : Bytes} {p : Packet} (h : ofBytes? b = some p) :
    b.getD 10 0 = p.header.flags.high := by
  obtain ⟨header, hb⟩ := header_of_ofBytes? h
  rw [hb] at h ⊢
  obtain ⟨main, inFile, inName, -, -, -, rfl⟩ := ofBytes?_append_eq_some_iff.mp h
  rfl

/-- The way back that a server keeps with a message is the way to where its
datagram came from. -/
theorem Outgoing.RepliesTo.of_query {d : Datagram} {m : Message} {q : Query} {path : ReturnPath}
    {out : Outgoing} (hm : d.message? = some m) (hq : m.query? = some q)
    (hpath : q.returnPath = some path) (hto : out.destination = path.destination q.packet)
    (hby : out.ifindex = path.ifindex) : out.RepliesTo d := by
  rw [Datagram.message?_eq] at hm
  obtain ⟨p, hp, hm⟩ := Option.bind_eq_some_iff.mp hm
  obtain ⟨-, hm⟩ := Option.ite_none_right_eq_some.mp hm
  obtain ⟨rfl, hkind⟩ := Message.query_of_ofArrival? hm hq
  obtain rfl : d.returnPath = path := Option.some.inj hpath
  have hwhere : (d.source.address.isUnspecified || p.header.flags.broadcast) = true ↔
      d.source.address.isUnspecified = true ∨ d.payload.getD 10 0 &&& 0x80 ≠ 0 := by
    rw [Packet.high_flags_of_ofBytes? hp, Bool.or_eq_true, Flags.broadcast, bne_iff_ne]
  have hto : out.destination =
      if (d.source.address.isUnspecified || p.header.flags.broadcast) = true then
        { d.source with address := .v4 .broadcast } else d.source := hto
  by_cases hall : d.source.address.isUnspecified = true ∨ d.payload.getD 10 0 &&& 0x80 ≠ 0
  · rw [if_pos (hwhere.mpr hall)] at hto
    exact ⟨⟨p, hp, hkind⟩, hby, by rw [hto], by rw [hto, if_pos hall]⟩
  · rw [if_neg (mt hwhere.mp hall)] at hto
    exact ⟨⟨p, hp, hkind⟩, hby, by rw [hto], by rw [hto, if_neg hall]⟩

/-! ## What runs use a connection for -/

namespace Run

variable {σ α β : Type} {view : σ → List Use} {P P' : Use → Prop}

/-- A run adds uses of a kind to a list of uses in its state. -/
def Adds (view : σ → List Use) (P : Use → Prop) (x : Run σ α) : Prop :=
  ∀ s, ∃ more, view (x s).state = view s ++ more ∧ ∀ u ∈ more, P u

theorem Adds.of_unchanged {x : Run σ α} (h : ∀ s, view (x s).state = view s) : Adds view P x :=
  fun s => ⟨[], by rw [h, List.append_nil], List.forall_mem_nil _⟩

theorem Adds.pure (a : α) : Adds view P (Pure.pure a) := .of_unchanged fun _ => rfl

theorem Adds.bind {x : Run σ α} {f : α → Run σ β} (hx : Adds view P x)
    (hf : ∀ s, Adds view P (f (x s).value)) : Adds view P (x >>= f) := by
  intro s
  obtain ⟨more, hmore, hP⟩ := hx s
  obtain ⟨more', hmore', hP'⟩ := hf s (x s).state
  refine ⟨more ++ more', ?_, fun u hu => ?_⟩
  · rw [bind_apply, hmore', hmore, List.append_assoc]
  · exact (List.mem_append.mp hu).elim (hP u) (hP' u)

theorem Adds.mono {x : Run σ α} (hx : Adds view P x) (h : ∀ u, P u → P' u) : Adds view P' x := by
  intro s
  obtain ⟨more, hmore, hP⟩ := hx s
  exact ⟨more, hmore, fun u hu => h u (hP u hu)⟩

end Run

open Run (Adds)

theorem Watched.adds_use {κ α : Type} {P : Use → Prop} {uses : α → List Use}
    (h : ∀ a, ∀ u ∈ uses a, P u) (x : Run κ α) : Adds Watched.uses P (use uses x) :=
  fun w => ⟨uses (x w.connection).value, rfl, h _⟩

/-- A use that writes a datagram along the way back that a query came with. -/
def Query.Directs (q : Query) (u : Use) : Prop :=
  ∃ out path, u = .wrote out ∧ q.returnPath = some path ∧
    out.destination = path.destination q.packet ∧ out.ifindex = path.ifindex

/-- What may happen to a connection when a message is handled: it is shut down,
or a reply is sent along the way back. -/
def Message.Allows (m : Message) (u : Use) : Prop :=
  u = .shutDown ∨ ∃ q, m.query? = some q ∧ q.Directs u

namespace Reply

variable {κ ι : Type} [Connection κ ι]

theorem packet_request (r : Reply) : r.request.packet = r.query.packet := by
  rw [request]
  cases r.form <;> rfl

theorem directs_of_outgoing {r : Reply} {out : Outgoing} (h : r.query.outgoing r = .ok out) :
    r.query.Directs (.wrote out) := by
  unfold Query.outgoing at h
  cases hpath : r.query.returnPath with
  | none =>
      rw [hpath] at h
      cases h
  | some path =>
      rw [hpath] at h
      obtain ⟨-, -, -, rfl⟩ := outgoing_eq_ok_iff.mp h
      exact ⟨_, path, rfl, hpath, by rw [packet_request], rfl⟩

theorem query_take (r : Reply) (step : ReplyStep) (c : κ) :
    (r.take step c).value.reply.query = r.query := by
  cases step with
  | edit change =>
      rw [take]
      cases h : r.edit? change with
      | none => rfl
      | some changed =>
          obtain ⟨packet, -, rfl⟩ := Option.map_eq_some_iff.mp h
          rfl
  | send =>
      rw [take]
      cases r.query.outgoing r <;> rfl

theorem adds_take (r : Reply) (step : ReplyStep) :
    Adds Watched.uses r.query.Directs (r.take step : Run (Watched κ) ReplyReport) := by
  cases step with
  | edit change =>
      rw [take]
      cases r.edit? change with
      | none => exact .pure _
      | some changed => exact .pure _
  | send =>
      rw [take]
      cases h : r.query.outgoing r with
      | error failure => exact .pure _
      | ok out =>
          refine Adds.bind (Watched.adds_use ?_ _) fun _ => .pure _
          intro _ u hu
          obtain rfl := List.mem_singleton.mp hu
          exact directs_of_outgoing h

/-- The steps change what a reply says, and never what it answers. -/
theorem adds_takeAll {q : Query} (r : Reply) (hr : r.query = q) (steps : List ReplyStep) :
    Adds Watched.uses q.Directs (r.takeAll steps : Run (Watched κ) (List ReplyReport)) := by
  induction steps generalizing r with
  | nil => exact .pure _
  | cons step steps ih =>
      refine Adds.bind (hr ▸ r.adds_take step) fun w => ?_
      exact (ih _ ((r.query_take step w).trans hr)).bind fun _ => .pure _

theorem query?_of_to? {kind : ReplyKind} {m : Message} {r : Reply} (h : to? kind m = some r) :
    m.query? = some r.query := by
  cases kind <;> cases m <;> cases h <;> rfl

end Reply

namespace Server

variable {κ ι α : Type} {P : Use → Prop}

/-- All that the connection of a server was used for. -/
def uses (s : Server (Watched κ)) : List Use := (s.connection.map Watched.uses).getD []

theorem adds_onConnection (absent : α) {x : Run (Watched κ) α} (hx : Adds Watched.uses P x) :
    Adds uses P (onConnection absent x) := by
  rintro ⟨_ | w, stopping, n, settings⟩
  · exact ⟨[], rfl, List.forall_mem_nil _⟩
  · exact hx w

theorem adds_log (level : LogLevel) (line : String) :
    Adds uses P (log level line : Run (Server (Watched κ)) Unit) :=
  .of_unchanged fun _ => rfl

theorem adds_emit (e : Event) : Adds uses P (Run.emit e : Run (Server (Watched κ)) Unit) :=
  .of_unchanged fun _ => rfl

variable [Connection κ ι]

theorem adds_stop : Adds uses (· = .shutDown) (stop : Run (Server (Watched κ)) Unit) := by
  unfold stop
  refine Adds.bind (.of_unchanged fun _ => rfl) fun _ => ?_
  refine Adds.bind (adds_onConnection none (Watched.adds_use ?_ _)) fun s => ?_
  · exact fun _ _ hu => List.mem_singleton.mp hu
  split
  · exact adds_log _ _
  · exact .pure ()

theorem adds_answer (m : Message) (kind : ReplyKind) (steps : List ReplyStep) :
    Adds uses m.Allows
      (answer m kind steps : Run (Server (Watched κ)) (Option (Reply × List ReplyReport))) := by
  rw [answer]
  cases h : Reply.to? kind m with
  | none => exact .pure none
  | some reply =>
      refine Adds.bind (.mono (adds_onConnection [] (reply.adds_takeAll rfl steps)) ?_) fun _ =>
        .pure _
      exact fun u hu => .inr ⟨reply.query, Reply.query?_of_to? h, hu⟩

theorem adds_act (m : Message) (action : Action) :
    Adds uses m.Allows (act m action : Run (Server (Watched κ)) Unit) := by
  cases action with
  | stop => exact .mono adds_stop fun _ hu => .inl hu
  | reply kind steps =>
      refine Adds.bind (adds_answer m kind steps) fun s => ?_
      split
      · exact adds_emit _
      · exact adds_emit _

theorem adds_actAll (m : Message) (actions : List Action) :
    Adds uses m.Allows (actAll m actions : Run (Server (Watched κ)) Unit) := by
  induction actions with
  | nil => exact .pure ()
  | cons action actions ih => exact Adds.bind (adds_act m action) fun _ => ih

theorem adds_scripted (script : Nat → Message → List Action) (n : Nat) (m : Message) :
    Adds uses m.Allows (scripted script n m : Run (Server (Watched κ)) Unit) :=
  Adds.bind (adds_emit _) fun _ => adds_actAll m (script n m)

/-- What may happen to a connection when a datagram is dealt with. -/
def Allowed (d : Datagram) (u : Use) : Prop :=
  u = .shutDown ∨ ∃ out : Outgoing, u = .wrote out ∧ out.RepliesTo d

theorem allowed_of_message? {d : Datagram} {m : Message} (hm : d.message? = some m) {u : Use}
    (hu : m.Allows u) : Allowed d u := by
  rcases hu with rfl | ⟨q, hq, out, path, rfl, hpath, hto, hby⟩
  · exact .inl rfl
  · exact .inr ⟨out, rfl, .of_query hm hq hpath hto hby⟩

theorem adds_dispatch (script : Nat → Message → List Action) (d : Datagram) :
    Adds uses (Allowed d) (dispatch (scripted script) d : Run (Server (Watched κ)) Unit) := by
  rw [dispatch]
  cases d.complaint? with
  | some line => exact adds_log _ _
  | none =>
      cases hm : d.message? with
      | none => exact .pure ()
      | some m =>
          refine Adds.bind (.of_unchanged fun _ => rfl) fun s => ?_
          refine Adds.bind (.of_unchanged fun _ => rfl) fun _ => ?_
          exact (adds_scripted script _ m).mono fun _ => allowed_of_message? hm

end Server

/-! ## Writes after reads -/

/-- What a wait came to, if this is the end of one. -/
def Use.received? : Use → Option Received
  | .waited received => some received
  | _ => none

/-- The datagram that was written, if this is a write. -/
def Use.written? : Use → Option Outgoing
  | .wrote datagram => some datagram
  | _ => none

theorem Use.eq_wrote {u : Use} {out : Outgoing} (h : u.written? = some out) : u = .wrote out := by
  cases u with
  | wrote datagram => exact congrArg Use.wrote (Option.some.inj h)
  | waited received => cases h
  | shutDown => cases h

/-- What the latest of the waits came to. -/
def latest? (uses : List Use) : Option Received := (uses.filterMap Use.received?).getLast?

/-- Every datagram that is written replies to the one that was read last. -/
def WellDirected (uses : List Use) : Prop :=
  ∀ i out, uses[i]? = some (.wrote out) →
    ∃ d, latest? (uses.take i) = some (.ok d) ∧ out.RepliesTo d

theorem latest?_append_waited (uses : List Use) (received : Received) :
    latest? (uses ++ [.waited received]) = some received := by
  rw [latest?, List.filterMap_append]
  exact List.getLast?_concat

theorem latest?_append_of_not_received (uses : List Use) {u : Use} (hu : u.received? = none) :
    latest? (uses ++ [u]) = latest? uses := by
  rw [latest?, List.filterMap_append, List.filterMap_cons_none hu]
  exact congrArg List.getLast? (List.append_nil _)

namespace WellDirected

variable {uses more : List Use} {u : Use}

theorem nil : WellDirected [] := by
  intro i out hi
  cases hi

theorem snoc (h : WellDirected uses)
    (hu : ∀ out, u = .wrote out → ∃ d, latest? uses = some (.ok d) ∧ out.RepliesTo d) :
    WellDirected (uses ++ [u]) := by
  intro i out hi
  rcases Nat.lt_trichotomy i uses.length with hlt | rfl | hgt
  · rw [List.getElem?_append_left hlt] at hi
    rw [List.take_append_of_le_length (Nat.le_of_lt hlt)]
    exact h i out hi
  · rw [List.getElem?_concat_length] at hi
    rw [List.take_left]
    exact hu out (Option.some.inj hi)
  · rw [List.getElem?_eq_none (by rw [List.length_append]; exact hgt)] at hi
    cases hi

theorem waited (h : WellDirected uses) (received : Received) :
    WellDirected (uses ++ [.waited received]) :=
  h.snoc fun _ hu => by cases hu

/-- Between two reads the connection may be shut down, and replies to the
datagram of the first may be written. -/
theorem append (h : WellDirected uses)
    (hmore : ∀ u ∈ more, u = .shutDown ∨ ∃ out d, u = .wrote out ∧
      latest? uses = some (.ok d) ∧ out.RepliesTo d) : WellDirected (uses ++ more) := by
  induction more generalizing uses with
  | nil => rwa [List.append_nil]
  | cons u more ih =>
      have hu := hmore u List.mem_cons_self
      have hsilent : u.received? = none := by
        rcases hu with rfl | ⟨out, d, rfl, -, -⟩ <;> rfl
      rw [List.append_cons]
      refine ih (h.snoc ?_) fun v hv => ?_
      · rintro out rfl
        rcases hu with hu | ⟨out', d, hout, hd, hto⟩
        · cases hu
        · cases hout
          exact ⟨d, hd, hto⟩
      · rw [latest?_append_of_not_received uses hsilent]
        exact hmore v (List.mem_cons_of_mem u hv)

end WellDirected

/-! ## All reads -/

open Run (Ensures SeenAs)

namespace Server

variable {κ ι α : Type} [Connection κ ι]

/-- Whatever was written to the connection of a server was well directed. -/
def Directed (s : Server (Watched κ)) : Prop := WellDirected s.uses

/-- A wait for a datagram has come to this, if it is over. -/
def Awaited (received : Option Received) (s : Server (Watched κ)) : Prop :=
  s.Directed ∧ ∀ d, received = some (.ok d) → latest? s.uses = some (.ok d)

theorem ensures_of_adds {x : Run (Server (Watched κ)) α} (hx : Adds uses (· = .shutDown) x) :
    Ensures Directed x fun _ => Directed := by
  intro s h
  obtain ⟨more, hmore, hshut⟩ := hx s
  rw [Directed, hmore]
  exact h.append fun u hu => .inl (hshut u hu)

theorem ensures_attempt (a : ι) :
    Ensures Directed (onConnection (some (.error .badDescriptor)) (Connection.attempt a))
      (Awaited (κ := κ)) := by
  rintro ⟨_ | w, stopping, n, settings⟩ h
  · exact ⟨h, fun d hd => by cases hd⟩
  · let received := (Connection.attempt a w.connection).value
    show WellDirected (w.uses ++ (received.map Use.waited).toList) ∧ ∀ d, received = some (.ok d) →
      latest? (w.uses ++ (received.map Use.waited).toList) = some (.ok d)
    cases received with
    | none =>
        rw [Option.map_none, Option.toList_none, List.append_nil]
        exact ⟨h, fun d hd => by cases hd⟩
    | some received =>
        refine ⟨WellDirected.waited h received, fun d hd => ?_⟩
        rw [← hd]
        exact latest?_append_waited w.uses received

variable (stops : ι → Bool) (script : Nat → Message → List Action)

theorem ensures_dispatch (d : Datagram) :
    Ensures (Awaited (some (.ok d))) (dispatch (scripted script) d : Run (Server (Watched κ)) Unit)
      fun _ => Directed := by
  rintro s ⟨h, hread⟩
  obtain ⟨more, hmore, hallowed⟩ := adds_dispatch script d s
  rw [Directed, hmore]
  refine h.append fun u hu => ?_
  rcases hallowed u hu with hu | ⟨out, hout, hto⟩
  · exact .inl hu
  · exact .inr ⟨out, d, hout, hread d rfl, hto⟩

theorem ensures_stopDuring (a : ι) :
    Ensures Directed (stopDuring stops a : Run (Server (Watched κ)) Unit) fun _ => Directed := by
  rw [stopDuring]
  cases stops a with
  | false => exact .pure ()
  | true => exact ensures_of_adds adds_stop

/-- Whatever is written after a read and before the next one replies to what was
read. -/
theorem ensures_step (a : ι) :
    Ensures Directed (step (stopDuring stops) (scripted script) a) fun _ =>
      Directed (κ := κ) := by
  refine (ensures_stopDuring stops a).bind fun _ => (ensures_attempt a).bind fun received => ?_
  match received with
  | none => exact fun _ h => h.1
  | some (.error failure) => exact fun _ h => h.1
  | some (.ok d) => exact (ensures_dispatch script d).bind fun _ _ h => h

theorem ensures_serveOver (answers : List ι) :
    Ensures Directed (serveOver (stopDuring stops) (scripted script) answers) fun _ =>
      Directed (κ := κ) := by
  induction answers with
  | nil =>
      rintro ⟨_ | w, stopping, n, settings⟩ h
      · exact h
      · exact WellDirected.waited h _
  | cons a rest ih =>
      refine (ensures_step stops script a).bind fun progress => ?_
      cases progress with
      | waiting => exact ih
      | served => exact ih.bind fun _ => .pure _
      | ended failure => exact .pure _

/-- Serving on a watched connection is serving on the connection, and every
datagram that is written meanwhile replies to the one that was read last, as
that one says. -/
theorem replies_go_back (c : κ) (stopping : Bool) (n : Nat) (settings : LogSettings)
    (answers : List ι) :
    let o := serve (stopDuring stops) (scripted script) answers
      ⟨some (⟨c, []⟩ : Watched κ), stopping, n, settings⟩
    serve (stopDuring stops) (scripted script) answers ⟨some c, stopping, n, settings⟩ =
        ⟨o.value, o.state.forget, o.events⟩ ∧
      ∀ i out, o.state.uses[i]? = some (.wrote out) →
        ∃ d, latest? (o.state.uses.take i) = some (.ok d) ∧ out.RepliesTo d := by
  intro o
  have hmeanwhile : ∀ a, SeenAs forget (stopDuring stops a)
      (stopDuring stops a : Run (Server κ) Unit) := by
    intro a
    rw [stopDuring, stopDuring]
    cases stops a with
    | false => exact .pure ()
    | true => exact forgets_stop
  constructor
  · exact forgets_serve hmeanwhile (forgets_scripted script) answers
      ⟨some ⟨c, []⟩, stopping, n, settings⟩
  · cases stopping with
    | true => exact WellDirected.nil
    | false => exact ensures_serveOver stops script answers _ WellDirected.nil

/-- The handler clears the broadcast bit of its offer and names another relay;
the offer goes where the datagram says all the same. -/
theorem replies_go_back_broadcast :
    let discover : Bytes := [1, 1, 6, 0, 0, 0, 0, 1, 0, 0, 0x80, 0] ++ List.replicate 224 0 ++
      [0x63, 0x82, 0x53, 0x63, 53, 1, 1, 255]
    let steps : List ReplyStep := [.edit (.setBroadcast false),
      .edit (.setGiaddr (.ofOctets 10 0 0 1)), .edit (Reply.yourAddress (.ofOctets 10 0 0 9)),
      .edit (Reply.serverId (.ofOctets 10 0 0 2)), .edit (Reply.leaseTime 60), .send]
    let o := serve (stopDuring ChannelAnswer.stops) (scripted fun _ _ => [.reply .offer steps])
      [⟨false, .ok ⟨discover, ⟨.v4 (.ofOctets 10 0 0 7), 1068⟩, 3⟩⟩]
      ⟨some (⟨⟨[], []⟩, []⟩ : Watched Channel), false, 0, .initial⟩
    ∃ out d, o.state.uses[1]? = some (.wrote out) ∧ latest? (o.state.uses.take 1) = some (.ok d) ∧
      out.RepliesTo d := by
  intro discover steps o
  have hwrites : (o.state.uses[1]?.bind Use.written?).isSome = true := by decide +kernel
  obtain ⟨out, hwritten⟩ := Option.isSome_iff_exists.mp hwrites
  obtain ⟨u, hu, hwrote⟩ := Option.bind_eq_some_iff.mp hwritten
  have hout : o.state.uses[1]? = some (.wrote out) := by rw [hu, Use.eq_wrote hwrote]
  obtain ⟨d, hd, hto⟩ := (replies_go_back ChannelAnswer.stops
    (fun _ _ => [.reply .offer steps]) (⟨[], []⟩ : Channel) false 0 .initial
    [⟨false, .ok ⟨discover, ⟨.v4 (.ofOctets 10 0 0 7), 1068⟩, 3⟩⟩]).2 1 out hout
  exact ⟨out, d, hout, hd, hto⟩

end Server

end DhcpServer
