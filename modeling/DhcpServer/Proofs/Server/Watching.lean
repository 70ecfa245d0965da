import DhcpServer.Server

/-!
# Watched connections

What a server asks of its connection does not show in the events of a run: a
connection may fail to send without saying what it was given.  A watched
connection is a connection together with a list of all that it was used for.

`Run.SeenAs` says that two runs look alike through a view of their states, and
`Server.seen_scripted` that handlers do whenever their connections do.

Watching changes nothing, whatever the connection is: a run of a server on a
watched connection, with the list forgotten, is its run on the connection
(`forgets_serve`).  So what holds of the list for every run on a watched
connection is true of every run.
-/

namespace DhcpServer

/-- One use of a connection. -/
inductive Use where
  /-- A wait came to an end. -/
  | waited (received : Received)
  /-- A datagram was handed over to be sent; whether that failed is not told. -/
  | wrote (datagram : Outgoing)
  | shutDown

/-- A connection and all that it was used for, in order. -/
structure Watched (κ : Type) where
  connection : κ
  uses : List Use

namespace Watched

variable {κ ι α : Type}

/-- A run on the connection, which is used as its value says. -/
def use (uses : α → List Use) (x : Run κ α) : Run (Watched κ) α := fun w =>
  let r := x w.connection
  ⟨r.value, ⟨r.state, w.uses ++ uses r.value⟩, r.events⟩

instance [Connection κ ι] : Connection (Watched κ) ι where
  attempt a := use (fun received => (received.map .waited).toList) (Connection.attempt a)
  exhausted := use (fun failure => [.waited (.error failure)]) Connection.exhausted
  send d := use (fun _ => [.wrote d]) (Connection.send d)
  shutdown := use (fun _ => [.shutDown]) Connection.shutdown

end Watched

/-! ## Runs that look alike -/

namespace Run

variable {σ τ α β : Type} {view : σ → τ}

/-- A run is another run seen through a view of its states. -/
def SeenAs (view : σ → τ) (x : Run σ α) (y : Run τ α) : Prop :=
  ∀ s, y (view s) = ⟨(x s).value, view (x s).state, (x s).events⟩

theorem SeenAs.pure (a : α) : SeenAs view (Pure.pure a) (Pure.pure a) := fun _ => rfl

theorem SeenAs.bind {x : Run σ α} {y : Run τ α} {f : α → Run σ β} {g : α → Run τ β}
    (hx : SeenAs view x y) (hf : ∀ a, SeenAs view (f a) (g a)) :
    SeenAs view (x >>= f) (y >>= g) := by
  intro s
  rw [bind_apply, hx s, bind_apply]
  dsimp only
  rw [hf (x s).value (x s).state]

theorem SeenAs.get {f : σ → Run σ β} {g : τ → Run τ β}
    (hf : ∀ s, SeenAs view (f s) (g (view s))) : SeenAs view (Run.get >>= f) (Run.get >>= g) := by
  intro s
  rw [bind_apply, bind_apply]
  exact hf s s

theorem SeenAs.modify {f : σ → σ} {g : τ → τ} (h : ∀ s, g (view s) = view (f s)) :
    SeenAs view (Run.modify f) (Run.modify g) := by
  intro s
  rw [modify_apply, modify_apply, h]

theorem SeenAs.emits (es : List Event) : SeenAs view (Run.emits es) (Run.emits es) :=
  fun _ => rfl

end Run

/-! ## Seeing a server through a view -/

open Run (SeenAs)

/-- A view of connections that looks the same whatever they are used for. -/
structure ConnectionView {κ τ ι : Type} [Connection κ ι] [Connection τ ι] (view : κ → τ) :
    Prop where
  attempt : ∀ a, SeenAs view (Connection.attempt a) (Connection.attempt a)
  exhausted : SeenAs view Connection.exhausted Connection.exhausted
  send : ∀ datagram, SeenAs view (Connection.send datagram) (Connection.send datagram)
  shutdown : SeenAs view Connection.shutdown Connection.shutdown

theorem ConnectionView.id {κ ι : Type} [Connection κ ι] : ConnectionView (id : κ → κ) :=
  ⟨fun _ _ => rfl, fun _ => rfl, fun _ _ => rfl, fun _ => rfl⟩

section

variable {κ τ ι α : Type} [Connection κ ι] [Connection τ ι] {view : κ → τ}
  (hview : ConnectionView view)

namespace Reply

include hview

theorem seenAs_take (r : Reply) (step : ReplyStep) :
    SeenAs view (r.take step) (r.take step : Run τ ReplyReport) := by
  cases step with
  | edit change =>
      rw [take, take]
      cases r.edit? change with
      | none => exact .pure _
      | some changed => exact .pure _
  | send =>
      rw [take, take]
      cases r.query.outgoing r with
      | error failure => exact .pure _
      | ok datagram => exact (hview.send datagram).bind fun _ => .pure _

theorem seenAs_takeAll (r : Reply) (steps : List ReplyStep) :
    SeenAs view (r.takeAll steps) (r.takeAll steps : Run τ (List ReplyReport)) := by
  induction steps generalizing r with
  | nil => exact .pure _
  | cons step steps ih =>
      exact (seenAs_take hview r step).bind fun _ => (ih _).bind fun _ => .pure _

end Reply

namespace Server

/-- A server seen through a view of its connection and of its settings. -/
def seen (view : κ → τ) (set : LogSettings → LogSettings) (s : Server κ) : Server τ :=
  ⟨s.connection.map view, s.stopping, s.handled, set s.settings⟩

variable {set : LogSettings → LogSettings}

theorem seen_onConnection (absent : α) {x : Run κ α} {y : Run τ α} (h : SeenAs view x y) :
    SeenAs (seen view set) (onConnection absent x) (onConnection absent y) := by
  rintro ⟨_ | c, stopping, n, settings⟩
  · rfl
  · show onConnection absent y ⟨some (view c), stopping, n, set settings⟩ = _
    unfold onConnection
    dsimp only
    rw [h c]
    rfl

/-- Lines of a level are seen that both settings write alike. -/
theorem seen_log {level : LogLevel}
    (hset : ∀ settings line, (set settings).write level line = settings.write level line)
    (line : String) :
    SeenAs (seen view set) (log level line) (log level line : Run (Server τ) Unit) := by
  intro s
  show (⟨(), seen view set s, ((set s.settings).write level line).map .log⟩ :
    Outcome (Server τ) Unit) = _
  rw [hset]
  rfl

variable (hset : ∀ settings line,
  (set settings).write .info line = LogSettings.write settings .info line)
include hview

theorem seen_answer (m : Message) (kind : ReplyKind) (steps : List ReplyStep) :
    SeenAs (seen view set) (answer m kind steps)
      (answer m kind steps : Run (Server τ) (Option (Reply × List ReplyReport))) := by
  rw [answer, answer]
  cases Reply.to? kind m with
  | none => exact .pure none
  | some reply =>
      exact (seen_onConnection [] (reply.seenAs_takeAll hview steps)).bind fun _ => .pure _

include hset

theorem seen_stop : SeenAs (seen view set) stop (stop : Run (Server τ) Unit) := by
  unfold stop
  refine SeenAs.bind (SeenAs.modify ?_) fun _ => ?_
  · exact fun _ => rfl
  refine (seen_onConnection none hview.shutdown).bind fun answer => ?_
  cases answer with
  | none => exact .pure ()
  | some failure => exact seen_log hset _

theorem seen_act (m : Message) (action : Action) :
    SeenAs (seen view set) (act m action) (act m action : Run (Server τ) Unit) := by
  cases action with
  | stop => exact seen_stop hview hset
  | reply kind steps =>
      refine (seen_answer hview m kind steps).bind fun result => ?_
      rcases result with _ | ⟨reply, reports⟩
      · exact .emits _
      · exact .emits _

theorem seen_actAll (m : Message) (actions : List Action) :
    SeenAs (seen view set) (actAll m actions) (actAll m actions : Run (Server τ) Unit) := by
  induction actions with
  | nil => exact .pure ()
  | cons action actions ih => exact (seen_act hview hset m action).bind fun _ => ih

/-- A handler that follows a script does the same on all servers that look alike. -/
theorem seen_scripted (script : Nat → Message → List Action) (n : Nat) (m : Message) :
    SeenAs (seen view set) (scripted script n m) (scripted script n m : Run (Server τ) Unit) :=
  (SeenAs.emits _).bind fun _ => seen_actAll hview hset m (script n m)

end Server

end

/-! ## Forgetting what was watched -/

theorem Watched.seenAs_use {κ α : Type} (uses : α → List Use) (x : Run κ α) :
    SeenAs Watched.connection (use uses x) x :=
  fun _ => rfl

theorem Watched.connectionView {κ ι : Type} [Connection κ ι] :
    ConnectionView (Watched.connection : Watched κ → κ) :=
  ⟨fun _ => seenAs_use _ _, seenAs_use _ _, fun _ => seenAs_use _ _, seenAs_use _ _⟩

namespace Server

variable {κ ι α : Type}

/-- The server on the connection that is watched. -/
def forget (s : Server (Watched κ)) : Server κ :=
  ⟨s.connection.map Watched.connection, s.stopping, s.handled, s.settings⟩

theorem forgets_onConnection (absent : α) {x : Run (Watched κ) α} {y : Run κ α}
    (h : SeenAs Watched.connection x y) :
    SeenAs forget (onConnection absent x) (onConnection absent y) := by
  show SeenAs (seen Watched.connection id) _ _
  exact seen_onConnection absent h

theorem forgets_log (level : LogLevel) (line : String) :
    SeenAs forget (log level line) (log level line : Run (Server κ) Unit) :=
  .get fun _ => .emits _

section

variable [Connection κ ι]

theorem forgets_stop : SeenAs forget stop (stop : Run (Server κ) Unit) := by
  show SeenAs (seen Watched.connection id) _ _
  exact seen_stop Watched.connectionView fun _ _ => rfl

theorem forgets_scripted (script : Nat → Message → List Action) (n : Nat) (m : Message) :
    SeenAs forget (scripted script n m) (scripted script n m : Run (Server κ) Unit) := by
  show SeenAs (seen Watched.connection id) _ _
  exact seen_scripted Watched.connectionView (fun _ _ => rfl) script n m

variable {meanwhile : ι → Run (Server (Watched κ)) Unit} {meanwhile' : ι → Run (Server κ) Unit}
  {handler : Handler (Watched κ)} {handler' : Handler κ}
  (hmeanwhile : ∀ a, SeenAs forget (meanwhile a) (meanwhile' a))
  (hhandler : ∀ n m, SeenAs forget (handler n m) (handler' n m))

include hhandler in
theorem forgets_dispatch (d : Datagram) :
    SeenAs forget (dispatch handler d) (dispatch handler' d) := by
  rw [dispatch, dispatch]
  cases d.complaint? with
  | some line => exact forgets_log _ _
  | none =>
      cases d.message? with
      | none => exact .pure ()
      | some message =>
          refine .get fun s => ?_
          show SeenAs forget (Run.modify _ >>= fun _ => handler s.handled message)
            (Run.modify _ >>= fun _ => handler' s.handled message)
          refine SeenAs.bind (SeenAs.modify ?_) fun _ => hhandler _ _
          exact fun _ => rfl

theorem forgets_excuse (failure : Failure) :
    SeenAs forget (excuse failure) (excuse failure : Run (Server κ) (Option Failure)) :=
  .get fun _ => .pure _

include hmeanwhile hhandler

theorem forgets_step (a : ι) :
    SeenAs forget (step meanwhile handler a) (step meanwhile' handler' a) := by
  refine (hmeanwhile a).bind fun _ => ?_
  refine (forgets_onConnection _ (Watched.seenAs_use _ _)).bind fun received => ?_
  match received with
  | none => exact .pure _
  | some (.error failure) => exact (forgets_excuse failure).bind fun _ => .pure _
  | some (.ok d) => exact (forgets_dispatch hhandler d).bind fun _ => .get fun _ => .pure _

theorem forgets_serveOver (answers : List ι) :
    SeenAs forget (serveOver meanwhile handler answers)
      (serveOver meanwhile' handler' answers) := by
  induction answers with
  | nil =>
      refine (forgets_onConnection _ (Watched.seenAs_use _ _)).bind fun failure => ?_
      exact (forgets_excuse failure).bind fun _ => .pure _
  | cons a rest ih =>
      refine (forgets_step hmeanwhile hhandler a).bind fun progress => ?_
      cases progress with
      | waiting => exact ih
      | served => exact ih.bind fun _ => .pure _
      | ended failure => exact .pure _

/-- Watching a connection changes nothing about serving on it. -/
theorem forgets_serve (answers : List ι) :
    SeenAs forget (serve meanwhile handler answers) (serve meanwhile' handler' answers) := by
  refine .get fun s => ?_
  rcases s with ⟨_ | w, _ | _, n, settings⟩
  · exact .pure _
  · exact .pure _
  · exact forgets_serveOver hmeanwhile hhandler answers
  · exact .pure _

end

end Server

end DhcpServer
