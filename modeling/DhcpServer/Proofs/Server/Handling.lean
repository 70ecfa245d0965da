import DhcpServer.Proofs.Run
import DhcpServer.Server

/-!
# What handlers do

A handler takes actions on a message and does what it likes with the connection.
It may keep messages and replies and go on with them later, when it handles other
messages or while the server waits.  It may tell the server to stop, but it cannot
take that back, and it hands on no messages of its own.  `Does` says this of one
run; `does_performing` and `Conduct.does_meanwhile` say it of every handler.

What replying leaves alone of a server is what sending leaves alone of its
connection: `Server.spares_answer`.
-/

namespace DhcpServer

/-- The messages that were handed to a handler, in order. -/
def handedOn (es : List Event) : List Message :=
  es.filterMap fun
    | .handled m => some m
    | _ => none

theorem handedOn_append (es fs : List Event) :
    handedOn (es ++ fs) = handedOn es ++ handedOn fs :=
  List.filterMap_append

/-- Nothing is handed on if all events are of a kind of which that is not true. -/
theorem handedOn_of_kind {kind : Event → Prop} {es : List Event}
    (hkind : ∀ m, ¬ kind (.handled m)) (h : ∀ e ∈ es, kind e) : handedOn es = [] := by
  refine List.filterMap_eq_nil_iff.mpr fun e he => ?_
  have htrue := h e he
  cases e with
  | handled m => exact absurd htrue (hkind m)
  | _ => rfl

theorem handedOn_map_log (entries : List LogRecord) : handedOn (entries.map .log) = [] := by
  induction entries with
  | nil => rfl
  | cons entry entries ih => exact ih

/-! ## Runs that hand on nothing -/

namespace Run

variable {σ α β : Type}

/-- A run that hands on no message. -/
def Quiet (x : Run σ α) : Prop := ∀ s, handedOn (x s).events = []

theorem Quiet.pure (a : α) : Quiet (Pure.pure a : Run σ α) := fun _ => rfl

theorem Quiet.bind {x : Run σ α} {f : α → Run σ β} (hx : x.Quiet) (hf : ∀ a, (f a).Quiet) :
    (x >>= f).Quiet := by
  intro s
  rw [bind_apply, handedOn_append, hx, hf]
  rfl

end Run

/-- A connection that hands on no messages when it is used. -/
class QuietConnection (κ : Type) {ι : outParam Type} [Connection κ ι] : Prop where
  send : ∀ datagram, Run.Quiet (Connection.send datagram : Run κ (Option Failure))
  shutdown : Run.Quiet (Connection.shutdown : Run κ (Option Failure))

theorem Channel.quiet_send (datagram : Outgoing) : Run.Quiet (Channel.send datagram) := by
  intro c
  show handedOn ([] ++ ([] ++ ([if (next c.sends).1.isSome then _ else _] ++ []))) = []
  cases (next c.sends).1 <;> rfl

instance : QuietConnection Channel where
  send := Channel.quiet_send
  shutdown := fun _ => rfl

/-! ## Replies that were kept -/

/-- One step with a reply that was kept: its packet is changed, or it is sent by
a way back, if there is one.  That need not be the way of the message that it
answers. -/
inductive KeptStep where
  | edit (change : Packet.Edit)
  | send (path : Option ReturnPath)
deriving DecidableEq

namespace Reply

variable {κ ι : Type} [Connection κ ι]

/-- A reply is sent to whoever sent a query. -/
def sendTo (r : Reply) (q : Query) : Run κ ReplyReport :=
  match q.outgoing r with
  | .error failure => pure ⟨r, true, some failure⟩
  | .ok datagram => do return ⟨r, true, ← Connection.send datagram⟩

def proceed (r : Reply) : KeptStep → Run κ ReplyReport
  | .edit change => r.take (.edit change)
  | .send path => r.sendTo { r.query with returnPath := path }

def proceedAll (r : Reply) : List KeptStep → Run κ (List ReplyReport)
  | [] => pure []
  | step :: steps => do
    let report ← r.proceed step
    return report :: (← report.reply.proceedAll steps)

variable [QuietConnection κ]

theorem quiet_sendTo (r : Reply) (q : Query) : Run.Quiet (r.sendTo q : Run κ ReplyReport) := by
  rw [sendTo]
  cases q.outgoing r with
  | error failure => exact .pure _
  | ok datagram => exact (QuietConnection.send datagram).bind fun _ => .pure _

theorem quiet_take (r : Reply) (step : ReplyStep) :
    Run.Quiet (r.take step : Run κ ReplyReport) := by
  cases step with
  | edit change =>
      rw [take]
      cases r.edit? change with
      | none => exact .pure _
      | some changed => exact .pure _
  | send => exact r.quiet_sendTo r.query

theorem quiet_takeAll (r : Reply) (steps : List ReplyStep) :
    Run.Quiet (r.takeAll steps : Run κ (List ReplyReport)) := by
  induction steps generalizing r with
  | nil => exact .pure _
  | cons step steps ih => exact (r.quiet_take step).bind fun report => (ih _).bind fun _ => .pure _

theorem quiet_proceedAll (r : Reply) (steps : List KeptStep) :
    Run.Quiet (r.proceedAll steps : Run κ (List ReplyReport)) := by
  induction steps generalizing r with
  | nil => exact .pure _
  | cons step steps ih =>
      have hstep : Run.Quiet (r.proceed step : Run κ ReplyReport) := by
        cases step with
        | edit change => exact r.quiet_take (.edit change)
        | send path => exact r.quiet_sendTo _
      exact hstep.bind fun report => (ih _).bind fun _ => .pure _

end Reply

/-! ## What replying leaves alone -/

open Run (Spares)

section

variable {κ ι τ α : Type} {view : κ → τ} {kind : Event → Prop}

/-- What is left alone of a server by a run on its connection. -/
def Server.heldBy (view : κ → τ) (s : Server κ) : Option τ × Bool × LogSettings :=
  (s.connection.map view, s.stopping, s.settings)

theorem Server.spares_onConnection {x : Run κ α} (h : Spares view kind x) (absent : α) :
    Spares (heldBy view) kind (onConnection absent x) := by
  constructor
  · rintro ⟨_ | c, stopping, n, settings⟩
    · rfl
    · show (some (view (x c).state), stopping, settings) = (some (view c), stopping, settings)
      rw [h.keeps c]
  · rintro ⟨_ | c, stopping, n, settings⟩
    · exact List.forall_mem_nil _
    · exact h.events c

variable [Connection κ ι]
  (hsend : ∀ datagram, Spares view kind (Connection.send datagram : Run κ (Option Failure)))
include hsend

theorem Reply.spares_sendTo (r : Reply) (q : Query) :
    Spares view kind (r.sendTo q : Run κ ReplyReport) := by
  rw [sendTo]
  cases q.outgoing r with
  | error failure => exact .pure _
  | ok datagram => exact (hsend datagram).bind fun _ => .pure _

theorem Reply.spares_take (r : Reply) (step : ReplyStep) :
    Spares view kind (r.take step : Run κ ReplyReport) := by
  cases step with
  | edit change =>
      rw [take]
      cases r.edit? change with
      | none => exact .pure _
      | some changed => exact .pure _
  | send => exact spares_sendTo hsend r r.query

theorem Reply.spares_takeAll (r : Reply) (steps : List ReplyStep) :
    Spares view kind (r.takeAll steps : Run κ (List ReplyReport)) := by
  induction steps generalizing r with
  | nil => exact .pure _
  | cons step steps ih =>
      exact (spares_take hsend r step).bind fun report => (ih _).bind fun _ => .pure _

theorem Reply.spares_proceedAll (r : Reply) (steps : List KeptStep) :
    Spares view kind (r.proceedAll steps : Run κ (List ReplyReport)) := by
  induction steps generalizing r with
  | nil => exact .pure _
  | cons step steps ih =>
      have hstep : Spares view kind (r.proceed step : Run κ ReplyReport) := by
        cases step with
        | edit change => exact spares_take hsend r (.edit change)
        | send path => exact spares_sendTo hsend r _
      exact hstep.bind fun report => (ih _).bind fun _ => .pure _

theorem Server.spares_answer (m : Message) (form : ReplyKind) (steps : List ReplyStep) :
    Spares (heldBy view) kind
      (answer m form steps : Run (Server κ) (Option (Reply × List ReplyReport))) := by
  rw [answer]
  cases Reply.to? form m with
  | none => exact .pure _
  | some reply =>
      exact (spares_onConnection (reply.spares_takeAll hsend steps) []).bind fun _ => .pure _

end

/-! ## Runs on a server -/

namespace Server

variable {κ ι α β : Type}

/-- A run on a server that has a connection does nothing to the server but to
tell it to stop, if `stops` says so, and hands on the messages. -/
structure Does (x : Run (Server κ) α) (stops : Bool) (messages : List Message) : Prop where
  state_eq : ∀ c stopping n settings, ∃ c',
    (x ⟨some c, stopping, n, settings⟩).state = ⟨some c', stopping || stops, n, settings⟩
  handedOn_eq : ∀ c stopping n settings,
    handedOn (x ⟨some c, stopping, n, settings⟩).events = messages

theorem Does.of_unchanged {x : Run (Server κ) α} {messages : List Message}
    (hstate : ∀ s, (x s).state = s) (hmessages : ∀ s, handedOn (x s).events = messages) :
    Does x false messages := by
  constructor
  · intro c stopping n settings
    exact ⟨c, by rw [hstate, Bool.or_false]⟩
  · intro c stopping n settings
    exact hmessages _

theorem Does.pure (a : α) : Does (Pure.pure a : Run (Server κ) α) false [] :=
  .of_unchanged (fun _ => rfl) fun _ => rfl

theorem Does.bind {x : Run (Server κ) α} {f : α → Run (Server κ) β} {stops stops' : Bool}
    {messages messages' : List Message} (hx : Does x stops messages)
    (hf : ∀ a, Does (f a) stops' messages') :
    Does (x >>= f) (stops || stops') (messages ++ messages') := by
  constructor
  · intro c stopping n settings
    obtain ⟨c₁, h₁⟩ := hx.state_eq c stopping n settings
    obtain ⟨c₂, h₂⟩ := (hf (x ⟨some c, stopping, n, settings⟩).value).state_eq c₁
      (stopping || stops) n settings
    refine ⟨c₂, ?_⟩
    rw [Run.bind_apply, h₁, h₂, Bool.or_assoc]
  · intro c stopping n settings
    obtain ⟨c₁, h₁⟩ := hx.state_eq c stopping n settings
    rw [Run.bind_apply, handedOn_append, hx.handedOn_eq, h₁, (hf _).handedOn_eq]

theorem does_emit (e : Event) : Does (Run.emit e : Run (Server κ) Unit) false (handedOn [e]) :=
  .of_unchanged (fun _ => rfl) fun _ => rfl

theorem does_log (level : LogLevel) (line : String) :
    Does (log level line : Run (Server κ) Unit) false [] :=
  .of_unchanged (fun _ => rfl) fun s => handedOn_map_log (s.settings.write level line)

theorem does_onConnection {x : Run κ α} (hx : x.Quiet) (absent : α) :
    Does (onConnection absent x) false [] :=
  ⟨fun c stopping _ _ => ⟨(x c).state, by rw [Bool.or_false]; rfl⟩, fun c _ _ _ => hx c⟩

variable [Connection κ ι]

/-- The server is told to stop during the waits that `stops` picks. -/
def stopDuring (stops : ι → Bool) (a : ι) : Run (Server κ) Unit :=
  if stops a then stop else pure ()

variable [QuietConnection κ]

theorem does_stop : Does (stop : Run (Server κ) Unit) true [] := by
  have hmark : Does (Run.modify fun s : Server κ => { s with stopping := true }) true [] :=
    ⟨fun c stopping _ _ => ⟨c, by rw [Bool.or_true]; rfl⟩, fun _ _ _ _ => rfl⟩
  show Does _ (true || (false || false)) ([] ++ ([] ++ []))
  refine hmark.bind fun _ => (does_onConnection QuietConnection.shutdown none).bind fun answer => ?_
  cases answer with
  | none => exact .pure ()
  | some failure => exact does_log _ _

theorem does_stopDuring (stops : ι → Bool) (a : ι) :
    Does (stopDuring stops a : Run (Server κ) Unit) (stops a) [] := by
  rw [stopDuring]
  cases stops a with
  | false => exact .pure ()
  | true => exact does_stop

theorem does_answer (m : Message) (kind : ReplyKind) (steps : List ReplyStep) :
    Does (answer m kind steps : Run (Server κ) (Option (Reply × List ReplyReport))) false [] := by
  rw [answer]
  cases Reply.to? kind m with
  | none => exact .pure none
  | some reply =>
      show Does _ (false || false) ([] ++ [])
      exact (does_onConnection (reply.quiet_takeAll steps) []).bind fun _ => .pure _

theorem does_act (m : Message) (action : Action) :
    Does (act m action : Run (Server κ) Unit) (decide (action = .stop)) [] := by
  cases action with
  | stop => exact does_stop
  | reply kind steps =>
      show Does _ (false || false) ([] ++ [])
      refine (does_answer m kind steps).bind fun result => ?_
      cases result with
      | none => exact does_emit _
      | some result => exact does_emit _

end Server

/-! ## Handlers -/

/-- One thing that is done beside serving: steps are taken with a reply that was
kept, or there is work with the connection that hands on no message. -/
inductive Aside (κ : Type) where
  | proceed (reply : Reply) (steps : List KeptStep)
  | work (x : Run κ Unit) (quiet : x.Quiet)

/-- One thing that a handler does about a message. -/
inductive Deed (κ : Type) where
  | act (action : Action)
  | aside (aside : Aside κ)

/-- Whether a deed tells the server to stop. -/
def Deed.stops {κ : Type} : Deed κ → Bool
  | act action => decide (action = .stop)
  | aside _ => false

namespace Server

variable {κ ι : Type} [Connection κ ι]

def besides : Aside κ → Run (Server κ) Unit
  | .proceed reply steps => do
    Run.emit (.replied reply (← onConnection [] (reply.proceedAll steps)))
  | .work x _ => onConnection () x

def perform (m : Message) : Deed κ → Run (Server κ) Unit
  | .act action => act m action
  | .aside aside => besides aside

def performAll (m : Message) : List (Deed κ) → Run (Server κ) Unit
  | [] => pure ()
  | deed :: deeds => do
    perform m deed
    performAll m deeds

/-- The handler that does the deeds of a script about each message.  What it
does about its `n`-th message may depend on all that happened before, since that
is past when it is called for the `n`-th time. -/
def performing (script : Nat → Message → List (Deed κ)) : Handler κ := fun n m => do
  Run.emit (.handled m)
  performAll m (script n m)

theorem actAll_eq_performAll (m : Message) (actions : List Action) :
    actAll m actions = performAll m (actions.map (.act : Action → Deed κ)) := by
  induction actions with
  | nil => rfl
  | cons action actions ih =>
      show act m action >>= (fun _ => actAll m actions) = _
      rw [ih]
      rfl

/-- A handler that takes actions does deeds, none of them beside serving. -/
theorem scripted_eq_performing (script : Nat → Message → List Action) :
    scripted script = performing fun n m => (script n m).map (.act : Action → Deed κ) := by
  funext n m
  rw [scripted, performing, actAll_eq_performAll]

variable [QuietConnection κ]

theorem does_besides (aside : Aside κ) : Does (besides aside) false [] := by
  cases aside with
  | proceed reply steps =>
      show Does _ (false || false) ([] ++ [])
      exact (does_onConnection (reply.quiet_proceedAll steps) []).bind fun _ => does_emit _
  | work x quiet => exact does_onConnection quiet ()

theorem does_perform (m : Message) (deed : Deed κ) : Does (perform m deed) deed.stops [] := by
  cases deed with
  | act action => exact does_act m action
  | aside aside => exact does_besides aside

theorem does_performAll (m : Message) (deeds : List (Deed κ)) :
    Does (performAll m deeds) (deeds.any Deed.stops) [] := by
  induction deeds with
  | nil => exact .pure ()
  | cons deed deeds ih => exact (does_perform m deed).bind fun _ => ih

theorem does_performing (script : Nat → Message → List (Deed κ)) (n : Nat) (m : Message) :
    Does (performing script n m) ((script n m).any Deed.stops) [m] :=
  (does_emit (.handled m)).bind fun _ => does_performAll m (script n m)

theorem does_scripted (script : Nat → Message → List Action) (n : Nat) (m : Message) :
    Does (scripted script n m : Run (Server κ) Unit) (decide (Action.stop ∈ script n m)) [m] := by
  have hstops : ((script n m).map (.act : Action → Deed κ)).any Deed.stops =
      decide (Action.stop ∈ script n m) := by
    rw [Bool.eq_iff_iff, List.any_eq_true, decide_eq_true_iff]
    constructor
    · rintro ⟨deed, hdeed, hstop⟩
      obtain ⟨action, haction, rfl⟩ := List.mem_map.mp hdeed
      exact of_decide_eq_true hstop ▸ haction
    · intro hstop
      exact ⟨.act .stop, List.mem_map.mpr ⟨.stop, hstop, rfl⟩, rfl⟩
  rw [← hstops, scripted_eq_performing]
  exact does_performing _ n m

end Server

/-! ## Conduct -/

/-- All that a handler does: its deeds about each message, and what it does
beside serving on threads of its own while the server waits, before the server is
told to stop in that wait and after.  The number is that of the messages handled
before. -/
structure Conduct (κ ι : Type) where
  deeds : Nat → Message → List (Deed κ)
  before : Nat → ι → List (Aside κ)
  after : Nat → ι → List (Aside κ)

namespace Conduct

open Server (Does besides stopDuring)

variable {κ ι : Type} [Connection κ ι]

/-- What happens during a wait. -/
def meanwhile (conduct : Conduct κ ι) (stops : ι → Bool) (a : ι) : Run (Server κ) Unit := do
  let n := (← Run.get).handled
  (conduct.before n a).forM besides
  stopDuring stops a
  (conduct.after n a).forM besides

theorem does_forM_besides [QuietConnection κ] (asides : List (Aside κ)) :
    Does (asides.forM besides) false [] := by
  induction asides with
  | nil => exact .pure ()
  | cons aside asides ih => exact (Server.does_besides aside).bind fun _ => ih

theorem does_meanwhile [QuietConnection κ] (conduct : Conduct κ ι) (stops : ι → Bool) (a : ι) :
    Does (conduct.meanwhile stops a) (stops a) [] := by
  have hget : Does (Run.get : Run (Server κ) (Server κ)) false [] :=
    .of_unchanged (fun _ => rfl) fun _ => rfl
  show Does _ (false || (false || stops a)) ([] ++ ([] ++ ([] ++ [])))
  refine hget.bind fun s => (does_forM_besides _).bind fun _ => ?_
  rw [← Bool.or_false (stops a)]
  exact (Server.does_stopDuring stops a).bind fun _ => does_forM_besides _

end Conduct

end DhcpServer
