import DhcpServer.Proofs.Server.Turns

/-!
# What replies tell

A reply goes on telling the message that it was built for, however its packet is
changed and whichever way it is sent.  `RepliesAbout` says this of the events of a
run: a reply that steps were taken with was built for the message that was handed
on last, or is one that the handler kept, and tells the same message after every
step.

`Event.Tells` says it of one event.  Every deed leaves only such events
(`Server.emits_perform`), and `Run.Reports` carries it over one run after another up
to serving as a whole.
-/

namespace DhcpServer

/-! ## What replies answer -/

/-- The message that was handed on last. -/
def lastHandedOn? (es : List Event) : Option Message := (handedOn es).getLast?

/-- The reply that was taken steps with, and what was reported of them, if this is
what happened. -/
def Event.reply? : Event → Option (Reply × List ReplyReport)
  | .replied start reports => some (start, reports)
  | _ => none

theorem Event.eq_replied {e : Event} {start : Reply} {reports : List ReplyReport}
    (h : e.reply? = some (start, reports)) : e = .replied start reports := by
  cases e with
  | replied start' reports' =>
      obtain ⟨rfl, rfl⟩ := Prod.mk.inj (Option.some.inj h)
      rfl
  | _ => cases h

namespace Reply

/-- A reply was started for a message, and its packet may have been changed since. -/
def BuiltFor (m : Message) (r : Reply) : Prop :=
  ∃ kind start es, to? kind m = some start ∧ r = start.edits es

theorem BuiltFor.of_to? {kind : ReplyKind} {m : Message} {r : Reply} (h : to? kind m = some r) :
    r.BuiltFor m :=
  ⟨kind, r, [], h, rfl⟩

theorem BuiltFor.request_eq {m : Message} {r : Reply} (h : r.BuiltFor m) : r.request = m := by
  obtain ⟨kind, start, es, hstart, rfl⟩ := h
  rw [edits_eq]
  show start.request = m
  exact request_of_to? hstart

theorem request_proceed {κ ι : Type} [Connection κ ι] (r : Reply) (step : KeptStep) (c : κ) :
    (r.proceed step c).value.reply.request = r.request := by
  cases step with
  | edit change => exact r.request_take (.edit change) c
  | send path =>
      rw [proceed, sendTo]
      cases Query.outgoing _ r <;> rfl

theorem request_proceedAll {κ ι : Type} [Connection κ ι] (r : Reply) (steps : List KeptStep)
    (c : κ) : ∀ report ∈ (r.proceedAll steps c).value, report.reply.request = r.request := by
  induction steps generalizing r c with
  | nil => exact List.forall_mem_nil _
  | cons step steps ih =>
      refine List.forall_mem_cons.mpr ⟨r.request_proceed step c, fun report hreport => ?_⟩
      rw [ih _ _ report hreport, request_proceed]

end Reply

section

variable {kept : Reply → Prop} {m? : Option Message} {m : Message} {es fs : List Event} {e : Event}

/-- An event of which this is true: no message is handed on; and a reply that was
taken steps with was built for the given message or is one of those kept, and
tells the same message after every step. -/
def Event.Tells (kept : Reply → Prop) (m? : Option Message) : Event → Prop
  | .handled _ => False
  | .replied start reports => ((∃ m, m? = some m ∧ start.BuiltFor m) ∨ kept start) ∧
      ∀ report ∈ reports, report.reply.request = start.request
  | _ => True

theorem Event.IsIdle.tells (h : e.IsIdle) : e.Tells kept m? := by
  cases e with
  | handled _ => exact h
  | replied _ _ => exact h.elim
  | _ => exact trivial

theorem Event.IsAbout.tells (h : e.IsAbout m) : e.Tells kept (some m) := by
  cases e with
  | handled _ => exact h
  | replied start reports =>
      obtain ⟨⟨kind, hstart⟩, hrequest, hreports⟩ := h
      exact ⟨.inl ⟨m, rfl, .of_to? hstart⟩,
        fun report hreport => (hreports report hreport).trans hrequest.symm⟩
  | _ => exact trivial

/-- Every reply that was taken steps with was built for the message that was
handed on last before, or is one of those kept, and tells the same message after
every step. -/
def RepliesAbout (kept : Reply → Prop) (es : List Event) : Prop :=
  ∀ i start reports, es[i]? = some (.replied start reports) →
    (Event.replied start reports).Tells kept (lastHandedOn? (es.take i))

namespace RepliesAbout

theorem of_tells (h : ∀ e ∈ es, e.Tells kept none) : RepliesAbout kept es := by
  intro i start reports hi
  obtain ⟨⟨m, hm, -⟩ | hkept, hreports⟩ := h _ (List.mem_of_getElem? hi)
  · cases hm
  · exact ⟨.inr hkept, hreports⟩

theorem append (hes : RepliesAbout kept es) (hfs : RepliesAbout kept fs) :
    RepliesAbout kept (es ++ fs) := by
  intro i start reports hi
  rcases Nat.lt_or_ge i es.length with hlt | hge
  · rw [List.getElem?_append_left hlt] at hi
    rw [List.take_append_of_le_length (Nat.le_of_lt hlt)]
    exact hes i start reports hi
  · rw [List.getElem?_append_right hge] at hi
    obtain ⟨hbuilt, hreports⟩ := hfs _ start reports hi
    refine ⟨hbuilt.imp_left ?_, hreports⟩
    rintro ⟨m, hlast, hm⟩
    refine ⟨m, ?_, hm⟩
    rw [lastHandedOn?, List.take_append, handedOn_append, List.getLast?_append, ← lastHandedOn?,
      hlast]
    rfl

/-- A message is handed on, and replies to it or kept ones follow. -/
theorem cons (h : ∀ e ∈ es, e.Tells kept (some m)) : RepliesAbout kept (.handled m :: es) := by
  intro i start reports hi
  cases i with
  | zero => cases hi
  | succ i =>
      have hnone : handedOn (es.take i) = [] :=
        handedOn_of_kind (fun _ => id) fun e he => h e (List.mem_of_mem_take he)
      have hlast : lastHandedOn? ((Event.handled m :: es).take (i + 1)) = some m := by
        show ([m] ++ handedOn (es.take i)).getLast? = some m
        rw [hnone]
        rfl
      rw [hlast]
      exact h _ (List.mem_of_getElem? hi)

end RepliesAbout

end

/-! ## What handlers say of replies -/

open Run (Spares Emits)

/-- Work that reports no replies: those that it writes are its own affair. -/
def Aside.Unreporting {κ : Type} : Aside κ → Prop
  | .proceed _ _ => True
  | .work x _ => ∀ s, ∀ e ∈ (x s).events, e.reply? = none

namespace Server

section

variable {κ ι : Type} [Connection κ ι] [IdleConnection κ] {kept : Reply → Prop}
  {m? : Option Message}

/-- What is done beside serving, if it is with replies that were kept. -/
def KeepsTo (kept : Reply → Prop) (aside : Aside κ) : Prop :=
  aside.Unreporting ∧ ∀ reply steps, aside = .proceed reply steps → kept reply

theorem emits_besides {aside : Aside κ} (h : KeepsTo kept aside) :
    Emits (Event.Tells kept m?) (besides aside) := by
  obtain ⟨hwork, hkept⟩ := h
  cases aside with
  | proceed reply steps =>
      have hsteps := (spares_onConnection
        (reply.spares_proceedAll (κ := κ) IdleConnection.send steps) []).emits
      refine Spares.bind_value (hsteps.mono fun e he => he.tells) fun s => .emit ?_
      refine ⟨.inr (hkept reply steps rfl), ?_⟩
      obtain ⟨_ | c, stopping, n, settings⟩ := s
      · exact List.forall_mem_nil _
      · exact reply.request_proceedAll steps c
  | work x quiet =>
      have hx : Emits (Event.Tells kept m?) x := by
        refine ⟨fun _ => rfl, fun c e he => ?_⟩
        have hnothing := hwork c e he
        cases e with
        | handled m =>
            have hm : m ∈ handedOn (x c).events := List.mem_filterMap.mpr ⟨_, he, rfl⟩
            rw [quiet c] at hm
            cases hm
        | replied start reports => cases hnothing
        | _ => exact trivial
      exact (spares_onConnection hx ()).emits

theorem emits_perform {m : Message} {deed : Deed κ}
    (h : ∀ aside, deed = .aside aside → KeepsTo kept aside) :
    Emits (Event.Tells kept (some m)) (perform m deed) := by
  cases deed with
  | act action => exact (emits_act m action).mono fun e he => he.tells
  | aside aside => exact emits_besides (h aside rfl)

theorem emits_performAll {m : Message} {deeds : List (Deed κ)}
    (h : ∀ aside, .aside aside ∈ deeds → KeepsTo kept aside) :
    Emits (Event.Tells kept (some m)) (performAll m deeds) := by
  induction deeds with
  | nil => exact .pure ()
  | cons deed deeds ih =>
      refine Spares.bind (emits_perform fun aside hdeed => h aside ?_) fun _ =>
        ih fun aside haside => h aside (List.mem_cons_of_mem _ haside)
      rw [hdeed]
      exact List.mem_cons_self

theorem emits_forM_besides {asides : List (Aside κ)} (h : ∀ aside ∈ asides, KeepsTo kept aside) :
    Emits (Event.Tells kept m?) (asides.forM besides) := by
  induction asides with
  | nil => exact .pure ()
  | cons aside asides ih =>
      obtain ⟨haside, hasides⟩ := List.forall_mem_cons.mp h
      exact Spares.bind (emits_besides haside) fun _ => ih hasides

end

end Server

/-! ## What is reported of replies -/

/-- A run in which every reply goes on telling the message that it was built for. -/
def Run.Reports {σ α : Type} (kept : Reply → Prop) (x : Run σ α) : Prop :=
  ∀ s, RepliesAbout kept (x s).events

open Run (Reports)

namespace Run.Reports

variable {σ α β : Type} {kept : Reply → Prop} {x : Run σ α} {f : α → Run σ β}

theorem of_emits (h : Emits (Event.Tells kept none) x) : Reports kept x :=
  fun s => .of_tells (h.events s)

theorem silent (h : ∀ s, (x s).events = []) : Reports kept x := by
  intro s
  rw [h]
  exact .of_tells (List.forall_mem_nil _)

theorem pure (a : α) : Reports kept (Pure.pure a : Run σ α) := .silent fun _ => rfl

theorem bind (hx : Reports kept x) (hf : ∀ a, Reports kept (f a)) : Reports kept (x >>= f) :=
  fun s => (hx s).append (hf _ _)

end Run.Reports

namespace Server

section

variable {kept : Reply → Prop} {meanwhile : ChannelAnswer → Run (Server Channel) Unit}
  {handler : Handler Channel} (hmeanwhile : ∀ a, Reports kept (meanwhile a))
  (hhandler : ∀ n m, Reports kept (handler n m))

include hhandler in
theorem reports_dispatch (d : Datagram) : Reports kept (dispatch handler d) := by
  cases hm : d.message? with
  | none =>
      obtain ⟨line, -, hdispatch⟩ := exists_dispatch_of_complaint hm handler
      rw [hdispatch]
      exact .of_emits (.bind .get fun _ => .log _ _ _ fun _ _ => trivial)
  | some m =>
      intro s
      rw [dispatch_of_message hm]
      exact hhandler _ m _

theorem reports_excuse (failure : Failure) :
    Reports kept (excuse failure : Run (Server Channel) (Option Failure)) :=
  .silent fun _ => rfl

include hmeanwhile hhandler

theorem reports_step (a : ChannelAnswer) : Reports kept (step meanwhile handler a) := by
  have hattempt : Reports kept (onConnection (some (.error .badDescriptor))
      (Connection.attempt a) : Run (Server Channel) (Option Received)) := by
    refine .silent ?_
    rintro ⟨_ | c, stopping, n, settings⟩ <;> rfl
  refine (hmeanwhile a).bind fun _ => hattempt.bind fun received => ?_
  match received with
  | none => exact .pure _
  | some (.error failure) => exact (reports_excuse failure).bind fun _ => .pure _
  | some (.ok d) =>
      exact (reports_dispatch hhandler d).bind fun _ => .bind (.silent fun _ => rfl) fun _ => .pure _

theorem reports_serve (answers : List ChannelAnswer) :
    Reports kept (serve meanwhile handler answers) := by
  have hserveOver : Reports kept (serveOver meanwhile handler answers) := by
    induction answers with
    | nil =>
        have hexhausted : Reports kept (onConnection .badDescriptor Connection.exhausted :
            Run (Server Channel) Failure) := by
          refine .silent ?_
          rintro ⟨_ | c, stopping, n, settings⟩ <;> rfl
        exact hexhausted.bind fun failure => (reports_excuse failure).bind fun _ => .pure _
    | cons a rest ih =>
        refine (reports_step hmeanwhile hhandler a).bind fun progress => ?_
        cases progress with
        | waiting => exact ih
        | served => exact ih.bind fun _ => .pure _
        | ended failure => exact .pure _
  refine .bind (.silent fun _ => rfl) fun s => ?_
  rcases s with ⟨_ | c, _ | _, n, settings⟩
  · exact .pure _
  · exact .pure _
  · exact hserveOver
  · exact .pure _

end

end Server

namespace Conduct

open Server (KeepsTo)

variable {κ ι : Type} (conduct : Conduct κ ι)

/-- Something that a handler does beside serving. -/
def Includes (aside : Aside κ) : Prop :=
  (∃ n m, .aside aside ∈ conduct.deeds n m) ∨
    ∃ n a, aside ∈ conduct.before n a ∨ aside ∈ conduct.after n a

/-- A reply that a handler has kept, and goes on with. -/
def Keeps (reply : Reply) : Prop := ∃ steps, conduct.Includes (.proceed reply steps)

variable {conduct}

theorem keepsTo (h : ∀ aside, conduct.Includes aside → aside.Unreporting) {aside : Aside κ}
    (haside : conduct.Includes aside) : KeepsTo conduct.Keeps aside := by
  refine ⟨h aside haside, ?_⟩
  rintro reply steps rfl
  exact ⟨steps, haside⟩

variable [Connection κ ι] [IdleConnection κ]

theorem reports_performing (h : ∀ aside, conduct.Includes aside → aside.Unreporting) (n : Nat)
    (m : Message) : Reports conduct.Keeps (Server.performing conduct.deeds n m) := by
  intro s
  refine .cons ((Server.emits_performAll fun aside haside => ?_).events s)
  exact keepsTo h (.inl ⟨n, m, haside⟩)

theorem reports_meanwhile (h : ∀ aside, conduct.Includes aside → aside.Unreporting)
    (stops : ι → Bool) (a : ι) : Reports conduct.Keeps (conduct.meanwhile stops a) := by
  refine .of_emits (.bind .get fun s => ?_)
  refine Spares.bind (Server.emits_forM_besides fun aside haside => ?_) fun _ =>
    Spares.bind ((Server.emits_stopDuring stops a).mono fun e he => he.tells) fun _ =>
      Server.emits_forM_besides fun aside haside => ?_
  · exact keepsTo h (.inr ⟨s.handled, a, .inl haside⟩)
  · exact keepsTo h (.inr ⟨s.handled, a, .inr haside⟩)

end Conduct

end DhcpServer
