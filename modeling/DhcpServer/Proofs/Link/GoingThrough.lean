import DhcpServer.Listen
import DhcpServer.Proofs.Link.Stages
import DhcpServer.Proofs.Run

/-!
# Going through stages

`GoesThrough` says of one part of a set-up that it comes to the stages given: to
the problem of the first that fails, to what is asked in the stages up to that
one, and to the answers that are left then.  `GoesThrough.append` and
`goesThrough_cons` put parts together, and there is one lemma for each part:
`resolve_spec`, `goesThrough_preparation` and `goesThrough_inspection`.
-/

namespace DhcpServer

/-! ## Parts of a set-up -/

/-- An entry of the log; everything else in a set-up is asked of the system. -/
def Event.isLogEntry : Event → Bool
  | .log _ => true
  | _ => false

/-- What is asked of the system. -/
def systemCalls (es : List Event) : List Event := es.filter (!·.isLogEntry)

theorem systemCalls_append (es fs : List Event) :
    systemCalls (es ++ fs) = systemCalls es ++ systemCalls fs :=
  List.filter_append es fs

theorem systemCalls_map_log (entries : List LogRecord) :
    systemCalls (entries.map .log) = [] := by
  refine List.filter_eq_nil_iff.mpr fun e he => ?_
  obtain ⟨entry, -, rfl⟩ := List.mem_map.mp he
  exact Bool.false_ne_true

open Run (Keeps)

namespace Link

open Stage

/-- A part of a set-up that starts on a link comes to what stages come to. -/
structure GoesThrough (stages : List Stage) (l : Link) (o : Outcome Link (Option Failure)) :
    Prop where
  value_eq : o.value = problem? stages
  calls_eq : systemCalls o.events = asked stages
  answers_eq : o.state.answers = leaving stages l.answers

section

variable {stages later : List Stage} {l : Link} {o o' : Outcome Link (Option Failure)}
  {failure : Failure}

theorem GoesThrough.nil (l : Link) : GoesThrough [] l ⟨none, l, []⟩ := ⟨rfl, rfl, rfl⟩

/-- A part that fails is the last one. -/
theorem GoesThrough.stop (h : GoesThrough stages l o) (hfails : o.value = some failure)
    (later : List Stage) : GoesThrough (stages ++ later) l o := by
  have hproblem : problem? stages = some failure := h.value_eq.symm.trans hfails
  refine ⟨?_, ?_, ?_⟩
  · rw [problem?_append_of_some hproblem, hfails]
  · rw [asked_append_of_some hproblem, h.calls_eq]
  · rw [leaving_append_of_some hproblem, h.answers_eq]

/-- A part that does not fail is followed by another. -/
theorem GoesThrough.append (h : GoesThrough stages l o) (hgoes : o.value = none)
    (h' : GoesThrough later o.state o') :
    GoesThrough (stages ++ later) l ⟨o'.value, o'.state, o.events ++ o'.events⟩ := by
  have hproblem : problem? stages = none := h.value_eq.symm.trans hgoes
  refine ⟨?_, ?_, ?_⟩
  · rw [problem?_append_of_none hproblem, h'.value_eq]
  · rw [asked_append_of_none hproblem, systemCalls_append, h.calls_eq, h'.calls_eq]
  · rw [leaving_append_of_none hproblem, ← h.answers_eq, h'.answers_eq]

theorem GoesThrough.single {stage : Stage} (hvalue : o.value = stage.problem)
    (hcalls : systemCalls o.events = stage.calls)
    (hanswers : o.state.answers = stage.left l.answers) : GoesThrough [stage] l o := by
  refine ⟨?_, ?_, ?_⟩
  · rw [hvalue, problem?_singleton]
  · rw [hcalls, asked, reached_singleton, List.flatMap_singleton]
  · rw [hanswers, leaving, reached_singleton]
    rfl

/-- Only the lines in the log are added. -/
theorem GoesThrough.logging (h : GoesThrough stages l o) (entries : List LogRecord) :
    GoesThrough stages l ⟨o.value, o.state, o.events ++ entries.map .log⟩ := by
  refine ⟨h.value_eq, ?_, h.answers_eq⟩
  rw [systemCalls_append, systemCalls_map_log, List.append_nil]
  exact h.calls_eq

end

/-! ### Steps one after the other -/

section

variable {step : Run Link (Option Failure)} {steps : List (Run Link (Option Failure))}
  {stage : Stage} {stages : List Stage} {l : Link}

/-- A step whose failure leaves a line in the log. -/
theorem logged_apply (s : LogSettings) (line : Failure → String)
    (step : Run Link (Option Failure)) (l : Link) :
    (step >>= fun result => match result with
      | none => pure none
      | some failure => Run.log s .info (line failure) >>= fun _ => pure (some failure)) l =
      ⟨(step l).value, (step l).state, (step l).events ++
        ((step l).value.toList.flatMap fun failure => s.write .info (line failure)).map .log⟩ := by
  rw [Run.bind_apply]
  cases (step l).value with
  | none => rfl
  | some failure =>
      simp only [Run.bind_apply, Run.pure_apply, List.append_nil, Option.toList_some,
        List.flatMap_singleton]
      rfl

theorem goesThrough_logged (h : GoesThrough stages l (step l)) (s : LogSettings)
    (line : Failure → String) :
    GoesThrough stages l ((step >>= fun result => match result with
      | none => pure none
      | some failure => Run.log s .info (line failure) >>= fun _ => pure (some failure)) l) := by
  rw [logged_apply]
  exact h.logging _

theorem goesThrough_explained (h : GoesThrough stages l (step l)) (s : LogSettings)
    (problem : String) : GoesThrough stages l (explained s problem step l) :=
  goesThrough_logged h s fun failure => "dhcp4: Failed to " ++ problem ++ ": " ++ failure.message

theorem explained_spec (s : LogSettings) (problem : String) (step : Run Link (Option Failure))
    (l : Link) :
    (explained s problem step l).value = (step l).value ∧
      (explained s problem step l).state = (step l).state ∧
      systemCalls (explained s problem step l).events = systemCalls (step l).events := by
  have h : explained s problem step l = ⟨(step l).value, (step l).state, _⟩ := logged_apply s
    (fun failure => "dhcp4: Failed to " ++ problem ++ ": " ++ failure.message) step l
  rw [h]
  refine ⟨rfl, rfl, ?_⟩
  rw [systemCalls_append, systemCalls_map_log, List.append_nil]

theorem firstFailure_cons_of_none (h : (step l).value = none) :
    let later := firstFailure steps (step l).state
    firstFailure (step :: steps) l = ⟨later.value, later.state, (step l).events ++ later.events⟩ := by
  intro later
  rw [firstFailure, Run.bind_apply, h]

theorem firstFailure_cons_of_some {failure : Failure} (h : (step l).value = some failure) :
    firstFailure (step :: steps) l = step l := by
  rw [firstFailure, Run.bind_apply, h]
  simp only [Run.pure_apply, List.append_nil]
  rw [← h]

/-- The first of the steps fails, or the others follow it. -/
theorem goesThrough_cons (h : GoesThrough [stage] l (step l))
    (hrest : GoesThrough stages (step l).state (firstFailure steps (step l).state)) :
    GoesThrough (stage :: stages) l (firstFailure (step :: steps) l) := by
  cases hvalue : (step l).value with
  | none =>
      rw [firstFailure_cons_of_none hvalue]
      exact h.append hvalue hrest
  | some failure =>
      rw [firstFailure_cons_of_some hvalue]
      exact h.stop hvalue stages

end

/-! ### Equations of the calls -/

theorem nextErrno_apply (part : Answers → List Errno) (put : Answers → List Errno → Answers)
    (l : Link) :
    nextErrno part put l =
      ⟨(part l.answers).headD 0, { l with answers := put l.answers (part l.answers).tail }, []⟩ := by
  have hnext : ∀ errnos, Answers.next errnos = (errnos.headD 0, errnos.tail) := by
    intro errnos
    cases errnos <;> rfl
  unfold nextErrno
  rw [Run.bind_apply, Run.get_apply]
  dsimp only
  rw [hnext]
  rfl

theorem openSocket_apply (l : Link) :
    openSocket l =
      ⟨Failure.ofErrno? (l.answers.openSocket.headD 0),
        if l.answers.openSocket.headD 0 = 0 then
          ⟨true, l.isShutDown, .unspecified,
            { l.answers with openSocket := l.answers.openSocket.tail }⟩
        else { l with answers := { l.answers with openSocket := l.answers.openSocket.tail } },
        [.openSocket]⟩ := by
  unfold openSocket
  rw [Run.bind_apply, Run.emit_apply, Run.bind_apply]
  dsimp only
  rw [nextErrno_apply]
  dsimp only
  by_cases hzero : l.answers.openSocket.headD 0 = 0
  · rw [if_pos hzero, if_pos hzero]
    rfl
  · rw [if_neg hzero, if_neg hzero]
    rfl

theorem setOption_apply (option : SocketOption) (l : Link) :
    setOption option l =
      ⟨Failure.ofErrno? (l.answers.setOption.headD 0),
        { l with answers := { l.answers with setOption := l.answers.setOption.tail } },
        [.setOption option]⟩ := by
  unfold setOption
  rw [Run.bind_apply, Run.emit_apply, Run.bind_apply]
  dsimp only
  rw [nextErrno_apply]
  rfl

theorem bindToDevice_apply (name : String) (l : Link) :
    bindToDevice name l =
      ⟨Failure.ofErrno? (l.answers.bindToDevice.headD 0),
        { l with answers := { l.answers with bindToDevice := l.answers.bindToDevice.tail } },
        [.bindToDevice name (l.answers.bindToDevice.headD 0)]⟩ := by
  unfold bindToDevice
  rw [Run.bind_apply, nextErrno_apply]
  rfl

theorem bind_apply (endpoint : Endpoint) (l : Link) :
    bind endpoint l =
      ⟨Failure.ofErrno? (l.answers.bind.headD 0),
        ⟨l.isOpen, l.isShutDown,
          if l.answers.bind.headD 0 = 0 then endpoint else l.localEndpoint,
          { l.answers with bind := l.answers.bind.tail }⟩,
        [.bind endpoint]⟩ := by
  unfold bind
  rw [Run.bind_apply, Run.emit_apply, Run.bind_apply]
  dsimp only
  rw [nextErrno_apply]
  dsimp only
  by_cases hzero : l.answers.bind.headD 0 = 0
  · rw [if_pos hzero, if_pos hzero]
    rfl
  · rw [if_neg hzero, if_neg hzero]
    rfl

theorem lookUpEndpoint_of_open {l : Link} (hopen : l.isOpen = true) :
    lookUpEndpoint l =
      ⟨match Failure.ofErrno? (l.answers.localEndpoint.headD 0) with
        | some failure => .error failure
        | none => .ok l.localEndpoint,
        { l with answers := { l.answers with localEndpoint := l.answers.localEndpoint.tail } },
        []⟩ := by
  unfold lookUpEndpoint
  rw [Run.bind_apply, Run.get_apply]
  dsimp only
  rw [if_pos hopen, Run.bind_apply, nextErrno_apply]
  dsimp only
  cases Failure.ofErrno? (l.answers.localEndpoint.headD 0) with
  | some failure => rfl
  | none => rfl

theorem release_of_open {l : Link} (hopen : l.isOpen = true) :
    release l = ⟨(), { l with isOpen := false }, [.release]⟩ := by
  unfold release
  rw [Run.bind_apply, Run.get_apply]
  dsimp only
  rw [if_pos hopen]
  rfl

theorem release_of_closed {l : Link} (hclosed : l.isOpen = false) : release l = ⟨(), l, []⟩ := by
  unfold release
  rw [Run.bind_apply, Run.get_apply]
  dsimp only
  rw [hclosed]
  rfl

/-! ### Steps that leave a socket open -/

theorem keeps_setOption (option : SocketOption) : Keeps isOpen (setOption option) := by
  intro l
  rw [setOption_apply]

theorem keeps_bind (endpoint : Endpoint) : Keeps isOpen (bind endpoint) := by
  intro l
  rw [bind_apply]

theorem keeps_lookUpEndpoint : Keeps isOpen lookUpEndpoint := by
  refine .bind .get fun l => ?_
  split
  · refine .bind (fun _ => rfl) fun errno => ?_
    split
    · exact .pure _
    · exact .bind .get fun _ => .pure _
  · exact .pure _

theorem keeps_useDevice (s : LogSettings) (name : String) : Keeps isOpen (useDevice s name) := by
  unfold useDevice
  split
  · exact fun _ => rfl
  · refine Keeps.bind ?_ fun problem => ?_
    · intro l
      rw [bindToDevice_apply]
    · cases problem with
      | none => exact .pure _
      | some failure => exact fun _ => rfl

theorem keeps_explained {step : Run Link (Option Failure)} (h : Keeps isOpen step)
    (s : LogSettings) (problem : String) : Keeps isOpen (explained s problem step) := by
  intro l
  rw [(explained_spec s problem step l).2.1]
  exact h l

theorem keeps_firstFailure {steps : List (Run Link (Option Failure))}
    (h : ∀ step ∈ steps, Keeps isOpen step) : Keeps isOpen (firstFailure steps) := by
  induction steps with
  | nil => exact .pure _
  | cons step steps ih =>
      obtain ⟨hstep, hsteps⟩ := List.forall_mem_cons.mp h
      refine hstep.bind fun result => ?_
      cases result with
      | none => exact ih hsteps
      | some failure => exact .pure _

/-! ### Preparing a socket -/

theorem goesThrough_setOption (option : SocketOption) (l : Link) :
    GoesThrough [enabling option (l.answers.setOption.headD 0)] l (setOption option l) := by
  rw [setOption_apply]
  exact .single rfl rfl rfl

theorem goesThrough_openSocket (l : Link) :
    GoesThrough [opening l.answers] l (openSocket l) := by
  rw [openSocket_apply]
  refine .single rfl rfl ?_
  dsimp only
  split
  · rfl
  · rfl

theorem goesThrough_bindToDevice (name : String) (l : Link) :
    GoesThrough [⟨Failure.ofErrno? (l.answers.bindToDevice.headD 0),
        [.bindToDevice name (l.answers.bindToDevice.headD 0)],
        fun a => { a with bindToDevice := a.bindToDevice.tail }⟩] l (bindToDevice name l) := by
  rw [bindToDevice_apply]
  exact .single rfl rfl rfl

theorem goesThrough_bind (endpoint : Endpoint) (l : Link) :
    GoesThrough [binding endpoint l.answers] l (bind endpoint l) := by
  rw [bind_apply]
  exact .single rfl rfl rfl

theorem goesThrough_device (s : LogSettings) (device : String) (l : Link) :
    GoesThrough [tying device l.answers] l
      ((if device.isEmpty then pure none else useDevice s device : Run Link (Option Failure)) l) := by
  unfold tying
  by_cases hnone : device = ""
  · rw [if_pos hnone, if_pos (String.isEmpty_iff.mpr hnone)]
    exact .single rfl rfl rfl
  · rw [if_neg hnone, if_neg (mt String.isEmpty_iff.mp hnone)]
    unfold useDevice deviceNameRoom
    by_cases hlong : 16 ≤ device.utf8ByteSize
    · rw [if_pos hlong, if_pos hlong]
      simp only [Run.bind_apply, Run.pure_apply, List.append_nil]
      have hchecked : GoesThrough [.check (some .invalidArgument)] l
          ⟨some .invalidArgument, l, []⟩ := .single rfl rfl rfl
      exact hchecked.logging _
    · rw [if_neg hlong, if_neg hlong]
      exact goesThrough_logged (goesThrough_bindToDevice _ l) s fun failure =>
        "dhcp4: Failed to bind socket to device " ++ device ++ ": " ++ failure.message

theorem goesThrough_preparation (s : LogSettings) (device : String) (endpoint : Endpoint)
    (l : Link) :
    GoesThrough (opening l.answers :: preparing device endpoint l.answers) l
      (firstFailure (preparation s device endpoint) l) := by
  unfold preparation preparing
  refine goesThrough_cons (goesThrough_explained (goesThrough_openSocket l) s _) ?_
  have hopened : (explained s "create v4 UDP socket" openSocket l).state.answers =
      { l.answers with openSocket := l.answers.openSocket.tail } := by
    rw [(explained_spec _ _ _ _).2.1, openSocket_apply]
    dsimp only
    split
    · rfl
    · rfl
  generalize (explained s "create v4 UDP socket" openSocket l).state = l₁ at hopened ⊢
  obtain ⟨isOpen, isShutDown, localEndpoint, a⟩ := l₁
  obtain rfl : a = { l.answers with openSocket := l.answers.openSocket.tail } := hopened
  -- each option finds the answers that the one before has left
  let l₁ : Link := ⟨isOpen, isShutDown, localEndpoint,
    { l.answers with openSocket := l.answers.openSocket.tail }⟩
  let l₂ : Link := { l₁ with answers := { l₁.answers with setOption := l.answers.setOption.tail } }
  let l₃ : Link :=
    { l₁ with answers := { l₁.answers with setOption := l.answers.setOption.tail.tail } }
  refine goesThrough_cons (goesThrough_explained (goesThrough_setOption .reuseAddress l₁) s _) ?_
  rw [(explained_spec _ _ _ _).2.1, setOption_apply]
  refine goesThrough_cons (goesThrough_explained (goesThrough_setOption .broadcast l₂) s _) ?_
  rw [(explained_spec _ _ _ _).2.1, setOption_apply]
  refine goesThrough_cons (goesThrough_device s device l₃) ?_
  -- whether the socket was tied to an interface has no part in how it is bound
  have htied := (goesThrough_device s device l₃).answers_eq
  generalize ((if device.isEmpty then pure none else useDevice s device :
    Run Link (Option Failure)) l₃).state = l₄ at htied ⊢
  have hbinding : binding endpoint l₄.answers = binding endpoint l.answers := by
    obtain ⟨rest, hrest⟩ := left_tying device l₃.answers l₃.answers
    rw [binding, binding, htied, leaving, reached_singleton, List.foldl_cons, List.foldl_nil, hrest]
  rw [← hbinding]
  exact goesThrough_cons (goesThrough_explained (goesThrough_bind endpoint l₄) s _) (.nil _)

/-- The socket is open once it has been opened, whatever fails then. -/
theorem isOpen_preparation (s : LogSettings) (device : String) (endpoint : Endpoint) {l : Link}
    (hclosed : l.isOpen = false) :
    (firstFailure (preparation s device endpoint) l).state.isOpen =
      (opening l.answers).problem.isNone := by
  have hopens : (explained s "create v4 UDP socket" openSocket l).state.isOpen =
      (opening l.answers).problem.isNone := by
    rw [(explained_spec _ _ _ _).2.1, openSocket_apply, opening]
    dsimp only
    rw [Failure.ofErrno?]
    split
    · rfl
    · exact hclosed
  unfold preparation
  cases hvalue : (explained s "create v4 UDP socket" openSocket l).value with
  | some failure =>
      rw [firstFailure_cons_of_some hvalue]
      exact hopens
  | none =>
      rw [firstFailure_cons_of_none hvalue]
      -- no later step closes it
      refine Eq.trans (keeps_firstFailure ?_ _) hopens
      simp only [List.forall_mem_cons]
      refine ⟨keeps_explained (keeps_setOption _) s _, keeps_explained (keeps_setOption _) s _, ?_,
        keeps_explained (keeps_bind endpoint) s _, List.forall_mem_nil _⟩
      split
      · exact .pure _
      · exact keeps_useDevice s device

/-! ### Resolving an address -/

/-- Why there is no result, if there is none. -/
def failure? {α : Type} : Except Failure α → Option Failure
  | .error failure => some failure
  | .ok _ => none

theorem split?_eq_none_iff (address : String) :
    BindAddress.split? address = none ↔ ':' ∉ address.toList := by
  rw [BindAddress.split?, Option.map_eq_none_iff, BindAddress.splitAtLast?_eq_none_iff]

theorem nextResolution_apply (l : Link) :
    resolve.nextResolution l =
      ⟨l.answers.resolution,
        { l with answers := { l.answers with resolve := l.answers.resolve.tail } }, []⟩ := by
  obtain ⟨isOpen, isShutDown, localEndpoint, ⟨answers, _⟩⟩ := l
  cases answers <;> rfl

theorem resolve_spec (s : LogSettings) (address : String) (l : Link) :
    let o := resolve s address l
    GoesThrough (resolving address l.answers) l ⟨failure? o.value, o.state, o.events⟩ ∧
      (∀ endpoint, o.value = .ok endpoint → endpoint = l.answers.endpoint ∧
        o.state.answers = { l.answers with resolve := l.answers.resolve.tail }) ∧
      o.state.isOpen = l.isOpen := by
  let l₁ : Link := { l with answers := { l.answers with resolve := l.answers.resolve.tail } }
  unfold resolve resolving
  dsimp only
  cases hsplit : BindAddress.split? (BindAddress.meant address) with
  | none =>
      rw [if_neg ((split?_eq_none_iff _).mp hsplit)]
      have hchecked : GoesThrough [.check (some .invalidArgument)] l
          ⟨some .invalidArgument, l, []⟩ := .single rfl rfl rfl
      dsimp only
      rw [Run.bind_apply, Run.pure_apply, List.append_nil]
      refine ⟨(hchecked.logging _).stop rfl _, ?_, rfl⟩
      intro endpoint h
      cases h
  | some parts =>
      have hport : ':' ∈ (BindAddress.meant address).toList := by
        refine Decidable.byContradiction fun hmissing => ?_
        rw [(split?_eq_none_iff _).mpr hmissing] at hsplit
        cases hsplit
      have hchecked : GoesThrough [.check none] l ⟨none, l, []⟩ := .single rfl rfl rfl
      have hasked : GoesThrough [⟨l.answers.unresolved?, [.resolve parts.1 parts.2],
          fun a => { a with resolve := a.resolve.tail }⟩] l
          ⟨l.answers.unresolved?, l₁, [.resolve parts.1 parts.2]⟩ := .single rfl rfl rfl
      rw [if_pos hport]
      dsimp only
      rw [Run.bind_apply, Run.emit_apply, Run.bind_apply]
      dsimp only
      rw [nextResolution_apply]
      dsimp only
      rw [Answers.unresolved?] at hasked ⊢
      rw [Answers.endpoint]
      cases hfound : l.answers.resolution with
      | error failure =>
          rw [hfound] at hasked
          dsimp only
          rw [Run.bind_apply, Run.pure_apply, List.append_nil]
          refine ⟨hchecked.append rfl (hasked.logging _), ?_, rfl⟩
          intro endpoint h
          cases h
      | ok endpoints =>
          rw [hfound] at hasked
          cases endpoints with
          | nil =>
              refine ⟨hchecked.append rfl hasked, ?_, rfl⟩
              intro endpoint h
              cases h
          | cons endpoint more =>
              refine ⟨hchecked.append rfl hasked, ?_, rfl⟩
              intro endpoint h
              cases h
              exact ⟨rfl, rfl⟩

/-! ### Inspecting a socket -/

/-- What is found out about an open socket before it is taken as a link. -/
def inspection : Run Link (Option Failure) := do
  match ← lookUpEndpoint with
  | .error failure => return some failure
  | .ok ⟨.v6 _, _⟩ => return some .familyNotSupported
  | .ok ⟨.v4 _, _⟩ => setOption .packetInfo

theorem goesThrough_inspection {l : Link} (hopen : l.isOpen = true) :
    GoesThrough (adopting l.localEndpoint (l.answers.setOption.headD 0) l.answers) l
      (inspection l) := by
  obtain ⟨isOpen, isShutDown, ⟨address, port⟩, answers⟩ := l
  let l : Link := ⟨isOpen, isShutDown, ⟨address, port⟩, answers⟩
  let known : Link := { l with
    answers := { answers with localEndpoint := answers.localEndpoint.tail } }
  unfold inspection adopting
  rw [Run.bind_apply, lookUpEndpoint_of_open hopen]
  dsimp only
  cases Failure.ofErrno? (answers.localEndpoint.headD 0) with
  | some failure =>
      have hlast : GoesThrough [⟨some failure, [],
          fun a => { a with localEndpoint := a.localEndpoint.tail }⟩] l
          ⟨some failure, known, []⟩ := .single rfl rfl rfl
      exact hlast.stop rfl _
  | none =>
      have hfirst : GoesThrough [⟨none, [],
          fun a => { a with localEndpoint := a.localEndpoint.tail }⟩] l ⟨none, known, []⟩ :=
        .single rfl rfl rfl
      cases address with
      | v6 address =>
          have hlast : GoesThrough [.check (some .familyNotSupported)] known
              ⟨some .familyNotSupported, known, []⟩ := .single rfl rfl rfl
          exact hfirst.append rfl (hlast.stop rfl _)
      | v4 address =>
          have hsecond : GoesThrough [.check none] known ⟨none, known, []⟩ := .single rfl rfl rfl
          exact hfirst.append rfl (hsecond.append rfl (goesThrough_setOption .packetInfo known))

theorem keeps_inspection : Keeps isOpen inspection := by
  refine keeps_lookUpEndpoint.bind fun found => ?_
  match found with
  | .error failure => exact .pure _
  | .ok ⟨.v6 _, _⟩ => exact .pure _
  | .ok ⟨.v4 _, _⟩ => exact keeps_setOption _

end Link

end DhcpServer
