import DhcpServer.Proofs.Link.SettingUp

/-!
# Setting up in silence

The log says why a link could not be set up and nothing else: a step that does not
fail leaves no line.  So a set-up that comes to a link asks the system for what it
needs and does nothing besides: `isPreparing_of_mem_listen`.
-/

namespace DhcpServer.Link

/-- There is no line in the log among the events. -/
def Wordless (es : List Event) : Prop := ∀ e ∈ es, e.isLogEntry = false

/-- A step that leaves no line in the log unless it fails. -/
def Reticent (step : Run Link (Option Failure)) : Prop :=
  ∀ l, (step l).value = none → Wordless (step l).events

theorem Wordless.append {es fs : List Event} (hes : Wordless es) (hfs : Wordless fs) :
    Wordless (es ++ fs) :=
  List.forall_mem_append.mpr ⟨hes, hfs⟩

/-- A step that does nothing but to make one call. -/
theorem reticent_of_call {step : Run Link (Option Failure)} {call : Link → Event}
    (hevents : ∀ l, (step l).events = [call l]) (hcall : ∀ l, (call l).isLogEntry = false) :
    Reticent step := by
  intro l _
  rw [hevents]
  exact List.forall_mem_singleton.mpr (hcall l)

theorem reticent_setOption (option : SocketOption) : Reticent (setOption option) :=
  reticent_of_call (fun l => by rw [setOption_apply]) fun _ => rfl

/-! ## Steps one after the other -/

/-- A step leaves a line for its failure, and nothing if it does not fail. -/
theorem reticent_logged {step logging : Run Link (Option Failure)} (h : Reticent step)
    {lines : Failure → List LogRecord}
    (hlogging : ∀ l, logging l = ⟨(step l).value, (step l).state,
      (step l).events ++ ((step l).value.toList.flatMap lines).map .log⟩) :
    Reticent logging := by
  intro l hgoes
  rw [hlogging] at hgoes ⊢
  dsimp only at hgoes ⊢
  rw [hgoes]
  exact (h l hgoes).append (List.forall_mem_nil _)

theorem reticent_explained {step : Run Link (Option Failure)} (h : Reticent step)
    (s : LogSettings) (problem : String) : Reticent (explained s problem step) :=
  reticent_logged h (logged_apply s
    (fun failure => "dhcp4: Failed to " ++ problem ++ ": " ++ failure.message) step)

theorem reticent_firstFailure {steps : List (Run Link (Option Failure))}
    (h : ∀ step ∈ steps, Reticent step) : Reticent (firstFailure steps) := by
  induction steps with
  | nil => exact fun _ _ => List.forall_mem_nil _
  | cons step steps ih =>
      obtain ⟨hstep, hsteps⟩ := List.forall_mem_cons.mp h
      intro l hgoes
      cases hvalue : (step l).value with
      | some failure =>
          rw [firstFailure_cons_of_some hvalue, hvalue] at hgoes
          cases hgoes
      | none =>
          rw [firstFailure_cons_of_none hvalue] at hgoes ⊢
          exact (hstep l hvalue).append (ih hsteps _ hgoes)

/-! ## The whole set-up -/

theorem reticent_useDevice (s : LogSettings) (name : String) : Reticent (useDevice s name) := by
  unfold useDevice
  split
  · intro l hgoes
    cases hgoes
  · have hcall : Reticent (bindToDevice (LogSettings.upToZero name)) :=
      reticent_of_call (fun l => by rw [bindToDevice_apply]) fun _ => rfl
    exact reticent_logged hcall (logged_apply s (fun failure =>
      "dhcp4: Failed to bind socket to device " ++ name ++ ": " ++ failure.message) _)

theorem reticent_preparation (s : LogSettings) (device : String) (endpoint : Endpoint) :
    ∀ step ∈ preparation s device endpoint, Reticent step := by
  simp only [preparation, List.forall_mem_cons]
  refine ⟨reticent_explained ?_ s _, reticent_explained (reticent_setOption _) s _,
    reticent_explained (reticent_setOption _) s _, ?_, reticent_explained ?_ s _,
    List.forall_mem_nil _⟩
  · exact reticent_of_call (fun l => by rw [openSocket_apply]) fun _ => rfl
  · split
    · exact fun _ _ => List.forall_mem_nil _
    · exact reticent_useDevice s device
  · exact reticent_of_call (fun l => by rw [bind_apply]) fun _ => rfl

/-- The endpoint is looked up without any event. -/
theorem lookUpEndpoint_events (l : Link) : (lookUpEndpoint l).events = [] := by
  cases hopen : l.isOpen with
  | true => rw [lookUpEndpoint_of_open hopen]
  | false =>
      unfold lookUpEndpoint
      rw [Run.bind_apply, Run.get_apply]
      dsimp only
      rw [hopen]
      rfl

/-- An inspection that goes well has looked the endpoint up and set the option. -/
theorem wordless_inspection {l : Link} (hopen : l.isOpen = true)
    (h : (inspection l).value = none) : Wordless (inspection l).events := by
  unfold inspection at h ⊢
  rw [Run.bind_apply, lookUpEndpoint_of_open hopen] at h ⊢
  dsimp only at h ⊢
  cases hfound : Failure.ofErrno? (l.answers.localEndpoint.headD 0) with
  | some failure =>
      rw [hfound] at h
      cases h
  | none =>
      rw [hfound] at h
      dsimp only at h ⊢
      match haddress : l.localEndpoint with
      | ⟨.v6 _, _⟩ =>
          rw [haddress] at h
          cases h
      | ⟨.v4 _, _⟩ =>
          rw [haddress] at h
          exact reticent_setOption _ _ h

theorem reticent_adopt : Reticent adopt := by
  intro l hgoes
  cases hopen : l.isOpen with
  | false =>
      unfold adopt at hgoes
      rw [Run.bind_apply, Run.get_apply] at hgoes
      dsimp only at hgoes
      rw [hopen] at hgoes
      cases hgoes
  | true =>
      have hstill : (inspection l).state.isOpen = true := (keeps_inspection l).trans hopen
      rw [adopt_of_open hopen, giveUp_apply hstill] at hgoes ⊢
      dsimp only at hgoes ⊢
      rw [hgoes]
      exact (wordless_inspection hopen hgoes).append (List.forall_mem_nil _)

theorem wordless_resolve {s : LogSettings} {address : String} {l : Link} {endpoint : Endpoint}
    (h : (resolve s address l).value = .ok endpoint) : Wordless (resolve s address l).events := by
  unfold resolve at h ⊢
  cases hsplit : BindAddress.split? (BindAddress.meant address) with
  | none =>
      rw [hsplit] at h
      cases h
  | some parts =>
      rw [hsplit] at h
      dsimp only at h ⊢
      rw [Run.bind_apply, Run.emit_apply, Run.bind_apply] at h ⊢
      dsimp only at h ⊢
      rw [nextResolution_apply] at h ⊢
      dsimp only at h ⊢
      match hfound : l.answers.resolution with
      | .error failure =>
          rw [hfound] at h
          cases h
      | .ok [] =>
          rw [hfound] at h
          cases h
      | .ok (first :: more) => exact List.forall_mem_singleton.mpr rfl

theorem reticent_listen (s : LogSettings) (address device : String) :
    Reticent (listen s address device) := by
  intro l hgoes
  rw [listen, Run.bind_apply] at hgoes ⊢
  cases hresolved : (resolve s address l).value with
  | error failure =>
      rw [hresolved] at hgoes
      cases hgoes
  | ok endpoint =>
      rw [hresolved] at hgoes
      refine (wordless_resolve hresolved).append ?_
      dsimp only at hgoes ⊢
      rw [Run.bind_apply] at hgoes ⊢
      let prepared := firstFailure (preparation s device endpoint) (resolve s address l).state
      cases hprepared : prepared.value with
      | some failure =>
          rw [hprepared] at hgoes
          cases hgoes
      | none =>
          rw [hprepared] at hgoes
          exact (reticent_firstFailure (reticent_preparation s device endpoint) _ hprepared).append
            (reticent_explained reticent_adopt s _ _ hgoes)

/-- A set-up that comes to a link does nothing but to ask for what the link needs. -/
theorem isPreparing_of_mem_listen {s : LogSettings} {address device : String} {a : Answers}
    (h : (listen s address device (closed a)).value = none) {e : Event}
    (he : e ∈ (listen s address device (closed a)).events) : e.isPreparing = true := by
  have hword := reticent_listen s address device (closed a) h e he
  rcases of_mem_listen he with hlog | hpreparing | rfl
  · rw [hword] at hlog
    cases hlog
  · exact hpreparing
  · have hcount := (setsUp_listen s address device a).count_release
    rw [h, if_neg (fun hgiven => hgiven.2 rfl)] at hcount
    exact absurd he (List.count_eq_zero.mp hcount)

end DhcpServer.Link
