import DhcpServer.Proofs.Link.SettingUp
import Mathlib.Data.List.Basic

/-!
# In what order a socket is bound

A socket is bound only after it was opened and configured, and only to an endpoint
that the address names: `ReadyToBind` says what has happened by then.
`Answers.answered` pairs each call of a set-up with the number that answers it, so
that success can be told from the events alone.

`Stage.calls_before` says that a call which only one stage makes comes after all
calls of the stages before it, and that none of those failed.  The rest is what
the stages of `Link.listenStages` call.
-/

namespace DhcpServer

/-! ## Calls and their answers -/

/-- The number that answers a call which configures a socket, and the answers that
are left: the first answer to a call of its kind, or zero if none is left. -/
def Answers.answerTo? (a : Answers) : Event → Option (Errno × Answers)
  | .openSocket => some (a.openSocket.headD 0, { a with openSocket := a.openSocket.tail })
  | .setOption _ => some (a.setOption.headD 0, { a with setOption := a.setOption.tail })
  | .bindToDevice _ _ =>
    some (a.bindToDevice.headD 0, { a with bindToDevice := a.bindToDevice.tail })
  | .bind _ => some (a.bind.headD 0, { a with bind := a.bind.tail })
  | _ => none

/-- The calls that configure a socket, each with the number that answers it. -/
def Answers.answered (a : Answers) : List Event → List (Event × Errno)
  | [] => []
  | e :: es =>
    match a.answerTo? e with
    | some (errno, left) => (e, errno) :: left.answered es
    | none => a.answered es

/-- Lines in the log are no calls. -/
theorem Answers.answered_systemCalls (a : Answers) (es : List Event) :
    a.answered (systemCalls es) = a.answered es := by
  induction es generalizing a with
  | nil => rfl
  | cons e es ih =>
      cases hlog : e.isLogEntry with
      | true =>
          obtain ⟨entry, rfl⟩ : ∃ entry, e = .log entry := by
            cases e with
            | log entry => exact ⟨entry, rfl⟩
            | _ => cases hlog
          exact ih a
      | false =>
          have hcall : systemCalls (e :: es) = e :: systemCalls es :=
            List.filter_cons_of_pos (by rw [hlog]; rfl)
          rw [hcall, answered, answered]
          cases a.answerTo? e with
          | none => exact ih a
          | some answer => exact congrArg _ (ih answer.2)

theorem Answers.mem_of_mem_answered {a : Answers} {es : List Event} {e : Event} {errno : Errno}
    (h : (e, errno) ∈ a.answered es) : e ∈ es := by
  induction es generalizing a with
  | nil => cases h
  | cons first es ih =>
      rw [answered] at h
      cases hanswer : a.answerTo? first with
      | none =>
          rw [hanswer] at h
          exact List.mem_cons_of_mem _ (ih h)
      | some answer =>
          rw [hanswer] at h
          rcases List.mem_cons.mp h with hfirst | hlater
          · obtain ⟨rfl, -⟩ := Prod.mk.inj hfirst
            exact List.mem_cons_self
          · exact List.mem_cons_of_mem _ (ih hlater)

/-! ## Calls that one stage makes -/

namespace Stage

theorem asked_eq_flatMap {stages : List Stage} (h : problem? stages = none) :
    asked stages = stages.flatMap calls := by
  rw [asked, reached_eq_self h]

theorem mem_flatMap_of_mem_asked {stages : List Stage} {e : Event} (h : e ∈ asked stages) :
    e ∈ stages.flatMap calls := by
  obtain ⟨stage, hstage, he⟩ := List.mem_flatMap.mp h
  exact List.mem_flatMap.mpr ⟨stage, (prefix_of_reached stages).subset hstage, he⟩

theorem exists_asked_cons (stage : Stage) (later : List Stage) :
    ∃ rest, asked (stage :: later) = stage.calls ++ rest ∧ rest ⊆ later.flatMap calls := by
  rw [asked, reached]
  split
  · exact ⟨[], rfl, List.nil_subset _⟩
  · exact ⟨asked later, rfl, fun _ => mem_flatMap_of_mem_asked⟩

/-- A call that only one stage makes is made after all calls of the stages before
it, none of which has failed by then. -/
theorem calls_before {earlier later : List Stage} {stage : Stage} {e : Event}
    {ending before after : List Event} (hcalls : stage.calls = [e])
    (hearlier : e ∉ earlier.flatMap calls) (hlater : e ∉ later.flatMap calls)
    (hending : e ∉ ending)
    (h : asked (earlier ++ stage :: later) ++ ending = before ++ e :: after) :
    problem? earlier = none ∧ before = earlier.flatMap calls := by
  cases hproblem : problem? earlier with
  | some failure =>
      rw [asked_append_of_some hproblem] at h
      have hmem : e ∈ asked earlier ++ ending :=
        h ▸ List.mem_append_right _ List.mem_cons_self
      rcases List.mem_append.mp hmem with hasked | hend
      · exact absurd (mem_flatMap_of_mem_asked hasked) hearlier
      · exact absurd hend hending
  | none =>
      obtain ⟨rest, hrest, hsubset⟩ := exists_asked_cons stage later
      rw [asked_append_of_none hproblem, asked_eq_flatMap hproblem, hrest, hcalls] at h
      have hmiddle : earlier.flatMap calls ++ e :: (rest ++ ending) = before ++ e :: after := by
        rw [← h]
        simp only [List.append_assoc, List.cons_append, List.nil_append]
      have hnot : e ∉ rest ++ ending := by
        rw [List.mem_append]
        exact not_or_intro (fun he => hlater (hsubset he)) hending
      refine ⟨rfl, ?_⟩
      exact (List.append_cons_inj_of_notMem hearlier hnot).mp hmiddle |>.1.symm

end Stage

/-- A call that is made before a socket is bound. -/
def Event.isConfiguring : Event → Bool
  | .resolve _ _ => true
  | .openSocket => true
  | .setOption option => option ≠ .packetInfo
  | .bindToDevice _ _ => true
  | _ => false

namespace Link

open Stage

/-! ## What comes before the socket is bound -/

/-- The stages before the one in which the socket is bound. -/
def configuring (address device : String) (a : Answers) : List Stage :=
  resolving address a ++ [opening a, enabling .reuseAddress (a.setOption.headD 0),
    enabling .broadcast (a.setOption.tail.headD 0), tying device a]

theorem listenStages_eq (address device : String) (a : Answers) :
    listenStages address device a = configuring address device a ++
      binding a.endpoint a :: adopting a.endpoint (a.setOption.tail.tail.headD 0) a := by
  rw [listenStages, socketStages, configuring, List.append_assoc, List.append_assoc]
  rfl

/-- The parts of the address that the resolver is asked about. -/
def namedParts (address : String) : String × String :=
  (BindAddress.split? (BindAddress.meant address)).getD ("", "")

theorem flatMap_calls_configuring (address device : String) (a : Answers) :
    (configuring address device a).flatMap calls =
      [.resolve (namedParts address).1 (namedParts address).2, .openSocket,
        .setOption .reuseAddress, .setOption .broadcast] ++ (tying device a).calls := by
  rw [← List.append_nil (tying device a).calls]
  rfl

theorem meant_eq_of_mem {address : String} (h : ':' ∈ (BindAddress.meant address).toList) :
    BindAddress.meant address = (namedParts address).1 ++ ":" ++ (namedParts address).2 ∧
      ':' ∉ (namedParts address).2.toList := by
  unfold namedParts BindAddress.split?
  cases hsplit : BindAddress.splitAtLast? ':' (BindAddress.meant address).toList with
  | none => exact absurd h (BindAddress.splitAtLast?_eq_none_iff.mp hsplit)
  | some parts =>
      obtain ⟨hparts, hlast⟩ := BindAddress.splitAtLast?_eq_some_iff.mp hsplit
      constructor
      · apply String.toList_injective
        simp [hparts]
      · simpa using hlast

/-- The calls that configure a socket, all of which succeed. -/
def configured (device : String) : List (Event × Errno) :=
  [(.openSocket, 0), (.setOption .reuseAddress, 0), (.setOption .broadcast, 0)] ++
    if device = "" then [] else [(.bindToDevice device 0, 0)]

theorem packetInfo_not_mem_configured {device : String} {errno : Errno} :
    (Event.setOption .packetInfo, errno) ∉ configured device := by
  unfold configured
  split
  · simp
  · simp

/-- What has happened before a socket is bound to an endpoint: the endpoint is the
first that was found for what stands before and after the last colon of the
address, and the socket was opened and configured, and tied to the interface if
one is named, each time with success. -/
structure ReadyToBind (address device : String) (a : Answers) (endpoint : Endpoint)
    (before : List Event) : Prop where
  resolved : ∃ host service more,
    (if address = "" then ":67" else address) = host ++ ":" ++ service ∧
      ':' ∉ service.toList ∧ Event.resolve host service ∈ before ∧
      a.resolution = .ok (endpoint :: more)
  answered_eq : a.answered before = configured device
  name_fits : device.utf8ByteSize < 16

section

variable {address device : String} {a : Answers}

theorem endpoint_of_resolved (h : a.unresolved? = none) :
    ∃ more, a.resolution = .ok (a.endpoint :: more) := by
  unfold Answers.unresolved? at h
  unfold Answers.endpoint
  match hfound : a.resolution with
  | .error failure =>
      rw [hfound] at h
      cases h
  | .ok [] =>
      rw [hfound] at h
      cases h
  | .ok (endpoint :: more) => exact ⟨more, rfl⟩

/-- Tying the socket succeeds if no interface is named, or if the name is short
enough and the system agrees. -/
theorem tying_of_no_problem (hname : '\x00' ∉ device.toList) (h : (tying device a).problem = none) :
    device.utf8ByteSize < 16 ∧
      (tying device a).calls = (if device = "" then [] else [.bindToDevice device 0]) ∧
      (device ≠ "" → a.bindToDevice.headD 0 = 0) := by
  unfold tying at h ⊢
  by_cases hnone : device = ""
  · subst hnone
    exact ⟨by decide, rfl, fun hne => absurd rfl hne⟩
  rw [if_neg hnone] at h ⊢
  by_cases hlong : 16 ≤ device.utf8ByteSize
  · rw [if_pos hlong] at h
    cases h
  rw [if_neg hlong] at h ⊢
  have hzero : a.bindToDevice.headD 0 = 0 := Failure.ofErrno?_eq_none_iff.mp h
  refine ⟨Nat.lt_of_not_le hlong, ?_, fun _ => hzero⟩
  dsimp only
  rw [hzero, LogSettings.upToZero_eq_self hname, if_neg hnone]

theorem problem?_configuring_iff :
    problem? (configuring address device a) = none ↔
      ':' ∈ (BindAddress.meant address).toList ∧ a.unresolved? = none ∧
        a.openSocket.headD 0 = 0 ∧ a.setOption.headD 0 = 0 ∧ a.setOption.tail.headD 0 = 0 ∧
        (tying device a).problem = none := by
  have hport : (Stage.check (if ':' ∈ (BindAddress.meant address).toList then none
      else some .invalidArgument)).problem = none ↔ ':' ∈ (BindAddress.meant address).toList := by
    rw [Stage.check]
    split
    · exact iff_of_true rfl ‹_›
    · exact iff_of_false (Option.some_ne_none _) ‹_›
  simp only [problem?, configuring, resolving, opening, enabling, List.findSome?_eq_none_iff,
    List.forall_mem_append, List.forall_mem_cons, hport, Failure.ofErrno?_eq_none_iff,
    List.not_mem_nil, false_implies, implies_true, and_true, and_assoc]

/-- The calls that configure a socket succeed; what is left of the answers goes to
the calls that follow. -/
theorem answered_configuring_append (hname : '\x00' ∉ device.toList)
    (h : problem? (configuring address device a) = none) (es : List Event) :
    ∃ left : Answers, left.bind = a.bind ∧ left.setOption = a.setOption.tail.tail ∧
      a.answered ((configuring address device a).flatMap calls ++ es) =
        configured device ++ left.answered es := by
  obtain ⟨-, -, hopened, hreuse, hbroadcast, htied⟩ := problem?_configuring_iff.mp h
  obtain ⟨-, hcalls, hzero⟩ := tying_of_no_problem hname htied
  let left : Answers := { a with
    openSocket := a.openSocket.tail
    setOption := a.setOption.tail.tail }
  have hsocket : ∀ es, a.answered ([.resolve (namedParts address).1 (namedParts address).2,
      .openSocket, .setOption .reuseAddress, .setOption .broadcast] ++ es) =
      [(.openSocket, 0), (.setOption .reuseAddress, 0), (.setOption .broadcast, 0)] ++
        left.answered es := by
    intro es
    show (.openSocket, a.openSocket.headD 0) :: (.setOption .reuseAddress, a.setOption.headD 0) ::
      (.setOption .broadcast, a.setOption.tail.headD 0) :: left.answered es = _
    rw [hopened, hreuse, hbroadcast]
    rfl
  rw [flatMap_calls_configuring, hcalls, List.append_assoc, hsocket, configured]
  by_cases hnone : device = ""
  · rw [if_pos hnone, if_pos hnone]
    exact ⟨left, rfl, rfl, rfl⟩
  · rw [if_neg hnone, if_neg hnone]
    refine ⟨{ left with bindToDevice := a.bindToDevice.tail }, rfl, rfl, ?_⟩
    show [_, _, _] ++ (Event.bindToDevice device 0, a.bindToDevice.headD 0) ::
      Answers.answered _ es = _
    rw [hzero hnone]
    rfl

theorem readyToBind_of_configured (hname : '\x00' ∉ device.toList)
    (h : problem? (configuring address device a) = none) {before : List Event}
    (hbefore : systemCalls before = (configuring address device a).flatMap calls) :
    ReadyToBind address device a a.endpoint before := by
  obtain ⟨hport, hresolved, -, -, -, htied⟩ := problem?_configuring_iff.mp h
  obtain ⟨hsplit, hlast⟩ := meant_eq_of_mem hport
  obtain ⟨more, hfound⟩ := endpoint_of_resolved hresolved
  refine ⟨⟨(namedParts address).1, (namedParts address).2, more, ?_, hlast, ?_, hfound⟩, ?_,
    (tying_of_no_problem hname htied).1⟩
  · rw [← hsplit, BindAddress.meant, BindAddress.standard]
    simp only [String.isEmpty_iff]
  · rw [← mem_systemCalls rfl, hbefore, flatMap_calls_configuring]
    exact List.mem_append_left _ List.mem_cons_self
  · obtain ⟨left, -, -, hanswered⟩ := answered_configuring_append hname h []
    rw [List.append_nil] at hanswered
    rw [← Answers.answered_systemCalls, hbefore, hanswered]
    exact List.append_nil _

/-! ## The calls of a whole set-up -/

theorem isConfiguring_of_mem_configuring :
    ∀ e ∈ (configuring address device a).flatMap calls, e.isConfiguring = true := by
  rw [flatMap_calls_configuring]
  refine List.forall_mem_append.mpr ⟨by simp [Event.isConfiguring], ?_⟩
  unfold tying
  split
  · exact List.forall_mem_nil _
  split
  · exact List.forall_mem_nil _
  · exact List.forall_mem_singleton.mpr rfl

theorem bind_not_mem_configuring (endpoint : Endpoint) :
    Event.bind endpoint ∉ (configuring address device a).flatMap calls :=
  fun h => Bool.noConfusion (isConfiguring_of_mem_configuring _ h)

/-- The end of a set-up, in which a socket is given up at most. -/
theorem not_mem_giveUp {e : Event} (h : e ≠ .release) {given : Prop} [Decidable given] :
    e ∉ if given then [Event.release] else [] := by
  split
  · exact fun he => h (List.mem_singleton.mp he)
  · exact List.not_mem_nil

variable {s : LogSettings}

/-- A socket is bound once it is configured, to the endpoint that was found. -/
theorem before_bind {before after : List Event} {endpoint : Endpoint}
    (h : (listen s address device (closed a)).events = before ++ .bind endpoint :: after) :
    endpoint = a.endpoint ∧ problem? (configuring address device a) = none ∧
      systemCalls before = (configuring address device a).flatMap calls := by
  have hasked := (setUpBy_listen s address device a).calls_eq
  have hcall : systemCalls (.bind endpoint :: after) = .bind endpoint :: systemCalls after := rfl
  rw [h, systemCalls_append, hcall, listenStages_eq] at hasked
  have hmem : Event.bind endpoint ∈ (listen s address device (closed a)).events :=
    h ▸ List.mem_append_right _ List.mem_cons_self
  have hstages := mem_flatMap_of_mem_asked
    (((setUpBy_listen s address device a).mem_iff rfl Event.noConfusion).mp hmem)
  obtain rfl : endpoint = a.endpoint := by
    rw [listenStages_eq, List.flatMap_append, List.flatMap_cons, List.mem_append,
      List.mem_append] at hstages
    rcases hstages with hearlier | hbinding | hlater
    · exact absurd hearlier (bind_not_mem_configuring endpoint)
    · exact Event.bind.inj (List.mem_singleton.mp hbinding)
    · exact absurd (List.mem_singleton.mp hlater) Event.noConfusion
  obtain ⟨hproblem, hbefore⟩ := calls_before rfl (bind_not_mem_configuring a.endpoint)
    (fun hlater => absurd (List.mem_singleton.mp hlater) Event.noConfusion)
    (not_mem_giveUp Event.noConfusion) hasked.symm
  exact ⟨rfl, hproblem, hbefore⟩

/-- The stages that follow a bind, up to the one in which the socket is told to
tell the interface of every datagram. -/
def inspecting (a : Answers) : List Stage :=
  [⟨Failure.ofErrno? (a.localEndpoint.headD 0), [],
      fun a => { a with localEndpoint := a.localEndpoint.tail }⟩,
    .check (match a.endpoint.address with
      | .v4 _ => none
      | .v6 _ => some .familyNotSupported)]

theorem listenStages_eq_append (address device : String) (a : Answers) :
    listenStages address device a =
      (configuring address device a ++ binding a.endpoint a :: inspecting a) ++
        [enabling .packetInfo (a.setOption.tail.tail.headD 0)] := by
  rw [listenStages_eq, List.append_assoc]
  rfl

/-- The calls from the bind on, if all stages before the last succeed. -/
theorem answered_listen (hname : '\x00' ∉ device.toList)
    (h : problem? (configuring address device a ++ binding a.endpoint a :: inspecting a) = none) :
    a.bind.headD 0 = 0 ∧ a.answered (listen s address device (closed a)).events =
      configured device ++ [(.bind a.endpoint, 0),
        (.setOption .packetInfo, a.setOption.tail.tail.headD 0)] := by
  have hall := List.findSome?_eq_none_iff.mp h
  have hconfigured : problem? (configuring address device a) = none :=
    List.findSome?_eq_none_iff.mpr fun stage hstage => hall stage (List.mem_append_left _ hstage)
  have hbound : a.bind.headD 0 = 0 := Failure.ofErrno?_eq_none_iff.mp
    (hall (binding a.endpoint a) (List.mem_append_right _ List.mem_cons_self))
  refine ⟨hbound, ?_⟩
  rw [← Answers.answered_systemCalls, (setUpBy_listen s address device a).calls_eq,
    listenStages_eq_append, asked_append_of_none h, asked_eq_flatMap h, List.flatMap_append,
    asked, reached_singleton]
  obtain ⟨left, hbind, hoptions, hanswered⟩ := answered_configuring_append hname hconfigured
    ([.bind a.endpoint, .setOption .packetInfo] ++
      if (problem? (socketStages address a)).isNone &&
        (listen s address device (closed a)).value.isSome then [.release] else [])
  rw [List.append_assoc, List.append_assoc]
  refine hanswered.trans (congrArg _ ?_)
  show (Event.bind a.endpoint, left.bind.headD 0) ::
    (Event.setOption .packetInfo, left.setOption.headD 0) :: Answers.answered _ _ = _
  rw [hbind, hoptions, hbound]
  split
  · rfl
  · rfl

/-- There is a link once its socket was bound and agrees to tell the interface of
every datagram. -/
theorem listens_iff (hname : '\x00' ∉ device.toList) :
    (listen s address device (closed a)).value = none ↔
      ∃ endpoint earlier later, a.answered (listen s address device (closed a)).events =
        earlier ++ (.bind endpoint, 0) :: later ∧ (.setOption .packetInfo, 0) ∈ later := by
  rw [(setUpBy_listen s address device a).value_eq, listenStages_eq_append]
  constructor
  · intro h
    have hearlier : problem? (configuring address device a ++
        binding a.endpoint a :: inspecting a) = none :=
      List.findSome?_eq_none_iff.mpr fun stage hstage =>
        List.findSome?_eq_none_iff.mp h stage (List.mem_append_left _ hstage)
    have htells : a.setOption.tail.tail.headD 0 = 0 := by
      rw [problem?_append_of_none hearlier, problem?_singleton] at h
      exact Failure.ofErrno?_eq_none_iff.mp h
    obtain ⟨-, hanswered⟩ := answered_listen (s := s) hname hearlier
    rw [htells] at hanswered
    exact ⟨a.endpoint, configured device, _, hanswered, List.mem_singleton_self _⟩
  · rintro ⟨endpoint, earlier, later, hanswered, hlater⟩
    have hmem : (.setOption .packetInfo, 0) ∈
        a.answered (listen s address device (closed a)).events := by
      rw [hanswered]
      exact List.mem_append_right _ (List.mem_cons_of_mem _ hlater)
    -- the call was made, so no stage before it has failed
    have hcalled := Answers.mem_of_mem_answered hmem
    rw [← mem_systemCalls rfl, (setUpBy_listen s address device a).calls_eq,
      listenStages_eq_append] at hcalled
    obtain ⟨before, after, hsplit⟩ := List.append_of_mem hcalled
    obtain ⟨hproblem, -⟩ := calls_before rfl (fun he => by
      rw [List.flatMap_append, List.mem_append] at he
      rcases he with he | he
      · exact Bool.noConfusion (isConfiguring_of_mem_configuring _ he)
      · exact absurd (List.mem_singleton.mp he) Event.noConfusion) List.not_mem_nil
      (not_mem_giveUp Event.noConfusion) hsplit
    -- and its answer is the one that stands in the list
    obtain ⟨-, hanswered'⟩ := answered_listen (s := s) hname hproblem
    rw [hanswered', List.mem_append] at hmem
    have htells : a.setOption.tail.tail.headD 0 = 0 := by
      rcases hmem with hmem | hmem
      · exact absurd hmem packetInfo_not_mem_configured
      · simpa [eq_comm] using hmem
    rw [problem?_append_of_none hproblem, problem?_singleton]
    exact Failure.ofErrno?_eq_none_iff.mpr htells

end

/-- **A socket is bound** only after it was opened and configured with success, to
the first endpoint that was found for the two sides of the last colon of the
address; and there is a link only if it was bound with success and then agreed to
tell the interface of every datagram. -/
theorem bound_in_order (s : LogSettings) (address device : String) (a : Answers)
    (hname : '\x00' ∉ device.toList) :
    let o := listen s address device (closed a)
    (∀ before endpoint after, o.events = before ++ .bind endpoint :: after →
        ReadyToBind address device a endpoint before) ∧
      (device = "" → ∀ name errno, Event.bindToDevice name errno ∉ o.events) ∧
      (o.value = none ↔ ∃ endpoint earlier later,
        a.answered o.events = earlier ++ (.bind endpoint, 0) :: later ∧
          (.setOption .packetInfo, 0) ∈ later) := by
  intro o
  refine ⟨fun before endpoint after h => ?_, fun hnone name errno hmem => ?_, listens_iff hname⟩
  · obtain ⟨rfl, hproblem, hbefore⟩ := before_bind h
    exact readyToBind_of_configured hname hproblem hbefore
  · subst hnone
    rw [(setUpBy_listen s address "" a).mem_iff rfl Event.noConfusion] at hmem
    have hcalls : (listenStages address "" a).flatMap calls =
        [.resolve (namedParts address).1 (namedParts address).2, .openSocket,
          .setOption .reuseAddress, .setOption .broadcast, .bind a.endpoint,
          .setOption .packetInfo] := rfl
    have hcall := mem_flatMap_of_mem_asked hmem
    rw [hcalls] at hcall
    simp at hcall

/-- The address has two colons, the resolver finds two endpoints, and the socket is
tied to an interface. -/
theorem bound_in_order_tied :
    let found : Endpoint := ⟨.v4 (.ofOctets 10 0 0 1), 67⟩
    let other : Endpoint := ⟨.v4 (.ofOctets 10 0 0 2), 67⟩
    let a : Answers := ⟨[.ok [found, other]], [], [], [], [], [], [], [], [], []⟩
    let o := listen .initial "a:b:67" "eth0" (closed a)
    '\x00' ∉ "eth0".toList ∧ ∃ before after, o.events = before ++ .bind found :: after ∧
      ReadyToBind "a:b:67" "eth0" a found before ∧ .resolve "a:b" "67" ∈ before ∧
      o.value = none ∧ ∃ endpoint earlier later, a.answered o.events =
        earlier ++ (.bind endpoint, 0) :: later ∧ (.setOption .packetInfo, 0) ∈ later := by
  intro found other a o
  have hname : '\x00' ∉ "eth0".toList := by decide
  obtain ⟨hready, -, hlistens⟩ := bound_in_order .initial "a:b:67" "eth0" a hname
  have hevents : o.events = [.resolve "a:b" "67", .openSocket, .setOption .reuseAddress,
      .setOption .broadcast, .bindToDevice "eth0" 0] ++ .bind found :: [.setOption .packetInfo] := by
    decide +kernel
  have hvalue : o.value = none := by decide +kernel
  exact ⟨hname, _, _, hevents, hready _ _ _ hevents, List.mem_cons_self, hvalue,
    hlistens.mp hvalue⟩

end Link

end DhcpServer
