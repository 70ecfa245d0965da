import DhcpServer.Proofs.Link.GoingThrough

/-!
# Setting up a link

A set-up comes to what the first stage comes to that fails, asks nothing further
of the system but to take back a socket that it has by then, and leaves an open
socket behind only if no stage fails: `Link.setsUp_listen`.  Taking a socket as a
link goes through the last of these stages: `Link.setsUp_adopt`.
-/

namespace DhcpServer

namespace Link

open Stage

/-! ## Taking a socket as a link -/

/-- A set-up from a link comes to what stages come to: it leaves an open socket
behind only if none of them fails, and takes back a socket that was opened
otherwise. -/
structure SetUpBy (stages : List Stage) (opened : Bool) (before : Answers)
    (o : Outcome Link (Option Failure)) : Prop where
  value_eq : o.value = problem? stages
  isOpen_eq : o.state.isOpen = o.value.isNone
  calls_eq : systemCalls o.events =
    asked stages ++ if opened && o.value.isSome then [.release] else []
  answers_eq : o.state.answers = leaving stages before

/-- A socket is given up if there is a problem with it. -/
theorem giveUp_apply {x : Run Link (Option Failure)} {l : Link}
    (hopen : (x l).state.isOpen = true) :
    (x >>= fun problem =>
        if problem.isSome then release >>= fun _ => pure problem else pure problem) l =
      ⟨(x l).value, { (x l).state with isOpen := (x l).value.isNone },
        (x l).events ++ if (x l).value.isSome then [.release] else []⟩ := by
  rw [Run.bind_apply]
  cases (x l).value with
  | none =>
      have hsame : { (x l).state with isOpen := true } = (x l).state := by rw [← hopen]
      rw [Option.isSome_none, if_neg Bool.false_ne_true, if_neg Bool.false_ne_true,
        Option.isNone_none, hsame]
      rfl
  | some failure =>
      rw [Option.isSome_some, if_pos rfl, if_pos rfl, Run.bind_apply, release_of_open hopen]
      rfl

theorem adopt_of_open {l : Link} (hopen : l.isOpen = true) :
    adopt l = (inspection >>= fun problem =>
      if problem.isSome then release >>= fun _ => pure problem else pure problem) l := by
  unfold adopt inspection
  rw [Run.bind_assoc, Run.bind_apply, Run.get_apply]
  dsimp only
  rw [if_pos hopen, Run.bind_apply, Run.bind_apply]
  match (lookUpEndpoint l).value with
  | .error failure => rfl
  | .ok ⟨.v6 _, _⟩ => rfl
  | .ok ⟨.v4 _, _⟩ => rfl

/-- Taking a socket as a link. -/
theorem setUpBy_adopt (l : Link) : SetUpBy (adoptStages l) l.isOpen l.answers (adopt l) := by
  cases hopen : l.isOpen with
  | false =>
      have hclosed : adopt l = ⟨some .badDescriptor, l, []⟩ := by
        unfold adopt
        rw [Run.bind_apply, Run.get_apply]
        dsimp only
        rw [hopen]
        rfl
      rw [hclosed, adoptStages, hopen]
      exact ⟨rfl, hopen, rfl, rfl⟩
  | true =>
      have h := goesThrough_inspection hopen
      have hstill : (inspection l).state.isOpen = true := (keeps_inspection l).trans hopen
      rw [adopt_of_open hopen, giveUp_apply hstill, adoptStages, if_pos hopen]
      refine ⟨h.value_eq, rfl, ?_, h.answers_eq⟩
      rw [systemCalls_append, h.calls_eq]
      congr 1
      dsimp only
      cases (inspection l).value <;> rfl

/-! ## The whole set-up -/

theorem exists_of_firstFailure_cons {step : Run Link (Option Failure)}
    {steps : List (Run Link (Option Failure))} {l : Link}
    (h : (firstFailure (step :: steps) l).value = none) :
    ∃ l', (step l).state = l' ∧ (step l).value = none ∧ (firstFailure steps l').value = none ∧
      (firstFailure (step :: steps) l).state = (firstFailure steps l').state := by
  cases hvalue : (step l).value with
  | some failure =>
      rw [firstFailure_cons_of_some hvalue, hvalue] at h
      cases h
  | none =>
      rw [firstFailure_cons_of_none hvalue] at h ⊢
      exact ⟨_, rfl, rfl, h, rfl⟩

theorem localEndpoint_preparation (s : LogSettings) (device : String) (endpoint : Endpoint)
    {l : Link} (h : (firstFailure (preparation s device endpoint) l).value = none) :
    (firstFailure (preparation s device endpoint) l).state.localEndpoint = endpoint := by
  unfold preparation at h ⊢
  -- the last of the five steps settles the endpoint
  obtain ⟨l₁, -, -, h, hstate⟩ := exists_of_firstFailure_cons h
  obtain ⟨l₂, -, -, h, hstate₂⟩ := exists_of_firstFailure_cons h
  obtain ⟨l₃, -, -, h, hstate₃⟩ := exists_of_firstFailure_cons h
  obtain ⟨l₄, -, -, h, hstate₄⟩ := exists_of_firstFailure_cons h
  obtain ⟨l₅, hl₅, hvalue, -, hstate₅⟩ := exists_of_firstFailure_cons h
  rw [hstate, hstate₂, hstate₃, hstate₄, hstate₅, ← hl₅]
  show (explained s ("bind to " ++ endpoint.text) (bind endpoint) l₄).state.localEndpoint = endpoint
  rw [(explained_spec _ _ _ _).1, bind_apply, Failure.ofErrno?_eq_none_iff] at hvalue
  rw [(explained_spec _ _ _ _).2.1, bind_apply]
  exact if_pos hvalue

theorem SetUpBy.after {stages later : List Stage} {opened : Bool} {l : Link}
    {o o' : Outcome Link (Option Failure)} (h' : SetUpBy later opened o.state.answers o')
    (h : GoesThrough stages l o) (hgoes : o.value = none) :
    SetUpBy (stages ++ later) opened l.answers ⟨o'.value, o'.state, o.events ++ o'.events⟩ := by
  have hproblem : problem? stages = none := h.value_eq.symm.trans hgoes
  refine ⟨?_, h'.isOpen_eq, ?_, ?_⟩
  · rw [problem?_append_of_none hproblem, h'.value_eq]
  · rw [asked_append_of_none hproblem, systemCalls_append, h.calls_eq, h'.calls_eq,
      List.append_assoc]
  · rw [leaving_append_of_none hproblem, ← h.answers_eq, h'.answers_eq]

theorem setUpBy_explained {stages : List Stage} {opened : Bool} {before : Answers}
    {step : Run Link (Option Failure)} {l : Link} (h : SetUpBy stages opened before (step l))
    (s : LogSettings) (problem : String) :
    SetUpBy stages opened before (explained s problem step l) := by
  obtain ⟨hvalue, hstate, hcalls⟩ := explained_spec s problem step l
  refine ⟨hvalue.trans h.value_eq, ?_, ?_, ?_⟩
  · rw [hstate, hvalue]
    exact h.isOpen_eq
  · rw [hcalls, hvalue]
    exact h.calls_eq
  · rw [hstate]
    exact h.answers_eq

theorem adoptStages_preparation (s : LogSettings) (device : String) (a : Answers) {l : Link}
    (hleft : l.answers = { a with resolve := a.resolve.tail })
    (hprepares : GoesThrough (opening a :: preparing device a.endpoint a) l
      (firstFailure (preparation s device a.endpoint) l))
    (hopen : (firstFailure (preparation s device a.endpoint) l).state.isOpen = true)
    (hvalue : (firstFailure (preparation s device a.endpoint) l).value = none) :
    adoptStages (firstFailure (preparation s device a.endpoint) l).state =
      adopting a.endpoint (a.setOption.tail.tail.headD 0) a := by
  obtain ⟨hoptions, hlookUps⟩ := leaving_preparation device a.endpoint a l.answers
    (hprepares.value_eq.symm.trans hvalue)
  rw [← hprepares.answers_eq, hleft] at hoptions hlookUps
  rw [adoptStages, if_pos hopen, localEndpoint_preparation s device a.endpoint hvalue, hoptions,
    adopting, adopting, hlookUps]

/-- The part of the set-up that follows the resolution of the address. -/
theorem setUpBy_prepared (s : LogSettings) (device : String) (a : Answers) {l : Link}
    (hclosed : l.isOpen = false)
    (hleft : l.answers = { a with resolve := a.resolve.tail }) :
    SetUpBy ([opening a] ++
        (preparing device a.endpoint a ++ adopting a.endpoint (a.setOption.tail.tail.headD 0) a))
      (problem? [opening a]).isNone l.answers
      ((firstFailure (preparation s device a.endpoint) >>= fun result => match result with
        | some failure => release >>= fun _ => pure (some failure)
        | none => explained s "enable interface control messages" adopt) l) := by
  have hprepares : GoesThrough (opening a :: preparing device a.endpoint a) l
      (firstFailure (preparation s device a.endpoint) l) := by
    have h := goesThrough_preparation s device a.endpoint l
    rw [hleft] at h
    exact h
  have hopened : (firstFailure (preparation s device a.endpoint) l).state.isOpen =
      (opening a).problem.isNone := by
    rw [isOpen_preparation s device a.endpoint hclosed, hleft]
    rfl
  rw [Run.bind_apply, problem?_singleton, ← List.append_assoc]
  cases hvalue : (firstFailure (preparation s device a.endpoint) l).value with
  | some failure =>
      have hall := hprepares.stop hvalue (adopting a.endpoint (a.setOption.tail.tail.headD 0) a)
      have hvalue' := hvalue.symm.trans hall.value_eq
      dsimp only
      rw [Run.bind_apply]
      cases hproblem : (opening a).problem with
      | some _ =>
          -- there is no socket to give up
          rw [hproblem] at hopened
          rw [release_of_closed hopened]
          refine ⟨hvalue', hopened, ?_, hall.answers_eq⟩
          dsimp only
          rw [Run.pure_apply, List.append_nil, List.append_nil]
          exact hall.calls_eq.trans (List.append_nil _).symm
      | none =>
          rw [hproblem] at hopened
          rw [release_of_open hopened]
          refine ⟨hvalue', rfl, ?_, hall.answers_eq⟩
          rw [systemCalls_append, hall.calls_eq]
          rfl
  | none =>
      -- the socket is handed over, and from here on it is no longer given up here
      have hproblem : problem? (opening a :: preparing device a.endpoint a) = none :=
        hprepares.value_eq.symm.trans hvalue
      have hopen : (opening a).problem = none :=
        List.findSome?_eq_none_iff.mp hproblem _ List.mem_cons_self
      rw [hopen] at hopened ⊢
      refine SetUpBy.after (setUpBy_explained ?_ s _) hprepares hvalue
      rw [← adoptStages_preparation s device a hleft hprepares hopened hvalue]
      have hadopts := setUpBy_adopt (firstFailure (preparation s device a.endpoint) l).state
      rwa [hopened] at hadopts

/-- The set-up of a link. -/
theorem setUpBy_listen (s : LogSettings) (address device : String) (a : Answers) :
    SetUpBy (listenStages address device a) (problem? (socketStages address a)).isNone a
      (listen s address device (closed a)) := by
  obtain ⟨hresolves, hfound, hstill⟩ := resolve_spec s address (closed a)
  unfold listen listenStages socketStages
  rw [Run.bind_apply]
  -- of the resolution no more is needed than its specification
  generalize resolve s address (closed a) = resolved at hresolves hfound hstill ⊢
  cases hvalue : resolved.value with
  | error failure =>
      rw [hvalue] at hresolves
      have hproblem : problem? (resolving address a) = some failure := hresolves.value_eq.symm
      have hall := (hresolves.stop rfl [opening a]).stop rfl
        (preparing device a.endpoint a ++ adopting a.endpoint (a.setOption.tail.tail.headD 0) a)
      dsimp only
      rw [Run.pure_apply, List.append_nil, problem?_append_of_some hproblem]
      refine ⟨hall.value_eq, hstill, ?_, hall.answers_eq⟩
      exact hall.calls_eq.trans (List.append_nil _).symm
  | ok endpoint =>
      obtain ⟨rfl, hleft⟩ := hfound endpoint hvalue
      have hclosed : resolved.state.isOpen = false := hstill
      rw [hvalue] at hresolves
      dsimp only
      rw [List.append_assoc]
      refine SetUpBy.after ?_ hresolves rfl
      have hfree : problem? (resolving address a) = none := hresolves.value_eq.symm
      rw [problem?_append_of_none hfree]
      exact setUpBy_prepared s device a hclosed hleft

end Link

/-! ## What a set-up comes to -/

/-- A set-up that is done in stages, of which `opened` says whether it got a
socket: it reports the problem of the first stage that fails and goes no
further, and only a link is left behind. -/
structure SetsUp (stages : List Stage) (opened : Prop) [Decidable opened] (before : Answers)
    (o : Outcome Link (Option Failure)) : Prop where
  /-- There is a link if there is no problem, and only then. -/
  isOpen_iff : o.state.isOpen = true ↔ o.value = none
  value_eq : o.value = Stage.problem? stages
  calls_eq : systemCalls o.events =
    Stage.asked stages ++ if opened ∧ o.value ≠ none then [.release] else []
  answers_eq : o.state.answers = Stage.leaving stages before
  /-- The socket is given up once if there is one and no link. -/
  count_release : o.events.count .release = if opened ∧ o.value ≠ none then 1 else 0
  close_not_mem : Event.close ∉ o.events

namespace Link

open Stage

theorem mem_systemCalls {e : Event} {es : List Event} (h : e.isLogEntry = false) :
    e ∈ systemCalls es ↔ e ∈ es := by
  rw [systemCalls, List.mem_filter, h]
  exact and_iff_left rfl

/-- Besides the release of a socket, a set-up asks what its stages ask. -/
theorem SetUpBy.mem_iff {stages : List Stage} {opened : Bool} {before : Answers}
    {o : Outcome Link (Option Failure)} {e : Event} (h : SetUpBy stages opened before o)
    (hlog : e.isLogEntry = false) (hrelease : e ≠ .release) :
    e ∈ o.events ↔ e ∈ asked stages := by
  rw [← mem_systemCalls hlog, h.calls_eq, List.mem_append]
  refine or_iff_left fun hmem => ?_
  split at hmem
  · exact hrelease (List.mem_singleton.mp hmem)
  · exact List.not_mem_nil hmem

theorem SetUpBy.setsUp {stages : List Stage} {opened : Prop} [Decidable opened] {before : Answers}
    {o : Outcome Link (Option Failure)} {b : Bool} (h : SetUpBy stages b before o)
    (hopened : b = true ↔ opened)
    (hcalls : ∀ stage ∈ stages, ∀ e ∈ stage.calls, e.isPreparing = true) :
    SetsUp stages opened before o := by
  have hcalls_eq : systemCalls o.events =
      asked stages ++ if opened ∧ o.value ≠ none then [.release] else [] := by
    have hif : (b && o.value.isSome) = true ↔ opened ∧ o.value ≠ none := by
      rw [Bool.and_eq_true, hopened, Option.isSome_iff_ne_none]
    rw [h.calls_eq]
    simp only [hif]
  -- no stage ends a socket, so that it is ended by what follows them
  have hasked : ∀ e ∈ asked stages, e.isPreparing = true := forall_mem_asked hcalls
  refine ⟨?_, h.value_eq, hcalls_eq, h.answers_eq, ?_, ?_⟩
  · rw [h.isOpen_eq, Option.isNone_iff_eq_none]
  · have hcount : o.events.count .release = (systemCalls o.events).count .release :=
      (List.count_filter rfl).symm
    have hnone : (asked stages).count .release = 0 :=
      List.count_eq_zero.mpr fun he => Bool.false_ne_true (hasked _ he)
    rw [hcount, hcalls_eq, List.count_append, hnone, Nat.zero_add]
    split
    · rfl
    · rfl
  · intro hclose
    have hmem := (h.mem_iff rfl Event.noConfusion).mp hclose
    exact Bool.false_ne_true (hasked _ hmem)

theorem opened_iff (s : LogSettings) (address device : String) (a : Answers) :
    (problem? (socketStages address a)).isNone = true ↔
      Event.openSocket ∈ (listen s address device (closed a)).events ∧
        a.openSocket.headD 0 = 0 := by
  have hasked : Event.openSocket ∈ (listen s address device (closed a)).events ↔
      problem? (resolving address a) = none := by
    rw [← openSocket_mem_asked_iff address device a]
    exact (setUpBy_listen s address device a).mem_iff rfl Event.noConfusion
  rw [hasked, Option.isNone_iff_eq_none, socketStages]
  constructor
  · intro h
    have hboth := List.findSome?_eq_none_iff.mp h
    refine ⟨List.findSome?_eq_none_iff.mpr fun stage hstage =>
      hboth stage (List.mem_append_left _ hstage), ?_⟩
    exact Failure.ofErrno?_eq_none_iff.mp (hboth (opening a) (List.mem_append_right _
      (List.mem_singleton_self _)))
  · rintro ⟨hproblem, hzero⟩
    rw [problem?_append_of_none hproblem, problem?_singleton]
    exact Failure.ofErrno?_eq_none_iff.mpr hzero

theorem opened_of_listens {s : LogSettings} {address device : String} {a : Answers}
    (h : (listen s address device (closed a)).value = none) :
    Event.openSocket ∈ (listen s address device (closed a)).events ∧
      a.openSocket.headD 0 = 0 := by
  have hall : problem? (listenStages address device a) = none :=
    (setUpBy_listen s address device a).value_eq.symm.trans h
  rw [← opened_iff, Option.isNone_iff_eq_none, problem?, List.findSome?_eq_none_iff]
  intro stage hstage
  exact List.findSome?_eq_none_iff.mp hall stage (List.mem_append_left _ hstage)

/-- At most one socket is asked for. -/
theorem count_openSocket_listen (s : LogSettings) (address device : String) (a : Answers) :
    (listen s address device (closed a)).events.count .openSocket ≤ 1 := by
  have hcount : (listen s address device (closed a)).events.count .openSocket =
      (systemCalls (listen s address device (closed a)).events).count .openSocket :=
    (List.count_filter rfl).symm
  have htying : (tying device a).calls.count .openSocket = 0 := by
    unfold tying
    split
    · rfl
    split
    · rfl
    · rfl
  have hall : ((listenStages address device a).flatMap Stage.calls).count .openSocket = 1 := by
    simp only [listenStages, socketStages, resolving, preparing, adopting, List.flatMap_append,
      List.flatMap_cons, List.flatMap_nil, List.count_append, htying]
    rfl
  rw [hcount, (setUpBy_listen s address device a).calls_eq, List.count_append]
  have hrelease : (if (problem? (socketStages address a)).isNone &&
      (listen s address device (closed a)).value.isSome then [Event.release] else []).count
        .openSocket = 0 := by
    split
    · rfl
    · rfl
  rw [hrelease, Nat.add_zero, ← hall]
  exact count_asked_le _ _

/-- All that is done in setting up a link. -/
theorem of_mem_listen {s : LogSettings} {address device : String} {a : Answers} {e : Event}
    (h : e ∈ (listen s address device (closed a)).events) :
    e.isLogEntry = true ∨ e.isPreparing = true ∨ e = .release := by
  by_cases hrelease : e = .release
  · exact .inr (.inr hrelease)
  cases hlog : e.isLogEntry with
  | true => exact .inl rfl
  | false =>
      have hasked := ((setUpBy_listen s address device a).mem_iff hlog hrelease).mp h
      exact .inr (.inl
        (forall_mem_asked (isPreparing_of_mem_listenStages address device a) e hasked))

/-- A socket that is not an open IPv4 socket is not told to report interfaces. -/
theorem packetInfo_of_mem_adopt {l : Link}
    (h : Event.setOption .packetInfo ∈ (adopt l).events) :
    l.isOpen = true ∧ ∃ address, l.localEndpoint.address = .v4 address := by
  have hasked : Event.setOption .packetInfo ∈ asked (adoptStages l) :=
    ((setUpBy_adopt l).mem_iff rfl Event.noConfusion).mp h
  cases hopen : l.isOpen with
  | false =>
      rw [adoptStages, hopen] at hasked
      exact absurd hasked List.not_mem_nil
  | true =>
      refine ⟨rfl, ?_⟩
      cases haddress : l.localEndpoint.address with
      | v4 address => exact ⟨address, rfl⟩
      | v6 address =>
          -- the stage before the option fails at the latest
          have hnothing : asked (adoptStages l) = [] := by
            rw [adoptStages, hopen, if_pos rfl, adopting, haddress, asked, reached]
            split
            · rfl
            · rfl
          rw [hnothing] at hasked
          exact absurd hasked List.not_mem_nil

theorem setsUp_listen (s : LogSettings) (address device : String) (a : Answers) :
    SetsUp (listenStages address device a)
      (Event.openSocket ∈ (listen s address device (closed a)).events ∧ a.openSocket.headD 0 = 0) a
      (listen s address device (closed a)) :=
  (setUpBy_listen s address device a).setsUp (opened_iff s address device a)
    (isPreparing_of_mem_listenStages address device a)

theorem setsUp_adopt (l : Link) :
    SetsUp (adoptStages l) (l.isOpen = true) l.answers (adopt l) := by
  refine (setUpBy_adopt l).setsUp Iff.rfl ?_
  unfold adoptStages
  split
  · exact isPreparing_of_mem_adopting _ _ _
  · exact List.forall_mem_singleton.mpr (List.forall_mem_nil _)

/-- A problem that is reported never stands for success. -/
theorem listen_ne_success (s : LogSettings) (address device : String) {a : Answers}
    (h : a.Genuine) : (listen s address device (closed a)).value ≠ some (.system 0) := by
  rw [(setUpBy_listen s address device a).value_eq]
  exact problem?_ne (problem_ne_of_mem_listenStages address device h)

theorem adopt_ne_success (l : Link) : (adopt l).value ≠ some (.system 0) := by
  rw [(setUpBy_adopt l).value_eq, adoptStages]
  refine problem?_ne ?_
  split
  · exact problem_ne_of_mem_adopting _ _ _
  · refine List.forall_mem_singleton.mpr ?_
    decide

/-- **Setting up** a link, and taking a socket as one, goes through its stages up
to the first that fails, reports why that one does, and leaves no socket behind
but that of a link. -/
theorem set_up_leaves_only_links (s : LogSettings) :
    (∀ (address device : String) (a : Answers),
      let o := listen s address device (closed a)
      SetsUp (listenStages address device a)
          (Event.openSocket ∈ o.events ∧ a.openSocket.headD 0 = 0) a o ∧
        (a.Genuine → o.value ≠ some (.system 0)) ∧
        (':' ∉ (BindAddress.meant address).toList → o.value = some .invalidArgument) ∧
        (':' ∈ (BindAddress.meant address).toList → a.resolution = .ok [] →
          o.value = some .hostNotFound) ∧
        (16 ≤ device.utf8ByteSize →
          problem? (socketStages address a ++ [enabling .reuseAddress (a.setOption.headD 0),
            enabling .broadcast (a.setOption.tail.headD 0)]) = none →
          o.value = some .invalidArgument)) ∧
      ∀ l : Link,
        SetsUp (adoptStages l) (l.isOpen = true) l.answers (adopt l) ∧
          (adopt l).value ≠ some (.system 0) ∧
          (Event.setOption .packetInfo ∈ (adopt l).events →
            l.isOpen = true ∧ ∃ address, l.localEndpoint.address = .v4 address) := by
  refine ⟨fun address device a => ?_,
    fun l => ⟨setsUp_adopt l, adopt_ne_success l, packetInfo_of_mem_adopt⟩⟩
  have h := setsUp_listen s address device a
  refine ⟨h, listen_ne_success s address device, fun hport => ?_, fun hport hempty => ?_,
    fun hlong hbefore => ?_⟩
  · rw [h.value_eq, listenStages, socketStages, resolving, if_neg hport]
    rfl
  · rw [h.value_eq, listenStages, socketStages, resolving, if_pos hport, Answers.unresolved?,
      hempty]
    rfl
  · rw [h.value_eq, problem?_of_long_name hlong hbefore]

/-- The name of an interface is found too long only when there is a socket, which
is given up then; and so is an IPv6 socket that is to be taken as a link. -/
theorem set_up_leaves_only_links_refused :
    let a : Answers := ⟨[], [], [], [], [], [], [], [], [], []⟩
    let o := listen .initial ":67" "a-very-long-name" (closed a)
    let socket : Link := ⟨true, false, ⟨.v6 .unspecified, 67⟩, a⟩
    o.value = some .invalidArgument ∧ o.state.isOpen = false ∧ o.events.count .release = 1 ∧
      (adopt socket).value = some .familyNotSupported ∧ (adopt socket).state.isOpen = false ∧
      (adopt socket).events.count .release = 1 := by
  intro a o socket
  obtain ⟨hlisten, hadopt⟩ := set_up_leaves_only_links .initial
  obtain ⟨hset, -, -, -, hlong⟩ := hlisten ":67" "a-very-long-name" a
  obtain ⟨htaken, -, -⟩ := hadopt socket
  have hvalue : o.value = some .invalidArgument := hlong (by decide +kernel) (by decide +kernel)
  have hvalue' : (adopt socket).value = some .familyNotSupported := htaken.value_eq
  have hasked : Event.openSocket ∈ o.events ∧ a.openSocket.headD 0 = 0 := by decide +kernel
  refine ⟨hvalue, ?_, ?_, hvalue', ?_, ?_⟩
  · rw [← Bool.not_eq_true, hset.isOpen_iff, hvalue]
    exact Option.some_ne_none _
  · rw [hset.count_release, if_pos ⟨hasked, by rw [hvalue]; exact Option.some_ne_none _⟩]
  · rw [← Bool.not_eq_true, htaken.isOpen_iff, hvalue']
    exact Option.some_ne_none _
  · rw [htaken.count_release, if_pos ⟨rfl, by rw [hvalue']; exact Option.some_ne_none _⟩]

end Link

end DhcpServer
