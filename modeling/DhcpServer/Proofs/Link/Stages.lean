import DhcpServer.BindAddress
import DhcpServer.Link

/-!
# The stages of a set-up

A link is set up in stages.  `Link.listenStages` lists them as the system answers:
why each of them fails, if it does, what is asked of the system in it, and which
answers are left.  The stages are gone through up to the first that fails:
`Stage.reached`.

The lemmas say what can be told from the list alone: that nothing is asked that
ends a socket (`Link.isPreparing_of_mem_listenStages`), when a socket is asked for
(`Link.openSocket_mem_asked_iff`), and that no problem stands for success
(`Link.problem_ne_of_mem_listenStages`).
-/

namespace DhcpServer

/-! ## Stages -/

/-- One stage of a set-up, as the system answers: why it fails, if it does; what
is asked of the system; and the answers that are left then. -/
structure Stage where
  problem : Option Failure
  calls : List Event
  left : Answers → Answers

namespace Stage

/-- A stage in which the system is asked nothing. -/
def check (problem : Option Failure) : Stage := ⟨problem, [], id⟩

/-- The stages that are gone through: those up to the first that fails. -/
def reached : List Stage → List Stage
  | [] => []
  | stage :: rest => if stage.problem.isSome then [stage] else stage :: reached rest

/-- Why the first stage fails that does. -/
def problem? (stages : List Stage) : Option Failure := stages.findSome? problem

/-- All that is asked of the system. -/
def asked (stages : List Stage) : List Event := (reached stages).flatMap calls

/-- The answers that are left in the end. -/
def leaving (stages : List Stage) (a : Answers) : Answers :=
  (reached stages).foldl (fun a stage => stage.left a) a

variable {stages : List Stage} {failure : Failure}

theorem reached_append_of_some (h : problem? stages = some failure) (later : List Stage) :
    reached (stages ++ later) = reached stages := by
  induction stages with
  | nil => cases h
  | cons stage rest ih =>
      rw [List.cons_append, reached, reached]
      cases hstage : stage.problem with
      | some _ => rfl
      | none =>
          have hrest : problem? rest = some failure := by
            rw [problem?, List.findSome?_cons, hstage] at h
            exact h
          rw [ih hrest]

theorem reached_append_of_none (h : problem? stages = none) (later : List Stage) :
    reached (stages ++ later) = stages ++ reached later := by
  induction stages with
  | nil => rfl
  | cons stage rest ih =>
      obtain ⟨hstage, hrest⟩ : stage.problem = none ∧ problem? rest = none := by
        rwa [problem?, List.findSome?_eq_none_iff, List.forall_mem_cons,
          ← List.findSome?_eq_none_iff] at h
      rw [List.cons_append, reached, hstage, ih hrest]
      rfl

theorem reached_eq_self (h : problem? stages = none) : reached stages = stages := by
  have hall := reached_append_of_none h []
  rwa [List.append_nil, reached, List.append_nil] at hall

theorem problem?_append_of_some (h : problem? stages = some failure) (later : List Stage) :
    problem? (stages ++ later) = some failure := by
  rw [problem?, List.findSome?_append, ← problem?, h]
  rfl

theorem problem?_append_of_none (h : problem? stages = none) (later : List Stage) :
    problem? (stages ++ later) = problem? later := by
  rw [problem?, List.findSome?_append, ← problem?, h]
  rfl

/-- After a stage that fails nothing is asked, and no answer used up. -/
theorem asked_append_of_some (h : problem? stages = some failure) (later : List Stage) :
    asked (stages ++ later) = asked stages := by
  rw [asked, reached_append_of_some h, ← asked]

theorem asked_append_of_none (h : problem? stages = none) (later : List Stage) :
    asked (stages ++ later) = asked stages ++ asked later := by
  rw [asked, reached_append_of_none h, List.flatMap_append, asked, reached_eq_self h, ← asked]

theorem leaving_append_of_some (h : problem? stages = some failure) (later : List Stage)
    (a : Answers) : leaving (stages ++ later) a = leaving stages a := by
  rw [leaving, reached_append_of_some h, ← leaving]

theorem leaving_append_of_none (h : problem? stages = none) (later : List Stage) (a : Answers) :
    leaving (stages ++ later) a = leaving later (leaving stages a) := by
  rw [leaving, reached_append_of_none h, List.foldl_append, leaving, leaving, reached_eq_self h]

theorem reached_singleton (stage : Stage) : reached [stage] = [stage] := by
  rw [reached]
  split
  · rfl
  · rfl

theorem problem?_singleton (stage : Stage) : problem? [stage] = stage.problem := by
  rw [problem?, List.findSome?_cons]
  cases stage.problem <;> rfl

theorem prefix_of_reached (stages : List Stage) : reached stages <+: stages := by
  induction stages with
  | nil => exact List.prefix_rfl
  | cons stage rest ih =>
      rw [reached]
      split
      · exact ⟨rest, rfl⟩
      · exact (List.prefix_cons_inj stage).mpr ih

theorem forall_mem_asked {p : Event → Prop} (h : ∀ stage ∈ stages, ∀ e ∈ stage.calls, p e) :
    ∀ e ∈ asked stages, p e := by
  intro e he
  obtain ⟨stage, hstage, he⟩ := List.mem_flatMap.mp he
  exact h stage ((prefix_of_reached stages).subset hstage) e he

/-- No call is made more often than the stages provide for. -/
theorem count_asked_le (e : Event) (stages : List Stage) :
    (asked stages).count e ≤ (stages.flatMap calls).count e := by
  obtain ⟨rest, hrest⟩ := prefix_of_reached stages
  calc (asked stages).count e
      ≤ (asked stages).count e + (rest.flatMap calls).count e := Nat.le_add_right _ _
    _ = (stages.flatMap calls).count e := by
        rw [← List.count_append, asked, ← List.flatMap_append, hrest]

theorem problem?_ne (h : ∀ stage ∈ stages, stage.problem ≠ some failure) :
    problem? stages ≠ some failure := by
  intro hproblem
  obtain ⟨stage, hstage, hfails⟩ := List.exists_of_findSome?_eq_some hproblem
  exact h stage hstage hfails

end Stage

/-- What the resolver finds. -/
def Answers.resolution (a : Answers) : Except Failure (List Endpoint) :=
  a.resolve.headD (.ok [⟨.v4 .unspecified, 67⟩])

/-- Why the resolver finds no endpoint. -/
def Answers.unresolved? (a : Answers) : Option Failure :=
  match a.resolution with
  | .error failure => some failure
  | .ok [] => some .hostNotFound
  | .ok (_ :: _) => none

/-- The endpoint to listen on, if the resolver finds one. -/
def Answers.endpoint (a : Answers) : Endpoint :=
  match a.resolution with
  | .ok (endpoint :: _) => endpoint
  | _ => .unspecified

/-- The resolver reports no error that stands for success. -/
def Answers.Genuine (a : Answers) : Prop :=
  ∀ failure, Except.error failure ∈ a.resolve → failure ≠ .system 0

/-- What the system is asked for in a stage: nothing that ends a socket. -/
def Event.isPreparing : Event → Bool
  | .resolve _ _ => true
  | .openSocket => true
  | .setOption _ => true
  | .bindToDevice _ _ => true
  | .bind _ => true
  | _ => false

namespace Link

open Stage

/-- A socket option is switched on. -/
def enabling (option : SocketOption) (errno : Errno) : Stage :=
  ⟨Failure.ofErrno? errno, [.setOption option], fun a => { a with setOption := a.setOption.tail }⟩

/-- The address names a port, and its host is found. -/
def resolving (address : String) (a : Answers) : List Stage :=
  let address := BindAddress.meant address
  let parts := (BindAddress.split? address).getD ("", "")
  [.check (if ':' ∈ address.toList then none else some .invalidArgument),
    ⟨a.unresolved?, [.resolve parts.1 parts.2], fun a => { a with resolve := a.resolve.tail }⟩]

/-- A socket is opened. -/
def opening (a : Answers) : Stage :=
  ⟨Failure.ofErrno? (a.openSocket.headD 0), [.openSocket],
    fun a => { a with openSocket := a.openSocket.tail }⟩

/-- The socket is tied to an interface, if one is named. -/
def tying (device : String) (a : Answers) : Stage :=
  if device = "" then .check none
  else if 16 ≤ device.utf8ByteSize then .check (some .invalidArgument)
  else
    let errno := a.bindToDevice.headD 0
    ⟨Failure.ofErrno? errno, [.bindToDevice (LogSettings.upToZero device) errno],
      fun a => { a with bindToDevice := a.bindToDevice.tail }⟩

/-- The socket is given its endpoint. -/
def binding (endpoint : Endpoint) (a : Answers) : Stage :=
  ⟨Failure.ofErrno? (a.bind.headD 0), [.bind endpoint], fun a => { a with bind := a.bind.tail }⟩

/-- An open socket is prepared for its endpoint. -/
def preparing (device : String) (endpoint : Endpoint) (a : Answers) : List Stage :=
  [enabling .reuseAddress (a.setOption.headD 0), enabling .broadcast (a.setOption.tail.headD 0),
    tying device a, binding endpoint a]

/-- An open socket with the endpoint is taken as a link; the number answers the
request for the interface of every datagram. -/
def adopting (endpoint : Endpoint) (errno : Errno) (a : Answers) : List Stage :=
  [⟨Failure.ofErrno? (a.localEndpoint.headD 0), [],
      fun a => { a with localEndpoint := a.localEndpoint.tail }⟩,
    .check (match endpoint.address with
      | .v4 _ => none
      | .v6 _ => some .familyNotSupported),
    enabling .packetInfo errno]

/-- The stages up to the one in which the socket is opened. -/
def socketStages (address : String) (a : Answers) : List Stage :=
  resolving address a ++ [opening a]

/-- All stages of the set-up of a link. -/
def listenStages (address device : String) (a : Answers) : List Stage :=
  socketStages address a ++
    (preparing device a.endpoint a ++ adopting a.endpoint (a.setOption.tail.tail.headD 0) a)

/-- The stages in which a socket is taken as a link. -/
def adoptStages (l : Link) : List Stage :=
  if l.isOpen then adopting l.localEndpoint (l.answers.setOption.headD 0) l.answers
  else [.check (some .badDescriptor)]

/-! ## What the stages have in common -/

theorem ofErrno?_ne_success (errno : Errno) : Failure.ofErrno? errno ≠ some (.system 0) := by
  rw [Failure.ofErrno?]
  split
  · exact Option.some_ne_none _ |>.symm
  · intro h
    cases h
    contradiction

theorem isPreparing_of_mem_adopting (endpoint : Endpoint) (errno : Errno) (a : Answers) :
    ∀ stage ∈ adopting endpoint errno a, ∀ e ∈ stage.calls, e.isPreparing = true := by
  simp only [adopting, List.forall_mem_cons]
  exact ⟨List.forall_mem_nil _, List.forall_mem_nil _, List.forall_mem_singleton.mpr rfl,
    List.forall_mem_nil _⟩

theorem isPreparing_of_mem_listenStages (address device : String) (a : Answers) :
    ∀ stage ∈ listenStages address device a, ∀ e ∈ stage.calls, e.isPreparing = true := by
  have htying : ∀ e ∈ (tying device a).calls, e.isPreparing = true := by
    unfold tying
    split
    · exact List.forall_mem_nil _
    split
    · exact List.forall_mem_nil _
    · exact List.forall_mem_singleton.mpr rfl
  simp only [listenStages, socketStages, resolving, opening, preparing, enabling, binding,
    Stage.check, List.forall_mem_append, List.forall_mem_cons, List.not_mem_nil, false_implies,
    implies_true, and_true, true_and]
  exact ⟨⟨rfl, rfl⟩, ⟨rfl, rfl, htying, rfl⟩, isPreparing_of_mem_adopting _ _ a⟩

theorem problem_ne_of_mem_adopting (endpoint : Endpoint) (errno : Errno) (a : Answers) :
    ∀ stage ∈ adopting endpoint errno a, stage.problem ≠ some (.system 0) := by
  simp only [adopting, List.forall_mem_cons]
  refine ⟨ofErrno?_ne_success _, ?_, ofErrno?_ne_success _, List.forall_mem_nil _⟩
  cases endpoint.address with
  | v4 _ => exact (Option.some_ne_none _).symm
  | v6 _ =>
      show some Failure.familyNotSupported ≠ some (.system 0)
      decide

theorem unresolved?_ne {a : Answers} (h : a.Genuine) : a.unresolved? ≠ some (.system 0) := by
  rw [Answers.unresolved?, Answers.resolution]
  cases hanswers : a.resolve with
  | nil => exact (Option.some_ne_none _).symm
  | cons answer rest =>
      rw [List.headD_cons]
      match answer with
      | .error failure =>
          intro hzero
          exact h failure (hanswers ▸ List.mem_cons_self) (Option.some.inj hzero)
      | .ok [] => decide
      | .ok (_ :: _) => exact (Option.some_ne_none _).symm

theorem problem_ne_of_mem_listenStages (address device : String) {a : Answers} (h : a.Genuine) :
    ∀ stage ∈ listenStages address device a, stage.problem ≠ some (.system 0) := by
  have hport : (Stage.check (if ':' ∈ (BindAddress.meant address).toList then none
      else some .invalidArgument)).problem ≠ some (.system 0) := by
    rw [Stage.check]
    split
    · exact (Option.some_ne_none _).symm
    · decide
  have htying : (tying device a).problem ≠ some (.system 0) := by
    unfold tying
    split
    · exact (Option.some_ne_none _).symm
    split
    · decide
    · exact ofErrno?_ne_success _
  simp only [listenStages, socketStages, resolving, preparing, List.forall_mem_append,
    List.forall_mem_cons]
  exact ⟨⟨⟨hport, unresolved?_ne h, List.forall_mem_nil _⟩, ofErrno?_ne_success _,
      List.forall_mem_nil _⟩,
    ⟨ofErrno?_ne_success _, ofErrno?_ne_success _, htying, ofErrno?_ne_success _,
      List.forall_mem_nil _⟩,
    problem_ne_of_mem_adopting _ _ a⟩

/-- A socket is asked for once the address is resolved. -/
theorem openSocket_mem_asked_iff (address device : String) (a : Answers) :
    Event.openSocket ∈ asked (listenStages address device a) ↔
      problem? (resolving address a) = none := by
  rw [listenStages, socketStages, List.append_assoc]
  constructor
  · intro hmem
    cases hproblem : problem? (resolving address a) with
    | none => rfl
    | some failure =>
        rw [asked_append_of_some hproblem] at hmem
        have hresolve : ∀ e ∈ asked (resolving address a), e ≠ .openSocket := by
          refine forall_mem_asked ?_
          rw [resolving, List.forall_mem_cons, List.forall_mem_singleton]
          refine ⟨List.forall_mem_nil _, ?_⟩
          intro e he
          obtain rfl := List.mem_singleton.mp he
          exact Event.noConfusion
        exact absurd rfl (hresolve _ hmem)
  · intro hproblem
    rw [asked_append_of_none hproblem]
    refine List.mem_append_right _ (List.mem_flatMap.mpr ⟨opening a, ?_, List.mem_singleton_self _⟩)
    rw [List.singleton_append, reached]
    split
    · exact List.mem_singleton_self _
    · exact List.mem_cons_self

/-- Why an interface with too long a name is refused, after what comes before. -/
theorem problem?_of_long_name {address device : String} {a : Answers}
    (hlong : 16 ≤ device.utf8ByteSize)
    (hbefore : problem? (socketStages address a ++ [enabling .reuseAddress (a.setOption.headD 0),
      enabling .broadcast (a.setOption.tail.headD 0)]) = none) :
    problem? (listenStages address device a) = some .invalidArgument := by
  have hnamed : device ≠ "" := by
    rintro rfl
    exact absurd hlong (by decide)
  have hrefused : tying device a = .check (some .invalidArgument) := by
    rw [tying, if_neg hnamed, if_pos hlong]
  have hsplit : listenStages address device a = (socketStages address a ++
      [enabling .reuseAddress (a.setOption.headD 0),
        enabling .broadcast (a.setOption.tail.headD 0)]) ++
      (tying device a :: binding a.endpoint a ::
        adopting a.endpoint (a.setOption.tail.tail.headD 0) a) := by
    rw [listenStages, List.append_assoc]
    rfl
  rw [hsplit, problem?_append_of_none hbefore, hrefused]
  rfl

/-! ## What is left of the answers -/

theorem left_tying (device : String) (a b : Answers) :
    ∃ rest, (tying device a).left b = { b with bindToDevice := rest } := by
  unfold tying
  split
  · exact ⟨b.bindToDevice, rfl⟩
  split
  · exact ⟨b.bindToDevice, rfl⟩
  · exact ⟨b.bindToDevice.tail, rfl⟩

/-- The answers that a prepared socket is taken as a link with. -/
theorem leaving_preparation (device : String) (endpoint : Endpoint) (a b : Answers)
    (h : problem? (opening a :: preparing device endpoint a) = none) :
    (leaving (opening a :: preparing device endpoint a) b).setOption = b.setOption.tail.tail ∧
      (leaving (opening a :: preparing device endpoint a) b).localEndpoint = b.localEndpoint := by
  rw [leaving, reached_eq_self h, preparing]
  simp only [List.foldl_cons, List.foldl_nil]
  obtain ⟨rest, hrest⟩ := left_tying device a ((enabling .broadcast (a.setOption.tail.headD 0)).left
    ((enabling .reuseAddress (a.setOption.headD 0)).left ((opening a).left b)))
  rw [hrest]
  exact ⟨rfl, rfl⟩

end Link

end DhcpServer
