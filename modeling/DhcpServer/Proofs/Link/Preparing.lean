import DhcpServer.Listen
import DhcpServer.Proofs.Run

/-!
# Calls that prepare a link

Everything that is asked of the system up to the point where a link listens
leaves what is ahead of the link alone: no datagram is waited for and no socket
closed, and no answer is used up that a later call waits for.  All lines on the way
go where the settings of the log say.  `Run.Prepares` says both of a run, and there
is one lemma for each step of a set-up.
-/

namespace DhcpServer

/-! ## Runs that prepare -/

/-- An event that may come before the first wait for a datagram. -/
def Event.preparatory : Event → Bool
  | .receive _ => false
  | .close => false
  | _ => true

/-- What goes to the log was written with the settings. -/
def Event.WrittenWith (s : LogSettings) : Event → Prop
  | .log entry => ∃ level line, entry ∈ s.write level line
  | _ => True

/-- The calls that wait for a datagram or close a socket, in order. -/
def waitsAndCloses (es : List Event) : List Event := es.filter (!·.preparatory)

theorem waitsAndCloses_append (es fs : List Event) :
    waitsAndCloses (es ++ fs) = waitsAndCloses es ++ waitsAndCloses fs :=
  List.filter_append es fs

theorem waitsAndCloses_of_preparatory {es : List Event} (h : ∀ e ∈ es, e.preparatory = true) :
    waitsAndCloses es = [] := by
  refine List.filter_eq_nil_iff.mpr fun e he => ?_
  rw [h e he]
  exact Bool.false_ne_true

/-- What is ahead of a link: whether it is shut down, and the answers to the
calls that follow the preparation. -/
def Link.ahead (l : Link) : Bool × List ReceiveAnswer × List Errno × List Errno :=
  (l.isShutDown, l.answers.receive, l.answers.shutdown, l.answers.close)

namespace Run

variable {α : Type}

/-- A run that leaves alone what is ahead of a link, and writes its lines with the
settings. -/
abbrev Prepares (s : LogSettings) (x : Run Link α) : Prop :=
  Spares Link.ahead (fun e => e.preparatory = true ∧ e.WrittenWith s) x

section

variable {s : LogSettings} {x : Run Link α}

theorem Prepares.preparatory (h : Prepares s x) (l : Link) :
    ∀ e ∈ (x l).events, e.preparatory = true :=
  fun e he => (h.events l e he).1

theorem Prepares.writtenWith (h : Prepares s x) (l : Link) :
    ∀ e ∈ (x l).events, e.WrittenWith s :=
  fun e he => (h.events l e he).2

theorem prepares_log (level : LogLevel) (line : String) : Prepares s (Run.log s level line) :=
  .log s level line fun _ hentry => ⟨rfl, level, line, hentry⟩

end

end Run

open Run (Prepares prepares_log)

namespace Link

variable {s : LogSettings}

theorem prepares_nextErrno {part : Answers → List Errno} {put : Answers → List Errno → Answers}
    (h : ∀ (l : Link) rest, { l with answers := put l.answers rest }.ahead = l.ahead) :
    Prepares s (nextErrno part put) :=
  .silent (fun l => h l _) fun _ => rfl

theorem prepares_openSocket : Prepares s openSocket := by
  refine .bind (.emit ⟨rfl, trivial⟩) fun _ => ?_
  refine .bind (prepares_nextErrno fun _ _ => rfl) fun errno => ?_
  split
  · exact .bind (.modify fun _ => rfl) fun _ => .pure _
  · exact .pure _

theorem prepares_setOption (option : SocketOption) : Prepares s (setOption option) :=
  .bind (.emit ⟨rfl, trivial⟩) fun _ => .bind (prepares_nextErrno fun _ _ => rfl) fun _ => .pure _

theorem prepares_bindToDevice (name : String) : Prepares s (bindToDevice name) :=
  .bind (prepares_nextErrno fun _ _ => rfl) fun _ => .bind (.emit ⟨rfl, trivial⟩) fun _ => .pure _

theorem prepares_bind (endpoint : Endpoint) : Prepares s (bind endpoint) := by
  refine .bind (.emit ⟨rfl, trivial⟩) fun _ => ?_
  refine .bind (prepares_nextErrno fun _ _ => rfl) fun errno => ?_
  split
  · exact .bind (.modify fun _ => rfl) fun _ => .pure _
  · exact .pure _

theorem prepares_lookUpEndpoint : Prepares s lookUpEndpoint := by
  refine .bind .get fun l => ?_
  split
  · refine .bind (prepares_nextErrno fun _ _ => rfl) fun errno => ?_
    split
    · exact .pure _
    · exact .bind .get fun _ => .pure _
  · exact .pure _

theorem prepares_release : Prepares s release := by
  refine .bind .get fun l => ?_
  split
  · exact .bind (.modify fun _ => rfl) fun _ => .emit ⟨rfl, trivial⟩
  · exact .pure _

/-- A socket is given up if there is a problem with it. -/
theorem prepares_giveUp (problem : Option Failure) :
    Prepares s (if problem.isSome then release >>= fun _ => pure problem else pure problem) := by
  split
  · exact .bind prepares_release fun _ => .pure _
  · exact .pure _

theorem prepares_adopt : Prepares s adopt := by
  refine .bind .get fun l => ?_
  split
  · refine .bind prepares_lookUpEndpoint fun found => ?_
    match found with
    | .error failure => exact .bind (.pure _) prepares_giveUp
    | .ok ⟨.v6 _, _⟩ => exact .bind (.pure _) prepares_giveUp
    | .ok ⟨.v4 _, _⟩ => exact .bind (prepares_setOption _) prepares_giveUp
  · exact .pure _

theorem prepares_nextResolution : Prepares s resolve.nextResolution := by
  refine .bind .get fun l => ?_
  cases l.answers.resolve with
  | nil => exact .pure _
  | cons answer rest => exact .bind (.modify fun _ => rfl) fun _ => .pure _

theorem prepares_resolve (s : LogSettings) (address : String) : Prepares s (resolve s address) := by
  unfold resolve
  dsimp only
  split
  · exact .bind (prepares_log _ _) fun _ => .pure _
  · refine .bind (.emit ⟨rfl, trivial⟩) fun _ => .bind prepares_nextResolution fun answer => ?_
    split
    · exact .bind (prepares_log _ _) fun _ => .pure _
    · exact .pure _
    · exact .pure _

theorem prepares_useDevice (s : LogSettings) (name : String) : Prepares s (useDevice s name) := by
  unfold useDevice
  split
  · exact .bind (prepares_log _ _) fun _ => .pure _
  · refine .bind (prepares_bindToDevice _) fun problem => ?_
    cases problem with
    | none => exact .pure _
    | some failure => exact .bind (prepares_log _ _) fun _ => .pure _

theorem prepares_explained (s : LogSettings) (problem : String)
    {step : Run Link (Option Failure)} (h : Prepares s step) :
    Prepares s (explained s problem step) := by
  refine .bind h fun result => ?_
  cases result with
  | none => exact .pure _
  | some failure => exact .bind (prepares_log _ _) fun _ => .pure _

theorem prepares_firstFailure {steps : List (Run Link (Option Failure))}
    (h : ∀ step ∈ steps, Prepares s step) : Prepares s (firstFailure steps) := by
  induction steps with
  | nil => exact .pure _
  | cons step steps ih =>
      obtain ⟨hstep, hsteps⟩ := List.forall_mem_cons.mp h
      refine .bind hstep fun result => ?_
      cases result with
      | none => exact ih hsteps
      | some failure => exact .pure _

theorem prepares_preparation (s : LogSettings) (device : String) (endpoint : Endpoint) :
    ∀ step ∈ preparation s device endpoint, Prepares s step := by
  simp only [preparation, List.forall_mem_cons]
  refine ⟨prepares_explained s _ prepares_openSocket, prepares_explained s _ (prepares_setOption _),
    prepares_explained s _ (prepares_setOption _), ?_,
    prepares_explained s _ (prepares_bind endpoint), List.forall_mem_nil _⟩
  split
  · exact .pure _
  · exact prepares_useDevice s device

theorem prepares_listen (s : LogSettings) (address device : String) :
    Prepares s (listen s address device) := by
  refine .bind (prepares_resolve s address) fun resolved => ?_
  cases resolved with
  | error failure => exact .pure _
  | ok endpoint =>
      refine .bind (prepares_firstFailure (prepares_preparation s device endpoint)) fun result => ?_
      cases result with
      | none => exact prepares_explained s _ prepares_adopt
      | some failure => exact .bind prepares_release fun _ => .pure _

end Link

end DhcpServer
