import DhcpServer.Proofs.Daemon.Serving
import Mathlib.Algebra.GroupWithZero.Nat
import Mathlib.Data.List.Perm.Basic
import Mathlib.Logic.Relation

/-!
# Threads that write the log

The serving thread only hands messages on; threads of their own write the lines
that messages leave.  `Crew.Step` says what the threads can do next: each step is
taken by any of them, so what is done by the time the process exits depends on how
they take turns.

Two things do not depend on it.  What is done and what is yet to be done are, taken
together, the same events after every step, up to their order (`Step.perm`).  And
the serving thread waits for the workers before it goes on to the end (`Step.placed`),
so by then every line was written: `Exits.spec`.  All this rests on two things that
are assumed of the pool: each task is taken once (`TakenOnce`), and joining it waits
for all tasks (`AllDone`).  However the threads have taken
turns so far, they get to the end (`Crew.exists_end`), and to deal with each message at
once is one way of taking turns (`exits_flatMap_atOnce`).
-/

namespace DhcpServer.Daemon

open Relation (ReflTransGen)

/-! ## Threads -/

/-- The threads of the daemon: what the serving thread has yet to do, where a message
is handed on instead of being dealt with; the messages that no worker has taken up;
the lines that each busy worker has yet to write; and what was done so far. -/
structure Crew where
  ahead : List Event
  waiting : List Message
  busy : List (List String)
  done : List Event

/-- **Assumed of the pool: each task is taken once.**  A message that was posted waits
until an idle worker takes it up.  It is the one that waits longest, it waits no more
from then on, and the worker has all of its lines to write. -/
structure TakenOnce (workers : Nat) (m : Message) (waiting waiting' : List Message)
    (busy busy' : List (List String)) : Prop where
  idle : busy.length < workers
  waiting_eq : waiting = m :: waiting'
  busy_eq : busy' = busy ++ [m.logLines]

/-- **Assumed of the pool: joining it waits for all tasks.**  It is over only when no
message waits and no worker is busy. -/
structure AllDone (waiting : List Message) (busy : List (List String)) : Prop where
  none_waits : waiting = []
  none_busy : busy = []

namespace Crew

/-- The next thing that one of the threads does.  What the pool does that they share
is assumed (`TakenOnce`, `AllDone`). -/
inductive Step (s : LogSettings) (workers : Nat) : Crew → Crew → Prop
  /-- The serving thread hands a message on. -/
  | post (m ahead waiting busy done) :
    Step s workers ⟨.handled m :: ahead, waiting, busy, done⟩ ⟨ahead, waiting ++ [m], busy, done⟩
  /-- A worker takes a message up. -/
  | take (m ahead waiting waiting' busy busy' done)
      (once : TakenOnce workers m waiting waiting' busy busy') :
    Step s workers ⟨ahead, waiting, busy, done⟩ ⟨ahead, waiting', busy', done⟩
  /-- A busy worker writes a line. -/
  | write (line lines early late ahead waiting done) :
    Step s workers ⟨ahead, waiting, early ++ (line :: lines) :: late, done⟩
      ⟨ahead, waiting, early ++ lines :: late, done ++ logged s .info line⟩
  /-- A worker has written all lines of its message. -/
  | rest (early late ahead waiting done) :
    Step s workers ⟨ahead, waiting, early ++ [] :: late, done⟩ ⟨ahead, waiting, early ++ late, done⟩
  /-- The serving thread has waited for the workers and goes on. -/
  | join (ahead waiting busy done) (finished : AllDone waiting busy) :
    Step s workers ⟨.joinWorkers :: ahead, waiting, busy, done⟩
      ⟨ahead, waiting, busy, done ++ [.joinWorkers]⟩
  /-- The serving thread does anything else. -/
  | act (e ahead waiting busy done) (hpost : ∀ m, e ≠ .handled m) (hjoin : e ≠ .joinWorkers) :
    Step s workers ⟨e :: ahead, waiting, busy, done⟩ ⟨ahead, waiting, busy, done ++ [e]⟩

end Crew

/-- The events of a process that has exited: its serving thread has come to the end,
whatever the workers are doing.  All that is assumed of the pool on the way is
`TakenOnce` and `AllDone`. -/
def Exits (s : LogSettings) (workers : Nat) (thread es : List Event) : Prop :=
  ∃ waiting busy, ReflTransGen (Crew.Step s workers) ⟨thread, [], [], []⟩ ⟨[], waiting, busy, es⟩

/-- What an event comes to if messages are dealt with at once. -/
def atOnce (s : LogSettings) : Event → List Event
  | .handled m => m.logLines.flatMap (logged s .info)
  | e => [e]

theorem atOnce_of_ne {e : Event} (h : ∀ m, e ≠ .handled m) (s : LogSettings) :
    atOnce s e = [e] := by
  cases e with
  | handled m => exact absurd rfl (h m)
  | _ => rfl

theorem flatMap_atOnce_eq_self {es : List Event} (h : ∀ m, .handled m ∉ es) (s : LogSettings) :
    es.flatMap (atOnce s) = es := by
  induction es with
  | nil => rfl
  | cons e es ih =>
      have he : ∀ m, e ≠ .handled m := fun m hm => h m (hm ▸ .head _)
      rw [List.flatMap_cons, atOnce_of_ne he, ih fun m hm => h m (.tail _ hm)]
      rfl

namespace Crew

variable {s : LogSettings} {workers : Nat} {c c' : Crew}

/-! ## Nothing is lost and nothing is done twice -/

/-- What was done together with what is yet to be done. -/
def account (s : LogSettings) (c : Crew) : List Event :=
  c.done ++ c.busy.flatMap (·.flatMap (logged s .info)) ++
    c.waiting.flatMap (fun m => m.logLines.flatMap (logged s .info)) ++ c.ahead.flatMap (atOnce s)

theorem Step.perm (h : Step s workers c c') : (c'.account s).Perm (c.account s) := by
  cases h with
  | post m ahead waiting busy done =>
      simp only [account, atOnce, List.flatMap_append, List.flatMap_cons, List.flatMap_nil,
        List.append_nil, List.append_assoc]
      exact .refl _
  | take m ahead waiting waiting' busy busy' done once =>
      obtain ⟨-, rfl, rfl⟩ := once
      simp only [account, List.flatMap_append, List.flatMap_cons, List.flatMap_nil,
        List.append_nil, List.append_assoc]
      exact .refl _
  | write line lines early late ahead waiting done =>
      simp only [account, List.flatMap_append, List.flatMap_cons, List.append_assoc]
      exact (List.perm_append_comm_assoc _ _ _).append_left done
  | rest early late ahead waiting done =>
      simp only [account, List.flatMap_append, List.flatMap_cons, List.flatMap_nil,
        List.nil_append]
      exact .refl _
  | join ahead waiting busy done finished =>
      obtain ⟨rfl, rfl⟩ := finished
      simp only [account, atOnce, List.flatMap_cons, List.flatMap_nil, List.append_nil,
        List.append_assoc]
      exact .refl _
  | act e ahead waiting busy done hpost hjoin =>
      have hmoved := List.perm_append_comm_assoc [e] (busy.flatMap (·.flatMap (logged s .info)) ++
        waiting.flatMap fun m => m.logLines.flatMap (logged s .info)) (ahead.flatMap (atOnce s))
      simp only [account, List.flatMap_cons, atOnce_of_ne hpost, List.append_assoc] at hmoved ⊢
      exact hmoved.append_left done

theorem perm_of_steps (h : ReflTransGen (Step s workers) c c') :
    (c'.account s).Perm (c.account s) := by
  induction h with
  | refl => exact .refl _
  | tail _ hstep ih => exact hstep.perm.trans ih

/-! ## The serving thread waits for the workers -/

/-- Either the serving thread has yet to wait for the workers, or it has waited and
there is nothing left for them. -/
def Placed (behind : List Event) (c : Crew) : Prop :=
  (∃ early, c.ahead = early ++ .joinWorkers :: behind) ∨
    c.waiting = [] ∧ c.busy = [] ∧
      ∃ early late, c.done = early ++ .joinWorkers :: late ∧ late ++ c.ahead = behind

theorem Step.placed {behind : List Event} (hbehind : ∀ m, .handled m ∉ behind)
    (h : Step s workers c c') (hc : Placed behind c) : Placed behind c' := by
  -- before the serving thread waits, a step of it takes the first event that is ahead
  have hahead : ∀ {e : Event} {rest early : List Event}, e ≠ .joinWorkers →
      e :: rest = early ++ .joinWorkers :: behind →
      ∃ early', rest = early' ++ .joinWorkers :: behind := by
    intro e rest early hne heq
    cases early with
    | nil => exact absurd (List.cons.inj heq).1 hne
    | cons first early => exact ⟨early, (List.cons.inj heq).2⟩
  -- and afterwards such a step moves the event to the end of what was done
  have hmoved : ∀ {e : Event} {rest done early late : List Event},
      done = early ++ .joinWorkers :: late → late ++ e :: rest = behind →
      done ++ [e] = early ++ .joinWorkers :: (late ++ [e]) ∧ late ++ [e] ++ rest = behind := by
    rintro e rest _ early late rfl rfl
    exact ⟨List.append_assoc _ _ _, List.append_assoc _ _ _⟩
  cases h with
  | post m ahead waiting busy done =>
      rcases hc with ⟨early, hearly⟩ | ⟨-, -, -, late, -, hlate⟩
      · exact .inl (hahead Event.noConfusion hearly)
      · exact absurd (hlate ▸ List.mem_append_right _ (.head _)) (hbehind m)
  | take m ahead waiting waiting' busy busy' done once =>
      rcases hc with hearly | ⟨hwaiting, -⟩
      · exact .inl hearly
      · exact absurd (once.waiting_eq.symm.trans hwaiting) (List.cons_ne_nil _ _)
  | write line lines early late ahead waiting done =>
      rcases hc with hearly | ⟨-, hbusy, -⟩
      · exact .inl hearly
      · exact absurd hbusy (List.append_ne_nil_of_right_ne_nil _ (List.cons_ne_nil _ _))
  | rest early late ahead waiting done =>
      rcases hc with hearly | ⟨-, hbusy, -⟩
      · exact .inl hearly
      · exact absurd hbusy (List.append_ne_nil_of_right_ne_nil _ (List.cons_ne_nil _ _))
  | join ahead waiting busy done finished =>
      obtain ⟨hwaiting, hbusy⟩ := finished
      rcases hc with ⟨early, hearly⟩ | ⟨-, -, early, late, hdone, hlate⟩
      · cases early with
        | nil => exact .inr ⟨hwaiting, hbusy, done, [], rfl, (List.cons.inj hearly).2⟩
        | cons first early => exact .inl ⟨early, (List.cons.inj hearly).2⟩
      · exact .inr ⟨hwaiting, hbusy, early, late ++ [.joinWorkers], hmoved hdone hlate⟩
  | act e ahead waiting busy done hpost hjoin =>
      rcases hc with ⟨early, hearly⟩ | ⟨hwaiting, hbusy, early, late, hdone, hlate⟩
      · exact .inl (hahead hjoin hearly)
      · exact .inr ⟨hwaiting, hbusy, early, late ++ [e], hmoved hdone hlate⟩

theorem placed_of_steps {behind : List Event} (hbehind : ∀ m, .handled m ∉ behind)
    (h : ReflTransGen (Step s workers) c c') (hc : Placed behind c) : Placed behind c' := by
  induction h with
  | refl => exact hc
  | tail _ hstep ih => exact hstep.placed hbehind ih

/-! ## The threads get to the end -/

/-- How many steps an event takes that is ahead of the serving thread: a message is
handed on and taken up, its lines are written, and its worker is idle again. -/
def cost : Event → Nat
  | .handled m => m.logLines.length + 3
  | _ => 1

/-- How many steps are left. -/
def remaining (c : Crew) : Nat :=
  (c.busy.map fun lines => lines.length + 1).sum +
    (c.waiting.map fun m => m.logLines.length + 2).sum + (c.ahead.map cost).sum

theorem Step.remaining_eq (h : Step s workers c c') : c.remaining = c'.remaining + 1 := by
  cases h with
  | post m ahead waiting busy done =>
      simp only [remaining, cost, List.map_cons, List.sum_cons, List.map_append, List.sum_append,
        List.map_nil, List.sum_nil]
      omega
  | take m ahead waiting waiting' busy busy' done once =>
      obtain ⟨-, rfl, rfl⟩ := once
      simp only [remaining, List.map_cons, List.sum_cons, List.map_append, List.sum_append,
        List.map_nil, List.sum_nil]
      omega
  | write line lines early late ahead waiting done =>
      simp only [remaining, List.map_cons, List.sum_cons, List.map_append, List.sum_append,
        List.length_cons]
      omega
  | rest early late ahead waiting done =>
      simp only [remaining, List.map_cons, List.sum_cons, List.map_append, List.sum_append,
        List.length_nil]
      omega
  | join ahead waiting busy done finished =>
      simp only [remaining, cost, List.map_cons, List.sum_cons]
      omega
  | act e ahead waiting busy done hpost hjoin =>
      have hone : cost e = 1 := by
        cases e with
        | handled m => exact absurd rfl (hpost m)
        | _ => rfl
      simp only [remaining, List.map_cons, List.sum_cons, hone]
      omega

/-- As long as the serving thread has not come to the end, there is a next step. -/
theorem exists_step (hworkers : 0 < workers) (h : c.ahead ≠ []) : ∃ c', Step s workers c c' := by
  obtain ⟨ahead, waiting, busy, done⟩ := c
  cases busy with
  | cons lines busy =>
      cases lines with
      | nil => exact ⟨_, .rest [] busy ahead waiting done⟩
      | cons line lines => exact ⟨_, .write line lines [] busy ahead waiting done⟩
  | nil =>
      cases waiting with
      | cons m waiting =>
          exact ⟨_, .take m ahead (m :: waiting) waiting [] _ done ⟨hworkers, rfl, rfl⟩⟩
      | nil =>
          cases ahead with
          | nil => exact absurd rfl h
          | cons e ahead =>
              by_cases hjoin : e = .joinWorkers
              · subst hjoin
                exact ⟨_, .join ahead [] [] done ⟨rfl, rfl⟩⟩
              by_cases hpost : ∃ m, e = .handled m
              · obtain ⟨m, rfl⟩ := hpost
                exact ⟨_, .post m ahead [] [] done⟩
              · exact ⟨_, .act e ahead [] [] done (not_exists.mp hpost) hjoin⟩

/-- However the threads have taken turns so far, the serving thread can get to the
end, and it does so after finitely many steps. -/
theorem exists_end (hworkers : 0 < workers) (c : Crew) :
    ∃ c', c'.ahead = [] ∧ ReflTransGen (Step s workers) c c' := by
  induction hleft : c.remaining generalizing c with
  | zero =>
      refine ⟨c, ?_, .refl⟩
      by_contra h
      obtain ⟨c', hstep⟩ := exists_step (s := s) hworkers h
      rw [hstep.remaining_eq] at hleft
      cases hleft
  | succ n ih =>
      by_cases h : c.ahead = []
      · exact ⟨c, h, .refl⟩
      · obtain ⟨c₁, hstep⟩ := exists_step (s := s) hworkers h
        obtain ⟨c', hend, hsteps⟩ := ih c₁ (Nat.succ.inj (hstep.remaining_eq.symm.trans hleft))
        exact ⟨c', hend, .head hstep hsteps⟩

end Crew

/-! ## What a process has done that has exited -/

section

variable {s : LogSettings} {workers : Nat}

/-- Everything that was to be done before the serving thread waits for the workers
was done, in some order, and what comes after that was done last. -/
theorem Exits.spec {before behind es : List Event} (hbehind : ∀ m, .handled m ∉ behind)
    (h : Exits s workers (before ++ .joinWorkers :: behind) es) :
    ∃ early, es = early ++ .joinWorkers :: behind ∧
      early.Perm (before.flatMap (atOnce s)) := by
  obtain ⟨waiting, busy, hsteps⟩ := h
  have hperm := Crew.perm_of_steps hsteps
  rcases Crew.placed_of_steps hbehind hsteps (.inl ⟨before, rfl⟩) with
    ⟨early, hearly⟩ | ⟨hwaiting, hbusy, early, late, hdone, hlate⟩
  · exact absurd hearly.symm (List.append_ne_nil_of_right_ne_nil _ (List.cons_ne_nil _ _))
  · dsimp only at hwaiting hbusy hdone hlate
    rw [List.append_nil] at hlate
    subst hwaiting hbusy hlate
    refine ⟨early, hdone, ?_⟩
    have hrest : (Event.joinWorkers :: late).flatMap (atOnce s) = .joinWorkers :: late := by
      refine flatMap_atOnce_eq_self (fun m hm => ?_) s
      rcases List.mem_cons.mp hm with hm | hm
      · cases hm
      · exact hbehind m hm
    simp only [Crew.account, hdone, List.flatMap_nil, List.append_nil, List.nil_append,
      List.flatMap_append, hrest] at hperm
    exact (List.perm_append_right_iff _).mp hperm

theorem Crew.steps_write (lines : List String) (ahead done : List Event) :
    ReflTransGen (Step s workers) ⟨ahead, [], [lines], done⟩
      ⟨ahead, [], [], done ++ lines.flatMap (logged s .info)⟩ := by
  induction lines generalizing done with
  | nil =>
      rw [List.flatMap_nil, List.append_nil]
      exact .single (.rest [] [] ahead [] done)
  | cons line lines ih =>
      rw [List.flatMap_cons, ← List.append_assoc]
      exact .head (.write line lines [] [] ahead [] done) (ih _)

theorem Crew.steps_atOnce (hworkers : 0 < workers) (thread done : List Event) :
    ReflTransGen (Step s workers) ⟨thread, [], [], done⟩
      ⟨[], [], [], done ++ thread.flatMap (atOnce s)⟩ := by
  induction thread generalizing done with
  | nil =>
      rw [List.flatMap_nil, List.append_nil]
  | cons e thread ih =>
      rw [List.flatMap_cons, ← List.append_assoc]
      refine .trans ?_ (ih _)
      by_cases hjoin : e = .joinWorkers
      · subst hjoin
        exact .single (.join thread [] [] done ⟨rfl, rfl⟩)
      by_cases hpost : ∃ m, e = .handled m
      · obtain ⟨m, rfl⟩ := hpost
        exact .head (.post m thread [] [] done)
          (.head (.take m thread [m] [] [] [m.logLines] done ⟨hworkers, rfl, rfl⟩)
            (steps_write m.logLines thread done))
      · rw [atOnce_of_ne (not_exists.mp hpost)]
        exact .single (.act e thread [] [] done (not_exists.mp hpost) hjoin)

/-- To deal with each message at once is one way for the threads to take turns. -/
theorem exits_flatMap_atOnce (hworkers : 0 < workers) (thread : List Event) :
    Exits s workers thread (thread.flatMap (atOnce s)) :=
  ⟨[], [], Crew.steps_atOnce hworkers thread []⟩

end

end DhcpServer.Daemon
