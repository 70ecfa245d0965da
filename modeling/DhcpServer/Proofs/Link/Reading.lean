import DhcpServer.Proofs.Link.Calls

/-!
# Reads

A read makes one call after the other, as long as they are merely interrupted
and the link was not shut down, and it comes to what the last of them comes to:
`exists_receiveOver`, by induction on the answers.

Whoever reads from a link that is shut down is told so if the last call brings a
datagram.  If it fails, its number stands in the way, that of an interruption
too: `read_of_shutDown`, `interrupted_read_of_shutDown`.
-/

namespace DhcpServer.Link

/-- A read ends with one of its calls: the calls before were interrupted and the
link was not shut down by then, and this call was not merely interrupted or came
after the link was shut down. -/
structure EndsWith (shut : Bool) (calls : List ReceiveAnswer) (k : Nat) (a : ReceiveAnswer) :
    Prop where
  call_eq : calls[k]? = some a
  before : ∀ j < k, ∃ b, calls[j]? = some b ∧ b.errno = Errno.interrupted ∧
    (shut || b.shutsDown) = false
  ends : a.errno ≠ Errno.interrupted ∨ (shut || a.shutsDown) = true

section

variable {shut : Bool} {calls : List ReceiveAnswer} {k : Nat} {a b : ReceiveAnswer}

theorem EndsWith.zero (h : a.errno ≠ Errno.interrupted ∨ (shut || a.shutsDown) = true) :
    EndsWith shut (a :: calls) 0 a :=
  ⟨rfl, fun j hj => absurd hj (Nat.not_lt_zero j), h⟩

theorem EndsWith.succ (h : EndsWith shut calls k a) (herr : b.errno = Errno.interrupted)
    (hshut : (shut || b.shutsDown) = false) : EndsWith shut (b :: calls) (k + 1) a := by
  refine ⟨h.call_eq, fun j hj => ?_, h.ends⟩
  cases j with
  | zero => exact ⟨b, rfl, herr, hshut⟩
  | succ j => exact h.before j (Nat.lt_of_succ_lt_succ hj)

/-- Of the calls of a read only the last can see the link being shut down. -/
theorem EndsWith.shutsDown_of_le (h : EndsWith shut calls k a) {j : Nat} (hj : j ≤ k)
    (hb : calls[j]? = some b) (hdown : b.shutsDown = true) : a.shutsDown = true := by
  rcases Nat.lt_or_eq_of_le hj with hlt | rfl
  · obtain ⟨b', hb', -, hgoes⟩ := h.before j hlt
    obtain rfl : b = b' := Option.some.inj (hb.symm.trans hb')
    rw [hdown, Bool.or_true] at hgoes
    exact absurd hgoes.symm Bool.false_ne_true
  · obtain rfl : b = a := Option.some.inj (hb.symm.trans h.call_eq)
    exact hdown

end

/-! ## One call -/

section

variable (capacity : Nat) {a : ReceiveAnswer} (rest : List ReceiveAnswer) {l : Link}

/-- A call that is merely interrupted is made again. -/
theorem receiveOver_of_interrupted (herr : a.errno = Errno.interrupted)
    (hshut : (l.isShutDown || a.shutsDown) = false) :
    let later := receiveOver capacity rest l
    receiveOver capacity (a :: rest) l =
      ⟨later.value, later.state, .receive a.errno :: later.events⟩ := by
  rw [Bool.or_eq_false_iff] at hshut
  rw [receiveOver, hshut.2]
  simp only [Bool.false_eq_true, if_false, Run.bind_apply, attempt_apply, herr, hshut.1, and_self,
    if_true]
  rfl

/-- Any other call is the last one. -/
theorem receiveOver_of_ends (hopen : l.isOpen = true)
    (hends : a.errno ≠ Errno.interrupted ∨ (l.isShutDown || a.shutsDown) = true) :
    (receiveOver capacity (a :: rest) l).value =
        (a.outcome capacity (l.isShutDown || a.shutsDown), rest) ∧
      returned (receiveOver capacity (a :: rest) l).events = [a.errno] := by
  cases hdown : a.shutsDown with
  | true =>
      rw [receiveOver, hdown, Bool.or_true]
      simp only [if_true, Run.bind_apply, shutdown_of_open hopen, attempt_apply,
        Bool.true_eq_false, and_false, if_false]
      exact ⟨rfl, rfl⟩
  | false =>
      have hlast : ¬ (a.errno = Errno.interrupted ∧ l.isShutDown = false) := by
        rintro ⟨herr, hshut⟩
        rw [hdown, hshut] at hends
        exact hends.elim (· herr) Bool.false_ne_true
      rw [receiveOver, hdown, Bool.or_false]
      simp only [Bool.false_eq_true, if_false, Run.bind_apply, attempt_apply, if_neg hlast]
      exact ⟨rfl, rfl⟩

end

/-! ## All calls -/

/-- A read ends with one of its calls and comes to what that call comes to.  By
induction on the answers. -/
theorem exists_receiveOver (capacity : Nat) (answers : List ReceiveAnswer) {l : Link}
    (hopen : l.isOpen = true) :
    ∃ k a, EndsWith l.isShutDown (answers ++ [.unanswered]) k a ∧
      (receiveOver capacity answers l).value.1 =
        a.outcome capacity (l.isShutDown || a.shutsDown) ∧
      returned (receiveOver capacity answers l).events =
        ((answers ++ [ReceiveAnswer.unanswered]).take (k + 1)).map (·.errno) := by
  induction answers with
  | nil =>
      refine ⟨0, .unanswered, .zero (.inl (by decide)), ?_, rfl⟩
      exact (if_pos (by decide)).symm
  | cons a rest ih =>
      rw [List.cons_append]
      by_cases hagain : a.errno = Errno.interrupted ∧ (l.isShutDown || a.shutsDown) = false
      · obtain ⟨herr, hshut⟩ := hagain
        obtain ⟨k, b, hends, hvalue, hreturned⟩ := ih
        refine ⟨k + 1, b, hends.succ herr hshut, ?_, ?_⟩
        · rw [receiveOver_of_interrupted capacity rest herr hshut]
          exact hvalue
        · rw [receiveOver_of_interrupted capacity rest herr hshut, List.take_succ_cons, List.map_cons,
            ← hreturned]
          rfl
      · have hends : a.errno ≠ Errno.interrupted ∨ (l.isShutDown || a.shutsDown) = true := by
          rw [← Bool.not_eq_false]
          exact Decidable.not_and_iff_not_or_not.mp hagain
        obtain ⟨hvalue, hreturned⟩ := receiveOver_of_ends capacity rest hopen hends
        exact ⟨0, a, .zero hends, congrArg Prod.fst hvalue, hreturned⟩

/-- What a read on an open link leaves with its caller. -/
theorem exists_read (capacity : Nat) (source : Endpoint) {l : Link} (hopen : l.isOpen = true) :
    ∃ k a, EndsWith l.isShutDown l.answers.calls k a ∧
      (read capacity source l).value =
        .ofReceived source (a.outcome capacity (l.isShutDown || a.shutsDown)) ∧
      returned (read capacity source l).events =
        (l.answers.calls.take (k + 1)).map (·.errno) := by
  obtain ⟨k, a, hends, hvalue, hreturned⟩ := exists_receiveOver capacity l.answers.receive hopen
  refine ⟨k, a, hends, ?_, ?_⟩
  all_goals
    rw [read, Run.bind_apply, receive]
    simp only [Run.bind_apply, Run.get_apply, hopen, if_true, Run.pure_apply, Run.modify_apply,
      List.nil_append, List.append_nil]
  · exact congrArg (Reading.ofReceived source) hvalue
  · exact hreturned

/-! ## Reads from a link that is shut down -/

theorem ofReceived_outcome_of_shut (capacity : Nat) (source : Endpoint) (a : ReceiveAnswer) :
    Reading.ofReceived source (a.outcome capacity true) =
      ⟨[], source, -1, some (if a.errno = 0 then .shutDown else .system a.errno)⟩ := by
  unfold ReceiveAnswer.outcome
  by_cases herr : a.errno = 0
  · rw [if_neg (not_not_intro herr), if_pos rfl, if_pos herr]
    rfl
  · rw [if_pos herr, if_neg herr]
    rfl

/-- Whether a link is shut down before a read or during one of its calls, the
read delivers nothing and fails.  It fails because the link is shut down if its
last call brought a datagram, and otherwise with the number of that call. -/
theorem read_of_shutDown (capacity : Nat) (source : Endpoint) {l : Link}
    (hopen : l.isOpen = true) (early : Bool) :
    let program : Run Link Reading := do
      if early then let _ ← shutdown
      read capacity source
    ∃ k a, EndsWith (l.isShutDown || early) l.answers.calls k a ∧
      returned (program l).events = (l.answers.calls.take (k + 1)).map (·.errno) ∧
      ((l.isShutDown || early) = true ∨
          (∃ j ≤ k, ∃ b, l.answers.calls[j]? = some b ∧ b.shutsDown = true) →
        (program l).value = ⟨[], source, -1,
          some (if a.errno = 0 then .shutDown else .system a.errno)⟩) := by
  intro program
  -- the read starts on a link that is still open and has the same answers to come
  obtain ⟨l', hvalue', hreturned', hopen', hshut', hcalls'⟩ :
      ∃ l' : Link, (program l).value = (read capacity source l').value ∧
        returned (program l).events = returned (read capacity source l').events ∧
        l'.isOpen = true ∧ l'.isShutDown = (l.isShutDown || early) ∧
        l'.answers.calls = l.answers.calls := by
    cases early with
    | false => exact ⟨l, rfl, rfl, hopen, (Bool.or_false _).symm, rfl⟩
    | true =>
        refine ⟨(shutdown l).state, rfl, ?_, ?_⟩
        · show returned ((shutdown l).events ++ _) = _
          rw [returned_append, shutdown_of_open hopen]
          rfl
        · rw [shutdown_of_open hopen]
          exact ⟨hopen, (Bool.or_true _).symm, rfl⟩
  obtain ⟨k, a, hends, hvalue, hreturned⟩ := exists_read capacity source hopen'
  rw [hshut', hcalls'] at hends
  rw [hcalls'] at hreturned
  refine ⟨k, a, hends, hreturned'.trans hreturned, fun htold => ?_⟩
  have hshut : (l'.isShutDown || a.shutsDown) = true := by
    rw [hshut']
    rcases htold with htold | ⟨j, hj, b, hb, hdown⟩
    · rw [htold, Bool.true_or]
    · rw [hends.shutsDown_of_le hj hb hdown, Bool.or_true]
  rw [hvalue', hvalue, hshut, ofReceived_outcome_of_shut]

/-- A link that is shut down during the second call of a read, which brings a
datagram. -/
theorem read_of_shutDown_second :
    let again : ReceiveAnswer := ⟨false, none, 4, [], .empty, []⟩
    let datagram : ReceiveAnswer := ⟨true, none, 0, [1], .ofIpv4 ⟨10⟩ 68, []⟩
    let l : Link := ⟨true, false, .unspecified, .receiving [again, datagram]⟩
    l.isOpen = true ∧ returned (read 1500 .unspecified l).events = [4, 0] ∧
      (read 1500 .unspecified l).value = ⟨[], .unspecified, -1, some .shutDown⟩ := by
  intro again datagram l
  obtain ⟨k, a, hends, hreturned, htold⟩ :=
    read_of_shutDown 1500 .unspecified (l := l) rfl false
  have hfour : returned (read 1500 .unspecified l).events = [4, 0] := by decide
  have hk : k = 1 := by
    have hlength := congrArg List.length (hreturned.symm.trans hfour)
    rw [List.length_map, List.length_take] at hlength
    change min (k + 1) 3 = 2 at hlength
    omega
  subst hk
  obtain rfl : datagram = a := Option.some.inj hends.call_eq
  exact ⟨rfl, hfour, htold (.inr ⟨1, Nat.le_refl 1, datagram, rfl, rfl⟩)⟩

/-- A call that is interrupted while the link is shut down ends the read, and
its number is what the reader is told. -/
theorem interrupted_read_of_shutDown :
    let a : ReceiveAnswer := ⟨true, none, 4, [], .empty, []⟩
    let l : Link := ⟨true, false, .unspecified, .receiving [a]⟩
    l.isOpen = true ∧ EndsWith l.isShutDown l.answers.calls 0 a ∧ a.shutsDown = true ∧
      (read 1500 .unspecified l).value ≠ ⟨[], .unspecified, -1, some .shutDown⟩ ∧
      (read 1500 .unspecified l).value = ⟨[], .unspecified, -1, some (.system 4)⟩ :=
  ⟨rfl, .zero (.inr rfl), rfl, by decide, by decide⟩

end DhcpServer.Link
