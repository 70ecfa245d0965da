import DhcpServer.Proofs.CommandLine.Choices
import DhcpServer.Proofs.Link.Calls
import Mathlib.Data.Bool.AllAny
import Mathlib.Data.List.Induction
import Mathlib.Data.List.TakeWhile
import Mathlib.Data.Nat.Digits.Defs
import Mathlib.Tactic.IntervalCases

/-!
# Numerals and the number of threads

A numeral is white space, a sign and decimal digits, of which only the digits have to
be there: `Numeral` says which integer a text stands for.  The number of threads is
read as a word of 64 bits, which a numeral stands for if its integer does not need
more than 64 bits without its sign (`word?_eq_some_iff`).

So the text of a negative number is not always refused.  A number of threads is taken
from a numeral for that number, or for that number less 2 ^ 64: `thread_count_taken`.
The second way is no numeral for the number (`negative_thread_count_taken`).
-/

namespace DhcpServer

namespace ThreadCount

/-! ## Numerals -/

def whiteSpace : List Char := [' ', '\t', '\n', '\x0b', '\x0c', '\r']

def decimalDigits : List Char := ['0', '1', '2', '3', '4', '5', '6', '7', '8', '9']

/-- The number that decimal digits stand for; the last digit counts ones. -/
def decimal (digits : List Char) : Nat :=
  Nat.ofDigits 10 (digits.reverse.map decimalDigits.idxOf)

/-- A text stands for an integer. -/
inductive Numeral : List Char → Int → Prop
  | unsigned {blanks digits : List Char} (hblanks : ∀ c ∈ blanks, c ∈ whiteSpace)
      (hdigits : ∀ c ∈ digits, c ∈ decimalDigits) (hne : digits ≠ []) :
      Numeral (blanks ++ digits) (decimal digits)
  | plus {blanks digits : List Char} (hblanks : ∀ c ∈ blanks, c ∈ whiteSpace)
      (hdigits : ∀ c ∈ digits, c ∈ decimalDigits) (hne : digits ≠ []) :
      Numeral (blanks ++ '+' :: digits) (decimal digits)
  | minus {blanks digits : List Char} (hblanks : ∀ c ∈ blanks, c ∈ whiteSpace)
      (hdigits : ∀ c ∈ digits, c ∈ decimalDigits) (hne : digits ≠ []) :
      Numeral (blanks ++ '-' :: digits) (-decimal digits)

/-- A numeral with a minus sign in front stands for no positive number. -/
theorem Numeral.nonpos {rest : List Char} {z : Int} (h : Numeral ('-' :: rest) z) : z ≤ 0 := by
  generalize htext : '-' :: rest = text at h
  have hblank : ∀ {blanks more : List Char}, '-' :: rest = blanks ++ more →
      (∀ c ∈ blanks, c ∈ whiteSpace) → more.head? = some '-' := by
    intro blanks more heq hblanks
    cases blanks with
    | nil => exact congrArg List.head? heq.symm
    | cons c blanks =>
        obtain ⟨rfl, -⟩ := List.cons.inj heq
        exact absurd (hblanks _ List.mem_cons_self) (by decide)
  cases h with
  | @unsigned blanks digits hblanks hdigits hne =>
      have hhead := hblank htext hblanks
      exact absurd (hdigits '-' (List.mem_of_mem_head? hhead)) (by decide)
  | plus hblanks hdigits hne => exact absurd (hblank htext hblanks) (by simp)
  | minus hblanks hdigits hne => omega

/-! ## Reading numerals -/

theorem isBlank_iff {c : Char} : isBlank c = true ↔ c ∈ whiteSpace := by
  constructor
  · intro h
    simp only [isBlank, Bool.or_eq_true, decide_eq_true_eq, Bool.and_eq_true] at h
    rcases h with rfl | ⟨hlow, hhigh⟩
    · decide
    · have h9 : 9 ≤ c.toNat := hlow
      have h13 : c.toNat ≤ 13 := hhigh
      rw [← Char.ofNat_toNat c]
      generalize c.toNat = n at h9 h13
      interval_cases n <;> decide
  · intro h
    have hall : ∀ c ∈ whiteSpace, isBlank c = true := List.all_iff_forall_prop.mp (by decide)
    exact hall c h

theorem isDigit_iff {c : Char} : c.isDigit = true ↔ c ∈ decimalDigits := by
  constructor
  · intro h
    simp only [Char.isDigit, Bool.and_eq_true, decide_eq_true_eq] at h
    have h48 : 48 ≤ c.toNat := h.1
    have h57 : c.toNat ≤ 57 := h.2
    rw [← Char.ofNat_toNat c]
    generalize c.toNat = n at h48 h57
    interval_cases n <;> decide
  · intro h
    have hall : ∀ c ∈ decimalDigits, c.isDigit = true := List.all_iff_forall_prop.mp (by decide)
    exact hall c h

/-- Digits are read from the left, and each moves those before it up by one place. -/
theorem value_eq_decimal {digits : List Char} (h : ∀ c ∈ digits, c ∈ decimalDigits) :
    value digits = decimal digits := by
  induction digits using List.reverseRecOn with
  | nil => rfl
  | append_singleton digits c ih =>
      rw [List.forall_mem_append, List.forall_mem_singleton] at h
      have hall : ∀ c ∈ decimalDigits, c.toNat - '0'.toNat = decimalDigits.idxOf c :=
        List.all_iff_forall_prop.mp (by decide)
      have hc : c.toNat - '0'.toNat = decimalDigits.idxOf c := hall c h.2
      have hvalue : value (digits ++ [c]) = 10 * value digits + (c.toNat - '0'.toNat) := by
        rw [value, List.foldl_append]
        rfl
      rw [hvalue, hc, ih h.1, decimal, decimal, List.reverse_append, List.reverse_singleton,
        List.singleton_append, List.map_cons, Nat.ofDigits_cons]
      simp [Nat.add_comm]

/-- The word that an integer is read as. -/
def wordOf (z : Int) : Nat := word (decide (z < 0)) z.natAbs

theorem wordOf_neg (n : Nat) : wordOf (-n) = word true n := by
  cases n with
  | zero => rfl
  | succ n =>
      have hneg : (-((n + 1 : Nat) : Int) < 0) := by omega
      rw [wordOf, decide_eq_true hneg, Int.natAbs_neg, Int.natAbs_natCast]

theorem wordOf_natCast (n : Nat) : wordOf n = word false n := by
  have hpos : ¬ (n : Int) < 0 := by omega
  rw [wordOf, decide_eq_false hpos, Int.natAbs_natCast]

section

variable {text blanks rest digits : List Char} {negative : Bool}

theorem word?_append (hblanks : ∀ c ∈ blanks, c ∈ whiteSpace)
    (hrest : ∀ c ∈ rest.head?, c ∉ whiteSpace) (hsign : splitSign rest = (negative, digits))
    (hdigits : ∀ c ∈ digits, c ∈ decimalDigits) (hne : digits ≠ []) :
    word? (blanks ++ rest) = some (word negative (decimal digits)) := by
  have hdrop : (blanks ++ rest).dropWhile isBlank = rest := by
    rw [List.dropWhile_append_of_pos fun c hc => isBlank_iff.mpr (hblanks c hc)]
    cases rest with
    | nil => rfl
    | cons c rest =>
        have hc : ¬ isBlank c = true := fun hc => hrest c rfl (isBlank_iff.mp hc)
        rw [List.dropWhile_cons_of_neg hc]
  have hall : digits.all Char.isDigit = true :=
    List.all_eq_true.mpr fun c hc => isDigit_iff.mpr (hdigits c hc)
  simp [word?, hdrop, hsign, hne, hall, value_eq_decimal hdigits]

theorem splitSign_of_digits (hdigits : ∀ c ∈ digits, c ∈ decimalDigits) :
    splitSign digits = (false, digits) := by
  unfold splitSign
  split
  · exact absurd (hdigits '+' List.mem_cons_self) (by decide)
  · exact absurd (hdigits '-' List.mem_cons_self) (by decide)
  · rfl

theorem word?_of_numeral {z : Int} (h : Numeral text z) : word? text = some (wordOf z) := by
  cases h with
  | @unsigned blanks digits hblanks hdigits hne =>
      rw [wordOf_natCast]
      refine word?_append hblanks ?_ (splitSign_of_digits hdigits) hdigits hne
      intro c hc
      have happart : ∀ c ∈ decimalDigits, c ∉ whiteSpace :=
        List.all_iff_forall_prop.mp (by decide)
      exact happart c (hdigits c (List.mem_of_mem_head? hc))
  | plus hblanks hdigits hne =>
      rw [wordOf_natCast]
      refine word?_append hblanks ?_ rfl hdigits hne
      simp [whiteSpace]
  | minus hblanks hdigits hne =>
      rw [wordOf_neg]
      refine word?_append hblanks ?_ rfl hdigits hne
      simp [whiteSpace]

theorem sign_cases (h : splitSign rest = (negative, digits)) :
    rest = digits ∨ rest = '+' :: digits ∨ rest = '-' :: digits := by
  unfold splitSign at h
  split at h <;> obtain ⟨-, rfl⟩ := Prod.mk.inj h
  · exact .inr (.inl rfl)
  · exact .inr (.inr rfl)
  · exact .inl rfl

theorem exists_numeral {w : Nat} (h : word? text = some w) : ∃ z, Numeral text z := by
  rcases hsign : splitSign (text.dropWhile isBlank) with ⟨negative, digits⟩
  have hblanks : ∀ c ∈ text.takeWhile isBlank, c ∈ whiteSpace :=
    fun c hc => isBlank_iff.mp (List.mem_takeWhile_imp hc)
  unfold word? at h
  rw [hsign] at h
  simp only [Option.ite_none_left_eq_some, Bool.or_eq_true, not_or] at h
  obtain ⟨⟨hempty, hall⟩, -⟩ := h
  have hne : digits ≠ [] := by simpa using hempty
  have hdigits : ∀ c ∈ digits, c ∈ decimalDigits := by
    intro c hc
    simp only [Bool.not_eq_true', Bool.not_eq_false, List.all_eq_true] at hall
    exact isDigit_iff.mp (hall c hc)
  rw [← List.takeWhile_append_dropWhile (p := isBlank) (l := text)]
  rcases sign_cases hsign with hrest | hrest | hrest
  · rw [hrest]
    exact ⟨_, .unsigned hblanks hdigits hne⟩
  · rw [hrest]
    exact ⟨_, .plus hblanks hdigits hne⟩
  · rw [hrest]
    exact ⟨_, .minus hblanks hdigits hne⟩

/-- A text is read as the word that the integer is read as for which it stands. -/
theorem word?_eq_some_iff {w : Nat} :
    word? text = some w ↔ ∃ z, Numeral text z ∧ wordOf z = w := by
  constructor
  · intro h
    obtain ⟨z, hz⟩ := exists_numeral h
    exact ⟨z, hz, Option.some.inj ((word?_of_numeral hz).symm.trans h)⟩
  · rintro ⟨z, hz, rfl⟩
    exact word?_of_numeral hz

/-- A small positive word is read from the integer that it is, and from the negative
one that differs from it by 2 ^ 64. -/
theorem wordOf_eq_iff {z : Int} {n : Nat} (hpos : 1 ≤ n) (hsmall : n ≤ 256) :
    wordOf z = n ↔ z = n ∨ z = n - 2 ^ 64 := by
  unfold wordOf word maxWord
  norm_num [UInt64.size]
  split
  · omega
  · split <;> omega

end

/-! ## The number of threads -/

/-- A text asks for a number of threads that can be had: it stands for that number, or
for that number less 2 ^ 64. -/
def AsksFor (text : String) (n : Nat) : Prop :=
  (1 ≤ n ∧ n ≤ 256) ∧ ∃ z : Int, Numeral text.toList z ∧ (z = n ∨ z = n - 2 ^ 64)

theorem read?_eq_some_iff {text : String} {n : Nat} :
    read? text.toList = some n ↔ AsksFor text n := by
  rw [read?, Option.filter_eq_some_iff, word?_eq_some_iff, AsksFor, and_comm]
  have hbounds : (decide (1 ≤ n) && decide (n ≤ most)) = true ↔ 1 ≤ n ∧ n ≤ 256 := by
    rw [Bool.and_eq_true, decide_eq_true_eq, decide_eq_true_eq, most]
  rw [hbounds]
  refine and_congr_right fun h => ?_
  simp only [wordOf_eq_iff h.1 h.2]

end ThreadCount

namespace CommandLine

open ThreadCount (Numeral AsksFor read?_eq_some_iff)

theorem apply_threads_iff {s : Settings} {text : String} {n : Nat} :
    (apply s [.threads text]).ended = none ∧ (apply s [.threads text]).settings.workers = n ↔
      AsksFor text n := by
  rw [← read?_eq_some_iff, apply]
  cases ThreadCount.read? text.toList with
  | some m => simp [apply]
  | none => simp

/-- The process takes the number of threads that a text asks for, and goes on with what
follows.  If the text asks for none that can be had, it ends with status one, and one
critical line is all that is left of that; no socket has been opened by then. -/
theorem thread_count_taken (log : LogSettings) (arguments : List String) (answers : Answers)
    {before after : List Choice} {text : String}
    (hgiven : Choice.ofArguments (arguments.map LogSettings.upToZero) =
      before ++ .threads text :: after)
    (haccepted : ∀ choice ∈ before, choice.Accepted) :
    let s := (apply (.initial log) before).settings
    let taken := apply s [.threads text]
    let rest := fun n => apply { s with workers := n } after
    let r := Daemon.start log arguments answers
    (∀ n, taken.ended = none ∧ taken.settings.workers = n ↔ AsksFor text n) ∧
      (∀ n, AsksFor text n → read log arguments =
        { rest n with events := openings before ++ (rest n).events }) ∧
      ((∀ n, ¬ AsksFor text n) → ∃ line,
        s.log.write .critical ("invalid thread count '" ++ text ++ "'") = [line] ∧
        r = ⟨.exited 1, "", openings before ++ [.log line, .exit 1]⟩) := by
  intro s taken rest r
  have hs : before.foldl Settings.take (.initial log) = s := by
    show _ = (apply (.initial log) before).settings
    rw [apply_of_accepted haccepted]
  have hread : read log arguments =
      { apply s (.threads text :: after) with
        events := openings before ++ (apply s (.threads text :: after)).events } := by
    rw [read, hgiven, apply_append haccepted, hs]
  refine ⟨fun n => apply_threads_iff, ?_, ?_⟩
  · intro n hasks
    rw [hread, apply, read?_eq_some_iff.mpr hasks]
  · intro hnone
    have hrefused : ThreadCount.read? text.toList = none :=
      Option.eq_none_iff_forall_ne_some.mpr fun n hn => hnone n (read?_eq_some_iff.mp hn)
    have hlast : (Choice.threads text).exitStatus? = some 1 := by
      rw [Choice.exitStatus?, hrefused]
      rfl
    have hprinted : (apply s [.threads text]).printed = "" := by
      rw [apply, hrefused]
    have hlength := s.log.length_write .critical ("invalid thread count '" ++ text ++ "'")
    obtain ⟨line, hline⟩ := List.length_eq_one_iff.mp hlength
    refine ⟨line, hline, (start_of_exitStatus hgiven haccepted hlast answers).trans ?_⟩
    rw [hs, hprinted, lastWords, hline]
    rfl

/-- A sign and zeros in front of the digits, behind an option that opens the system
log. -/
theorem thread_count_taken_signed :
    let line := read .initial ["-s", "-t", "\t +012", "-d"]
    AsksFor "\t +012" 12 ∧ line.ended = none ∧ line.settings.workers = 12 := by
  intro line
  have hblanks : ∀ c ∈ ['\t', ' '], c ∈ ThreadCount.whiteSpace :=
    List.all_iff_forall_prop.mp (by decide)
  have hdigits : ∀ c ∈ ['0', '1', '2'], c ∈ ThreadCount.decimalDigits :=
    List.all_iff_forall_prop.mp (by decide)
  have hasks : AsksFor "\t +012" 12 :=
    ⟨by decide, 12, .plus hblanks hdigits (List.cons_ne_nil _ _), .inl rfl⟩
  have hgiven : Choice.ofArguments (["-s", "-t", "\t +012", "-d"].map LogSettings.upToZero) =
      [.syslog] ++ .threads "\t +012" :: [.debug] := by decide +kernel
  have haccepted : ∀ choice ∈ [Choice.syslog], choice.Accepted := by simp [Choice.Accepted]
  obtain ⟨-, htaken, -⟩ := thread_count_taken .initial _ (.receiving []) hgiven haccepted
  have hline := htaken 12 hasks
  exact ⟨hasks, congrArg Result.ended hline, congrArg (·.settings.workers) hline⟩

/-- A negative number of threads is taken, although its text is no numeral for the
number that is taken. -/
theorem negative_thread_count_taken :
    let text := "-18446744073709551615"
    let line := read .initial ["-t", text]
    Numeral text.toList (-18446744073709551615) ∧ ¬ Numeral text.toList 1 ∧
      line.ended = none ∧ line.settings.workers = 1 := by
  intro text line
  have htext : text.toList = '-' :: "18446744073709551615".toList := by decide +kernel
  have hvalue : ThreadCount.decimal "18446744073709551615".toList = 18446744073709551615 := by
    decide +kernel
  have hdigits : ∀ c ∈ "18446744073709551615".toList, c ∈ ThreadCount.decimalDigits :=
    List.all_iff_forall_prop.mp (by decide +kernel)
  refine ⟨?_, ?_, by decide +kernel, by decide +kernel⟩
  · rw [htext, ← Nat.cast_ofNat, ← hvalue]
    exact .minus (List.forall_mem_nil _) hdigits (by decide)
  · rw [htext]
    intro h
    exact absurd h.nonpos (by decide)

end CommandLine

end DhcpServer
