/-!
# Thread counts

The number of threads is read as a word of 64 bits: blanks and a sign may stand
in front of the decimal digits, a number too large for a word counts as the
largest word, and a minus sign takes the complement.  One to 256 threads can be
had.
-/

namespace DhcpServer.ThreadCount

/-- Blanks may stand in front of a number. -/
def isBlank (c : Char) : Bool :=
  c = ' ' || ('\t' ≤ c && c ≤ '\r')

/-- Whether a minus sign stands in front, and what follows the sign if there is
one. -/
def splitSign : List Char → Bool × List Char
  | '+' :: rest => (false, rest)
  | '-' :: rest => (true, rest)
  | digits => (false, digits)

def value (digits : List Char) : Nat :=
  digits.foldl (fun n c => 10 * n + (c.toNat - '0'.toNat)) 0

def maxWord : Nat := UInt64.size - 1

/-- The word for a number with a sign. -/
def word (negative : Bool) (n : Nat) : Nat :=
  if maxWord < n then maxWord
  else if negative then (UInt64.size - n) % UInt64.size
  else n

/-- The word that a text writes, if all of it is a number. -/
def word? (text : List Char) : Option Nat :=
  let (negative, digits) := splitSign (text.dropWhile isBlank)
  if digits.isEmpty || !digits.all Char.isDigit then none
  else some (word negative (value digits))

def most : Nat := 256

/-- The number of threads that a text asks for, if they can be had. -/
def read? (text : List Char) : Option Nat :=
  (word? text).filter fun n => 1 ≤ n && n ≤ most

/-- No text asks for fewer threads than one or more than can be had. -/
theorem bounds_of_read? {text : List Char} {n : Nat} (h : read? text = some n) :
    1 ≤ n ∧ n ≤ most := by
  obtain ⟨_, hn⟩ := Option.filter_eq_some_iff.mp h
  simpa using hn

end DhcpServer.ThreadCount
