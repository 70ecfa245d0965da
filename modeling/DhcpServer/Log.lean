/-!
# Log lines

Lines go to standard error, or to the system log once that has been opened.
Debug lines are written only if they are asked for.  Nothing that is logged
depends on anything else, so logging is a function from a line to the records
that it leaves.
-/

namespace DhcpServer

inductive LogLevel where
  | critical
  | error
  | info
  | debug
deriving DecidableEq, Repr

/-- The number that the system log has for a level. -/
def LogLevel.priority : LogLevel → Nat
  | critical => 2
  | error => 3
  | info => 6
  | debug => 7

/-- What a log has been given. -/
inductive LogRecord where
  | stderr (text : String)
  | syslog (priority : Nat) (line : String)
  | opened (name : String)
deriving DecidableEq, Repr

/-- Where lines go, and whether debug lines are among them. -/
structure LogSettings where
  toSyslog : Bool
  debug : Bool
deriving DecidableEq, Repr

namespace LogSettings

/-- Lines go to standard error, without debug lines. -/
def initial : LogSettings := ⟨false, false⟩

/-- The text before the first zero character, which ends a line for the system
log. -/
def upToZero (text : String) : String :=
  String.ofList (text.toList.takeWhile (· ≠ '\x00'))

def writes (s : LogSettings) (level : LogLevel) : Bool :=
  level ≠ .debug || s.debug

/-- What a line leaves in the log. -/
def write (s : LogSettings) (level : LogLevel) (line : String) : List LogRecord :=
  if s.writes level then
    if s.toSyslog then [.syslog level.priority (upToZero line)]
    else [.stderr (line ++ "\n")]
  else []

def openSyslog (s : LogSettings) : LogSettings := { s with toSyslog := true }

def setDebug (s : LogSettings) (on : Bool) : LogSettings := { s with debug := on }

/-- What opening the system log under a name leaves in the log. -/
def opening (name : String) : LogRecord := .opened (upToZero name)

/-- A text without a zero character reaches the system log whole. -/
theorem upToZero_eq_self {text : String} (h : '\x00' ∉ text.toList) : upToZero text = text := by
  have hall : ∀ c ∈ text.toList, decide (c ≠ '\x00') = true :=
    fun c hc => decide_eq_true fun hzero => h (hzero ▸ hc)
  have htake : (text.toList ++ []).takeWhile (· ≠ '\x00') = text.toList ++ [] :=
    List.takeWhile_append_of_pos hall
  rw [List.append_nil] at htake
  rw [upToZero, htake, String.ofList_toList]

/-- A line is written at most once, and only if its level is. -/
theorem length_write (s : LogSettings) (level : LogLevel) (line : String) :
    (s.write level line).length = if s.writes level then 1 else 0 := by
  unfold write
  split
  · split <;> rfl
  · rfl

end LogSettings

end DhcpServer
