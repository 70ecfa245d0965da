import DhcpServer.CommandLine.Choice
import DhcpServer.CommandLine.ThreadCount
import DhcpServer.Event

/-!
# The command line

Choices take effect from left to right.  The process ends at the first that
asks for the version or for help, is invalid, or asks for threads that cannot
be had; what was chosen before has happened by then.
-/

namespace DhcpServer

/-- What can be set on the command line. -/
structure Settings where
  address : String
  device : String
  workers : Nat
  log : LogSettings
deriving DecidableEq, Repr

namespace Settings

def initial (log : LogSettings) : Settings := ⟨":67", "", 2, log⟩

end Settings

namespace CommandLine

/-- What has come of a command line: the settings, what was printed, with what
status the process has ended if it has, and the events on the way. -/
structure Result where
  settings : Settings
  printed : String
  ended : Option Nat
  events : List Event

def banner : String := "d4serve 1.0, DHCPv4 request listener.\n"

def versionText : String := banner ++ "SPDX-License-Identifier: MIT\n"

def helpText : String :=
  banner ++
  "d4serve [options]...\n\nOptions:\n" ++
  "--bind            -b []  Address to listen on (default :67).\n" ++
  "--interface       -i []  Only listen on this interface.\n" ++
  "--threads         -t []  Number of handler threads (default 2).\n" ++
  "--debug           -d     Log discarded datagrams.\n" ++
  "--syslog          -s     Log to syslog rather than stderr.\n" ++
  "--version         -v     Print version and exit.\n" ++
  "--help            -h     Print this help and exit.\n"

def logName : String := "d4serve"

/-- The process ends with a status after printing a text. -/
def endWith (s : Settings) (status : Nat) (text : String) : Result :=
  ⟨s, text, some status, [.exit status]⟩

/-- A result with an event before all others. -/
def Result.after (r : Result) (e : Event) : Result := { r with events := e :: r.events }

/-- What comes of choices. -/
def apply (s : Settings) : List Choice → Result
  | [] => ⟨s, "", none, []⟩
  | .bind address :: rest => apply { s with address } rest
  | .interface name :: rest => apply { s with device := name } rest
  | .threads count :: rest =>
    match ThreadCount.read? count.toList with
    | some n => apply { s with workers := n } rest
    | none =>
      let lines := s.log.write .critical ("invalid thread count '" ++ count ++ "'")
      ⟨s, "", some 1, lines.map .log ++ [.exit 1]⟩
  | .debug :: rest => apply { s with log := s.log.setDebug true } rest
  | .syslog :: rest =>
    (apply { s with log := s.log.openSyslog } rest).after (.log (LogSettings.opening logName))
  | .version :: _ => endWith s 0 versionText
  | .help :: _ => endWith s 0 helpText
  | .invalid :: _ => endWith s 1 helpText

/-- What comes of arguments.  An argument ends at its first zero character. -/
def read (log : LogSettings) (arguments : List String) : Result :=
  apply (.initial log) (Choice.ofArguments (arguments.map LogSettings.upToZero))

end CommandLine

end DhcpServer
