/-!
# Options on the command line

Options may stand anywhere among the arguments, up to an argument of two dashes
alone.  An option is a letter after a dash, where several letters may share one
dash, or a word after two dashes, of which a beginning that fits no other word
is enough.  A value is what follows the letter in the same argument, what
follows an equals sign after the word, or else the next argument, whatever that
looks like.  Arguments that are no options are passed over.
-/

namespace DhcpServer

inductive Flag where
  | bind
  | interface
  | threads
  | debug
  | syslog
  | version
  | help
deriving DecidableEq, Repr

namespace Flag

def all : List Flag := [bind, interface, threads, debug, syslog, version, help]

def letter : Flag → Char
  | bind => 'b'
  | interface => 'i'
  | threads => 't'
  | debug => 'd'
  | syslog => 's'
  | version => 'v'
  | help => 'h'

def word : Flag → String
  | bind => "bind"
  | interface => "interface"
  | threads => "threads"
  | debug => "debug"
  | syslog => "syslog"
  | version => "version"
  | help => "help"

def takesValue : Flag → Bool
  | bind => true
  | interface => true
  | threads => true
  | debug => false
  | syslog => false
  | version => false
  | help => false

def ofLetter? (c : Char) : Option Flag := all.find? (·.letter = c)

/-- The option whose word is the given one, or else the only one whose word
begins with it. -/
def ofWord? (start : List Char) : Option Flag :=
  match all.find? (·.word.toList = start) with
  | some flag => some flag
  | none =>
    match all.filter (start.isPrefixOf ·.word.toList) with
    | [flag] => some flag
    | _ => none

end Flag

/-- What was chosen on the command line. -/
inductive Choice where
  | bind (address : String)
  | interface (name : String)
  | threads (count : String)
  | debug
  | syslog
  | version
  | help
  /-- There is no such option, or its value is missing or not wanted. -/
  | invalid
deriving DecidableEq, Repr

namespace Choice

/-- The choice of an option with a value; options without a value ignore it. -/
def make (value : String) : Flag → Choice
  | .bind => bind value
  | .interface => interface value
  | .threads => threads value
  | .debug => debug
  | .syslog => syslog
  | .version => version
  | .help => help

/-- The choices of letters that share a dash, and the option that still needs a
value, if the last letter is one of those. -/
def ofLetters : List Char → List Choice × Option Flag
  | [] => ([], none)
  | c :: cs =>
    match Flag.ofLetter? c with
    | none =>
      let (choices, pending) := ofLetters cs
      (invalid :: choices, pending)
    | some flag =>
      if flag.takesValue then
        if cs.isEmpty then ([], some flag) else ([make (String.ofList cs) flag], none)
      else
        let (choices, pending) := ofLetters cs
        (make "" flag :: choices, pending)

/-- What stands before and after the first equals sign; nothing after it if
there is none. -/
def splitEquals : List Char → List Char × Option (List Char)
  | [] => ([], none)
  | '=' :: cs => ([], some cs)
  | c :: cs =>
    let (front, back) := splitEquals cs
    (c :: front, back)

/-- The choice of a word after two dashes, or the option that still needs a
value. -/
def ofWord (text : List Char) : Choice ⊕ Flag :=
  let (start, value) := splitEquals text
  match Flag.ofWord? start, value with
  | none, _ => .inl invalid
  | some flag, some value =>
    .inl (if flag.takesValue then make (String.ofList value) flag else invalid)
  | some flag, none => if flag.takesValue then .inr flag else .inl (make "" flag)

/-- What one argument says: the choices in it, and the option that takes the
next argument as its value, if there is one. -/
def ofArgument : List Char → List Choice × Option Flag
  | '-' :: '-' :: text =>
    match ofWord text with
    | .inl choice => ([choice], none)
    | .inr flag => ([], some flag)
  | '-' :: letters => ofLetters letters
  | _ => ([], none)

/-- The choices on a command line, in order. -/
def ofArguments : List String → List Choice
  | [] => []
  | argument :: rest =>
    if argument = "--" then []
    else
      let (choices, pending) := ofArgument argument.toList
      match pending, rest with
      | none, rest => choices ++ ofArguments rest
      | some _, [] => choices ++ [invalid]
      | some flag, value :: rest => choices ++ make value flag :: ofArguments rest
termination_by arguments => arguments.length

end Choice

end DhcpServer
