import NodeDataplane.Path
import NodeDataplane.Text.Digit
import NodeDataplane.Text.Quoted

/-!
# The command line

The agent takes three options. A long option may be cut short as long as no other one starts the
same way, and its value may stand behind a `=`. What is no option is left over, and it is an error
if anything is; a lone `--` makes everything behind it no option.

All arguments are told apart before any of them takes effect; then they take effect from left to
right, so a call for help comes before all faults behind it, except for an ambiguous option.
-/

namespace NodeDataplane

open NodeDataplane.Text

inductive AgentOption where
  | help
  | config
  | verbose
  deriving DecidableEq, Repr

namespace AgentOption

def longName : AgentOption → String
  | help => "--help"
  | config => "--config"
  | verbose => "--verbose"

def title : AgentOption → String
  | help => "-h/--help"
  | config => "--config"
  | verbose => "--verbose"

def all : List AgentOption := [help, config, verbose]

end AgentOption

inductive ArgumentsFault where
  | ambiguous (argument : String) (candidates : List AgentOption)
  | unwantedValue (option : AgentOption) (value : String)
  | missingValue (option : AgentOption)
  | unrecognized (arguments : List String)
  deriving DecidableEq, Repr

def ArgumentsFault.message : ArgumentsFault → String
  | ambiguous argument candidates =>
    "ambiguous option: " ++ argument ++ " could match " ++
      ", ".intercalate (candidates.map AgentOption.longName)
  | unwantedValue option value =>
    "argument " ++ option.title ++ ": ignored explicit argument " ++ quoted value
  | missingValue option => "argument " ++ option.title ++ ": expected one argument"
  | unrecognized arguments => "unrecognized arguments: " ++ " ".intercalate arguments

inductive Argument where
  /-- No option. -/
  | plain (text : String)
  /-- The mark behind which there are no options. -/
  | separator
  /-- Something like an option, but none that is known. -/
  | unknown (text : String)
  | long (option : AgentOption) (value : Option String)
  | shortHelp (tail : List Char)
  deriving DecidableEq, Repr

namespace Argument

/-- A text without the line feed at its end, if there is one. -/
def withoutLineFeed (cs : List Char) : List Char :=
  if cs.getLast? = some '\n' then cs.dropLast else cs

/-- Whether a text is a negative number, which may end a line. -/
def isNegativeNumber (cs : List Char) : Bool :=
  let isDigit (c : Char) : Bool := (digitValue? c).isSome
  match withoutLineFeed cs with
  | '-' :: rest =>
    let behind := rest.dropWhile isDigit
    match behind with
    | [] => !rest.isEmpty
    | '.' :: digits => !digits.isEmpty && digits.all isDigit
    | _ => false
  | _ => false

def splitValue (s : String) : String × Option String :=
  match cut? '=' s.toList with
  | some (name, value) => (String.ofList name, some (String.ofList value))
  | none => (s, none)

def candidates (start : String) : List AgentOption :=
  AgentOption.all.filter fun option => start.toList.isPrefixOf option.longName.toList

/-- An argument that starts like an option, but is none. -/
def unknownOrPlain (s : String) : Argument :=
  if isNegativeNumber s.toList || s.toList.contains ' ' then plain s else unknown s

def ofLong (s : String) : Except ArgumentsFault Argument :=
  let (name, value) := splitValue s
  match AgentOption.all.find? fun option => option.longName == name with
  | some option => .ok (long option value)
  | none =>
    match candidates name with
    | [] => .ok (unknownOrPlain s)
    | [option] => .ok (long option value)
    | several => .error (.ambiguous s several)

def ofText (s : String) : Except ArgumentsFault Argument :=
  match s.toList with
  | '-' :: '-' :: _ => ofLong s
  | '-' :: 'h' :: tail => .ok (shortHelp tail)
  | '-' :: _ :: _ => .ok (unknownOrPlain s)
  | _ => .ok (plain s)

def ofTexts : List String → Except ArgumentsFault (List Argument)
  | [] => .ok []
  | s :: rest =>
    if s = "--" then .ok (separator :: rest.map plain)
    else do
      let argument ← ofText s
      return argument :: (← ofTexts rest)

end Argument

structure Arguments where
  config : Path
  verbose : Bool
  deriving DecidableEq, Repr

inductive Invocation where
  | run (arguments : Arguments)
  | help
  | refused (fault : ArgumentsFault)
  deriving DecidableEq, Repr

namespace Arguments

def default : Arguments := ⟨Path.ofText "/etc/node-agent/agent.yaml", false⟩

instance : Inhabited Arguments := ⟨default⟩

def setConfig (a : Arguments) (value : String) : Arguments :=
  { a with config := Path.ofText value }

/-- More short options behind a call for help, which may only call for help again. -/
def moreHelp : List Char → Invocation
  | [] => .help
  | 'h' :: rest => moreHelp rest
  | value => .refused (.unwantedValue .help (String.ofList value))

/-- What follows a short call for help: more short options, with a `=` before them or not. A `=`
with nothing behind it tells an empty value, which is not taken. -/
def shortHelp : List Char → Invocation
  | ['='] => .refused (.unwantedValue .help "")
  | '=' :: rest => moreHelp rest
  | tail => moreHelp tail

def apply (a : Arguments) (leftover : List String) : List Argument → Invocation
  | [] => if leftover.isEmpty then .run a else .refused (.unrecognized leftover)
  | .long .help none :: _ => .help
  | .long .verbose none :: rest => apply { a with verbose := true } leftover rest
  | .long .config (some value) :: rest => apply (a.setConfig value) leftover rest
  | .long .config none :: .plain value :: rest => apply (a.setConfig value) leftover rest
  | .long .config none :: _ => .refused (.missingValue .config)
  | .long option (some value) :: _ => .refused (.unwantedValue option value)
  | .shortHelp tail :: _ => shortHelp tail
  | .plain text :: rest => apply a (leftover ++ [text]) rest
  | .separator :: rest => apply a (leftover ++ ["--"]) rest
  | .unknown text :: rest => apply a (leftover ++ [text]) rest

def parse (texts : List String) : Invocation :=
  match Argument.ofTexts texts with
  | .error fault => .refused fault
  | .ok arguments => default.apply [] arguments

def usage : String := "usage: node-agent [-h] [--config CONFIG] [--verbose]\n"

def helpText : String :=
  usage ++ "\nRun the node agent\n\noptions:\n" ++
    "  -h, --help       show this help message and exit\n" ++
    "  --config CONFIG  Path to the agent configuration file\n" ++
    "  --verbose        Enable debug logging\n"

def complaint (fault : ArgumentsFault) : String :=
  usage ++ "node-agent: error: " ++ fault.message ++ "\n"

end Arguments

end NodeDataplane
