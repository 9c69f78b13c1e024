import Majuscule.Server.Handler
import Majuscule.Text.Terminal

/-!
# The command line

The program takes one option, the log level, and the usual two that only print something.
`CommandLine.parse` reads the arguments from left to right and says what to do, or which of them is
wrong.

An option whose value is the next argument is settled only by what follows: its errors come up at
the next option that is known, or at the end, while an argument that is not known is reported at
once.
-/

namespace Majuscule.CommandLine

open Text

/-- What is wrong with the arguments. -/
inductive UsageError where
  | unexpectedArgument (argument : String)
  | missingValue
  | repeated
  | unexpectedValue (value option : String)
  deriving DecidableEq, Repr

/-- The log level option as messages show it. -/
def logLevelUsage : String := "--log-level <LOG_LEVEL>"

/-- A piece of the command line in the colour of what is wrong. -/
def highlighted (s : String) : String :=
  "\x1b[33m" ++ s ++ "\x1b[0m"

/-- The text of a usage error for a terminal. -/
def UsageError.text : UsageError → String
  | unexpectedArgument argument =>
    "error: unexpected argument '" ++ highlighted argument ++ "' found"
  | missingValue => "error: a value is required for '" ++ logLevelUsage ++ "' but none was supplied"
  | repeated => "error: the argument '" ++ logLevelUsage ++ "' cannot be used multiple times"
  | unexpectedValue value option =>
    "error: unexpected value '" ++ highlighted value ++ "' for '" ++ option ++
      "' found; no more were expected"

/-- The first line of a usage error, without terminal control. -/
def UsageError.message (e : UsageError) : String :=
  Terminal.firstLine (Terminal.plain e.text)

/-- What the program is asked to do. -/
inductive Invocation where
  | help
  | version
  | serve
  | refused (error : UsageError)
  deriving DecidableEq, Repr

/-- The help text. -/
def helpText : String :=
  "Language server that flags all-uppercase words\n\nUsage: " ++ serverName ++
    " [OPTIONS]\n\nOptions:\n" ++
  "      --log-level <LOG_LEVEL>  Log level (trace, debug, info, warn, error) [default: info]\n" ++
  "  -h, --help                   Print help\n" ++
  "  -V, --version                Print version\n"

/-- The version text. -/
def versionText : String :=
  serverName ++ " " ++ serverVersion ++ "\n"

/-- The log level option while the arguments are read. -/
inductive LogLevelOption where
  /-- Not given, or given and settled. -/
  | idle (given : Bool)
  /-- The option stands there and its value may follow. -/
  | pending (given : Bool)
  /-- The value has come. -/
  | valued (given : Bool)
  deriving DecidableEq, Repr

/-- Settle the option: it needs a value and comes only once. The result says
whether it has been given. -/
def LogLevelOption.settle : LogLevelOption → Except UsageError Bool
  | idle given => .ok given
  | pending _ => .error .missingValue
  | valued given => if given then .error .repeated else .ok true

/-- An argument divided at its first equals sign. -/
def splitEquals (argument : List Char) : List Char × Option (List Char) :=
  match argument.dropWhile (· ≠ '=') with
  | [] => (argument, none)
  | _ :: value => (argument.takeWhile (· ≠ '='), some value)

/-- What to do, unless an option before is wrong. -/
def settled (option : LogLevelOption) (i : Invocation) : Invocation :=
  match option.settle with
  | .error e => .refused e
  | .ok _ => i

/-- A flag that only prints, which takes no value. -/
def flag (option : LogLevelOption) (name : List Char) (value : Option (List Char))
    (i : Invocation) : Invocation :=
  match value with
  | some v => .refused (.unexpectedValue (String.ofList v) (String.ofList name))
  | none => settled option i

/-- The first of several letters after one dash. -/
def short (option : LogLevelOption) (letter : Char) : Invocation :=
  if letter = 'h' then settled option .help
  else if letter = 'V' then settled option .version
  else .refused (.unexpectedArgument (String.ofList ['-', letter]))

/-- Read the arguments after those that made `option`. -/
def read (option : LogLevelOption) : List String → Invocation
  | [] => settled option .serve
  | argument :: rest =>
    match argument.toList with
    | ['-', '-'] =>
      match rest with
      | [] => settled option .serve
      | next :: _ => .refused (.unexpectedArgument next)
    | '-' :: '-' :: _ =>
      let (name, value) := splitEquals argument.toList
      if name = "--help".toList then flag option name value .help
      else if name = "--version".toList then flag option name value .version
      else if name = "--log-level".toList then
        match option.settle, value with
        | .error e, _ => .refused e
        | .ok given, none => read (.pending given) rest
        | .ok given, some _ => if given then .refused .repeated else read (.idle true) rest
      else .refused (.unexpectedArgument (String.ofList name))
    | '-' :: letter :: _ => short option letter
    | _ =>
      match option with
      | .pending given => read (.valued given) rest
      | _ => .refused (.unexpectedArgument argument)

/-- What the arguments ask for. -/
def parse (arguments : List String) : Invocation :=
  read (.idle false) arguments

end Majuscule.CommandLine
