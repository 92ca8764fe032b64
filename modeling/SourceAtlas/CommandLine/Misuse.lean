import SourceAtlas.Text.Quoted

/-!
# Misuse of the command line

What can be wrong with the arguments of a program, and the words for it.
-/

namespace SourceAtlas.CommandLine

open Text

/-- What is wrong with the arguments.  Similar names are given as advice; the commands among them
only where a command was expected. -/
inductive Misuse
  | unknownFlag (written : Text) (flags commands : List Text)
  | missingValue (written : Text)
  | unexpectedValue (written : Text)
  | extraArguments (arguments : List Text)
  | unknownCommand (name : Text) (commands : List Text)
  | missingCommand
  deriving DecidableEq, Repr

namespace Misuse

/-- The advice to use one of several commands. -/
def commandAdvice (commands : List Text) : Text :=
  if commands = [] then []
  else ". Did you mean ".toList ++ join ", ".toList (commands.map quoted) ++ ['?']

/-- The advice to use one of several flags. -/
def flagAdvice (flags : List Text) : Text :=
  match flags.mergeSort Text.le with
  | [] => []
  | [f] => " Did you mean ".toList ++ f ++ ['?']
  | fs => " (Possible options: ".toList ++ join ", ".toList fs ++ [')']

/-- What is wrong, in words. -/
def message : Misuse → Text
  | unknownFlag written flags commands =>
    "No such option: ".toList ++ written ++ commandAdvice commands ++ flagAdvice flags
  | missingValue written => "Option ".toList ++ quoted written ++ " requires an argument.".toList
  | unexpectedValue written =>
    "Option ".toList ++ quoted written ++ " does not take a value.".toList
  | extraArguments arguments =>
    "Got unexpected extra argument(s) (".toList ++ join [' '] arguments ++ [')']
  | unknownCommand name [] => "No such command ".toList ++ quoted name ++ ['.']
  | unknownCommand name commands =>
    "No such command ".toList ++ quoted name ++ commandAdvice commands
  | missingCommand => "Missing command.".toList

/-- The usage of a command is shown with all misuse but that of a value. -/
def showsUsage : Misuse → Bool
  | missingValue _ | unexpectedValue _ => false
  | _ => true

/-- The report of a misuse of a command: `path` is how the command is called, `usage` what may
follow. -/
def report (m : Misuse) (path usage : Text) : Text :=
  (if m.showsUsage then
    "Usage: ".toList ++ path ++ ' ' :: usage ++ "\nTry '".toList ++ path ++
      " --help' for help.\n\n".toList
  else []) ++ "Error: ".toList ++ m.message ++ ['\n']

end Misuse

end SourceAtlas.CommandLine
