import SourceAtlas.Build.Checked
import SourceAtlas.CommandLine.Command

/-!
# Running the program

The program reads its arguments and runs a command.  It ends with code 0 when the command succeeds,
with code 2 when the arguments or the parameters are wrong, and with code 1 on any other fault.
-/

namespace SourceAtlas.CommandLine

open Text

/-- What the program has around it: whether its output shows colours, the files, and the versions of
the tools that are installed. -/
structure Surroundings where
  colored : Bool := false
  workspace : Workspace
  versionOf? : Text → Option Text

/-- What the program leaves behind. -/
structure Exit where
  workspace : Workspace
  code : Nat
  out : Text := []
  err : Text := []

/-- A text as it shows on output with or without colours. -/
def shown (colored : Bool) (t : Text) : Text := if colored then t else Ansi.strip t

/-- The report of a fault. -/
def faultReport (colored debug : Bool) (f : Fault) : Text :=
  let label := Ansi.paint .red ("✗ ".toList ++ f.name ++ [':'])
  let trace : Text :=
    if debug then
      "\nTraceback:\n".toList ++ f.name ++ ": ".toList ++ f.message ++ "\n\n".toList
    else []
  shown colored (label ++ ' ' :: f.message ++ '\n' :: trace)

/-- The end of the program when its arguments are wrong. -/
def misused (s : Surroundings) (m : Misuse) (path usage : Text) : Exit :=
  { workspace := s.workspace, code := 2, err := shown s.colored (m.report path usage) }

/-- Builds by the flags that occur. -/
def runBuild (s : Surroundings) (debug : Bool) (occurrences : List Occurrence) : Exit :=
  let report := Report.ofParams s.colored s.workspace (paramsOf occurrences)
  let log := if debug then report.log.flatMap LogEntry.line else []
  match report.outcome with
  | .ok p =>
    { workspace := report.workspace, code := p.exitCode, out := report.shown, err := log }
  | .error f =>
    { workspace := report.workspace
      code := f.exitCode
      out := report.shown
      err := log ++ faultReport s.colored debug f }

/-- The tools whose versions are listed. -/
def tools : List Text :=
  ["Python", "doc-structure", "typer", "click", "pydantic"].map String.toList

/-- Lists versions. -/
def runVersions (s : Surroundings) : Exit :=
  let line (tool : Text) : Text :=
    tool ++ ": ".toList ++ (s.versionOf? tool).getD "<not installed>".toList ++ ['\n']
  { workspace := s.workspace, code := 0, out := tools.flatMap line }

/-- Runs a command. -/
def runCommand (s : Surroundings) (debug : Bool) (c : Command) (arguments : List Text) : Exit :=
  match scan c.flags true arguments with
  | .error m => misused s m c.path commandUsage
  | .ok (occurrences, words) =>
    if occurs helpFlag occurrences then
      { workspace := s.workspace, code := 0, out := c.help }
    else if words ≠ [] then misused s (.extraArguments words) c.path commandUsage
    else
      match c.action with
      | .build => runBuild s debug occurrences
      | .listVersions => runVersions s

/-- The end of the program when there is no command of the name.  A name that looks like a flag is
read as one first. -/
def withoutCommand (s : Surroundings) (name : Text) (arguments : List Text) : Exit :=
  let similar := similarTo name (commands.map (·.name))
  let ended (m : Misuse) : Exit := misused s m programName programUsage
  match scan programFlags false (name :: arguments) with
  | .error (.unknownFlag written flags _) => ended (.unknownFlag written flags similar)
  | .error m => ended m
  | .ok (occurrences, _) =>
    if occurs helpFlag occurrences then
      { workspace := s.workspace, code := 0, out := programHelp }
    else ended (.unknownCommand name similar)

/-- Runs the program. -/
def run (s : Surroundings) (arguments : List Text) : Exit :=
  if arguments = [] then { workspace := s.workspace, code := 2, err := programHelp }
  else
    match scan programFlags false arguments with
    | .error m => misused s m programName programUsage
    | .ok (occurrences, words) =>
      if occurs helpFlag occurrences then
        { workspace := s.workspace, code := 0, out := programHelp }
      else
        match words with
        | [] => misused s .missingCommand programName programUsage
        | name :: rest =>
          match command? name with
          | none => withoutCommand s name rest
          | some c => runCommand s (occurs debugFlag occurrences) c rest

end SourceAtlas.CommandLine
