import SourceAtlas.CommandLine.Scan
import SourceAtlas.Params.Config

/-!
# Commands

The commands of the program with their flags, and the parameters of a build that its flags set.  Of
a flag that takes one value the last occurrence counts; a flag that takes many collects them all.  A
flag that does not occur sets nothing, and its parameter has its default.
-/

namespace SourceAtlas.CommandLine

open Text

/-- A flag that is set by its presence. -/
def switch (name : String) (letter : Option Char) (field help : String) : Flag :=
  ⟨name.toList, letter, .switch, field.toList, help.toList⟩

/-- A flag with one value, named as its parameter. -/
def single (name : String) (letter : Option Char) (help : String) : Flag :=
  ⟨name.toList, letter, .single, name.toList, help.toList⟩

/-- A flag with any number of values. -/
def repeated (name : String) (letter : Option Char) (field help : String) : Flag :=
  ⟨name.toList, letter, .repeated, field.toList, help.toList⟩

/-- Asks for help instead of a run. -/
def helpFlag : Flag := switch "help" none "" "Show this message and exit."

/-- Shows what is logged, and more about a fault. -/
def debugFlag : Flag :=
  switch "debug" none "" "Show full tracebacks and debug logs on error."

/-- The flags of a build, apart from the one for help. -/
def buildFlags : List Flag :=
  [single "target" (some 't') "Path where to store the generated output.",
    repeated "filename" (some 'f') "filename"
      "Files to parse; the wildcards ? and * are supported.",
    repeated "directory" (some 'd') "directory" "Directories to (recursively) parse.",
    repeated "extensions" (some 'e') "extensions"
      "File extensions to parse (default: php, php3, phtml).",
    repeated "ignore" (some 'i') "ignore"
      "Files and directories to ignore; wildcards * and ? are supported.",
    repeated "ignore-tags" none "ignore_tags" "Tags and markers that will be ignored.",
    switch "hidden" none "hidden" "Descend into hidden directories (starting with '.').",
    switch "ignore-symlinks" none "ignore_symlinks"
      "Ignore symlinks to other files or directories.",
    repeated "markers" (some 'm') "markers" "Markers to collect (default: TODO, FIXME).",
    single "title" none "Title for this project.",
    switch "force" none "force" "Do not reuse the existing structure file.",
    switch "validate" none "validate_files" "Validate every processed file while parsing.",
    repeated "visibility" none "visibility" "Visibility to include, e.g. public,protected.",
    single "defaultpackagename" none "Name to use for the default package.",
    switch "sourcecode" none "sourcecode" "Include the source code in the structure file.",
    switch "progressbar" (some 'p') "progressbar"
      "Show a progress bar; quiets logging to stdout.",
    switch "verbose" (some 'v') "verbose" "Show debug and informational log lines."]

/-- The value that the occurrences of a flag set, if there are any. -/
def valueOf? (f : Flag) (occurrences : List Occurrence) : Option Value :=
  match f.kind with
  | .switch => if occurs f occurrences then some (.flag true) else none
  | .single => (valuesOf f occurrences).getLast?.map .text
  | .repeated =>
    match valuesOf f occurrences with
    | [] => none
    | values => some (.list (values.map .text))

/-- The parameters that the flags of a build set. -/
def paramsOf (occurrences : List Occurrence) : Params :=
  buildFlags.filterMap fun f => (valueOf? f occurrences).map fun v => (f.field, v)

/-- What a command does. -/
inductive Action
  | build
  | listVersions
  deriving DecidableEq, Repr

/-- A command; one that is not listed does not show in the help. -/
structure Command where
  name : Text
  action : Action
  summary : Text
  flags : List Flag
  listed : Bool := true
  deriving DecidableEq, Repr

/-- The commands of the program. -/
def commands : List Command :=
  let summary := "Parse source files and write the structure file to the target.".toList
  [⟨"parse".toList, .build, summary, buildFlags ++ [helpFlag], true⟩,
    ⟨"project:parse".toList, .build, summary, buildFlags ++ [helpFlag], false⟩,
    ⟨"doctor".toList, .listVersions, "Print installed toolchain versions.".toList, [helpFlag], true⟩]

/-- The flags that stand before the command. -/
def programFlags : List Flag := [debugFlag, helpFlag]

/-- The command of a name. -/
def command? (name : Text) : Option Command := commands.find? (·.name = name)

/-- The name of the program. -/
def programName : Text := "doc-structure".toList

/-- What may follow the name of the program. -/
def programUsage : Text := "[OPTIONS] COMMAND [ARGS]...".toList

/-- What may follow the name of a command. -/
def commandUsage : Text := "[OPTIONS]".toList

/-- How a command is called. -/
def Command.path (c : Command) : Text := programName ++ ' ' :: c.name

/-! ## Help -/

/-- A line of a list in a help text. -/
def helpLine (head help : Text) : Text := "  ".toList ++ head ++ "  ".toList ++ help ++ ['\n']

/-- The line of a flag. -/
def Flag.helpLine (f : Flag) : Text :=
  let letter : Text :=
    match f.letter with
    | some c => ", -".toList ++ [c]
    | none => []
  CommandLine.helpLine (f.written ++ letter ++ (if f.takesValue then " TEXT".toList else [])) f.help

/-- A help text. -/
def helpText (path usage summary : Text) (flags : List Flag) : Text :=
  "Usage: ".toList ++ path ++ ' ' :: usage ++ "\n\n  ".toList ++ summary ++
    "\n\nOptions:\n".toList ++ flags.flatMap Flag.helpLine

/-- The help text of a command. -/
def Command.help (c : Command) : Text := helpText c.path commandUsage c.summary c.flags

/-- The help text of the program. -/
def programHelp : Text :=
  helpText programName programUsage "Create a structure file from your source code.".toList
      programFlags ++ "\nCommands:\n".toList ++
    (commands.filter (·.listed)).flatMap fun c => helpLine c.name c.summary

end SourceAtlas.CommandLine
