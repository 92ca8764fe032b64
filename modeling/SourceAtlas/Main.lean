import SourceAtlas.CommandLine.Places
import SourceAtlas.CommandLine.Run
import SourceAtlas.FileSystem.Difference

/-!
# The program

Reads the files that the arguments can reach, runs the command line on them, and writes what the run
changed.
-/

namespace SourceAtlas.Program

/-- What is known of the files: the entries that were met, and the directories that were read. -/
structure Survey where
  entries : List (Location × Entry) := []
  explored : List Location := []

/-- Adds an entry unless its location has one. -/
def Survey.add (s : Survey) (l : Location) (e : Entry) : Survey :=
  if s.entries.any (·.1 = l) then s else { s with entries := s.entries ++ [(l, e)] }

/-- The string of a location. -/
def stringOf (l : Location) : String := String.ofList l.text

/-- Where what stands at a location really is. -/
def realLocation? (l : Location) : IO (Option Location) := do
  try
    let real ← IO.FS.realPath (stringOf l)
    return some (Path.ofText real.toString.toList).names
  catch _ => return none

mutual

/-- Reads what stands at a location, all below it, and all that links there lead to. -/
partial def explore (s : Survey) (place : Location) : IO Survey := do
  let here ← IO.FS.realPath (stringOf place)
  if s.explored.contains place then return s
  else if ← here.isDir then
    let children ← here.readDir
    let s := { s.add place .directory with explored := place :: s.explored }
    children.foldlM (fun s child => follow s place [child.fileName.toList]) s
  else
    let content ← IO.FS.readBinFile (stringOf place)
    return s.add place (.file content.toList)

/-- Follows names from a directory on. -/
partial def follow (s : Survey) (directory : Location) : List Text → IO Survey
  | [] => explore s directory
  | name :: rest => do
    let place := directory ++ [name]
    match ← realLocation? place with
    | none => return s
    | some real =>
      if real ≠ place then follow (s.add place (.link (Location.text real))) [] (real ++ rest)
      else if rest ≠ [] && (← (← IO.FS.realPath (stringOf place)).isDir) then
        follow (s.add place .directory) place rest
      else explore s place

end

/-- Writes an entry that the run left behind. -/
def store (l : Location) : Entry → IO Unit
  | .directory => IO.FS.createDir (stringOf l)
  | .file content => IO.FS.writeBinFile (stringOf l) ⟨content.toArray⟩
  | .link _ => return ()

/-- Runs the program on the real files. -/
def run (arguments : List String) : IO UInt32 := do
  let arguments := arguments.map String.toList
  let here := (Path.ofText (← IO.currentDir).toString.toList).names
  let home := (← IO.getEnv "HOME").map fun h => ([], h.toList)
  let blank : Workspace := ⟨⟨[]⟩, here, home.toList⟩
  let survey ← (CommandLine.placesIn blank arguments).foldlM (follow · []) ({} : Survey)
  let workspace := { blank with files := ⟨survey.entries⟩ }
  let installed := [("doc-structure".toList, "0.1.0".toList)]
  let exit := CommandLine.run
    { colored := ← (← IO.getStdout).isTty, workspace, versionOf? := fun t => installed.lookup t } arguments
  for (l, e) in exit.workspace.files.changesSince workspace.files [] do
    store l e
  IO.print (String.ofList exit.out)
  IO.eprint (String.ofList exit.err)
  return exit.code.toUInt32

end SourceAtlas.Program

def main (arguments : List String) : IO UInt32 := SourceAtlas.Program.run arguments
