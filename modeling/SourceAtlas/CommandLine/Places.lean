import SourceAtlas.FileSystem.Home
import SourceAtlas.Glob.Pattern

/-!
# Places that arguments name

A run looks at files below the working directory and at the places that its arguments name.  Which
arguments are paths is not known before they are read, so each one counts in every form that a path
may have in it: whole, after an equals sign, after the letter of a flag, and cut at its commas.
-/

namespace SourceAtlas.CommandLine

open Text

/-- The parts of an argument that may be paths. -/
def pathsIn (argument : Text) : List Text :=
  [argument, (argument.dropWhile (· ≠ '=')).drop 1, argument.drop 2].flatMap (splitOn ',')

/-- A location without its `..`, each of which takes away the name before it. -/
def withoutParents (names : List Text) : Location :=
  (names.foldl (fun (before : List Text) name =>
    if name = ['.', '.'] then before.drop 1 else name :: before) []).reverse

/-- The location that a path names when no links are followed, up to the first name with a
wildcard. -/
def placeOf (ws : Workspace) (t : Text) : Location :=
  let path := (Location.path ws.workingDirectory).append (.ofText (ws.expandHome t))
  withoutParents (path.names.takeWhile fun name => !Glob.hasWildcard name)

/-- The places that arguments name, the working directory first; the root is none of them. -/
def placesIn (ws : Workspace) (arguments : List Text) : List Location :=
  (ws.workingDirectory :: (arguments.flatMap pathsIn).map (placeOf ws)).filter (· ≠ [])

end SourceAtlas.CommandLine
