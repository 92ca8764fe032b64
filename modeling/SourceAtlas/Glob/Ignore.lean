import SourceAtlas.Glob.Pattern
import SourceAtlas.Path

/-!
# Ignored and hidden paths

An ignore pattern may name a path as it is written, its last name, or the part of it below the
directory that is being collected.
-/

namespace SourceAtlas.Glob

/-- The texts under which a path may be ignored. -/
def candidates (path base : Path) : List Text :=
  [path.text, path.name] ++ ((path.relativeTo? base).map Path.text).toList

/-- Whether one of the patterns matches the path under one of its names. -/
def ignores (patterns : List Text) (path base : Path) : Bool :=
  patterns.any fun p => (candidates path base).any (matchesText p)

/-- A name that begins with a dot and is more than `.` or `..`. -/
def isHidden (name : Text) : Bool :=
  name.head? = some '.' && name != ['.'] && name != ['.', '.']

end SourceAtlas.Glob
