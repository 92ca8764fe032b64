import SourceAtlas.FileSystem.Basic

/-!
# What an operation left behind

The difference between two states of a file system, below one directory: the entries that are new
or no longer the same.
-/

namespace SourceAtlas.FileSystem

/-- The entries below a location that differ from those of an earlier state, under their names from
that location on. -/
def changesSince (after before : FileSystem) (base : Location) : List (Location × Entry) :=
  after.entries.filterMap fun p =>
    if base.isPrefixOf p.1 && p.1 ≠ base && before.get? p.1 ≠ some p.2 then
      some (p.1.drop base.length, p.2)
    else none

end SourceAtlas.FileSystem
