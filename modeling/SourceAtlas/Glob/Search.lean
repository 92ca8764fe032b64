import SourceAtlas.FileSystem.Change
import SourceAtlas.Glob.Pattern

/-!
# Paths that match a pattern

A pattern with wildcards is matched directory by directory: each of its parts against the names in
the directories that the parts before it lead to.  Names that begin with a dot match only a part
that does.  A pattern without wildcards leads to itself if anything is there.
-/

namespace SourceAtlas.Glob

open Text

/-- A name below a directory; an absolute name takes over. -/
def joinText (directory name : Text) : Text :=
  if name.head? = some '/' then name
  else if directory = [] || endsWith directory ['/'] then directory ++ name
  else directory ++ '/' :: name

/-- The names in a directory; none when it cannot be listed. -/
def namesIn (ws : Workspace) (directory : Text) : Except Reason (List Text) :=
  match ws.list (if directory = [] then ['.'] else directory) with
  | .ok names => .ok names
  | .error .nullCharacter => .error .nullCharacter
  | .error _ => .ok []

/-- The names in a directory that match one part of a pattern. -/
def matchingNames (ws : Workspace) (dirOnly : Bool) (part directory : Text) :
    Except Reason (List Text) := do
  let names ← namesIn ws directory
  let shown := names.filter fun n =>
    (!dirOnly || ws.isDirectory (joinText directory n)) &&
      (part.head? = some '.' || n.head? ≠ some '.')
  return shown.filter (matchesText part)

/-- A name in a directory, if it is there; the empty name stands for the directory itself. -/
def givenName (ws : Workspace) (name directory : Text) : List Text :=
  if name = [] then if ws.isDirectory directory then [name] else []
  else if ws.hasEntry (joinText directory name) then [name]
  else []

/-- All results of a search in several directories. -/
def gather (search : Text → Except Reason (List Text)) :
    List Text → Except Reason (List Text)
  | [] => .ok []
  | d :: ds => do
    let names ← search d
    let rest ← gather search ds
    return names.map (joinText d) ++ rest

/-- The paths that match a pattern of at most `depth` parts. -/
def search (ws : Workspace) : Nat → Bool → Text → Except Reason (List Text)
  | 0, _, _ => .ok []
  | depth + 1, dirOnly, pattern =>
    let (directory, part) := splitPath pattern
    if !hasWildcard pattern then
      let isThere := if part = [] then ws.isDirectory directory else ws.hasEntry pattern
      .ok (if isThere then [pattern] else [])
    else if directory = [] then matchingNames ws dirOnly part []
    else do
      let directories ←
        if directory ≠ pattern && hasWildcard directory then search ws depth true directory
        else pure [directory]
      if hasWildcard part then gather (matchingNames ws dirOnly part) directories
      else gather (fun d => pure (givenName ws part d)) directories

/-- The paths that match a pattern. -/
def find (ws : Workspace) (pattern : Text) : Except Reason (List Text) :=
  search ws (pattern.length + 1) false pattern

end SourceAtlas.Glob
