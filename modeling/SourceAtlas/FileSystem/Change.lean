import SourceAtlas.FileSystem.RealPath

/-!
# Changing a file system

Making directories, writing files and placing links.  A failed operation may have made some of the
directories it was asked for, so each one gives the new workspace along with its outcome.
-/

namespace SourceAtlas

open Text

/-- The text up to the last slash, without the slashes at its end unless there is nothing else, and
the text after it. -/
def splitPath (t : Text) : Text × Text :=
  let tail := (t.reverse.takeWhile (· ≠ '/')).reverse
  let head := t.take (t.length - tail.length)
  let shown := (head.reverse.dropWhile (· = '/')).reverse
  (if shown = [] then head else shown, tail)

/-- The path above and the last name, a slash at the end left out. -/
def splitParent (t : Text) : Text × Text :=
  match splitPath t with
  | (head, []) => splitPath head
  | parts => parts

namespace Workspace

/-- The workspace with an entry at a location. -/
def put (ws : Workspace) (l : Location) (e : Entry) : Workspace :=
  { ws with files := ws.files.put l e }

/-- Makes a directory where a path leads to a free name. -/
def makeDirectory (ws : Workspace) (path : Text) : Except FileError Workspace :=
  match ws.lookup false false path with
  | .ok (.free parent name) => .ok (ws.put (parent ++ [name]) .directory)
  | .ok _ => .error ⟨.present, path⟩
  | .error r => .error ⟨r, path⟩

/-- Makes a directory unless the path already leads to one. -/
def ensureDirectory (ws : Workspace) (path : Text) : Workspace × Option FileError :=
  match ws.makeDirectory path with
  | .ok ws => (ws, none)
  | .error e =>
    if e.reason ≠ .nullCharacter && ws.isDirectory path then (ws, none) else (ws, some e)

/-- Makes a directory and those above it that are missing; `depth` bounds how many these are. -/
def makeDirectories (ws : Workspace) : Nat → Text → Workspace × Option FileError
  | 0, path => ws.ensureDirectory path
  | depth + 1, path =>
    let (head, tail) := splitParent path
    if head ≠ [] && tail ≠ [] && !ws.leadsSomewhere head then
      match ws.makeDirectories depth head with
      | (ws, some e) => if e.reason = .present then finish ws tail path else (ws, some e)
      | (ws, none) => finish ws tail path
    else ws.ensureDirectory path
where
  finish (ws : Workspace) (tail path : Text) : Workspace × Option FileError :=
    if tail = ['.'] then (ws, none) else ws.ensureDirectory path

/-- Makes a directory and those above it that are missing. -/
def makePath (ws : Workspace) (path : Text) : Workspace × Option FileError :=
  ws.makeDirectories path.length path

/-- Writes a file where a path leads, over the content of one that is there. -/
def write (ws : Workspace) (path : Text) (content : Bytes) : Except FileError Workspace :=
  match ws.lookup true (endsWith path ['/']) path with
  | .ok (.found _ .directory) => .error ⟨.isDirectory, path⟩
  | .ok (.found l _) => .ok (ws.put l (.file content))
  | .ok (.free parent name) => .ok (ws.put (parent ++ [name]) (.file content))
  | .ok (.barred _) => .error ⟨.isDirectory, path⟩
  | .error r => .error ⟨r, path⟩

/-- Places a link at a free name. -/
def placeLink (ws : Workspace) (path target : Text) : Except FileError Workspace :=
  match ws.lookup false false path with
  | .ok (.free parent name) => .ok (ws.put (parent ++ [name]) (.link target))
  | .ok _ => .error ⟨.present, path⟩
  | .error r => .error ⟨r, path⟩

/-- Removes what a path denotes, with everything in it. -/
def remove (ws : Workspace) (path : Text) : Except FileError Workspace :=
  match ws.entryAt false path with
  | .ok (l, _) => .ok { ws with files := ws.files.erase l }
  | .error r => .error ⟨r, path⟩

end Workspace

end SourceAtlas
