import SourceAtlas.FileSystem.Basic
import SourceAtlas.FileSystem.Error

/-!
# Looking up a path

A path is followed name by name.  A link on the way continues with the names of its target; a link
at the end only when the caller asks for it or a slash follows.  At most forty links are followed
in one look-up, so every look-up ends.
-/

namespace SourceAtlas

open Text

/-- Where a path leads: to an entry, to a name that is still free in a directory, or to a file or a
free name after which a slash asks for a directory. -/
inductive Place
  | found (l : Location) (e : Entry)
  | free (directory : Location) (name : Text)
  | barred (byFile : Bool)
  deriving DecidableEq, Repr

namespace FileSystem

/-- A look-up until its end or until the next link. -/
inductive Stage
  | arrived (p : Place)
  | failed (r : Reason)
  | detour (l : Location) (target : Text) (rest : List Text)
  deriving DecidableEq, Repr

/-- The longest name, in bytes. -/
def nameLimit : Nat := 255

/-- The bytes below which a whole path must stay. -/
def pathLimit : Nat := 4096

/-- How many links one look-up may follow. -/
def linkLimit : Nat := 40

/-- Follows names from a directory.  `follow` asks for the target of a link at the end, and
`dirOnly` accepts only a directory there. -/
def scan (fs : FileSystem) (follow dirOnly : Bool) (l : Location) : List Text → Stage
  | [] => .arrived (.found l .directory)
  | n :: ns =>
    if n = ['.'] then scan fs follow dirOnly l ns
    else if n = ['.', '.'] then scan fs follow dirOnly l.dropLast ns
    else if nameLimit < byteCount n then .failed .nameTooLong
    else
      let here := l ++ [n]
      match fs.get? here with
      | none =>
        if ns = [] then .arrived (if dirOnly then .barred false else .free l n)
        else .failed .missing
      | some .directory => scan fs follow dirOnly here ns
      | some (.file b) =>
        if ns = [] then .arrived (if dirOnly then .barred true else .found here (.file b))
        else .failed .notDirectory
      | some (.link target) =>
        if ns = [] && !dirOnly && !follow then .arrived (.found here (.link target))
        else .detour l target ns

/-- The names of a path, the empty ones left out. -/
def namesIn (t : Text) : List Text := (splitOn '/' t).filter (· ≠ [])

/-- Where the look-up of a text begins. -/
def startOf (t : Text) (l : Location) : Location := if t.head? = some '/' then [] else l

/-- Follows names, and at most `links` links. -/
def resolve (fs : FileSystem) (follow : Bool) :
    Nat → Bool → Location → List Text → Except Reason Place
  | links, dirOnly, l, names =>
    match scan fs follow dirOnly l names with
    | .arrived p => .ok p
    | .failed r => .error r
    | .detour origin target rest =>
      match links with
      | 0 => .error .tooManyLinks
      | links + 1 =>
        resolve fs follow links (if rest = [] then dirOnly || endsWith target ['/'] else dirOnly)
          (startOf target origin) (namesIn target ++ rest)

end FileSystem

namespace Workspace

open FileSystem

/-- A text that no path can be. -/
def hasNull (t : Text) : Bool := t.contains (Char.ofNat 0)

/-- Looks a path up. -/
def lookup (ws : Workspace) (follow dirOnly : Bool) (path : Text) : Except Reason Place :=
  if hasNull path then .error .nullCharacter
  else if path = [] then .error .missing
  else if pathLimit ≤ byteCount path then .error .nameTooLong
  else
    ws.files.resolve follow linkLimit dirOnly (startOf path ws.workingDirectory) (namesIn path)

/-- The entry that a path denotes, and where it is. -/
def entryAt (ws : Workspace) (follow : Bool) (path : Text) : Except Reason (Location × Entry) := do
  match ← ws.lookup follow (endsWith path ['/']) path with
  | .found l e => .ok (l, e)
  | .free .. | .barred false => .error .missing
  | .barred true => .error .notDirectory

/-- The entry that a path denotes, through links. -/
def stat (ws : Workspace) (path : Text) : Except Reason Entry :=
  (ws.entryAt true path).map (·.2)

/-- The entry that a path denotes, a link at its end as such. -/
def linkStat (ws : Workspace) (path : Text) : Except Reason Entry :=
  (ws.entryAt false path).map (·.2)

/-- Whether a path denotes something, perhaps a link that leads nowhere. -/
def hasEntry (ws : Workspace) (path : Text) : Bool := (ws.linkStat path).isOk

/-- Whether a path leads to something. -/
def leadsSomewhere (ws : Workspace) (path : Text) : Bool := (ws.stat path).isOk

/-- Whether a path leads to a directory. -/
def isDirectory (ws : Workspace) (path : Text) : Bool :=
  match ws.stat path with
  | .ok .directory => true
  | _ => false

/-- Whether a path denotes a link. -/
def isLink (ws : Workspace) (path : Text) : Bool :=
  match ws.linkStat path with
  | .ok (.link _) => true
  | _ => false

/-- Reasons that only say that a path does not lead to the kind of entry asked for. -/
def isAbsence : Reason → Bool
  | .missing | .notDirectory | .tooManyLinks | .nullCharacter => true
  | _ => false

/-- Whether the entry found for a path is of a kind.  Where there is none it is not; a path with a name
that is too long cannot be asked for. -/
def kindFound (kind : Entry → Bool) (path : Text) : Except Reason Entry → Except FileError Bool
  | .ok e => .ok (kind e)
  | .error r => if isAbsence r then .ok false else .error ⟨r, path⟩

/-- Asks whether the entry that a path leads to is of a kind. -/
def isKind (ws : Workspace) (kind : Entry → Bool) (path : Text) : Except FileError Bool :=
  kindFound kind path (ws.stat path)

/-- Asks whether a path denotes a link. -/
def denotesLink (ws : Workspace) (path : Text) : Except FileError Bool :=
  kindFound Entry.isLink path (ws.linkStat path)

/-- Whether a name in the directory at a location is that of a directory, or of a link to one.  The
directory itself tells what its entries are; only a link is followed, along the given path. -/
def namesDirectory (ws : Workspace) (l : Location) (name path : Text) : Bool :=
  match ws.files.get? (l ++ [name]) with
  | some .directory => true
  | some (.link _) => ws.isDirectory path
  | _ => false

/-- The content of the file that a path leads to. -/
def read (ws : Workspace) (path : Text) : Except FileError Bytes :=
  match ws.stat path with
  | .ok (.file content) => .ok content
  | .ok _ => .error ⟨.isDirectory, path⟩
  | .error r => .error ⟨r, path⟩

/-- The names in the directory that a path leads to. -/
def list (ws : Workspace) (path : Text) : Except Reason (List Text) :=
  match ws.entryAt true path with
  | .ok (l, .directory) => .ok (ws.files.names l)
  | .ok _ => .error .notDirectory
  | .error r => .error r

end Workspace

end SourceAtlas
