import SourceAtlas.Path

/-!
# A file system as a value

A file system is a finite map from locations to entries.  A location is the list of names that lead
from the root to an entry, without links; a link stores the text of its target.  A workspace adds
the working directory and the home directories of users.
-/

namespace SourceAtlas

/-- The names that lead from the root to a place. -/
abbrev Location := List Text

/-- What stands at a location. -/
inductive Entry
  | directory
  | file (content : Bytes)
  | link (target : Text)
  deriving DecidableEq, Repr

/-- A directory. -/
def Entry.isDirectory : Entry → Bool
  | .directory => true
  | _ => false

/-- A regular file. -/
def Entry.isFile : Entry → Bool
  | .file _ => true
  | _ => false

/-- A link. -/
def Entry.isLink : Entry → Bool
  | .link _ => true
  | _ => false

/-- The entries of a file system, the root apart, in the order of their creation. -/
structure FileSystem where
  entries : List (Location × Entry)
  deriving DecidableEq, Repr

namespace FileSystem

/-- The entry at a location; the root is always a directory. -/
def get? (fs : FileSystem) (l : Location) : Option Entry :=
  match l with
  | [] => some .directory
  | _ => (fs.entries.find? (·.1 = l)).map (·.2)

/-- Sets the entry at a location in a list of entries. -/
def setEntry (l : Location) (e : Entry) : List (Location × Entry) → List (Location × Entry)
  | [] => [(l, e)]
  | old :: rest => if old.1 = l then (l, e) :: rest else old :: setEntry l e rest

/-- The file system with an entry at a location. -/
def put (fs : FileSystem) (l : Location) (e : Entry) : FileSystem :=
  ⟨setEntry l e fs.entries⟩

/-- The file system without a location and all below it. -/
def erase (fs : FileSystem) (l : Location) : FileSystem :=
  ⟨fs.entries.filter fun p => !l.isPrefixOf p.1⟩

/-- The names in a directory. -/
def names (fs : FileSystem) (l : Location) : List Text :=
  fs.entries.filterMap fun p =>
    match p.1.getLast? with
    | some name => if p.1.dropLast = l then some name else none
    | none => none

theorem find?_setEntry_self (l : Location) (e : Entry) (es : List (Location × Entry)) :
    (setEntry l e es).find? (·.1 = l) = some (l, e) := by
  induction es with
  | nil => simp [setEntry]
  | cons p ps ih =>
      by_cases h : p.1 = l
      · simp [setEntry, h]
      · simp [setEntry, h, ih]

theorem find?_setEntry_of_ne {l m : Location} (hne : m ≠ l) (e : Entry)
    (es : List (Location × Entry)) :
    (setEntry l e es).find? (·.1 = m) = es.find? (·.1 = m) := by
  induction es with
  | nil => simp [setEntry, hne.symm]
  | cons p ps ih =>
      by_cases h : p.1 = l
      · have hm : ¬ l = m := fun h' => hne h'.symm
        simp [setEntry, h, hm]
      · by_cases h' : p.1 = m
        · have hml : ¬ m = l := hne
          simp [setEntry, h', hml]
        · simp [setEntry, h, h', ih]

/-- A location holds the entry that was put there. -/
theorem get?_put_self {l : Location} (h : l ≠ []) (fs : FileSystem) (e : Entry) :
    (fs.put l e).get? l = some e := by
  cases l with
  | nil => exact absurd rfl h
  | cons n ns => simp [get?, put, find?_setEntry_self]

/-- Other locations hold what they held before. -/
theorem get?_put_of_ne {l m : Location} (h : m ≠ l) (fs : FileSystem) (e : Entry) :
    (fs.put l e).get? m = fs.get? m := by
  cases m with
  | nil => simp [get?]
  | cons n ns => simp [get?, put, find?_setEntry_of_ne h]

end FileSystem

/-- A file system seen by someone who runs a build.  The home directories are listed under the names
of their users, the own one under the empty name. -/
structure Workspace where
  files : FileSystem
  workingDirectory : Location
  homes : List (Text × Text)
  deriving DecidableEq, Repr

/-- The absolute path of a location. -/
def Location.path (l : Location) : Path := ⟨.root, l⟩

/-- The text of a location. -/
def Location.text (l : Location) : Text := '/' :: Text.join ['/'] l

@[simp] theorem Location.text_path (l : Location) : l.path.text = l.text := rfl

theorem Location.path_injective {l m : Location} (h : l.path = m.path) : l = m :=
  congrArg Path.names h

end SourceAtlas
