import SourceAtlas.Text.Basic

/-!
# Paths as they are written

A path is where it begins and the names after that, without the `.` and the empty names that its
text may hold; `..` stays, since what it denotes depends on links.  Nothing here looks at files.
-/

namespace SourceAtlas

open Text

/-- Where a path begins: at the working directory, at the root, or at the place that a path with
exactly two leading slashes denotes. -/
inductive Anchor
  | relative
  | root
  | doubled
  deriving DecidableEq, Repr

/-- The slashes that a path begins with. -/
def Anchor.text : Anchor → Text
  | .relative => []
  | .root => ['/']
  | .doubled => ['/', '/']

/-- The anchor that a text names. -/
def Anchor.ofText : Text → Anchor
  | '/' :: '/' :: '/' :: _ => .root
  | '/' :: '/' :: _ => .doubled
  | '/' :: _ => .root
  | _ => .relative

/-- A path as written. -/
structure Path where
  anchor : Anchor
  names : List Text
  deriving DecidableEq, Repr

namespace Path

/-- A name that leaves a path where it is. -/
def isIdle (name : Text) : Bool := name == [] || name == ['.']

/-- The names of a text between its slashes. -/
def namesOf (t : Text) : List Text := (splitOn '/' t).filter fun n => !isIdle n

/-- Reads a path. -/
def ofText (t : Text) : Path := ⟨Anchor.ofText t, namesOf t⟩

/-- The text of a path; the empty relative path is `.`. -/
def text (p : Path) : Text :=
  match p.anchor, p.names with
  | .relative, [] => ['.']
  | a, ns => a.text ++ join ['/'] ns

/-- The last name, or nothing. -/
def name (p : Path) : Text := p.names.getLast?.getD []

/-- The path without its last name. -/
def parent (p : Path) : Path := { p with names := p.names.dropLast }

/-- The path extended by a name. -/
def child (p : Path) (name : Text) : Path := { p with names := p.names ++ [name] }

/-- The path extended by another one, which takes over when it has an anchor of its own. -/
def append (p q : Path) : Path :=
  match q.anchor with
  | .relative => { p with names := p.names ++ q.names }
  | _ => q

/-- The part of a name from its last dot on, if the dot is neither its first nor its last
character. -/
def suffixOf (name : Text) : Text :=
  match splitOn '.' name with
  | [] => []
  | first :: rest =>
    match rest.getLast? with
    | none => []
    | some [] => []
    | some last => if rest.length = 1 && first = [] then [] else '.' :: last

/-- The suffix of the last name. -/
def suffix (p : Path) : Text := suffixOf p.name

/-- The path below `base`, when its names begin with those of `base`. -/
def relativeTo? (p base : Path) : Option Path :=
  if p.anchor = base.anchor && base.names.isPrefixOf p.names then
    some ⟨.relative, p.names.drop base.names.length⟩
  else none

/-- The names of a path for comparison, its anchor first. -/
def key (p : Path) : List Text :=
  match p.anchor with
  | .relative => p.names
  | a => a.text :: p.names

/-- The order of paths by their names. -/
def le (p q : Path) : Bool := listLe p.key q.key

end Path

end SourceAtlas
