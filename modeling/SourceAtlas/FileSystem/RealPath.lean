import SourceAtlas.FileSystem.Lookup

/-!
# Real paths

The real path of a text is absolute and free of links as far as the file system says so: names that
do not exist are kept, and a parent step takes the last name back.  Links that lead to themselves
end the search; what is left of the text is then appended as it is, so the path may begin with two
slashes.
-/

namespace SourceAtlas

open Text

namespace FileSystem

/-- The links on the way: each with the location it leads to, once that is known. -/
abbrev Trail := List (Location × Option Location)

/-- The path at the end of a search, and whether it came to its end without meeting a circle of
links. -/
structure Found where
  anchor : Anchor
  names : List Text
  complete : Bool
  deriving DecidableEq, Repr

/-- What is left of a text when a search breaks off is appended to a path; a text that begins with a
slash takes over. -/
def joinRest (anchor : Anchor) (names rest : List Text) : Found :=
  match rest with
  | [] => ⟨anchor, names, false⟩
  | [] :: _ :: _ => ⟨.ofText (join ['/'] rest), rest.filter (· ≠ []), false⟩
  | _ => ⟨anchor, names ++ rest.filter (· ≠ []), false⟩

@[simp] theorem complete_joinRest (anchor : Anchor) (names rest : List Text) :
    (joinRest anchor names rest).complete = false := by
  unfold joinRest
  split <;> rfl

/-- Follows the pieces of a text from a location.  `nested` does the same for the target of a
link. -/
def followPieces (fs : FileSystem)
    (nested : Location → List Text → Trail → Except Reason (Found × Trail))
    (l : Location) (trail : Trail) : List Text → Except Reason (Found × Trail)
  | [] => .ok (⟨.root, l, true⟩, trail)
  | n :: ns =>
    if n = [] ∨ n = ['.'] then followPieces fs nested l trail ns
    else if n = ['.', '.'] then followPieces fs nested l.dropLast trail ns
    else if n.contains (Char.ofNat 0) then .error .nullCharacter
    else
      let here := l ++ [n]
      match fs.get? here with
      | some (.link target) =>
        match trail.find? (·.1 = here) with
        | some (_, some known) => followPieces fs nested known trail ns
        | some (_, none) => .ok (joinRest .root here ns, trail)
        | none => do
          let (found, trail) ←
            nested (startOf target l) (splitOn '/' target) ((here, none) :: trail)
          if found.complete then
            followPieces fs nested found.names ((here, some found.names) :: trail) ns
          else .ok (joinRest found.anchor found.names ns, trail)
      | _ => followPieces fs nested here trail ns

/-- Follows pieces through links nested at most `depth` deep. -/
def followLinks (fs : FileSystem) :
    Nat → Location → List Text → Trail → Except Reason (Found × Trail)
  | 0, l, ns, trail =>
    followPieces fs (fun l ns trail => .ok (joinRest .root l ns, trail)) l trail ns
  | depth + 1, l, ns, trail => followPieces fs (followLinks fs depth) l trail ns

/-- Takes parent steps back in a list of names. -/
def collapse (done : Location) : List Text → Location
  | [] => done
  | n :: ns =>
    if n = ['.'] then collapse done ns
    else if n = ['.', '.'] then collapse done.dropLast ns
    else collapse (done ++ [n]) ns

end FileSystem

open FileSystem in
/-- The real path of a text. -/
def Workspace.realPath (ws : Workspace) (t : Text) : Except Reason Path := do
  let (found, _) ←
    ws.files.followLinks (ws.files.entries.length + 1) (startOf t ws.workingDirectory)
      (splitOn '/' t) []
  return ⟨found.anchor, collapse [] found.names⟩

end SourceAtlas
