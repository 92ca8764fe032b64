import SourceAtlas.Failure
import SourceAtlas.FileSystem.Change
import SourceAtlas.Text.Blank

/-!
# Where the document goes

A request for a target is either the path of the document itself, told by its suffix, or the path
of a directory, which is made when nothing stands there.  The directory of the document is given by
its real path and has to exist.
-/

namespace SourceAtlas

open Text

/-- A usable target: the path of the document and the directory that holds it. -/
structure Target where
  document : Path
  directory : Path
  deriving DecidableEq, Repr

/-- How requests are read: the name of a document in a directory, and the suffix that marks a
request as the path of a document. -/
structure TargetRules where
  filename : Text := "structure.xml".toList
  suffix : Text := ".xml".toList
  deriving DecidableEq, Repr

/-- What became of a request: the workspace after it, what was logged, and the target or why there
is none. -/
structure Resolution where
  workspace : Workspace
  log : List Text
  outcome : Except Fault Target

namespace TargetRules

/-- A target that cannot be used. -/
def refusal (message : Text) (cause : Option Fault := none) : Fault :=
  .failure .target message cause

/-- The document `name` in a directory, if the directory exists. -/
def finish (ws : Workspace) (log : List Text) (directory : Path) (name : Text) : Resolution :=
  let document := directory.append (.ofText name)
  let outcome :=
    match ws.stat directory.text with
    | .ok _ => .ok ⟨document, directory⟩
    | .error .nullCharacter => .error (.ofFile ⟨.nullCharacter, directory.text⟩)
    | .error _ => .error (refusal ("The given path \"".toList ++ document.text ++
        "\" either does not exist or is not writable.".toList))
  ⟨ws, log, outcome⟩

/-- The document in the directory that a path leads to. -/
def inDirectory (rules : TargetRules) (ws : Workspace) (log : List Text) (path : Text) :
    Resolution :=
  if ws.isDirectory path then
    match ws.realPath path with
    | .ok directory => finish ws log directory rules.filename
    | .error r => ⟨ws, log, .error (.ofFile ⟨r, path⟩)⟩
  else
    ⟨ws, log, .error (refusal ("The given location \"".toList ++ path ++
      "\" is not a folder".toList))⟩

/-- The document in a requested directory, which is made if nothing stands there. -/
def forDirectory (rules : TargetRules) (ws : Workspace) (path : Text) : Resolution :=
  if ws.hasEntry path then rules.inDirectory ws [] path
  else
    let log := ["creating target directory ".toList ++ path]
    match ws.makePath path with
    | (ws, none) => rules.inDirectory ws log path
    | (ws, some e) =>
      if e.reason = .nullCharacter then ⟨ws, log, .error (.ofFile e)⟩
      else
        ⟨ws, log, .error (refusal
          ("The given location \"".toList ++ path ++ "\" could not be created: ".toList ++
            e.message) (some (.ofFile e)))⟩

/-- The requested document. -/
def forDocument (ws : Workspace) (path : Text) : Resolution :=
  let (head, name) := splitPath path
  match ws.realPath (if head = [] then ['.'] else head) with
  | .ok directory => finish ws [] directory name
  | .error r => ⟨ws, [], .error (.ofFile ⟨r, path⟩)⟩

/-- Resolves a request. -/
def resolve (rules : TargetRules) (ws : Workspace) (request : Text) : Resolution :=
  let path := trim request
  if path = [] ∨ path = ['/'] then
    ⟨ws, [], .error (refusal
      ("Either an empty path or root was given: ".toList ++ path))⟩
  else if endsWith path rules.suffix then forDocument ws path
  else rules.forDirectory ws path

end TargetRules

end SourceAtlas
