import SourceAtlas.Failure
import SourceAtlas.FileSystem.Home
import SourceAtlas.Glob.Ignore
import SourceAtlas.Glob.Search
import SourceAtlas.Options
import SourceAtlas.Text.Lower

/-!
# Collecting source files

Files are selected one by one through patterns, or by walking directories.  A walk leaves out hidden
entries, ignored entries and files of other kinds; it follows links to directories only when asked
to, and the limit on links in a look-up bounds it even in a circle of links.  The collected files
are given by their real paths, each once and in ascending order.
-/

namespace SourceAtlas

open Text

namespace Selection

/-- The kinds of files that a walk collects: extensions in lower case without leading dots. -/
def kinds (s : Selection) : List Text :=
  s.extensions.map fun e => (lower e).dropWhile (· = '.')

/-- The kind of a file name. -/
def kindOf (p : Path) : Text := (lower p.suffix).dropWhile (· = '.')

/-- Whether a walk enters a directory. -/
def enters (s : Selection) (root directory : Path) : Bool :=
  (s.includeHidden || !Glob.isHidden directory.name) &&
    !Glob.ignores s.ignorePatterns directory root

/-- Whether a walk collects an entry that is no directory.  Unless it follows links, it must be able
to ask whether the entry is one. -/
def collects (s : Selection) (ws : Workspace) (root file : Path) : Except Fault Bool :=
  if !s.includeHidden && Glob.isHidden file.name then .ok false
  else
    let isLink := if s.followLinks then .ok false else (ws.denotesLink file.text).mapError .ofFile
    isLink.map fun isLink =>
      !isLink && s.kinds.contains (kindOf file) && !Glob.ignores s.ignorePatterns file root

/-- The entries of a directory that are no directories, and the directories in it that a walk
enters. -/
def visit (s : Selection) (ws : Workspace) (root directory : Path) : List Path × List Path :=
  match ws.entryAt true directory.text with
  | .ok (l, .directory) =>
    let isDir (n : Text) : Bool := ws.namesDirectory l n (directory.child n).text
    let names := ws.files.names l
    let inner := (names.filter isDir).map directory.child |>.filter (s.enters root)
    let entered := inner.mergeSort Path.le
    ((names.filter (!isDir ·)).map directory.child,
      entered.filter fun d => s.followLinks || !ws.isLink d.text)
  | _ => ([], [])

/-- The entries that a walk comes upon in a directory and below it, at most `depth` levels deep, the
directories apart. -/
def walk (s : Selection) (ws : Workspace) (root : Path) : Nat → Path → List Path
  | 0, directory => (s.visit ws root directory).1
  | depth + 1, directory =>
    let (files, directories) := s.visit ws root directory
    files ++ directories.flatMap (walk s ws root depth)

/-- No path without `.` and `..` has more names than this and leads to a directory: between two of
the links it crosses it only descends. -/
def depthLimit (ws : Workspace) : Nat :=
  (FileSystem.linkLimit + 1) * (ws.files.entries.length + 1)

end Selection

namespace Workspace

/-- The real path of a path, which is an error when only a circle of links leads there. -/
def realFile (ws : Workspace) (p : Path) : Except Fault Path :=
  match ws.realPath p.text with
  | .error r => .error (.ofFile ⟨r, p.text⟩)
  | .ok real =>
    match ws.stat real.text with
    | .error .tooManyLinks => .error (.linkCircle real.text)
    | _ => .ok real

end Workspace

/-- What was found so far, and what was logged on the way. -/
structure Harvest where
  log : List Text
  outcome : Except Fault (List Path)

namespace Selection

/-- The files of a pattern. -/
def filesOfPattern (s : Selection) (ws : Workspace) (pattern : Text) :
    Except Fault (List Path) := do
  let matched ← (Glob.find ws (ws.expandHome pattern)).mapError fun r => .ofFile ⟨r, pattern⟩
  let picked ← (matched.map Path.ofText).filterM fun path => do
    let isFile ← (ws.isKind Entry.isFile path.text).mapError .ofFile
    return isFile && !Glob.ignores s.ignorePatterns path path.parent
  picked.mapM ws.realFile

/-- The files of a directory. -/
def filesOfDirectory (s : Selection) (ws : Workspace) (directory : Text) : Harvest :=
  match ws.expandHomePath? (.ofText directory) with
  | none => ⟨[], .error .noHome⟩
  | some root =>
    match ws.isKind Entry.isDirectory root.text with
    | .error e => ⟨[], .error (.ofFile e)⟩
    | .ok false => ⟨["skipping missing directory ".toList ++ root.text], .ok []⟩
    | .ok true =>
      ⟨[], do
        let picked ← (s.walk ws root (depthLimit ws) root).filterM (s.collects ws root)
        picked.mapM ws.realFile⟩

/-- The files of several directories. -/
def filesOfDirectories (s : Selection) (ws : Workspace) : List Text → Harvest
  | [] => ⟨[], .ok []⟩
  | d :: ds =>
    match s.filesOfDirectory ws d with
    | ⟨log, .error f⟩ => ⟨log, .error f⟩
    | ⟨log, .ok files⟩ =>
      match s.filesOfDirectories ws ds with
      | ⟨more, .error f⟩ => ⟨log ++ more, .error f⟩
      | ⟨more, .ok rest⟩ => ⟨log ++ more, .ok (files ++ rest)⟩

/-- The files of all patterns. -/
def filesOfPatterns (s : Selection) (ws : Workspace) : List Text → Except Fault (List Path)
  | [] => .ok []
  | p :: ps => do
    let files ← s.filesOfPattern ws p
    let rest ← s.filesOfPatterns ws ps
    return files ++ rest

/-- The selected files, each once and in ascending order. -/
def collect (s : Selection) (ws : Workspace) : Harvest :=
  match s.filesOfPatterns ws s.files with
  | .error f => ⟨[], .error f⟩
  | .ok picked =>
    match s.filesOfDirectories ws s.directories with
    | ⟨log, .error f⟩ => ⟨log, .error f⟩
    | ⟨log, .ok walked⟩ =>
      let files := (picked ++ walked).eraseDups.mergeSort Path.le
      ⟨log ++ ["discovered ".toList ++ ofNat files.length ++ " files".toList], .ok files⟩

end Selection

/-- A collection of files: what is selected, and the files once they were looked for. -/
structure Collection where
  selection : Selection := {}
  found : Option (List Path) := none
  deriving DecidableEq, Repr

namespace Collection

/-- Selects anew, which forgets the files found before. -/
def configure (_ : Collection) (s : Selection) : Collection := ⟨s, none⟩

/-- The kinds of files that the collection takes from directories. -/
def kinds (c : Collection) : List Text := c.selection.kinds

/-- The files of the collection, which are looked for once. -/
def files (c : Collection) (ws : Workspace) : Collection × Harvest :=
  match c.found with
  | some files => (c, ⟨[], .ok files⟩)
  | none =>
    match c.selection.collect ws with
    | ⟨log, .ok files⟩ => ({ c with found := some files }, ⟨log, .ok files⟩)
    | harvest => (c, harvest)

/-- The longest common beginning of two lists. -/
def commonLead : List Text → List Text → List Text
  | a :: as, b :: bs => if a = b then a :: commonLead as bs else []
  | _, _ => []

/-- The deepest directory that holds all files; the working directory if there are none. -/
def commonDirectory (ws : Workspace) : List Path → Path
  | [] => Location.path ws.workingDirectory
  | p :: ps => ⟨.root, (ps.map (·.parent.names)).foldl commonLead p.parent.names⟩

/-- The deepest directory that holds all files of the collection. -/
def root (c : Collection) (ws : Workspace) : Collection × List Text × Except Fault Path :=
  let (c, harvest) := c.files ws
  (c, harvest.log, harvest.outcome.map (commonDirectory ws))

end Collection

end SourceAtlas
