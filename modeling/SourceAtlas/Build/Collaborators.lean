import SourceAtlas.Diagnostic.Log
import SourceAtlas.Discovery
import SourceAtlas.Document.Describe

/-!
# Collaborators of a build

A build has files collected and described by collaborators, which keep a state of their own from one
run to the next.  They may fail in any way; they do not change files.  The standard collaborators
collect files from the file system and describe them in a document.
-/

namespace SourceAtlas

/-- What a collaborator answers: its state after the call, what it logged, and the result. -/
structure Answer (σ α : Type) where
  state : σ
  log : List LogEntry := []
  outcome : Except Fault α

/-- What a collaborator answers that describes files, with what it signalled before. -/
structure Telling (σ α : Type) extends Answer σ α where
  signals : List Signal := []

/-- The collaborators of a build.  In the order of their use: files are selected and collected, their
common directory is found, the description is prepared for an earlier document and a root, and the
files are described. -/
structure Collaborators (σ : Type) where
  select : σ → Workspace → Selection → Answer σ Unit
  files : σ → Workspace → Answer σ (List Path)
  root : σ → Workspace → Answer σ Path
  prepare : σ → Workspace → Description → Path → Path → Answer σ Unit
  describe : σ → Workspace → Bool → Telling σ Text

/-- The state of the standard collaborators. -/
structure Equipment where
  collection : Collection := {}
  describer : Describer
  deriving DecidableEq, Repr

namespace Equipment

/-- The equipment of a new build: paths start from the working directory until a root is given. -/
def new (ws : Workspace) : Equipment := { describer := { root := Location.path ws.workingDirectory } }

/-- Selects files. -/
def select (e : Equipment) (s : Selection) : Answer Equipment Unit :=
  { state := { e with collection := e.collection.configure s }, outcome := .ok () }

/-- Collects the files. -/
def files (e : Equipment) (ws : Workspace) : Answer Equipment (List Path) :=
  let (collection, harvest) := e.collection.files ws
  { state := { e with collection }
    log := Component.discovery.entries harvest.log
    outcome := harvest.outcome }

/-- The directory that holds all files. -/
def root (e : Equipment) (ws : Workspace) : Answer Equipment Path :=
  let (collection, log, outcome) := e.collection.root ws
  { state := { e with collection }, log := Component.discovery.entries log, outcome }

/-- Prepares the description. -/
def prepare (e : Equipment) (d : Description) (earlier root : Path) : Answer Equipment Unit :=
  { state := { e with describer := ⟨d, some earlier, root⟩ }, outcome := .ok () }

/-- Describes the files. -/
def describe (e : Equipment) (ws : Workspace) (includeSource : Bool) : Telling Equipment Text :=
  let collected := e.files ws
  match collected.outcome with
  | .error f => { state := collected.state, log := collected.log, outcome := .error f }
  | .ok files =>
    let described := e.describer.describe ws includeSource files
    { state := collected.state
      log := collected.log ++ Component.description.entries described.log
      outcome := described.outcome
      signals := described.signals }

end Equipment

/-- The standard collaborators. -/
def Collaborators.standard : Collaborators Equipment :=
  { select := fun e _ s => e.select s
    files := Equipment.files
    root := Equipment.root
    prepare := fun e _ d earlier root => e.prepare d earlier root
    describe := Equipment.describe }

end SourceAtlas
