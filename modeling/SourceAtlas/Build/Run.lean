import SourceAtlas.Build.Collaborators
import SourceAtlas.Target

/-!
# A run of a build

A run goes through phases: it resolves the target, has files collected and the description prepared,
has the files described, and writes the document.  Only the last phase writes a file.  A run fails
with a failure of the build; faults of the collaborators become one.
-/

namespace SourceAtlas

open Text

/-- The phases of a run. -/
inductive Phase
  | initializing
  | resolvingTarget
  | configuring
  | parsing
  | persisting
  | done
  | failed
  deriving DecidableEq, Repr

/-- The name of a phase. -/
def Phase.name : Phase → Text
  | .initializing => "initializing".toList
  | .resolvingTarget => "resolving_target".toList
  | .configuring => "configuring".toList
  | .parsing => "parsing".toList
  | .persisting => "persisting".toList
  | .done => "done".toList
  | .failed => "failed".toList

/-- What a run that succeeds produces: where the document went, how many files it describes, and
its size. -/
structure Product where
  target : Target
  files : Nat
  bytes : Nat
  deriving DecidableEq, Repr

/-- The exit code of a run that succeeds. -/
def Product.exitCode (_ : Product) : Nat := 0

/-- The state of a run; `equipment` is that of its collaborators, and `result` is there once the run
is done. -/
structure Run (σ : Type) where
  workspace : Workspace
  equipment : σ
  reporter : Reporter
  log : List LogEntry := []
  phase : Phase := .initializing
  result : Option Product := none

/-- A run, and what a part of it came to. -/
abbrev Step (σ α : Type) := Run σ × Except Fault α

namespace Run

variable {σ : Type}

/-- Logs a message of the run itself. -/
def note (r : Run σ) (message : Text) : Run σ := { r with log := r.log ++ [⟨.run, message⟩] }

/-- Enters a phase. -/
def enter (r : Run σ) (p : Phase) : Run σ :=
  { r.note ("run state ".toList ++ r.phase.name ++ " -> ".toList ++ p.name) with phase := p }

/-- Writes a status text without ending the line. -/
def announce (r : Run σ) (t : Text) : Run σ := { r with reporter := r.reporter.write t }

/-- Writes a status line. -/
def report (r : Run σ) (t : Text) : Run σ := { r with reporter := r.reporter.writeLine t }

/-- Takes in what a collaborator answers. -/
def receive {α : Type} (r : Run σ) (a : Answer σ α) : Run σ :=
  { r with equipment := a.state, log := r.log ++ a.log }

/-- Passes signals on to the operator. -/
def hear (r : Run σ) (signals : List Signal) : Run σ :=
  { r with reporter := signals.foldl Reporter.receive r.reporter }

/-- Opens or closes the progress display. -/
def display (r : Run σ) (change : Reporter → Reporter) : Run σ :=
  { r with reporter := change r.reporter }

/-- The failure that a fault of a collaborator becomes. -/
def collaboratorFailure (f : Fault) : Fault := .failure .collaborator f.message (some f)

/-- Resolves the target.  Other faults than failures of the build leave the run as it is. -/
def resolveTarget (r : Run σ) (rules : TargetRules) (request : Text) : Step σ Target :=
  let r := r.enter .resolvingTarget
  let resolution := rules.resolve r.workspace request
  let r :=
    { r with
      workspace := resolution.workspace
      log := r.log ++ Component.target.entries resolution.log }
  match resolution.outcome with
  | .ok target => (r, .ok target)
  | .error f => (if f.isFailure then r.enter .failed else r, .error f)

/-- Selects and collects files and prepares their description; the answer is how many they are. -/
def callToConfigure (c : Collaborators σ) (r : Run σ) (o : BuildOptions) (earlier : Path) :
    Step σ Nat :=
  let selected := c.select r.equipment r.workspace o.selection
  let r := r.receive selected
  match selected.outcome with
  | .error f => (r, .error f)
  | .ok () =>
    let collected := c.files r.equipment r.workspace
    let r := r.receive collected
    match collected.outcome with
    | .error f => (r, .error f)
    | .ok files =>
      let rooted := c.root r.equipment r.workspace
      let r := r.receive rooted
      match rooted.outcome with
      | .error f => (r, .error f)
      | .ok root =>
        let prepared := c.prepare r.equipment r.workspace o.description earlier root
        let r := r.receive prepared
        (r, prepared.outcome.map fun () => files.length)

/-- Configures the collaborators.  Their own failures pass; other faults become one. -/
def configure (c : Collaborators σ) (r : Run σ) (o : BuildOptions) (earlier : Path) :
    Step σ Nat :=
  match callToConfigure c (r.enter .configuring) o earlier with
  | (r, .ok count) => (r, .ok count)
  | (r, .error f) =>
    if f.isFailure then (r.enter .failed, .error f)
    else
      ((r.note "collaborator configuration failed".toList).enter .failed,
        .error (collaboratorFailure f))

/-- The advice to an operator whose selection has no files. -/
def noFilesGuidance : Text :=
  "No parsable files were found, did you specify any using the -f or -d parameter?".toList

/-- Has the files described. -/
def parse (c : Collaborators σ) (r : Run σ) (o : BuildOptions) : Step σ Text :=
  let r := ((r.enter .parsing).report "OK".toList).report Reporter.progressLabel
  let told := c.describe r.equipment r.workspace o.description.includeSource
  let r := (r.receive told.toAnswer).hear told.signals
  let (r, outcome) : Step σ Text :=
    match told.outcome with
    | .ok content => (r, .ok content)
    | .error f =>
      let r := r.enter .failed
      if f.cls = .own .noFiles then
        (r, .error (.failure .noFiles noFilesGuidance (some f)))
      else (r.note "parsing collaborator failed".toList, .error (collaboratorFailure f))
  (r.display Reporter.finish, outcome)

/-- Writes the document. -/
def persist (r : Run σ) (target : Target) (files : Nat) (content : Text) : Step σ Product :=
  let path := target.document.text
  let r :=
    (r.enter .persisting).announce
      ("Storing ".toList ++ target.document.name ++ " in \"".toList ++ path ++ "\" .. ".toList)
  let data := Utf8.encode content
  match r.workspace.write path data with
  | .ok ws =>
    let r := (({ r with workspace := ws } : Run σ).report "OK".toList).enter .done
    let product : Product := ⟨target, files, data.length⟩
    ({ r with result := some product }, .ok product)
  | .error e =>
    if e.reason = .nullCharacter then (r, .error (.ofFile e))
    else
      (r.enter .failed,
        .error (.failure .notWritten
          ("Could not write \"".toList ++ path ++ "\": ".toList ++ e.reason.message)
          (some (.ofFile e))))

end Run

/-- A reporter for the given options, on an output that shows colours or not. -/
def Reporting.reporter (o : Reporting) (colored : Bool) : Reporter :=
  { mode := o.mode, verbosity := o.verbosity, colored }

/-- Builds a document: a whole run from a workspace and the state of the collaborators. -/
def build {σ : Type} (c : Collaborators σ) (rules : TargetRules) (colored : Bool) (ws : Workspace)
    (equipment : σ) (o : BuildOptions) : Step σ Product :=
  let r : Run σ := { workspace := ws, equipment, reporter := o.reporting.reporter colored }
  let r := r.announce "Initializing parser and collecting files .. ".toList
  match r.resolveTarget rules o.target with
  | (r, .error f) => (r, .error f)
  | (r, .ok target) =>
    match r.configure c o target.document with
    | (r, .error f) => (r, .error f)
    | (r, .ok count) =>
      match (r.display Reporter.start).parse c o with
      | (r, .error f) => (r, .error f)
      | (r, .ok content) => r.persist target count content

end SourceAtlas
