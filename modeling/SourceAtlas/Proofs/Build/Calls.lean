import SourceAtlas.Proofs.Build.Endings
import SourceAtlas.Proofs.Targets

/-!
# Calls of an orchestrator

A call is an orchestrator in some state, a workspace and what is asked for.  Whatever the earlier
calls did, it is a build that comes to its end in one of the ways.
-/

namespace SourceAtlas

open Text

/-- A call of an orchestrator: its state and the workspace at that moment, and what is asked for. -/
structure Call (σ : Type) where
  orchestrator : Orchestrator σ
  workspace : Workspace
  colored : Bool
  options : BuildOptions

namespace Call

variable {σ : Type} (c : Call σ)

/-- The orchestrator after the call, the run that it made, and what that came to. -/
def execute : Orchestrator σ × Step σ Product :=
  c.orchestrator.execute c.colored c.workspace c.options

/-- The orchestrator after the call. -/
def after : Orchestrator σ := c.execute.1

/-- The workspace that the call leaves. -/
def left : Workspace := c.execute.2.1.workspace

/-- The call leaves the display of its progress open. -/
def displayOpen : Bool := c.execute.2.1.reporter.displayOpen

/-- What the call came to. -/
def outcome : Except Fault Product := c.execute.2.2

/-- What became of the request for a target. -/
def resolution : Resolution := c.orchestrator.rules.resolve c.workspace c.options.target

/-- A collaborator raises a fault in a phase of the call, for the path of a document. -/
def Raises (document : Path) (p : Phase) (f : Fault) : Prop :=
  SourceAtlas.Raises c.orchestrator.collaborators c.orchestrator.equipment c.resolution.workspace
    c.options document p f

/-- The collaborators describe the files of the call, for the path of a document, with a content. -/
def Describes (document : Path) (content : Text) : Prop :=
  ∃ files root, SourceAtlas.Describes c.orchestrator.collaborators c.orchestrator.equipment
    c.resolution.workspace c.options document files root content

/-- The call is a build that came to its end in one of the ways. -/
theorem exists_remains : ∃ remains,
    Ends c.orchestrator.collaborators c.orchestrator.rules c.orchestrator.equipment c.workspace
      c.options remains ∧
    c.after.phase = remains.phase ∧ c.after.result = remains.result ∧
    c.left = remains.workspace ∧ c.displayOpen = remains.displayOpen ∧
    c.outcome = remains.outcome :=
  ⟨_, ends_build c.orchestrator.collaborators c.orchestrator.rules c.colored c.workspace
    c.orchestrator.equipment c.options, rfl, rfl, rfl, rfl, rfl⟩

theorem gainsDirectories_resolution : c.workspace.GainsDirectories c.resolution.workspace :=
  c.orchestrator.rules.gainsDirectories_resolve c.workspace c.options.target

end Call

end SourceAtlas
