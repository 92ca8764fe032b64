import SourceAtlas.Build.Orchestrator
import SourceAtlas.Params.Request

/-!
# Builds by parameters

A build by parameters checks them and then runs with the standard collaborators.  If a parameter is
wrong there is no run: nothing is shown, logged or written.
-/

namespace SourceAtlas

/-- What a build leaves behind: the workspace, what the operator was shown, what was logged, and the
product or the fault. -/
structure Report where
  workspace : Workspace
  shown : Text := []
  log : List LogEntry := []
  outcome : Except Fault Product

/-- The failure that wrong parameters are. -/
def Config.failure (issues : List Config.Issue) : Fault :=
  .failure .options ("Invalid parse options: ".toList ++ Config.issuesMessage issues)
    (some ⟨.validation, Config.issuesMessage issues, none⟩)

namespace Report

/-- A build that did not begin. -/
def refused (ws : Workspace) (f : Fault) : Report := { workspace := ws, outcome := .error f }

/-- A build with the standard collaborators. -/
def ofOptions (colored : Bool) (ws : Workspace) (o : BuildOptions) : Report :=
  let orchestrator : Orchestrator Equipment :=
    { collaborators := .standard, equipment := .new ws }
  let (_, r, outcome) := orchestrator.execute colored ws o
  { workspace := r.workspace, shown := r.reporter.written, log := r.log, outcome }

/-- A build by parameters. -/
def ofParams (colored : Bool) (ws : Workspace) (params : Params) : Report :=
  match Config.ofParams params with
  | .ok c => ofOptions colored ws c.toOptions
  | .error issues => refused ws (Config.failure issues)

/-- A build by a request. -/
def ofRequest (colored : Bool) (ws : Workspace) (r : Request) : Report :=
  match r.toParams with
  | .ok params => ofParams colored ws params
  | .error f => refused ws f

end Report

end SourceAtlas
