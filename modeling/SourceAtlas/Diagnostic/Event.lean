import SourceAtlas.Text.Basic

/-!
# Diagnostic events

An event is a message with a priority, zero being the most severe.  The priority alone decides how
the event is styled and at which verbosity it is shown.
-/

namespace SourceAtlas

/-- A message of a run to its operator. -/
structure Event where
  message : Text
  priority : Int := 8
  deriving DecidableEq, Repr

/-- How much the operator wants to see. -/
inductive Verbosity
  | normal
  | verbose
  deriving DecidableEq, Repr

/-- How a line looks. -/
inductive Style
  | error
  | warning
  | plain
  deriving DecidableEq, Repr

/-- The least severe priority that is still shown. -/
def Verbosity.threshold : Verbosity → Int
  | .normal => 5
  | .verbose => 8

namespace Event

/-- The priority of an error in a source file. -/
def errorPriority : Int := 3

/-- The priority of a warning. -/
def warningPriority : Int := 4

/-- The priority of an information. -/
def infoPriority : Int := 6

/-- The priority of a detail. -/
def debugPriority : Int := 7

/-- Priority four is a warning and the more severe ones down to zero are errors. -/
def style (e : Event) : Style :=
  if e.priority = warningPriority then .warning
  else if 0 ≤ e.priority ∧ e.priority < warningPriority then .error
  else .plain

/-- Whether the event is shown at a verbosity. -/
def isShown (e : Event) (v : Verbosity) : Bool := e.priority ≤ v.threshold

end Event

end SourceAtlas
