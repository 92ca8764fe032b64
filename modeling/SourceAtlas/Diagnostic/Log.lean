import SourceAtlas.Text.Basic

/-!
# Logging

Parts of a build log what they do, apart from what they report to the operator.
-/

namespace SourceAtlas

/-- The parts of a build that log. -/
inductive Component
  | run
  | target
  | discovery
  | description
  deriving DecidableEq, Repr

/-- The name under which a part logs. -/
def Component.name : Component → Text
  | .run => "doc_structure.application.use_cases".toList
  | .target => "doc_structure.application.target".toList
  | .discovery => "doc_structure.adapters.discovery".toList
  | .description => "doc_structure.adapters.parser".toList

/-- A logged message with the part that it comes from. -/
structure LogEntry where
  component : Component
  message : Text
  deriving DecidableEq, Repr

/-- The line of an entry. -/
def LogEntry.line (e : LogEntry) : Text :=
  "DEBUG ".toList ++ e.component.name ++ ": ".toList ++ e.message ++ ['\n']

/-- The entries of messages of one part. -/
def Component.entries (c : Component) (messages : List Text) : List LogEntry :=
  messages.map (⟨c, ·⟩)

end SourceAtlas
