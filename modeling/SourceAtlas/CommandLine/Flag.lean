import SourceAtlas.Text.Basic

/-!
# Flags

A flag of a command has a name, which is written after two dashes, and maybe a letter, which is
written after one.  An occurrence is a flag as it stands on a command line, with its value if it
takes one.
-/

namespace SourceAtlas.CommandLine

/-- How often a flag takes a value: never, once, or as often as it occurs. -/
inductive FlagKind
  | switch
  | single
  | repeated
  deriving DecidableEq, Repr

/-- A flag of a command; `field` is the parameter that it sets. -/
structure Flag where
  name : Text
  letter : Option Char
  kind : FlagKind
  field : Text
  help : Text
  deriving DecidableEq, Repr

namespace Flag

/-- A flag takes a value unless it is a switch. -/
def takesValue (f : Flag) : Bool := f.kind ≠ .switch

/-- The name of a flag as it is written. -/
def written (f : Flag) : Text := '-' :: '-' :: f.name

end Flag

/-- A flag on a command line, with its value if it takes one. -/
structure Occurrence where
  flag : Flag
  value : Option Text
  deriving DecidableEq, Repr

/-- The values of a flag, in the order of its occurrences. -/
def valuesOf (f : Flag) (occurrences : List Occurrence) : List Text :=
  (occurrences.filter (·.flag = f)).filterMap (·.value)

/-- A flag occurs. -/
def occurs (f : Flag) (occurrences : List Occurrence) : Bool := occurrences.any (·.flag = f)

end SourceAtlas.CommandLine
