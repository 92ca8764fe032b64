import SourceAtlas.Failure
import SourceAtlas.Params.Config

/-!
# Requests

A request asks for a build by the few parameters that most builds need.  It translates into
parameters under their own names: a list that is not given is empty, and extensions and markers that
are not given are left out, so that they have their defaults.
-/

namespace SourceAtlas

open Text

/-- Nothing: no value, a no, zero, or an empty text, list, tuple or table. -/
def Value.isNothing : Value → Bool
  | .null => true
  | .flag b => !b
  | .integer n => n = 0
  | .real digits _ => digits = 0
  | .text t => t = []
  | .list items | .tuple items => items.isEmpty
  | .table entries => entries.isEmpty

/-- What a value consists of: a list or a tuple of its items, a text of its characters, a table of its keys.
Other values are not made of anything. -/
def Value.elements? : Value → Option (List Value)
  | .list items | .tuple items => some items
  | .text t => some (t.map fun c => .text [c])
  | .table entries => some (entries.map fun e => .text e.1)
  | _ => none

/-- The fault of a value that is not made of anything. -/
def Value.notIterable (v : Value) : Fault :=
  ⟨.type, ['\''] ++ v.kindName ++ "' object is not iterable".toList, none⟩

/-- The list of what a value consists of. -/
def Value.listed (v : Value) : Except Fault Value :=
  match v.elements? with
  | some items => .ok (.list items)
  | none => .error v.notIterable

/-- The list of what a value consists of, empty if the value is nothing. -/
def Value.listedOrEmpty (v : Value) : Except Fault Value :=
  if v.isNothing then .ok (.list []) else v.listed

/-- A request for a build. -/
structure Request where
  target : Value := .text "output".toList
  files : Value := .null
  directories : Value := .null
  extensions : Value := .null
  ignore : Value := .null
  markers : Value := .null
  title : Value := .text []
  force : Value := .flag false
  includeSource : Value := .flag false
  progressBar : Value := .flag false
  verbose : Value := .flag false
  deriving Repr

namespace Request

/-- A parameter that is left out when its value is not given. -/
def given (field : String) : Value → Except Fault Params
  | .null => .ok []
  | v => v.listed.map fun items => [(field.toList, items)]

/-- The parameters of a request. -/
def toParams (r : Request) : Except Fault Params := do
  let files ← r.files.listedOrEmpty
  let directories ← r.directories.listedOrEmpty
  let ignore ← r.ignore.listedOrEmpty
  let extensions ← given "extensions" r.extensions
  let markers ← given "markers" r.markers
  return [("target".toList, r.target), ("filename".toList, files),
    ("directory".toList, directories), ("ignore".toList, ignore), ("title".toList, r.title),
    ("force".toList, r.force), ("sourcecode".toList, r.includeSource),
    ("progressbar".toList, r.progressBar), ("verbose".toList, r.verbose)] ++ extensions ++ markers

end Request

end SourceAtlas
