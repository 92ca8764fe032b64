import SourceAtlas.Options
import SourceAtlas.Params.Value
import SourceAtlas.Text.Lower

/-!
# Validated configuration

The parameters of a build are checked field by field.  Every field that is wrong is reported once,
in the order in which the fields are declared, and after them every parameter that is no field.
A configuration translates into the option tree.
-/

namespace SourceAtlas

open Text

/-- Named parameters with their values. -/
abbrev Params := List (Text × Value)

/-- The checked parameters of a build. -/
structure Config where
  target : Text := "output".toList
  filename : List Text := []
  directory : List Text := []
  extensions : List Text := ["php".toList, "php3".toList, "phtml".toList]
  ignore : List Text := []
  ignoreTags : List Text := []
  hidden : Bool := false
  ignoreSymlinks : Bool := false
  markers : List Text := ["TODO".toList, "FIXME".toList]
  title : Text := []
  force : Bool := false
  validateFiles : Bool := false
  visibility : List Text := []
  defaultPackageName : Text := "Default".toList
  sourceCode : Bool := false
  progressBar : Bool := false
  verbose : Bool := false
  deriving DecidableEq, Repr

namespace Config

/-- What can be wrong with a parameter. -/
inductive Cause
  | notText
  | notFlag
  | unreadableFlag
  | notList
  | emptyExtension
  | unknownVisibility (names : List Text)
  | emptyPackageName
  | unknownField
  | notParams
  deriving DecidableEq, Repr

/-- A wrong parameter, with its value as it was given. -/
structure Issue where
  field : Text
  cause : Cause
  value : Value
  deriving Repr

/-- The levels of visibility. -/
def visibilityLevels : List Text := ["public".toList, "protected".toList, "private".toList]

/-- The short name of a cause. -/
def Cause.code : Cause → Text
  | .notText => "string_type".toList
  | .notFlag => "bool_type".toList
  | .unreadableFlag => "bool_parsing".toList
  | .notList | .emptyExtension | .unknownVisibility _ | .emptyPackageName => "value_error".toList
  | .unknownField => "extra_forbidden".toList
  | .notParams => "model_type".toList

/-- The cause in words. -/
def Cause.message : Cause → Text
  | .notText => "Input should be a valid string".toList
  | .notFlag => "Input should be a valid boolean".toList
  | .unreadableFlag => "Input should be a valid boolean, unable to interpret input".toList
  | .notList => "Value error, expected a string or a list of strings.".toList
  | .emptyExtension => "Value error, extensions cannot contain empty entries.".toList
  | .unknownVisibility names =>
    "Value error, unknown visibility ".toList ++ join ", ".toList names ++ "; use ".toList ++
      join ", ".toList visibilityLevels ++ ".".toList
  | .emptyPackageName => "Value error, default package name cannot be empty.".toList
  | .unknownField => "Extra inputs are not permitted".toList
  | .notParams => "Input should be a valid dictionary or instance of ParseCommandConfig".toList

/-! ## Checks of single values -/

/-- A text as it is. -/
def checkText : Value → Except Cause Text
  | .text t => .ok t
  | _ => .error .notText

/-- A text without white space at its ends. -/
def checkTrimmed (v : Value) : Except Cause Text := (checkText v).map trim

/-- A package name: a text that is not blank. -/
def checkPackageName (v : Value) : Except Cause Text := do
  let name ← checkTrimmed v
  if name = [] then .error .emptyPackageName else .ok name

/-- A yes or a no. -/
def checkFlag (v : Value) : Except Cause Bool :=
  match v.yesNo? with
  | some b => .ok b
  | none => .error (if v.isWholeOrText then .unreadableFlag else .notFlag)

/-- A list of items. -/
def checkList (v : Value) : Except Cause (List Text) :=
  match v.items? with
  | some items => .ok items
  | none => .error .notList

/-- An extension without its leading dots, in lower case. -/
def normalExtension (t : Text) : Text := lower (t.dropWhile (· == '.'))

/-- Extensions, none of which is empty once its leading dots are dropped. -/
def checkExtensions (v : Value) : Except Cause (List Text) := do
  let items ← checkList v
  let normal := items.map normalExtension
  if normal.contains [] then .error .emptyExtension else .ok normal

/-- The texts in ascending order, each one once. -/
def sortedSet (ts : List Text) : List Text := ts.eraseDups.mergeSort Text.le

/-- Levels of visibility, in any case. -/
def checkVisibility (v : Value) : Except Cause (List Text) := do
  let items ← checkList v
  let normal := items.map lower
  let unknown := normal.filter fun t => !visibilityLevels.contains t
  if unknown = [] then .ok normal else .error (.unknownVisibility (sortedSet unknown))

/-! ## Checking all parameters -/

/-- The value of a parameter that is given. -/
def valueOf? (params : Params) (field : Text) : Option Value :=
  (params.find? (·.1 = field)).map (·.2)

/-- A checked field: its value, and what is wrong with it if anything is. -/
structure Checked (α : Type) where
  value : α
  issues : List Issue

/-- Checks the parameter of a field; one that is not given has its default. -/
def checked {α : Type} (params : Params) (field : String) (default : α)
    (check : Value → Except Cause α) : Checked α :=
  match valueOf? params field.toList with
  | none => ⟨default, []⟩
  | some v =>
    match check v with
    | .ok a => ⟨a, []⟩
    | .error cause => ⟨default, [⟨field.toList, cause, v⟩]⟩

/-- The names of the fields in the order of their declaration. -/
def fieldNames : List String :=
  ["target", "filename", "directory", "extensions", "ignore", "ignore_tags", "hidden",
    "ignore_symlinks", "markers", "title", "force", "validate_files", "visibility",
    "defaultpackagename", "sourcecode", "progressbar", "verbose"]

/-- The parameters that are no field. -/
def unknownFields (params : Params) : List Issue :=
  (params.filter fun p => !(fieldNames.map String.toList).contains p.1).map fun p =>
    ⟨p.1, .unknownField, p.2⟩

/-- Checks the parameters of a build. -/
def ofParams (params : Params) : Except (List Issue) Config :=
  let base : Config := {}
  let target := checked params "target" base.target checkText
  let filename := checked params "filename" base.filename checkList
  let directory := checked params "directory" base.directory checkList
  let extensions := checked params "extensions" base.extensions checkExtensions
  let ignore := checked params "ignore" base.ignore checkList
  let ignoreTags := checked params "ignore_tags" base.ignoreTags checkList
  let hidden := checked params "hidden" base.hidden checkFlag
  let ignoreSymlinks := checked params "ignore_symlinks" base.ignoreSymlinks checkFlag
  let markers := checked params "markers" base.markers checkList
  let title := checked params "title" base.title checkTrimmed
  let force := checked params "force" base.force checkFlag
  let validateFiles := checked params "validate_files" base.validateFiles checkFlag
  let visibility := checked params "visibility" base.visibility checkVisibility
  let defaultPackageName :=
    checked params "defaultpackagename" base.defaultPackageName checkPackageName
  let sourceCode := checked params "sourcecode" base.sourceCode checkFlag
  let progressBar := checked params "progressbar" base.progressBar checkFlag
  let verbose := checked params "verbose" base.verbose checkFlag
  let issues :=
    target.issues ++ filename.issues ++ directory.issues ++ extensions.issues ++ ignore.issues ++
      ignoreTags.issues ++ hidden.issues ++ ignoreSymlinks.issues ++ markers.issues ++
      title.issues ++ force.issues ++ validateFiles.issues ++ visibility.issues ++
      defaultPackageName.issues ++ sourceCode.issues ++ progressBar.issues ++ verbose.issues ++
      unknownFields params
  if issues.isEmpty then
    .ok
      { target := target.value
        filename := filename.value
        directory := directory.value
        extensions := extensions.value
        ignore := ignore.value
        ignoreTags := ignoreTags.value
        hidden := hidden.value
        ignoreSymlinks := ignoreSymlinks.value
        markers := markers.value
        title := title.value
        force := force.value
        validateFiles := validateFiles.value
        visibility := visibility.value
        defaultPackageName := defaultPackageName.value
        sourceCode := sourceCode.value
        progressBar := progressBar.value
        verbose := verbose.value }
  else .error issues

/-- Checks a value that should hold the parameters of a build. -/
def ofValue : Value → Except (List Issue) Config
  | .table params => ofParams params
  | v => .error [⟨[], .notParams, v⟩]

/-- The configuration as parameters. -/
def toParams (c : Config) : Params :=
  let list (ts : List Text) : Value := .list (ts.map .text)
  [("target".toList, .text c.target), ("filename".toList, list c.filename),
    ("directory".toList, list c.directory), ("extensions".toList, list c.extensions),
    ("ignore".toList, list c.ignore), ("ignore_tags".toList, list c.ignoreTags),
    ("hidden".toList, .flag c.hidden), ("ignore_symlinks".toList, .flag c.ignoreSymlinks),
    ("markers".toList, list c.markers), ("title".toList, .text c.title),
    ("force".toList, .flag c.force), ("validate_files".toList, .flag c.validateFiles),
    ("visibility".toList, list c.visibility),
    ("defaultpackagename".toList, .text c.defaultPackageName),
    ("sourcecode".toList, .flag c.sourceCode), ("progressbar".toList, .flag c.progressBar),
    ("verbose".toList, .flag c.verbose)]

/-- The option tree of a configuration. -/
def toOptions (c : Config) : BuildOptions :=
  { target := c.target
    selection :=
      { files := c.filename
        directories := c.directory
        extensions := c.extensions
        ignorePatterns := c.ignore
        includeHidden := c.hidden
        followLinks := !c.ignoreSymlinks }
    description :=
      { title := c.title
        force := c.force
        markers := c.markers
        ignoredTags := c.ignoreTags
        validate := c.validateFiles
        visibility := c.visibility
        packageName := c.defaultPackageName
        includeSource := c.sourceCode }
    reporting :=
      { progressBar := c.progressBar
        verbosity := if c.verbose then .verbose else .normal } }

/-! ## Wording -/

/-- An issue in two lines: the field, then what is wrong with which value. -/
def Issue.message (i : Issue) : Text :=
  i.field ++ "\n  ".toList ++ i.cause.message ++ " [type=".toList ++ i.cause.code ++
    ", input_value=".toList ++ abbreviated i.value.literal ++ ", input_type=".toList ++
    i.value.kindName ++ "]".toList

/-- All issues in one message. -/
def issuesMessage (issues : List Issue) : Text :=
  join "\n".toList
    ((ofNat issues.length ++ " validation error".toList ++
      (if issues.length = 1 then [] else ['s']) ++ " for ParseCommandConfig".toList) ::
      issues.map Issue.message)

end Config

end SourceAtlas
