import SourceAtlas.Proofs.Params.Items

/-!
# Fields and their checks

Every declared field has a kind, and its kind decides what is wrong with a value.  Checking parameters
gathers what is wrong with the fields in their order and then the unknown fields; if that is nothing, it
gives the values that the checks make of the parameters.
-/

namespace SourceAtlas.Config

open Text

/-- The kinds of fields. -/
inductive FieldKind
  | text
  | trimmed
  | packageName
  | flag
  | list
  | extensions
  | visibility
  deriving DecidableEq, Repr

/-- A declared field. -/
structure Field where
  name : String
  kind : FieldKind
  deriving DecidableEq, Repr

/-- The declared fields, in the order of their declaration. -/
def fields : List Field :=
  [⟨"target", .text⟩, ⟨"filename", .list⟩, ⟨"directory", .list⟩, ⟨"extensions", .extensions⟩,
    ⟨"ignore", .list⟩, ⟨"ignore_tags", .list⟩, ⟨"hidden", .flag⟩, ⟨"ignore_symlinks", .flag⟩,
    ⟨"markers", .list⟩, ⟨"title", .trimmed⟩, ⟨"force", .flag⟩, ⟨"validate_files", .flag⟩,
    ⟨"visibility", .visibility⟩, ⟨"defaultpackagename", .packageName⟩, ⟨"sourcecode", .flag⟩,
    ⟨"progressbar", .flag⟩, ⟨"verbose", .flag⟩]

/-- The fields are those by which unknown parameters are told. -/
theorem map_name_fields : fields.map (·.name) = fieldNames := rfl

/-- What a check finds wrong with a value. -/
def causeOf {α : Type} (check : Value → Except Cause α) (v : Value) : Option Cause :=
  match check v with
  | .ok _ => none
  | .error cause => some cause

theorem causeOf_eq_none_iff {α : Type} {check : Value → Except Cause α} {v : Value} :
    causeOf check v = none ↔ ∃ a, check v = .ok a := by
  unfold causeOf
  cases check v with
  | ok a => simp
  | error cause => simp

/-- What is wrong with a value of a field. -/
def FieldKind.cause? : FieldKind → Value → Option Cause
  | .text => causeOf checkText
  | .trimmed => causeOf checkTrimmed
  | .packageName => causeOf checkPackageName
  | .flag => causeOf checkFlag
  | .list => causeOf checkList
  | .extensions => causeOf checkExtensions
  | .visibility => causeOf checkVisibility

/-- The issue of a field, if its parameter is given and wrong. -/
def issue? (params : Params) (name : String) (cause? : Value → Option Cause) : Option Issue :=
  (valueOf? params name.toList).bind fun v => (cause? v).map fun cause => ⟨name.toList, cause, v⟩

/-- What is wrong with parameters. -/
def issuesOf (params : Params) : List Issue :=
  fields.flatMap (fun f => (issue? params f.name f.kind.cause?).toList) ++ unknownFields params

/-- The values that the checks make of parameters. -/
def read (params : Params) : Config :=
  let base : Config := {}
  { target := (checked params "target" base.target checkText).value
    filename := (checked params "filename" base.filename checkList).value
    directory := (checked params "directory" base.directory checkList).value
    extensions := (checked params "extensions" base.extensions checkExtensions).value
    ignore := (checked params "ignore" base.ignore checkList).value
    ignoreTags := (checked params "ignore_tags" base.ignoreTags checkList).value
    hidden := (checked params "hidden" base.hidden checkFlag).value
    ignoreSymlinks := (checked params "ignore_symlinks" base.ignoreSymlinks checkFlag).value
    markers := (checked params "markers" base.markers checkList).value
    title := (checked params "title" base.title checkTrimmed).value
    force := (checked params "force" base.force checkFlag).value
    validateFiles := (checked params "validate_files" base.validateFiles checkFlag).value
    visibility := (checked params "visibility" base.visibility checkVisibility).value
    defaultPackageName :=
      (checked params "defaultpackagename" base.defaultPackageName checkPackageName).value
    sourceCode := (checked params "sourcecode" base.sourceCode checkFlag).value
    progressBar := (checked params "progressbar" base.progressBar checkFlag).value
    verbose := (checked params "verbose" base.verbose checkFlag).value }

theorem issues_checked {α : Type} (params : Params) (name : String) (default : α)
    (check : Value → Except Cause α) :
    (checked params name default check).issues = (issue? params name (causeOf check)).toList := by
  unfold checked issue? causeOf
  cases valueOf? params name.toList with
  | none => rfl
  | some v =>
      dsimp only [Option.bind_some]
      cases check v <;> rfl

theorem ofParams_eq (params : Params) :
    ofParams params =
      if issuesOf params = [] then .ok (read params) else .error (issuesOf params) := by
  unfold ofParams
  extract_lets base target filename directory extensions ignore ignoreTags hidden ignoreSymlinks
    markers title force validateFiles visibility packageName sourceCode progressBar verbose issues
  have hissues : issues = issuesOf params := by
    simp only [issues, target, filename, directory, extensions, ignore, ignoreTags, hidden,
      ignoreSymlinks, markers, title, force, validateFiles, visibility, packageName, sourceCode,
      progressBar, verbose, issues_checked, issuesOf, fields, List.flatMap_cons, List.flatMap_nil,
      FieldKind.cause?, List.append_assoc, List.append_nil]
  rw [hissues]
  simp only [List.isEmpty_iff]
  rfl

variable {params : Params} {c : Config}

theorem ofParams_eq_ok_iff : ofParams params = .ok c ↔ issuesOf params = [] ∧ read params = c := by
  rw [ofParams_eq]
  split
  · next h => simp [h]
  · next h => simp [h]

theorem ofParams_eq_error_iff {issues : List Issue} :
    ofParams params = .error issues ↔ issues ≠ [] ∧ issuesOf params = issues := by
  rw [ofParams_eq]
  split
  · next h => simp [h, eq_comm]
  · next h =>
      rw [Except.error.injEq]
      exact ⟨fun heq => ⟨heq ▸ h, heq⟩, fun heq => heq.2⟩

/-- Nothing is wrong exactly if no field has an issue and all fields are known. -/
theorem issuesOf_eq_nil_iff :
    issuesOf params = [] ↔ (∀ f ∈ fields, issue? params f.name f.kind.cause? = none) ∧
      unknownFields params = [] := by
  rw [issuesOf, List.append_eq_nil_iff, List.flatMap_eq_nil_iff]
  simp only [Option.toList_eq_nil_iff]

end SourceAtlas.Config
