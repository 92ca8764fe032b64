import SourceAtlas.Proofs.Params.Checking

/-!
# Parameters that checks take alike

Parameters may be written in different ways that come to the same: a default may be given or left out, and
a list may be cut up differently.  Such parameters give the same configuration, or issues that differ only in
the values that they quote.
-/

namespace SourceAtlas.Config

open Text

section Fields

variable {α : Type} {p q : Params} {name : String} {default : α} {check : Value → Except Cause α}

/-- What a check makes of a parameter, which need not be given. -/
def settled (default : α) (check : Value → Except Cause α) : Option Value → Except Cause α
  | none => .ok default
  | some v => check v

/-- A check makes the same of what two sets of parameters give to a field. -/
def AlikeAt (p q : Params) (name : String) (default : α) (check : Value → Except Cause α) : Prop :=
  settled default check (valueOf? p name.toList) = settled default check (valueOf? q name.toList)

theorem value_checked (params : Params) (name : String) (default : α)
    (check : Value → Except Cause α) :
    (checked params name default check).value =
      (settled default check (valueOf? params name.toList)).toOption.getD default := by
  unfold checked settled
  cases valueOf? params name.toList with
  | none => rfl
  | some v =>
      dsimp only
      cases check v <;> rfl

theorem AlikeAt.value (h : AlikeAt p q name default check) :
    (checked p name default check).value = (checked q name default check).value := by
  rw [value_checked, value_checked, show settled _ _ _ = settled _ _ _ from h]

/-- An issue as it is about the value that some parameters give to the field. -/
def Issue.about (i : Issue) (p : Params) : Issue :=
  { i with value := (valueOf? p i.field).getD i.value }

theorem AlikeAt.issue? (h : AlikeAt p q name default check) :
    issue? p name (causeOf check) = (issue? q name (causeOf check)).map (·.about p) := by
  unfold AlikeAt at h
  unfold Config.issue?
  cases hp : valueOf? p name.toList with
  | none =>
      cases hq : valueOf? q name.toList with
      | none => rfl
      | some w =>
          rw [hp, hq] at h
          rw [Option.bind_none, Option.bind_some, causeOf_eq_none_iff.mpr ⟨default, h.symm⟩]
          rfl
  | some v =>
      cases hq : valueOf? q name.toList with
      | none =>
          rw [hp, hq] at h
          rw [Option.bind_none, Option.bind_some, causeOf_eq_none_iff.mpr ⟨default, h⟩]
          rfl
      | some w =>
          rw [hp, hq] at h
          have hcause : causeOf check v = causeOf check w := by
            unfold causeOf
            rw [show check v = check w from h]
          rw [Option.bind_some, Option.bind_some, hcause, Option.map_map]
          congr 1
          funext cause
          simp [Issue.about, hp]

end Fields

/-- Parameters of which every check makes the same. -/
structure Alike (p q : Params) : Prop where
  target : AlikeAt p q "target" ({} : Config).target checkText
  filename : AlikeAt p q "filename" ({} : Config).filename checkList
  directory : AlikeAt p q "directory" ({} : Config).directory checkList
  extensions : AlikeAt p q "extensions" ({} : Config).extensions checkExtensions
  ignore : AlikeAt p q "ignore" ({} : Config).ignore checkList
  ignoreTags : AlikeAt p q "ignore_tags" ({} : Config).ignoreTags checkList
  hidden : AlikeAt p q "hidden" ({} : Config).hidden checkFlag
  ignoreSymlinks : AlikeAt p q "ignore_symlinks" ({} : Config).ignoreSymlinks checkFlag
  markers : AlikeAt p q "markers" ({} : Config).markers checkList
  title : AlikeAt p q "title" ({} : Config).title checkTrimmed
  force : AlikeAt p q "force" ({} : Config).force checkFlag
  validateFiles : AlikeAt p q "validate_files" ({} : Config).validateFiles checkFlag
  visibility : AlikeAt p q "visibility" ({} : Config).visibility checkVisibility
  defaultPackageName :
    AlikeAt p q "defaultpackagename" ({} : Config).defaultPackageName checkPackageName
  sourceCode : AlikeAt p q "sourcecode" ({} : Config).sourceCode checkFlag
  progressBar : AlikeAt p q "progressbar" ({} : Config).progressBar checkFlag
  verbose : AlikeAt p q "verbose" ({} : Config).verbose checkFlag
  unknown : unknownFields p = (unknownFields q).map (·.about p)

variable {p q : Params}

theorem Alike.read_eq (h : Alike p q) : read p = read q := by
  unfold read
  dsimp only
  rw [h.target.value, h.filename.value, h.directory.value, h.extensions.value, h.ignore.value,
    h.ignoreTags.value, h.hidden.value, h.ignoreSymlinks.value, h.markers.value, h.title.value,
    h.force.value, h.validateFiles.value, h.visibility.value, h.defaultPackageName.value,
    h.sourceCode.value, h.progressBar.value, h.verbose.value]

theorem Alike.issuesOf_eq (h : Alike p q) : issuesOf p = (issuesOf q).map (·.about p) := by
  simp only [issuesOf, fields, List.flatMap_cons, List.flatMap_nil, FieldKind.cause?, h.target.issue?,
    h.filename.issue?, h.directory.issue?, h.extensions.issue?, h.ignore.issue?, h.ignoreTags.issue?,
    h.hidden.issue?, h.ignoreSymlinks.issue?, h.markers.issue?, h.title.issue?, h.force.issue?,
    h.validateFiles.issue?, h.visibility.issue?, h.defaultPackageName.issue?, h.sourceCode.issue?,
    h.progressBar.issue?, h.verbose.issue?, h.unknown, List.map_append, List.map_nil,
    Option.toList_map]

/-- Parameters that are alike are accepted alike, and refused for the same causes. -/
theorem Alike.ofParams_eq (h : Alike p q) :
    ofParams p = (ofParams q).mapError (·.map (·.about p)) := by
  rw [Config.ofParams_eq, Config.ofParams_eq, h.read_eq, h.issuesOf_eq]
  by_cases hnil : issuesOf q = []
  · rw [hnil]
    rfl
  · rw [if_neg hnil, if_neg (by simpa using hnil)]
    rfl

end SourceAtlas.Config
