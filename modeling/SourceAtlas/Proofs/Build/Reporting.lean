import SourceAtlas.Proofs.Build.Calls
import SourceAtlas.Proofs.Build.Standard

/-!
# Reporting

How a build reports, whether it validates, and whether it shows colours decides what is shown and
nothing else.  Validation decodes the same text and adds events, so it changes no element; the
fingerprint and the earlier document do not depend on it.
-/

namespace SourceAtlas

open Text Xml

/-- The description that validates or not. -/
def Description.validating (s : Description) (validate : Bool) : Description :=
  { s with validate }

theorem Description.fileElement_validating (s : Description) (validate includeSource : Bool)
    (path : Text) (bytes : Bytes) :
    ((s.validating validate).fileElement includeSource path bytes).1 =
      (s.fileElement includeSource path bytes).1 := rfl

namespace Describer

variable {d : Describer} {ws : Workspace} {validate includeSource : Bool} {previous : Previous}
  {files : List Path}

/-- The describer that validates or not. -/
def validating (d : Describer) (validate : Bool) : Describer :=
  { d with description := d.description.validating validate }

theorem itemOf_validating (file : Path) (bytes : Bytes) :
    ((d.validating validate).itemOf includeSource previous file bytes).1 =
      (d.itemOf includeSource previous file bytes).1 := by
  have hshown : (d.validating validate).shownPath file = d.shownPath file := rfl
  cases h : previous.unchanged? (d.shownPath file) (Md5.hexDigest bytes) with
  | none =>
      rw [itemOf_of_none h, itemOf_of_none (hshown ▸ h)]
      exact congrArg (Item.mk none)
        (d.description.fileElement_validating validate includeSource _ bytes)
  | some entry => rw [itemOf_of_some h, itemOf_of_some (hshown ▸ h)]

/-- One file after the other, the items are the same. -/
theorem itemsOf_validating :
    ((d.validating validate).itemsOf ws includeSource previous files).outcome =
      (d.itemsOf ws includeSource previous files).outcome := by
  induction files with
  | nil => rfl
  | cons file files ih =>
      rw [itemsOf, itemsOf]
      cases ws.read file.text with
      | error e => rfl
      | ok bytes =>
          simp only
          rw [ih, itemOf_validating]

theorem project_validating :
    (d.validating validate).project ws includeSource files = d.project ws includeSource files := by
  have hload : (d.validating validate).load ws
      ((d.validating validate).description.fingerprint includeSource) =
        d.load ws (d.description.fingerprint includeSource) := rfl
  simp only [project, hload]
  cases d.load ws (d.description.fingerprint includeSource) with
  | error f => rfl
  | ok loading =>
      simp only
      rw [itemsOf_validating]
      rfl

theorem describe_validating :
    ((d.validating validate).describe ws includeSource files).outcome =
      (d.describe ws includeSource files).outcome := by
  rw [describe_outcome, describe_outcome, project_validating]

end Describer

/-- The options with another way to report, and with validation or without. -/
def BuildOptions.reportingAs (o : BuildOptions) (reporting : Reporting) (validate : Bool) :
    BuildOptions :=
  { o with reporting, description := o.description.validating validate }

variable {o : BuildOptions} {reporting : Reporting} {validate : Bool}

theorem parsedIn_reportingAs (target : Target) (ws : Workspace) :
    parsedIn (o.reportingAs reporting validate) target ws = parsedIn o target ws := by
  have hcollect : (o.reportingAs reporting validate).selection.collect ws = o.selection.collect ws :=
    rfl
  have hprepared : ∀ files, preparedDescriber (o.reportingAs reporting validate) target ws files =
      (preparedDescriber o target ws files).validating validate := fun _ => rfl
  have hinclude : (o.reportingAs reporting validate).description.includeSource =
      o.description.includeSource := rfl
  simp only [parsedIn, hcollect, hprepared, hinclude, Describer.describe_validating]

theorem resultOf_reportingAs (rules : TargetRules) (ws : Workspace) :
    resultOf rules ws (o.reportingAs reporting validate) = resultOf rules ws o := by
  have hresolve : rules.resolve ws (o.reportingAs reporting validate).target =
      rules.resolve ws o.target := rfl
  simp only [resultOf, hresolve, parsedIn_reportingAs]

end SourceAtlas
