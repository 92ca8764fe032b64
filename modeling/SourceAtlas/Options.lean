import SourceAtlas.Diagnostic.Reporter

/-!
# Options of a build

What to collect, how to describe it, how to report: the option tree of one build.
-/

namespace SourceAtlas

/-- Which files are collected. -/
structure Selection where
  files : List Text := []
  directories : List Text := []
  extensions : List Text := ["php".toList, "php3".toList, "phtml".toList]
  ignorePatterns : List Text := []
  includeHidden : Bool := false
  followLinks : Bool := true
  deriving DecidableEq, Repr

/-- How the collected files are described. -/
structure Description where
  title : Text := []
  force : Bool := false
  markers : List Text := ["TODO".toList, "FIXME".toList]
  ignoredTags : List Text := []
  validate : Bool := false
  visibility : List Text := []
  packageName : Text := "Default".toList
  includeSource : Bool := false
  deriving DecidableEq, Repr

/-- How the build reports. -/
structure Reporting where
  progressBar : Bool := false
  verbosity : Verbosity := .normal
  deriving DecidableEq, Repr

/-- The mode that a progress bar selects. -/
def Reporting.mode (r : Reporting) : Mode := if r.progressBar then .progress else .verbose

/-- All options of a build. -/
structure BuildOptions where
  target : Text := "output".toList
  selection : Selection := {}
  description : Description := {}
  reporting : Reporting := {}
  deriving DecidableEq, Repr

end SourceAtlas
