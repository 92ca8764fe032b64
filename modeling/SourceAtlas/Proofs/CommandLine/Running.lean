import SourceAtlas.CommandLine.Run
import SourceAtlas.Proofs.Build.Reports
import SourceAtlas.Proofs.CommandLine.Parts
import SourceAtlas.Proofs.Diagnostic.Stripping

/-!
# Builds by arguments

A command that builds reads its flags and runs one build by them.  What that leaves behind is what the
program leaves behind; a fault is told by the exit code and by a line with its name and its message.
-/

namespace SourceAtlas

open Text

/-! ## Faults of a build -/

theorem Fault.exitCode_eq (f : Fault) : f.exitCode = if f.cls = .own .options then 2 else 1 := by
  obtain ⟨cls, message, cause⟩ := f
  cases cls with
  | own c => cases c <;> rfl
  | _ => rfl

theorem FailureClass.escape_not_mem_name (c : FailureClass) : Ansi.escape ∉ c.name := by
  cases c <;> decide

/-- The name of a failure of the build can be shown as it is. -/
theorem Fault.escape_not_mem_name {f : Fault} (h : f.isFailure = true ∨ f = nullFault) :
    Ansi.escape ∉ f.name := by
  rcases h with h | rfl
  · obtain ⟨cls, message, cause⟩ := f
    cases cls with
    | own c => exact c.escape_not_mem_name
    | _ => cases h
  · decide

namespace CommandLine

/-! ## The line of a fault -/

/-- A fault in one line: its name, marked and coloured, and its message.  Without colours no escape sequence
is shown. -/
def faultLine (colored : Bool) (name message : Text) : Text :=
  if colored then Ansi.paint .red ("✗ ".toList ++ name ++ [':']) ++ ' ' :: message ++ ['\n']
  else "✗ ".toList ++ name ++ ": ".toList ++ Ansi.strip message ++ ['\n']

theorem faultReport_eq (colored : Bool) {f : Fault} (h : Ansi.escape ∉ f.name) :
    faultReport colored false f = faultLine colored f.name f.message := by
  cases colored with
  | true => simp [faultReport, faultLine, shown]
  | false =>
      have hlabel : Ansi.escape ∉ "✗ ".toList ++ f.name ++ [':'] := by
        simp only [List.mem_append, not_or]
        exact ⟨⟨by decide, h⟩, by decide⟩
      have hspace : Ansi.escape ∉ [' '] := by decide
      have hmessage : Ansi.strip (' ' :: f.message ++ ['\n']) = ' ' :: Ansi.strip f.message ++ ['\n'] := by
        have hstrip := Ansi.strip_append_of_not_mem hspace (f.message ++ ['\n'])
        rw [Ansi.strip_append_newline, Ansi.strip_nil] at hstrip
        exact hstrip
      rw [faultReport]
      simp only [shown, Bool.false_eq_true, if_false]
      rw [List.append_assoc, Ansi.strip_paint_append, Ansi.strip_of_not_mem hlabel, hmessage]
      simp [faultLine]

/-! ## From arguments to a build -/

theorem scan_word {flags : List Flag} {word : Text} (h : isWord word = true) (rest : List Text) :
    scan flags false (word :: rest) = .ok ([], word :: rest) := by
  have hdashes : word ≠ ['-', '-'] := by
    rintro rfl
    cases h
  rw [scan, if_neg hdashes, if_pos h]
  rfl

theorem not_occurs_of_fits {flags : List Flag} {os : List Occurrence}
    (hfits : ∀ o ∈ os, o.Fits flags) {f : Flag} (hf : f ∉ flags) : occurs f os = false := by
  rw [occurs, List.any_eq_false]
  intro o ho heq
  exact hf (of_decide_eq_true heq ▸ (hfits o ho).mem)

/-- A command that builds runs a build by the flags in its arguments. -/
theorem run_build (s : Surroundings) (before : List (Part [debugFlag])) {name : Text}
    (hname : name = "parse".toList ∨ name = "project:parse".toList)
    (parts : List (Part buildFlags)) :
    run s (argumentsOf before ++ name :: argumentsOf parts) =
      runBuild s (occurs debugFlag (occurrencesOf before)) (occurrencesOf parts) := by
  obtain ⟨c, hcommand, hflags, hbuild⟩ : ∃ c, command? name = some c ∧
      c.flags = buildFlags ++ [helpFlag] ∧ c.action = .build := by
    rcases hname with rfl | rfl <;> exact ⟨_, rfl, rfl, rfl⟩
  have hword : isWord name = true := by rcases hname with rfl | rfl <;> rfl
  have hprogram : scan programFlags false (argumentsOf before ++ name :: argumentsOf parts) =
      .ok (occurrencesOf before, name :: argumentsOf parts) := by
    rw [show programFlags = [debugFlag] ++ [helpFlag] from rfl, ← argumentsOf_widen before [helpFlag],
      scan_parts, scan_word hword, occurrencesOf_widen]
    simp [Except.map]
  have hscan : scan c.flags true (argumentsOf parts) = .ok (occurrencesOf parts, []) := by
    rw [hflags, ← argumentsOf_widen parts [helpFlag], scan_argumentsOf, occurrencesOf_widen]
  have hhelp : occurs helpFlag (occurrencesOf before) = false :=
    not_occurs_of_fits (fits_occurrencesOf before) (by decide)
  have hhelp' : occurs helpFlag (occurrencesOf parts) = false :=
    not_occurs_of_fits (fits_occurrencesOf parts) (by decide)
  rw [run, if_neg (by simp), hprogram]
  simp only [hhelp, hcommand]
  rw [runCommand, hscan]
  simp [hhelp', hbuild]

/-! ## What a build leaves behind -/

section Build

variable {s : Surroundings} {debug : Bool} {os : List Occurrence}

theorem runBuild_leaves :
    (runBuild s debug os).workspace =
        (Report.ofParams s.colored s.workspace (paramsOf os)).workspace ∧
      (runBuild s debug os).out = (Report.ofParams s.colored s.workspace (paramsOf os)).shown := by
  unfold runBuild
  generalize Report.ofParams s.colored s.workspace (paramsOf os) = report
  dsimp only
  split <;> exact ⟨rfl, rfl⟩

theorem code_runBuild_of_ok {product : Product}
    (h : (Report.ofParams s.colored s.workspace (paramsOf os)).outcome = .ok product) :
    (runBuild s debug os).code = 0 := by
  unfold runBuild
  simp only [h]
  rfl

theorem runBuild_of_error {f : Fault}
    (h : (Report.ofParams s.colored s.workspace (paramsOf os)).outcome = .error f) :
    (runBuild s debug os).code = f.exitCode ∧
      (debug = false → (runBuild s debug os).err = faultReport s.colored false f) := by
  unfold runBuild
  simp only [h]
  refine ⟨trivial, ?_⟩
  rintro rfl
  rfl

end Build

end CommandLine

end SourceAtlas
