import SourceAtlas.Proofs.CommandLine.Calls
import SourceAtlas.Proofs.CommandLine.Running

/-!
# The program agrees with the call

A command line that is made of whole flags does what the call does that the flags stand for, and its exit
code tells how that ends.  So the flags may be written in another order, and all values of a repeated flag
may be joined into one.  The message of wrong parameters alone shows the difference: it quotes them as they
were written.
-/

namespace SourceAtlas.CommandLine

open Text

/-! ## The call that is made -/

/-- The message that is shown where the call for some flags ends with a fault: wrong parameters are quoted as
they were written. -/
def writtenMessage (os : List Occurrence) (f : Fault) : Text :=
  match Config.ofParams (callOf os) with
  | .ok _ => f.message
  | .error issues => (Config.failure (issues.map (·.about (paramsOf os)))).message

/-- A build by flags is the call that they stand for, apart from what the message of wrong parameters
quotes. -/
theorem ofParams_paramsOf {os : List Occurrence} (hfits : ∀ o ∈ os, o.Fits buildFlags)
    (colored : Bool) (ws : Workspace) :
    let call := Report.ofParams colored ws (callOf os)
    let report := Report.ofParams colored ws (paramsOf os)
    (report.workspace = call.workspace ∧ report.shown = call.shown) ∧
      (∀ product, report.outcome = .ok product ↔ call.outcome = .ok product) ∧
      ∀ f, call.outcome = .error f → ∃ f', report.outcome = .error f' ∧ f'.cls = f.cls ∧
        f'.message = writtenMessage os f := by
  intro call report
  have halike := alike_callOf hfits
  have hsame := Report.sameOutcome_of_alike halike colored ws
  refine ⟨⟨hsame.workspace, hsame.shown⟩, hsame.product, ?_⟩
  unfold writtenMessage
  simp only [call, report, Report.ofParams, halike.ofParams_eq]
  cases Config.ofParams (callOf os) with
  | ok c => exact fun f hf => ⟨f, hf, rfl, rfl⟩
  | error issues =>
      intro f hf
      obtain rfl := Except.error.inj hf
      exact ⟨_, rfl, rfl, rfl⟩

/-! ## Command lines for the same call -/

/-- The same occurrences in another order, in which those of one flag keep theirs. -/
def Rearranges (os os' : List Occurrence) : Prop :=
  ∀ f : Flag, os'.filter (·.flag = f) = os.filter (·.flag = f)

/-- All occurrences of a repeated flag joined into one, wherever that stands. -/
structure Merges (f : Flag) (os os' : List Occurrence) : Prop where
  kind : f.kind = .repeated
  occurs : CommandLine.occurs f os = true
  merged : os'.filter (·.flag = f) = [⟨f, some (join [','] (valuesOf f os))⟩]
  others : ∀ g : Flag, g ≠ f → os'.filter (·.flag = g) = os.filter (·.flag = g)

theorem occurs_eq (f : Flag) (os : List Occurrence) :
    occurs f os = !(os.filter (·.flag = f)).isEmpty := by
  rw [occurs, Bool.eq_iff_iff]
  simp [List.filter_eq_nil_iff]

theorem argumentOf?_of_filter_eq {f : Flag} {os os' : List Occurrence}
    (h : os'.filter (·.flag = f) = os.filter (·.flag = f)) : argumentOf? os' f = argumentOf? os f := by
  unfold argumentOf? valuesOf
  rw [occurs_eq, occurs_eq, h]

theorem callOf_congr {os os' : List Occurrence}
    (h : ∀ f ∈ buildFlags, argumentOf? os' f = argumentOf? os f) : callOf os' = callOf os :=
  List.filterMap_congr fun f hf => by rw [h f hf]

theorem callOf_of_rearranges {os os' : List Occurrence} (h : Rearranges os os') :
    callOf os' = callOf os :=
  callOf_congr fun f _ => argumentOf?_of_filter_eq (h f)

/-- Cutting at the commas undoes the joining. -/
theorem callOf_of_merges {f : Flag} {os os' : List Occurrence} (hfits : ∀ o ∈ os, o.Fits buildFlags)
    (h : Merges f os os') : callOf os' = callOf os := by
  refine callOf_congr fun g _ => ?_
  by_cases hg : g = f
  · subst hg
    have htakes : g.takesValue = true := by rw [Flag.takesValue, h.kind]; rfl
    have hvalues : valuesOf g os ≠ [] := by
      rw [Ne, valuesOf_eq_nil_iff hfits htakes, h.occurs]
      simp
    have hoccurs : occurs g os' = true := by rw [occurs_eq, h.merged]; rfl
    have hvalues' : valuesOf g os' = [join [','] (valuesOf g os)] := by rw [valuesOf, h.merged]; rfl
    unfold argumentOf?
    simp only [h.kind, h.occurs, hoccurs, hvalues', List.flatMap_singleton,
      splitOn_join_eq_flatMap hvalues]
  · exact argumentOf?_of_filter_eq (h.others g hg)

/-! ## The agreement -/

/-- The program leaves behind what a call leaves behind, and its exit code tells how that ended. -/
structure Agrees (exit : Exit) (call : Report) : Prop where
  workspace : exit.workspace = call.workspace
  out : exit.out = call.shown
  success : exit.code = 0 ↔ ∃ product, call.outcome = .ok product
  failure : ∀ f, call.outcome = .error f → exit.code = if f.cls = .own .options then 2 else 1

theorem agrees_runBuild (s : Surroundings) (debug : Bool) {os : List Occurrence}
    (hfits : ∀ o ∈ os, o.Fits buildFlags) :
    Agrees (runBuild s debug os) (Report.ofParams s.colored s.workspace (callOf os)) := by
  obtain ⟨⟨hworkspace, hshown⟩, hok, herror⟩ := ofParams_paramsOf hfits s.colored s.workspace
  obtain ⟨hleft, hout⟩ := @runBuild_leaves s debug os
  have hfailure : ∀ f, (Report.ofParams s.colored s.workspace (callOf os)).outcome = .error f →
      (runBuild s debug os).code = if f.cls = .own .options then 2 else 1 := by
    intro f hf
    obtain ⟨f', hf', hcls, -⟩ := herror f hf
    rw [(runBuild_of_error hf').1, Fault.exitCode_eq, hcls]
  refine ⟨hleft.trans hworkspace, hout.trans hshown, ?_, hfailure⟩
  constructor
  · intro hcode
    cases hcall : (Report.ofParams s.colored s.workspace (callOf os)).outcome with
    | ok product => exact ⟨product, rfl⟩
    | error f =>
        have hpositive := hfailure f hcall
        rw [hcode] at hpositive
        split at hpositive <;> cases hpositive
  · rintro ⟨product, hproduct⟩
    exact code_runBuild_of_ok ((hok product).mpr hproduct)

theorem Agrees.eq {exit exit' : Exit} {call : Report} (h : Agrees exit call) (h' : Agrees exit' call) :
    exit'.code = exit.code ∧ exit'.out = exit.out ∧ exit'.workspace = exit.workspace := by
  refine ⟨?_, h'.out.trans h.out.symm, h'.workspace.trans h.workspace.symm⟩
  cases hcall : call.outcome with
  | ok product => rw [h.success.mpr ⟨product, hcall⟩, h'.success.mpr ⟨product, hcall⟩]
  | error f => rw [h.failure f hcall, h'.failure f hcall]

/-- A fault of the call is shown by its name and the message of the parameters as they were written. -/
theorem err_run (s : Surroundings) {before : List (Part [debugFlag])}
    (hdebug : occurs debugFlag (occurrencesOf before) = false) {name : Text}
    (hname : name = "parse".toList ∨ name = "project:parse".toList) (parts : List (Part buildFlags))
    {f : Fault}
    (hf : (Report.ofParams s.colored s.workspace (callOf (occurrencesOf parts))).outcome = .error f) :
    (run s (argumentsOf before ++ name :: argumentsOf parts)).err =
      faultLine s.colored f.name (writtenMessage (occurrencesOf parts) f) := by
  obtain ⟨f', hf', hcls, hmessage⟩ :=
    (ofParams_paramsOf (fits_occurrencesOf parts) s.colored s.workspace).2.2 f hf
  have hplain := Fault.escape_not_mem_name (Report.fault_of_ofParams hf')
  rw [run_build s before hname, (runBuild_of_error hf').2 hdebug, faultReport_eq s.colored hplain,
    hmessage, Fault.name, hcls, Fault.name]

/-- A command line of a build that is made of whole flags agrees with the call that the flags stand for.
When that ends with a fault, its name and its message are shown; parameters that are refused are quoted as
they were written.  Neither the order of different flags nor the joining of a repeated one makes a
difference to what is left behind. -/
theorem command_line_agrees_with_call (s : Surroundings) (before : List (Part [debugFlag]))
    {name : Text} (hname : name = "parse".toList ∨ name = "project:parse".toList)
    (parts : List (Part buildFlags)) :
    let os := occurrencesOf parts
    let exit := run s (argumentsOf before ++ name :: argumentsOf parts)
    let call := Report.ofParams s.colored s.workspace (callOf os)
    Agrees exit call ∧
      (occurs debugFlag (occurrencesOf before) = false → ∀ f, call.outcome = .error f →
        exit.err = faultLine s.colored f.name (writtenMessage os f)) ∧
      ∀ parts' : List (Part buildFlags),
        (Rearranges os (occurrencesOf parts') ∨ ∃ f, Merges f os (occurrencesOf parts')) →
          let exit' := run s (argumentsOf before ++ name :: argumentsOf parts')
          exit'.code = exit.code ∧ exit'.out = exit.out ∧ exit'.workspace = exit.workspace := by
  intro os exit call
  have hfits : ∀ o ∈ os, o.Fits buildFlags := fits_occurrencesOf parts
  have hrun : exit = runBuild s (occurs debugFlag (occurrencesOf before)) os :=
    run_build s before hname parts
  have hagrees : Agrees exit call := hrun ▸ agrees_runBuild s _ hfits
  refine ⟨hagrees, fun hdebug f hf => ?_, fun parts' hparts' => ?_⟩
  · exact err_run s hdebug hname parts hf
  · have hcall : callOf (occurrencesOf parts') = callOf os := by
      rcases hparts' with hrearranges | ⟨f, hmerges⟩
      · exact callOf_of_rearranges hrearranges
      · exact callOf_of_merges hfits hmerges
    have hagrees' :=
      agrees_runBuild s (occurs debugFlag (occurrencesOf before)) (fits_occurrencesOf parts')
    rw [hcall, ← run_build s before hname parts'] at hagrees'
    exact hagrees.eq hagrees'

/-- The flag of extensions. -/
def extensionsFlag : Flag :=
  repeated "extensions" (some 'e') "extensions"
    "File extensions to parse (default: php, php3, phtml)."

/-- The letter of extensions with a value behind it. -/
def extensionsPart (value : Text) : Part buildFlags where
  arguments := ["-e".toList, value]
  occurrences := [] ++ [⟨extensionsFlag, some value⟩]
  whole := .valued (by decide) rfl rfl

/-- Two letters in one argument, for a display of progress and for more lines. -/
def lettersPart : Part buildFlags where
  arguments := ["-pv".toList]
  occurrences :=
    [⟨switch "progressbar" (some 'p') "progressbar" "Show a progress bar; quiets logging to stdout.",
        none⟩,
      ⟨switch "verbose" (some 'v') "verbose" "Show debug and informational log lines.", none⟩]
  whole := .lone (by decide) rfl rfl

/-- The surroundings of a program that shows no colours. -/
def plainSurroundings : Surroundings := { workspace := oneFile, versionOf? := fun _ => none }

/-- Extensions of which one is empty, in two occurrences. -/
def refusedParts : List (Part buildFlags) :=
  [extensionsPart "a".toList, lettersPart, extensionsPart ".".toList]

/-- The fault of the call with these extensions. -/
def refusedExtensions : Fault :=
  Config.failure [⟨"extensions".toList, .emptyExtension, .list [.text "a".toList, .text ".".toList]⟩]

theorem refused_extensions_agree :
    let exit := run plainSurroundings (["parse", "-e", "a", "-pv", "-e", "."].map String.toList)
    let exit' := run plainSurroundings (["parse", "-pv", "-e", "a,."].map String.toList)
    exit.code = 2 ∧
      exit.err = "✗ OptionsError: Invalid parse options: 1 validation error for ".toList ++
        "ParseCommandConfig\nextensions\n  Value error, extensions cannot contain empty ".toList ++
        "entries. [type=value_error, input_value=['a', '.'], input_type=list]\n".toList ∧
      exit'.code = exit.code ∧ exit'.out = exit.out ∧ exit'.workspace = exit.workspace := by
  obtain ⟨agrees, herr, hsame⟩ :=
    command_line_agrees_with_call plainSurroundings [] (.inl rfl) refusedParts
  have hfailed : (Report.ofParams false oneFile (callOf (occurrencesOf refusedParts))).outcome =
      .error refusedExtensions := rfl
  have hplain : Ansi.escape ∉ refusedExtensions.message := by decide +kernel
  have hwritten : writtenMessage (occurrencesOf refusedParts) refusedExtensions =
      refusedExtensions.message := rfl
  refine ⟨(agrees.failure _ hfailed).trans rfl, (herr rfl _ hfailed).trans ?_, ?_⟩
  · rw [faultLine, if_neg (by decide), hwritten, Ansi.strip_of_not_mem hplain]
    decide +kernel
  · refine hsame [lettersPart, extensionsPart "a,.".toList] (.inr ⟨extensionsFlag, rfl, rfl, rfl, ?_⟩)
    intro g hg
    simp [occurrencesOf, refusedParts, extensionsPart, lettersPart, List.filter_cons, hg.symm]

/-- The fault of the same call with the extensions as they were written. -/
def writtenExtensions : Fault :=
  Config.failure [⟨"extensions".toList, .emptyExtension, .list [.text "a,.".toList]⟩]

/-- A level of visibility in red. -/
def paintedLevel : Text := Ansi.paint .red ['x']

/-- The flag of visibilities with this level behind it. -/
def paintedPart : Part buildFlags where
  arguments := ["--visibility".toList, paintedLevel]
  occurrences :=
    [] ++ [⟨repeated "visibility" none "visibility" "Visibility to include, e.g. public,protected.",
      some paintedLevel⟩]
  whole := .valued (by decide) rfl rfl

/-- The fault of the call with this level. -/
def refusedLevel : Fault :=
  Config.failure [⟨"visibility".toList, .unknownVisibility (Config.sortedSet [paintedLevel]),
    .list [.text paintedLevel]⟩]

theorem infix_message_unknownVisibility (name : Text) :
    name <:+: (Config.Cause.unknownVisibility [name]).message := by
  unfold Config.Cause.message
  dsimp only [join]
  -- the texts behind the name are left out one by one
  iterate 3 apply List.IsInfix.trans _ (List.prefix_append _ _).isInfix
  exact (List.suffix_append _ _).isInfix

theorem infix_message_failure (field : Text) (cause : Config.Cause) (value : Value) :
    cause.message <:+: (Config.failure [⟨field, cause, value⟩]).message := by
  let i : Config.Issue := ⟨field, cause, value⟩
  have hcause : cause.message <:+: i.message := by
    unfold Config.Issue.message
    iterate 7 apply List.IsInfix.trans _ (List.prefix_append _ _).isInfix
    exact (List.suffix_append _ _).isInfix
  have hissue : i.message <:+ Config.issuesMessage [i] := List.suffix_append _ _
  exact hcause.trans (hissue.trans (List.suffix_append _ _)).isInfix

theorem begins_faultLine_iff {name message written : Text} :
    ("✗ ".toList ++ name ++ ": ".toList ++ message) <+: faultLine false name written ↔
      message <+: Ansi.strip written ++ ['\n'] := by
  rw [faultLine, if_neg (by decide), List.append_assoc _ (Ansi.strip written),
    List.prefix_append_right_inj]

/-- The message of the call is not always shown: not where a list was written with commas, nor where it holds
escape sequences. -/
theorem message_of_call_is_not_shown :
    (∃ f, (Report.ofParams false oneFile
        (callOf (occurrencesOf [extensionsPart "a,.".toList]))).outcome = .error f ∧
      ¬ ("✗ ".toList ++ f.name ++ ": ".toList ++ f.message) <+:
        (run plainSurroundings (["parse", "-e", "a,."].map String.toList)).err) ∧
    ∃ f, (Report.ofParams false oneFile (callOf (occurrencesOf [paintedPart]))).outcome = .error f ∧
      ¬ ("✗ ".toList ++ f.name ++ ": ".toList ++ f.message) <+:
        (run plainSurroundings ["parse".toList, "--visibility".toList, paintedLevel]).err := by
  constructor
  · refine ⟨refusedExtensions, rfl, fun hbegins => ?_⟩
    have herr := @err_run plainSurroundings [] rfl "parse".toList (.inl rfl)
      [extensionsPart "a,.".toList] refusedExtensions rfl
    have harguments : ["parse", "-e", "a,."].map String.toList =
        argumentsOf ([] : List (Part [debugFlag])) ++
          "parse".toList :: argumentsOf [extensionsPart "a,.".toList] := rfl
    have hwritten : writtenMessage (occurrencesOf [extensionsPart "a,.".toList]) refusedExtensions =
        writtenExtensions.message := rfl
    have hplain : Ansi.escape ∉ writtenExtensions.message := by decide +kernel
    rw [harguments, herr] at hbegins
    rw [show plainSurroundings.colored = false from rfl, begins_faultLine_iff, hwritten,
      Ansi.strip_of_not_mem hplain] at hbegins
    revert hbegins
    decide +kernel
  · refine ⟨refusedLevel, rfl, fun hbegins => ?_⟩
    have herr := @err_run plainSurroundings [] rfl "parse".toList (.inl rfl) [paintedPart]
      refusedLevel rfl
    have harguments : ["parse".toList, "--visibility".toList, paintedLevel] =
        argumentsOf ([] : List (Part [debugFlag])) ++ "parse".toList :: argumentsOf [paintedPart] := rfl
    have hwritten : writtenMessage (occurrencesOf [paintedPart]) refusedLevel = refusedLevel.message :=
      rfl
    have hsorted : Config.sortedSet [paintedLevel] = [paintedLevel] := by
      rw [Config.sortedSet, show [paintedLevel].eraseDups = [paintedLevel] from rfl,
        List.mergeSort_singleton]
    have hinfix : paintedLevel <:+: refusedLevel.message := by
      rw [refusedLevel, hsorted]
      exact (infix_message_unknownVisibility paintedLevel).trans (infix_message_failure _ _ _)
    obtain ⟨before, behind, hmessage⟩ := hinfix
    rw [harguments, herr] at hbegins
    rw [show plainSurroundings.colored = false from rfl, begins_faultLine_iff, hwritten, ← hmessage,
      List.append_assoc] at hbegins
    have hlength := hbegins.length_le
    have hend : ∀ t : Text, (t ++ ['\n']).length = t.length + 1 := fun t => List.length_append
    have hshorter : (Ansi.strip (before ++ (paintedLevel ++ behind))).length + 1 <
        (before ++ (paintedLevel ++ behind)).length :=
      Ansi.length_strip_paint_lt before ['x'] behind .red
    rw [hend] at hlength
    omega

end SourceAtlas.CommandLine
