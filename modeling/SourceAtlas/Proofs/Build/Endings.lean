import SourceAtlas.Build.Orchestrator
import SourceAtlas.Proofs.Outcomes

/-!
# How builds end

A build ends in one of four ways: its target cannot be resolved, a collaborator raises a fault, the
document cannot be written, or it is written.  Each way says what is left of the build, whatever the
collaborators do, log and signal.
-/

namespace SourceAtlas

open Text

/-! ## The calls of a build -/

namespace Collaborators

variable {σ : Type} (c : Collaborators σ) (e : σ) (ws : Workspace) (o : BuildOptions)

/-- The answer to the selection of files. -/
def selected : Answer σ Unit := c.select e ws o.selection

/-- The answer to the search for the selected files. -/
def collected : Answer σ (List Path) := c.files (c.selected e ws o).state ws

/-- The answer to the search for the common directory of the files. -/
def rooted : Answer σ Path := c.root (c.collected e ws o).state ws

/-- The answer to the preparation of the description. -/
def prepared (earlier root : Path) : Answer σ Unit :=
  c.prepare (c.rooted e ws o).state ws o.description earlier root

/-- The answer to the description of the files. -/
def described (earlier root : Path) : Telling σ Text :=
  c.describe (c.prepared e ws o earlier root).state ws o.description.includeSource

end Collaborators

section Calls

variable {σ : Type} (c : Collaborators σ) (e : σ) (ws : Workspace) (o : BuildOptions)
  (earlier : Path)

/-- All calls before the description of the files succeed. -/
structure Configures (files : List Path) (root : Path) : Prop where
  selected : (c.selected e ws o).outcome = .ok ()
  collected : (c.collected e ws o).outcome = .ok files
  rooted : (c.rooted e ws o).outcome = .ok root
  prepared : (c.prepared e ws o earlier root).outcome = .ok ()

/-- All calls succeed, the last one with the content of the document. -/
structure Describes (files : List Path) (root : Path) (content : Text) : Prop
    extends Configures c e ws o earlier files root where
  described : (c.described e ws o earlier root).outcome = .ok content

/-- A call raises a fault in a phase of the build, after the calls before it succeeded. -/
inductive Raises : Phase → Fault → Prop
  | select {f : Fault} (h : (c.selected e ws o).outcome = .error f) : Raises .configuring f
  | files {f : Fault} (selected : (c.selected e ws o).outcome = .ok ())
      (h : (c.collected e ws o).outcome = .error f) : Raises .configuring f
  | root {files : List Path} {f : Fault} (selected : (c.selected e ws o).outcome = .ok ())
      (collected : (c.collected e ws o).outcome = .ok files)
      (h : (c.rooted e ws o).outcome = .error f) : Raises .configuring f
  | prepare {files : List Path} {root : Path} {f : Fault}
      (selected : (c.selected e ws o).outcome = .ok ())
      (collected : (c.collected e ws o).outcome = .ok files)
      (rooted : (c.rooted e ws o).outcome = .ok root)
      (h : (c.prepared e ws o earlier root).outcome = .error f) : Raises .configuring f
  | describe {files : List Path} {root : Path} {f : Fault}
      (configures : Configures c e ws o earlier files root)
      (h : (c.described e ws o earlier root).outcome = .error f) : Raises .parsing f

/-- What the calls come to, one after another: the first fault with its phase, or what they found. -/
def outcomeOfCalls : Except (Phase × Fault) (List Path × Path × Text) := do
  let _ ← (c.selected e ws o).outcome.mapError (Phase.configuring, ·)
  let files ← (c.collected e ws o).outcome.mapError (Phase.configuring, ·)
  let root ← (c.rooted e ws o).outcome.mapError (Phase.configuring, ·)
  let _ ← (c.prepared e ws o earlier root).outcome.mapError (Phase.configuring, ·)
  let content ← (c.described e ws o earlier root).outcome.mapError (Phase.parsing, ·)
  return (files, root, content)

variable {c e ws o earlier} {p p' : Phase} {f f' : Fault} {files : List Path} {root : Path}
  {content : Text}

theorem Raises.outcomeOfCalls_eq (h : Raises c e ws o earlier p f) :
    outcomeOfCalls c e ws o earlier = .error (p, f) := by
  unfold outcomeOfCalls
  cases h with
  | select h =>
      rw [h]
      rfl
  | files selected h =>
      rw [selected, h]
      rfl
  | root selected collected h =>
      rw [selected, collected, h]
      rfl
  | prepare selected collected rooted h =>
      rw [selected, collected, rooted]
      simp only [mapError_ok, bind, Except.bind, h]
      rfl
  | describe configures h =>
      rw [configures.selected, configures.collected, configures.rooted]
      simp only [mapError_ok, bind, Except.bind, configures.prepared, h]
      rfl

theorem Describes.outcomeOfCalls_eq (h : Describes c e ws o earlier files root content) :
    outcomeOfCalls c e ws o earlier = .ok (files, root, content) := by
  unfold outcomeOfCalls
  rw [h.selected, h.collected, h.rooted]
  simp only [mapError_ok, bind, Except.bind, h.prepared, h.described]
  rfl

/-- Only one fault is raised. -/
theorem Raises.unique (h : Raises c e ws o earlier p f) (h' : Raises c e ws o earlier p' f') :
    p' = p ∧ f' = f :=
  Prod.mk.inj (Except.error.inj (h'.outcomeOfCalls_eq.symm.trans h.outcomeOfCalls_eq))

theorem Raises.not_describes (h : Raises c e ws o earlier p f) :
    ¬ Describes c e ws o earlier files root content := by
  intro h'
  exact absurd (h.outcomeOfCalls_eq.symm.trans h'.outcomeOfCalls_eq) (by simp)

end Calls

/-! ## The failures of a build -/

/-- The failure that a fault becomes while files are collected. -/
def failureToConfigure (f : Fault) : Fault := if f.isFailure then f else Run.collaboratorFailure f

/-- The failure that a fault becomes while files are described. -/
def failureToParse (f : Fault) : Fault :=
  if f.cls = .own .noFiles then .failure .noFiles Run.noFilesGuidance (some f)
  else Run.collaboratorFailure f

/-- The failure that a fault of a collaborator becomes in a phase. -/
def failureIn (p : Phase) (f : Fault) : Fault :=
  if p = .parsing then failureToParse f else failureToConfigure f

/-- The failure to write a document. -/
def failureToWrite (target : Target) (e : FileError) : Fault :=
  if e.reason = .nullCharacter then .ofFile e
  else
    .failure .notWritten
      ("Could not write \"".toList ++ target.document.text ++ "\": ".toList ++ e.reason.message)
      (some (.ofFile e))

theorem isFailure_failureIn (p : Phase) (f : Fault) : (failureIn p f).isFailure = true := by
  unfold failureIn failureToParse failureToConfigure
  split
  · split <;> rfl
  · split
    · assumption
    · rfl

/-! ## Reporters -/

namespace Reporter

/-- The display can be open only in the mode that shows progress. -/
def Fitting (r : Reporter) : Prop := r.mode = .verbose → r.displayOpen = false

variable {r : Reporter}

/-- A signal neither changes the mode nor opens or closes the display. -/
theorem receive_keeps (r : Reporter) (s : Signal) :
    (r.receive s).mode = r.mode ∧ (r.receive s).displayOpen = r.displayOpen := by
  cases s with
  | event e =>
      simp only [receive, log]
      split
      · exact ⟨rfl, rfl⟩
      · split <;> exact ⟨rfl, rfl⟩
  | processed =>
      simp only [receive, countProcessed]
      split <;> exact ⟨rfl, rfl⟩

theorem Fitting.receiveAll (h : r.Fitting) (signals : List Signal) :
    (signals.foldl receive r).Fitting := by
  induction signals generalizing r with
  | nil => exact h
  | cons s ss ih =>
      apply ih
      rw [Fitting, (receive_keeps r s).1, (receive_keeps r s).2]
      exact h

theorem Fitting.start (h : r.Fitting) : r.start.Fitting := by
  unfold Reporter.start
  split
  · next hmode =>
      split
      · exact h
      · intro hverbose
        exact absurd (hmode.symm.trans hverbose) (by simp)
  · exact h

theorem Fitting.displayOpen_finish (h : r.Fitting) : r.finish.displayOpen = false := by
  unfold finish
  split
  · rfl
  · next hmode => exact h hmode

end Reporter

/-! ## The phases of a build -/

namespace Run

variable {σ : Type} (c : Collaborators σ) (r : Run σ) (o : BuildOptions)

/-- The state of a run without its log. -/
def quiet : Run σ := { r with log := [] }

theorem resolveTarget_leaves (rules : TargetRules) (request : Text) :
    (r.resolveTarget rules request).2 = (rules.resolve r.workspace request).outcome ∧
      (r.resolveTarget rules request).1.quiet =
        { r.quiet with
          workspace := (rules.resolve r.workspace request).workspace
          phase :=
            match (rules.resolve r.workspace request).outcome with
            | .ok _ => .resolvingTarget
            | .error f => if f.isFailure then .failed else .resolvingTarget } := by
  unfold resolveTarget
  simp only [show (r.enter .resolvingTarget).workspace = r.workspace from rfl]
  cases (rules.resolve r.workspace request).outcome with
  | ok target => exact ⟨rfl, rfl⟩
  | error f =>
      dsimp only
      cases f.isFailure with
      | true => exact ⟨rfl, rfl⟩
      | false => exact ⟨rfl, rfl⟩

/-- A call raises a fault, or all calls before the description succeed. -/
theorem callToConfigure_cases (earlier : Path) :
    (∃ f equipment, Raises c r.equipment r.workspace o earlier .configuring f ∧
      (callToConfigure c r o earlier).2 = .error f ∧
      (callToConfigure c r o earlier).1.quiet = { r.quiet with equipment }) ∨
    ∃ files root, Configures c r.equipment r.workspace o earlier files root ∧
      (callToConfigure c r o earlier).2 = .ok files.length ∧
      (callToConfigure c r o earlier).1.quiet =
        { r.quiet with equipment := (c.prepared r.equipment r.workspace o earlier root).state } := by
  generalize hstep : callToConfigure c r o earlier = step
  unfold callToConfigure at hstep
  extract_lets selected r₁ at hstep
  split at hstep
  · next f hselected =>
      subst hstep
      exact .inl ⟨f, _, .select hselected, rfl, rfl⟩
  · next hselected =>
      split at hstep
      · next f hcollected =>
          subst hstep
          exact .inl ⟨f, _, .files hselected hcollected, rfl, rfl⟩
      · next files hcollected =>
          split at hstep
          · next f hrooted =>
              subst hstep
              exact .inl ⟨f, _, .root hselected hcollected hrooted, rfl, rfl⟩
          · next root hrooted =>
              subst hstep
              cases hprepared : (c.prepared r.equipment r.workspace o earlier root).outcome with
              | error f =>
                  refine .inl ⟨f, _, .prepare hselected hcollected hrooted hprepared, ?_, rfl⟩
                  exact congrArg (Except.map fun _ => files.length) hprepared
              | ok _ =>
                  refine .inr ⟨files, root, ⟨hselected, hcollected, hrooted, hprepared⟩, ?_, rfl⟩
                  exact congrArg (Except.map fun _ => files.length) hprepared

/-- The files are collected and the description is prepared, or the run fails. -/
theorem configure_cases (earlier : Path) :
    (∃ f equipment, Raises c r.equipment r.workspace o earlier .configuring f ∧
      (r.configure c o earlier).2 = .error (failureToConfigure f) ∧
      (r.configure c o earlier).1.quiet = { r.quiet with equipment, phase := .failed }) ∨
    ∃ files root, Configures c r.equipment r.workspace o earlier files root ∧
      (r.configure c o earlier).2 = .ok files.length ∧
      (r.configure c o earlier).1.quiet =
        { r.quiet with
          equipment := (c.prepared r.equipment r.workspace o earlier root).state
          phase := .configuring } := by
  unfold configure
  rcases callToConfigure_cases c (r.enter .configuring) o earlier with
    ⟨f, equipment, hraises, houtcome, hquiet⟩ | ⟨files, root, hconfigures, houtcome, hquiet⟩
  all_goals
    generalize callToConfigure c (r.enter .configuring) o earlier = called at *
    obtain ⟨r', outcome⟩ := called
    dsimp only at houtcome hquiet
    subst houtcome
  · refine .inl ⟨f, equipment, hraises, ?_⟩
    have hfailed : (r'.enter .failed).quiet = { r.quiet with equipment, phase := .failed } :=
      congrArg (fun q : Run σ => { q with phase := .failed }) hquiet
    unfold failureToConfigure
    dsimp only
    cases f.isFailure with
    | true => exact ⟨rfl, hfailed⟩
    | false => exact ⟨rfl, hfailed⟩
  · exact .inr ⟨files, root, hconfigures, rfl, hquiet⟩

/-- Whether the files can be described or not, the display is closed afterwards. -/
theorem parse_leaves (hfitting : r.reporter.Fitting) :
    let told := c.describe r.equipment r.workspace o.description.includeSource
    (r.parse c o).2 = told.outcome.mapError failureToParse ∧
      (r.parse c o).1.workspace = r.workspace ∧
      (r.parse c o).1.result = r.result ∧
      (r.parse c o).1.phase = (if told.outcome.isOk then .parsing else .failed) ∧
      (r.parse c o).1.reporter.displayOpen = false := by
  intro told
  -- The lines written before the description leave the mode and the display alone.
  have hclosed : (told.signals.foldl Reporter.receive
      ((r.reporter.writeLine "OK".toList).writeLine Reporter.progressLabel)).finish.displayOpen =
        false :=
    (Reporter.Fitting.receiveAll (r := (r.reporter.writeLine "OK".toList).writeLine
      Reporter.progressLabel) hfitting told.signals).displayOpen_finish
  unfold parse
  extract_lets r₁ told' r₂
  rw [show told' = told from rfl]
  cases houtcome : told.outcome with
  | ok content => exact ⟨rfl, rfl, rfl, rfl, hclosed⟩
  | error f =>
      simp only [mapError_error, failureToParse]
      by_cases hnone : f.cls = .own .noFiles
      · simp only [if_pos hnone]
        exact ⟨trivial, rfl, rfl, rfl, hclosed⟩
      · simp only [if_neg hnone]
        exact ⟨trivial, rfl, rfl, rfl, hclosed⟩

/-- The document is written, or the workspace stays as it is. -/
theorem persist_leaves (target : Target) (files : Nat) (content : Text) :
    (r.persist target files content).1.reporter.displayOpen = r.reporter.displayOpen ∧
      match r.workspace.write target.document.text (Utf8.encode content) with
      | .ok ws =>
        (r.persist target files content).1.workspace = ws ∧
          (r.persist target files content).1.phase = .done ∧
          (r.persist target files content).1.result =
            some ⟨target, files, (Utf8.encode content).length⟩ ∧
          (r.persist target files content).2 =
            .ok ⟨target, files, (Utf8.encode content).length⟩
      | .error e =>
        (r.persist target files content).1.workspace = r.workspace ∧
          (r.persist target files content).1.phase =
            (if e.reason = .nullCharacter then .persisting else .failed) ∧
          (r.persist target files content).1.result = r.result ∧
          (r.persist target files content).2 = .error (failureToWrite target e) := by
  unfold persist failureToWrite
  extract_lets path r₁ data
  rw [show r₁.workspace.write path data =
    r.workspace.write target.document.text (Utf8.encode content) from rfl]
  cases r.workspace.write target.document.text (Utf8.encode content) with
  | ok ws => exact ⟨rfl, rfl, rfl, rfl, rfl⟩
  | error e =>
      dsimp only
      by_cases hnull : e.reason = .nullCharacter
      · simp only [if_pos hnull]
        exact ⟨rfl, rfl, rfl, rfl, trivial⟩
      · simp only [if_neg hnull]
        exact ⟨rfl, rfl, rfl, rfl, rfl⟩

end Run

/-! ## The ways a build ends -/

/-- What is left of a build, apart from what it wrote and logged. -/
structure Remains where
  workspace : Workspace
  phase : Phase
  result : Option Product
  displayOpen : Bool
  outcome : Except Fault Product

/-- What is left of a build that came to its end. -/
def Remains.of {σ : Type} (step : Step σ Product) : Remains :=
  ⟨step.1.workspace, step.1.phase, step.1.result, step.1.reporter.displayOpen, step.2⟩

/-- The ways in which a build ends. -/
inductive Ends {σ : Type} (c : Collaborators σ) (rules : TargetRules) (e : σ) (ws : Workspace)
    (o : BuildOptions) : Remains → Prop
  | unresolved {f : Fault} (h : (rules.resolve ws o.target).outcome = .error f) :
      Ends c rules e ws o
        { workspace := (rules.resolve ws o.target).workspace
          phase := if f.isFailure then .failed else .resolvingTarget
          result := none
          displayOpen := false
          outcome := .error f }
  | raised {target : Target} {p : Phase} {f : Fault}
      (resolved : (rules.resolve ws o.target).outcome = .ok target)
      (h : Raises c e (rules.resolve ws o.target).workspace o target.document p f) :
      Ends c rules e ws o
        { workspace := (rules.resolve ws o.target).workspace
          phase := .failed
          result := none
          displayOpen := false
          outcome := .error (failureIn p f) }
  | unwritten {target : Target} {files : List Path} {root : Path} {content : Text} {err : FileError}
      (resolved : (rules.resolve ws o.target).outcome = .ok target)
      (describes : Describes c e (rules.resolve ws o.target).workspace o target.document files root
        content)
      (h : (rules.resolve ws o.target).workspace.write target.document.text (Utf8.encode content) =
        .error err) :
      Ends c rules e ws o
        { workspace := (rules.resolve ws o.target).workspace
          phase := if err.reason = .nullCharacter then .persisting else .failed
          result := none
          displayOpen := false
          outcome := .error (failureToWrite target err) }
  | written {target : Target} {files : List Path} {root : Path} {content : Text} {ws' : Workspace}
      (resolved : (rules.resolve ws o.target).outcome = .ok target)
      (describes : Describes c e (rules.resolve ws o.target).workspace o target.document files root
        content)
      (h : (rules.resolve ws o.target).workspace.write target.document.text (Utf8.encode content) =
        .ok ws') :
      Ends c rules e ws o
        { workspace := ws'
          phase := .done
          result := some ⟨target, files.length, (Utf8.encode content).length⟩
          displayOpen := false
          outcome := .ok ⟨target, files.length, (Utf8.encode content).length⟩ }

theorem Remains.of_eq_of_quiet {σ : Type} {r q : Run σ} (h : r.quiet = q)
    (outcome : Except Fault Product) :
    Remains.of (r, outcome) =
      ⟨q.workspace, q.phase, q.result, q.reporter.displayOpen, outcome⟩ := by
  subst h
  rfl

/-- A run that prepared the description ends with a fault of the description, or writes. -/
theorem Ends.of_configured {σ : Type} {c : Collaborators σ} {rules : TargetRules} {e : σ}
    {ws : Workspace} {o : BuildOptions} {target : Target} {files : List Path} {root : Path}
    {r : Run σ} (resolved : (rules.resolve ws o.target).outcome = .ok target)
    (configures : Configures c e (rules.resolve ws o.target).workspace o target.document files root)
    (hworkspace : r.workspace = (rules.resolve ws o.target).workspace)
    (hequipment :
      r.equipment = (c.prepared e (rules.resolve ws o.target).workspace o target.document root).state)
    (hresult : r.result = none) (hfitting : r.reporter.Fitting) :
    Ends c rules e ws o
      (.of (match r.parse c o with
        | (r, .error f) => (r, .error f)
        | (r, .ok content) => r.persist target files.length content)) := by
  obtain ⟨houtcome, hworkspace', hresult', hphase, hclosed⟩ := r.parse_leaves c o hfitting
  rw [hequipment, hworkspace] at houtcome hphase
  rw [hworkspace] at hworkspace'
  rw [hresult] at hresult'
  change (r.parse c o).2 = (c.described e _ o target.document root).outcome.mapError _ at houtcome
  change (r.parse c o).1.phase =
    if (c.described e _ o target.document root).outcome.isOk then _ else _ at hphase
  generalize r.parse c o = parsed at *
  obtain ⟨r', outcome⟩ := parsed
  dsimp only at houtcome hworkspace' hresult' hphase hclosed
  cases hdescribed : (c.described e (rules.resolve ws o.target).workspace o target.document
      root).outcome with
  | error f =>
      rw [hdescribed] at houtcome hphase
      obtain rfl := houtcome
      simp only [mapError_error, Remains.of, hworkspace', hresult', hphase, hclosed]
      exact .raised resolved (.describe configures hdescribed)
  | ok content =>
      rw [hdescribed] at houtcome hphase
      obtain rfl := houtcome
      obtain ⟨hopen, hpersist⟩ := r'.persist_leaves target files.length content
      rw [hworkspace'] at hpersist
      simp only [Remains.of, mapError_ok]
      cases hwrite : (rules.resolve ws o.target).workspace.write target.document.text
          (Utf8.encode content) with
      | ok ws' =>
          rw [hwrite] at hpersist
          obtain ⟨hws, hdone, hproduct, hok⟩ := hpersist
          rw [hws, hdone, hproduct, hok, hopen, hclosed]
          exact .written resolved ⟨configures, hdescribed⟩ hwrite
      | error err =>
          rw [hwrite] at hpersist
          obtain ⟨hws, hfailed, hnone, herror⟩ := hpersist
          rw [hws, hfailed, hnone, hresult', herror, hopen, hclosed]
          exact .unwritten resolved ⟨configures, hdescribed⟩ hwrite

/-- Every build ends in one of the ways. -/
theorem ends_build {σ : Type} (c : Collaborators σ) (rules : TargetRules) (colored : Bool)
    (ws : Workspace) (e : σ) (o : BuildOptions) :
    Ends c rules e ws o (.of (build c rules colored ws e o)) := by
  unfold build
  extract_lets r r₁
  obtain ⟨houtcome, hquiet⟩ := r₁.resolveTarget_leaves rules o.target
  rw [show r₁.workspace = ws from rfl] at houtcome hquiet
  generalize r₁.resolveTarget rules o.target = resolution at *
  obtain ⟨r₂, outcome⟩ := resolution
  dsimp only at houtcome hquiet
  subst houtcome
  cases hresolve : (rules.resolve ws o.target).outcome with
  | error f =>
      rw [hresolve] at hquiet
      dsimp only
      rw [Remains.of_eq_of_quiet hquiet]
      exact .unresolved hresolve
  | ok target =>
      rw [hresolve] at hquiet
      have hworkspace : r₂.workspace = (rules.resolve ws o.target).workspace :=
        congrArg Run.workspace hquiet
      have hequipment : r₂.equipment = e := congrArg Run.equipment hquiet
      have hconfigure := r₂.configure_cases c o target.document
      rw [hworkspace, hequipment, hquiet] at hconfigure
      dsimp only
      rcases hconfigure with ⟨f, equipment, hraises, houtcome, hfailed⟩ |
        ⟨files, root, hconfigures, houtcome, hconfigured⟩
      all_goals
        generalize r₂.configure c o target.document = configured at *
        obtain ⟨r₃, outcome⟩ := configured
        dsimp only at houtcome
        subst houtcome
      · dsimp only
        rw [Remains.of_eq_of_quiet hfailed]
        exact .raised hresolve hraises
      · have hfitting : (r₃.display Reporter.start).reporter.Fitting := by
          have hreporter : r₃.reporter = r₁.reporter :=
            (congrArg Run.reporter hconfigured :)
          apply Reporter.Fitting.start
          rw [hreporter]
          exact fun _ => rfl
        exact .of_configured hresolve hconfigures (congrArg Run.workspace hconfigured)
          (congrArg Run.equipment hconfigured) (congrArg Run.result hconfigured) hfitting

/-- A build whose collaborators raise a fault ends in that way only. -/
theorem Ends.eq_of_raises {σ : Type} {c : Collaborators σ} {rules : TargetRules} {e : σ}
    {ws : Workspace} {o : BuildOptions} {remains : Remains} {target : Target} {p : Phase} {f : Fault}
    (h : Ends c rules e ws o remains) (resolved : (rules.resolve ws o.target).outcome = .ok target)
    (raises : Raises c e (rules.resolve ws o.target).workspace o target.document p f) :
    remains =
      { workspace := (rules.resolve ws o.target).workspace
        phase := .failed
        result := none
        displayOpen := false
        outcome := .error (failureIn p f) } := by
  cases h with
  | unresolved h => exact absurd (h.symm.trans resolved) (by simp)
  | raised resolved' h =>
      obtain rfl := Except.ok.inj (resolved.symm.trans resolved')
      obtain ⟨rfl, rfl⟩ := raises.unique h
      rfl
  | unwritten resolved' describes =>
      obtain rfl := Except.ok.inj (resolved.symm.trans resolved')
      exact absurd describes raises.not_describes
  | written resolved' describes =>
      obtain rfl := Except.ok.inj (resolved.symm.trans resolved')
      exact absurd describes raises.not_describes

end SourceAtlas
