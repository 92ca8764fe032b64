import SourceAtlas.Proofs.Build.Calls
import SourceAtlas.Proofs.Build.Standard

/-!
# Histories of builds

An orchestrator builds again and again, and between its builds the workspace may change in any way.
A build that fails remembers nothing and leaves every file and every link as it was; a build that
succeeds remembers its product and writes one file, the document.
-/

namespace SourceAtlas

open Text

/-! ## Storing a file -/

namespace Workspace

/-- A workspace in which a file was stored at a place where a file stood before, or nothing; all else
is kept, and beyond that there are only more directories. -/
structure Stores (place : Location) (content : Bytes) (ws ws' : Workspace) : Prop where
  before : ∀ e, ws.files.get? place = some e → e.isFile = true
  stored : ws'.files.get? place = some (.file content)
  kept : ∀ l e, l ≠ place → ws.files.get? l = some e → ws'.files.get? l = some e
  gained : ∀ l e, l ≠ place → ws'.files.get? l = some e →
    ws.files.get? l = some e ∨ e = .directory

/-- A file that is written after directories were made is stored. -/
theorem GainsDirectories.stores {place : Location} {content : Bytes} {ws made ws' : Workspace}
    (h : GainsDirectories ws made) (hwrites : WritesAt place content made ws') :
    Stores place content ws ws' := by
  constructor
  · intro e he
    apply hwrites.before
    exact h.kept place e he
  · exact hwrites.written
  · intro l e hne hl
    rw [hwrites.elsewhere l hne]
    exact h.kept l e hl
  · intro l e hne hl
    rw [hwrites.elsewhere l hne] at hl
    exact h.gained l e hl

end Workspace

/-! ## What a call leaves -/

namespace Call

variable {σ : Type} (c : Call σ)

/-- A failed call remembers nothing, and there are at most more directories than before; none if the
request is the path of a document. -/
structure LeavesAll : Prop where
  forgotten : c.after.result = none
  directories : c.workspace.GainsDirectories c.left
  untouched : endsWith (trim c.options.target) c.orchestrator.rules.suffix = true →
    c.left = c.workspace

/-- A call that succeeds remembers its product, and stores what the collaborators described where the
path of the document leads. -/
structure StoresDocument (product : Product) : Prop where
  remembered : c.after.result = some product
  stored : ∃ content place, c.Describes product.target.document content ∧
    product.bytes = (Utf8.encode content).length ∧
    c.left.entryAt true product.target.document.text = .ok (place, .file (Utf8.encode content)) ∧
    c.workspace.Stores place (Utf8.encode content) c.left

/-- A call leaves all in order, whatever it comes to. -/
structure LeavesOrder : Prop where
  failed : ∀ f, c.outcome = .error f → c.LeavesAll
  succeeded : ∀ product, c.outcome = .ok product → c.StoresDocument product

variable {c}

/-- A call that fails, remembers nothing and leaves what resolving the target left is in order. -/
theorem LeavesOrder.of_error {f : Fault} (houtcome : c.outcome = .error f)
    (hresult : c.after.result = none) (hleft : c.left = c.resolution.workspace) :
    c.LeavesOrder := by
  constructor
  · intro f' hf'
    constructor
    · exact hresult
    · rw [hleft]
      exact c.gainsDirectories_resolution
    · intro hsuffix
      rw [hleft]
      exact TargetRules.workspace_resolve_of_suffix hsuffix c.workspace
  · intro product hproduct
    exact absurd (houtcome.symm.trans hproduct) (by simp)

/-- One call leaves all in order. -/
theorem leavesOrder (c : Call σ) : c.LeavesOrder := by
  obtain ⟨remains, hends, -, hresult, hleft, -, houtcome⟩ := c.exists_remains
  cases hends with
  | unresolved => exact .of_error houtcome hresult hleft
  | raised => exact .of_error houtcome hresult hleft
  | unwritten => exact .of_error houtcome hresult hleft
  | @written target files root content ws' resolved describes hwrite =>
      obtain ⟨place, hwrites, hentry⟩ := Workspace.entryAt_of_write hwrite
      constructor
      · intro f hf
        exact absurd (houtcome.symm.trans hf) (by simp)
      · intro product hproduct
        obtain rfl := Except.ok.inj (houtcome.symm.trans hproduct)
        refine ⟨hresult, content, place, ⟨files, root, describes⟩, rfl, ?_, ?_⟩
        · rw [hleft]
          exact hentry
        · rw [hleft]
          exact c.gainsDirectories_resolution.stores hwrites

end Call

/-! ## Histories -/

/-- What happens in a history: the workspace becomes another one, or a document is built. -/
inductive Move
  | edit (ws : Workspace)
  | call (colored : Bool) (o : BuildOptions)

/-- The calls of a history, one after another on the same orchestrator. -/
def Orchestrator.calls {σ : Type} (m : Orchestrator σ) (ws : Workspace) : List Move → List (Call σ)
  | [] => []
  | .edit ws' :: moves => m.calls ws' moves
  | .call colored o :: moves =>
    let c : Call σ := ⟨m, ws, colored, o⟩
    c :: c.after.calls c.left moves

/-- Every call of every history leaves all in order. -/
theorem calls_leave_order {σ : Type} {m : Orchestrator σ} {ws : Workspace} {moves : List Move}
    {c : Call σ} (h : c ∈ m.calls ws moves) : c.LeavesOrder := by
  induction moves generalizing m ws with
  | nil => exact absurd h (by simp [Orchestrator.calls])
  | cons move moves ih =>
      cases move with
      | edit ws' => exact ih h
      | call colored o =>
          rcases List.mem_cons.mp h with rfl | h
          · exact Call.leavesOrder _
          · exact ih h

/-- A builder of documents with the standard collaborators. -/
def builder : Orchestrator Equipment := { collaborators := .standard, equipment := .new oneFile }

/-- The options of a build without a usable target. -/
def withoutTarget : BuildOptions := { selectOneFile with target := ['/'] }

/-- The call for a document of the one file. -/
def oneFileCall : Call Equipment := ⟨builder, oneFile, false, selectOneFile⟩

/-- The call after it, in the workspace of the one file, which is not to be had. -/
def uselessCall : Call Equipment := ⟨oneFileCall.after, oneFile, false, withoutTarget⟩

theorem calls_oneFile :
    builder.calls oneFile [.call false selectOneFile, .edit oneFile, .call false withoutTarget] =
      [oneFileCall, uselessCall] := rfl

theorem isOk_oneFileCall : oneFileCall.outcome.isOk = true := by
  have hstandard := congrArg Prod.snd (build_standard {} false oneFile (.new oneFile) selectOneFile)
  change (build .standard {} false oneFile (.new oneFile) selectOneFile).2.isOk = true
  rw [hstandard]
  exact isOk_resultOf_oneFile

theorem outcome_uselessCall : ∃ f, uselessCall.outcome = .error f := by
  have hstandard := congrArg Prod.snd
    (build_standard {} false oneFile oneFileCall.after.equipment withoutTarget)
  exact ⟨_, hstandard.trans rfl⟩

/-- The first build stores its document, the second one leaves all as it is and remembers nothing. -/
theorem one_file_stored :
    (∃ product, oneFileCall.outcome = .ok product ∧ oneFileCall.StoresDocument product) ∧
      ∃ f, uselessCall.outcome = .error f ∧ uselessCall.LeavesAll := by
  have hfirst : oneFileCall.LeavesOrder := by
    apply calls_leave_order
    rw [calls_oneFile]
    exact List.mem_cons_self
  have hsecond : uselessCall.LeavesOrder := by
    apply calls_leave_order
    rw [calls_oneFile]
    exact List.mem_cons_of_mem _ List.mem_cons_self
  obtain ⟨product, hproduct⟩ := exists_eq_ok_of_isOk isOk_oneFileCall
  obtain ⟨f, hf⟩ := outcome_uselessCall
  exact ⟨⟨product, hproduct, hfirst.succeeded product hproduct⟩, f, hf, hsecond.failed f hf⟩

end SourceAtlas
