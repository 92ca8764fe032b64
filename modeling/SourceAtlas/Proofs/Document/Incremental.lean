import SourceAtlas.Proofs.Document.Reuse
import SourceAtlas.Proofs.Document.Settings
import SourceAtlas.Proofs.FileSystem.Lookups

/-!
# Describing over a document of the same program

When the earlier document was itself made anew, at some time and from some files, and no digest stands
for two contents or two lines of settings, describing files gives the document that is made anew.  So
it does not matter whether everything is to be described anew, unless the name of the earlier document
is too long to be asked for.
-/

namespace SourceAtlas

open Text Xml

/-- Different contents of files and different lines of settings have different digests. -/
structure NoCollisions (contents : Bytes → Prop) (lines : Text → Prop) : Prop where
  contents : ∀ a b, contents a → contents b → Md5.hexDigest a = Md5.hexDigest b → a = b
  lines : ∀ s t, lines s → lines t →
    Md5.hexDigest (Utf8.encode s) = Md5.hexDigest (Utf8.encode t) → s = t

/-- The bytes of a document that was made anew, from some of the contents and settings. -/
def IsMade (contents : Bytes → Prop) (lines : Text → Prop) (bytes : Bytes) : Prop :=
  ∃ (d : Describer) (includeSource : Bool) (bytesOf : Path → Bytes) (files : List Path),
    bytes = Utf8.encode ((d.freshProject includeSource bytesOf files).write ++ ['\n']) ∧
    d.description.Separable ∧ lines (d.description.settingsLine includeSource) ∧
    ∀ file ∈ files, contents (bytesOf file)

namespace Describer

/-! ## Loading -/

/-- The earlier document is not needed, or can be asked for. -/
def CanAsk (d : Describer) (ws : Workspace) : Prop :=
  d.description.force = true ∨
    ∀ path, d.earlier = some path → ws.stat path.text ≠ .error .nameTooLong

theorem ofDocument_freshProject_nil (d : Describer) (includeSource : Bool) (bytesOf : Path → Bytes) :
    Previous.ofDocument (d.freshProject includeSource bytesOf []) = {} := by
  have hnone : (Previous.ofDocument (d.freshProject includeSource bytesOf [])).entries = [] := by
    apply List.eq_nil_iff_forall_not_mem.mpr
    intro entry hentry
    obtain ⟨i, file, l, -, hfile, -⟩ := of_mem_ofDocument hentry
    exact absurd hfile (by simp)
  exact congrArg Previous.mk hnone

/-- Elements are taken over from a document that was made anew with the same settings. -/
def LoadsMade (contents : Bytes → Prop) (d : Describer) (includeSource : Bool) (loading : Loading) :
    Prop :=
  ∃ (d' : Describer) (bytesOf' : Path → Bytes) (files' : List Path),
    loading.previous = .ofDocument (d'.freshProject includeSource bytesOf' files') ∧
    d'.description.packageName = d.description.packageName ∧
    d'.description.activeMarkers = d.description.activeMarkers ∧
    ∀ file ∈ files', contents (bytesOf' file)

variable {contents : Bytes → Prop} {lines : Text → Prop} {d : Describer} {ws : Workspace}
  {includeSource : Bool} {files : List Path}

theorem loadsMade_nothing {loading : Loading} (h : loading.previous = {}) :
    LoadsMade contents d includeSource loading :=
  ⟨d, fun _ => [], [], by rw [h, ofDocument_freshProject_nil], rfl, rfl, by simp⟩

section Settings

variable (hno : NoCollisions contents lines) (hseparable : d.description.Separable)
  (hline : lines (d.description.settingsLine includeSource))

include hno hseparable hline

theorem loadsMade_ofBytes {path : Text} {bytes : Bytes} (hmade : IsMade contents lines bytes) :
    ∃ loading, Loading.ofBytes path (d.description.fingerprint includeSource) bytes = .ok loading ∧
      LoadsMade contents d includeSource loading := by
  obtain ⟨d', includeSource', bytesOf', files', rfl, hseparable', hline', hcontents⟩ := hmade
  unfold Loading.ofBytes
  rcases read_freshProject_cases d' includeSource' bytesOf' files' with ⟨-, h⟩ | ⟨-, message, h⟩
  · have hsettings : (d'.freshProject includeSource' bytesOf' files').attribute?
        "settings".toList = some (d'.description.fingerprint includeSource') := by
      rw [Element.attribute?, freshProject, indentItems_attributes]
      rfl
    simp only [h, hsettings]
    split
    · next heq =>
        have hsame := hno.lines _ _ hline' hline (Option.some.inj heq)
        obtain ⟨rfl, hpackage, hmarkers⟩ :=
          Description.eq_of_settingsLine_eq hseparable' hseparable hsame
        exact ⟨_, rfl, d', bytesOf', files', rfl, hpackage, hmarkers, hcontents⟩
    · exact ⟨_, rfl, loadsMade_nothing rfl⟩
  · simp only [h]
    exact ⟨_, rfl, loadsMade_nothing rfl⟩

variable (hearlier : ∀ path bytes, d.earlier = some path → ws.read path.text = .ok bytes →
  IsMade contents lines bytes)

include hearlier

theorem loadsMade_load (hask : d.CanAsk ws) :
    ∃ loading, d.load ws (d.description.fingerprint includeSource) = .ok loading ∧
      LoadsMade contents d includeSource loading := by
  unfold load
  split
  · next path hpath hforce =>
      unfold Loading.ofPath Workspace.isKind Workspace.kindFound
      cases hstat : ws.stat path.text with
      | error r =>
          have habsent : Workspace.isAbsence r = true := by
            rcases Workspace.reason_of_stat hstat with habsent | rfl
            · exact habsent
            · rcases hask with hask | hask
              · rw [hforce] at hask
                exact absurd hask (by decide)
              · exact absurd hstat (hask path hpath)
          simp only [habsent, if_true]
          exact ⟨{}, rfl, loadsMade_nothing rfl⟩
      | ok e =>
          cases e with
          | file bytes =>
              have hread : ws.read path.text = .ok bytes := Workspace.read_eq_ok.mpr hstat
              rw [hread]
              exact loadsMade_ofBytes hno hseparable hline (hearlier path bytes hpath hread)
          | directory => exact ⟨{}, rfl, loadsMade_nothing rfl⟩
          | link target => exact ⟨{}, rfl, loadsMade_nothing rfl⟩
  · exact ⟨{}, rfl, loadsMade_nothing rfl⟩

/-! ## Describing -/

variable (hcontents : ∀ file ∈ files, ∀ bytes, ws.read file.text = .ok bytes → contents bytes)
  (hdistinct : (files.map d.shownPath).Nodup) (hask : d.CanAsk ws)

include hcontents hdistinct hask

/-- Files that can be read are described in the document that is made anew. -/
theorem describe_of_readable (hfiles : files ≠ [])
    (hread : ∀ file ∈ files, ws.read file.text = .ok (ws.contentOf file)) :
    (d.describe ws includeSource files).outcome =
      .ok ((d.freshProject includeSource ws.contentOf files).write ++ ['\n']) := by
  obtain ⟨loading, hload, d', bytesOf', files', hprevious, hpackage, hmarkers, hcontents'⟩ :=
    loadsMade_load hno hseparable hline hearlier hask
  have hdigest : ∀ file ∈ files, ∀ file' ∈ files',
      Md5.hexDigest (bytesOf' file') = Md5.hexDigest (ws.contentOf file) →
        bytesOf' file' = ws.contentOf file := fun file hfile file' hfile' =>
    hno.contents _ _ (hcontents' file' hfile') (hcontents file hfile _ (hread file hfile))
  have hitems : (d.itemsOf ws includeSource loading.previous files).outcome =
      .ok (files.map fun file =>
        (d.itemOf includeSource loading.previous file (ws.contentOf file)).1) :=
    itemsOf_readable hread
  have hproject : d.project ws includeSource files =
      .ok (d.freshProject includeSource ws.contentOf files) := by
    apply project_eq_ok.mpr
    refine ⟨loading, _, hload, hitems, ?_⟩
    rw [hprevious]
    exact indentItems_renewedItems hpackage hmarkers hdigest hdistinct
  rw [describe_outcome, hproject, if_neg (by simpa using hfiles)]
  rfl

omit hcontents hdistinct in
/-- A file that cannot be read decides what becomes of describing. -/
theorem describe_of_unreadable (hfiles : files ≠ []) {f : Fault}
    (herror : ∀ previous, (d.itemsOf ws includeSource previous files).outcome = .error f) :
    (d.describe ws includeSource files).outcome = .error f := by
  obtain ⟨loading, hload, -⟩ := loadsMade_load hno hseparable hline hearlier hask
  rw [describe_outcome, project, hload, if_neg (by simpa using hfiles)]
  simp only [herror]
  rfl

end Settings

/-- A name that is too long ends describing, unless everything is described anew. -/
theorem describe_of_nameTooLong {path : Path} (hearlier : d.earlier = some path)
    (hforce : d.description.force = false) (hstat : ws.stat path.text = .error .nameTooLong)
    (hfiles : files ≠ []) :
    (d.describe ws includeSource files).outcome = .error (.ofFile ⟨.nameTooLong, path.text⟩) := by
  have hload : d.load ws (d.description.fingerprint includeSource) =
      .error (.ofFile ⟨.nameTooLong, path.text⟩) := by
    rw [load, hearlier, hforce]
    simp only [Loading.ofPath, Workspace.isKind, hstat]
    rfl
  rw [describe_outcome, project, hload, if_neg (by simpa using hfiles)]
  rfl

end Describer

end SourceAtlas
