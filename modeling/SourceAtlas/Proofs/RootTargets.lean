import SourceAtlas.Proofs.FileSystem.Splitting
import SourceAtlas.Proofs.Targets

/-!
# The root as a target

The root is spelled in many ways: with several slashes, and with steps that stay in a directory or leave it
for the one above.  A look-up of any spelling comes to the root, whatever the file system holds, unless the
text is too long to be a path.  As a target only the single slash is refused for being the root.
-/

namespace SourceAtlas

open Text FileSystem

/-! ## Spellings of the root -/

/-- A step that names no entry: it stays, or goes up. -/
def IsStep (n : Text) : Prop := n = ['.'] ∨ n = ['.', '.']

instance (n : Text) : Decidable (IsStep n) := inferInstanceAs (Decidable (_ ∨ _))

/-- A spelling of the root: an absolute path of slashes and steps. -/
structure SpellsRoot (t : Text) : Prop where
  absolute : t.head? = some '/'
  steps : ∀ n ∈ namesIn t, IsStep n

/-- At the root no step leads anywhere else. -/
theorem scan_steps (fs : FileSystem) (follow dirOnly : Bool) {names : List Text}
    (h : ∀ n ∈ names, IsStep n) : scan fs follow dirOnly [] names = .arrived (.found [] .directory) := by
  induction names with
  | nil => rfl
  | cons n ns ih =>
      obtain ⟨hn, hns⟩ := List.forall_mem_cons.mp h
      obtain rfl | rfl := hn
      · exact ih hns
      · exact ih hns

theorem followPieces_steps (fs : FileSystem)
    (nested : Location → List Text → Trail → Except Reason (Found × Trail)) (trail : Trail)
    {ns : List Text} (h : ∀ n ∈ ns, n = [] ∨ IsStep n) :
    followPieces fs nested [] trail ns = .ok (⟨.root, [], true⟩, trail) := by
  induction ns with
  | nil => rfl
  | cons n ns ih =>
      obtain ⟨hn, hns⟩ := List.forall_mem_cons.mp h
      obtain rfl | rfl | rfl := hn
      · exact ih hns
      · exact ih hns
      · exact ih hns

theorem spellsRoot_slash : SpellsRoot ['/'] := ⟨rfl, by decide⟩

namespace SpellsRoot

variable {t : Text} (h : SpellsRoot t)
include h

theorem ne_nil : t ≠ [] := by
  rintro rfl
  cases h.absolute

theorem of_mem_splitOn {n : Text} (hn : n ∈ splitOn '/' t) : n = [] ∨ IsStep n := by
  by_cases hnil : n = []
  · exact .inl hnil
  · exact .inr (h.steps n (List.mem_filter.mpr ⟨hn, by simpa using hnil⟩))

theorem eq_of_mem {c : Char} (hc : c ∈ t) : c = '/' ∨ c = '.' := by
  apply Classical.byContradiction
  intro hnone
  rw [not_or] at hnone
  refine absurd hc ?_
  rw [← join_splitOn '/' t]
  refine not_mem_join hnone.1 fun n hn => ?_
  obtain rfl | rfl | rfl := h.of_mem_splitOn hn
  · simp
  · simpa using hnone.2
  · simpa using hnone.2

theorem null_not_mem : Char.ofNat 0 ∉ t := fun hnull => by
  obtain hslash | hdot := h.eq_of_mem hnull
  · exact absurd hslash (by decide)
  · exact absurd hdot (by decide)

/-- No spelling of the root is the path of a document. -/
theorem not_endsWith : endsWith t ".xml".toList = false := by
  rw [← Bool.not_eq_true, endsWith, List.isSuffixOf_iff_suffix]
  intro hsuffix
  obtain hslash | hdot := h.eq_of_mem (hsuffix.subset (show 'x' ∈ ".xml".toList by decide))
  · exact absurd hslash (by decide)
  · exact absurd hdot (by decide)

/-- What precedes the last name in a spelling of the root is one too. -/
theorem of_splits {directory part : Text} (hsplits : Splits t directory part) (hslash : '/' ∉ part) :
    SpellsRoot directory := by
  constructor
  · apply Classical.byContradiction
    intro hrelative
    have hanchor := (hsplits.anchor_eq hslash).trans (Path.anchor_ofText_iff.mpr hrelative)
    exact Path.anchor_ofText_iff.mp hanchor h.absolute
  · intro n hn
    apply h.steps
    rw [hsplits.namesIn_eq]
    exact List.mem_append_left _ hn

theorem splitParent : SpellsRoot (splitParent t).1 := by
  have hhead := h.of_splits (splits_splitPath t) (Workspace.slash_of_splitPath t)
  unfold SourceAtlas.splitParent
  split
  · next head hsplit =>
      rw [hsplit] at hhead
      exact hhead.of_splits (splits_splitPath head) (Workspace.slash_of_splitPath head)
  · exact hhead

end SpellsRoot

/-! ## Looking up the root -/

namespace SpellsRoot

variable {t : Text} (h : SpellsRoot t) (ws : Workspace)
include h

theorem lookup (follow dirOnly : Bool) : ws.lookup follow dirOnly t =
    if pathLimit ≤ byteCount t then .error .nameTooLong else .ok (.found [] .directory) := by
  have hnull : ¬ Workspace.hasNull t = true := fun hnull =>
    h.null_not_mem (Workspace.hasNull_iff.mp hnull)
  have hstart : startOf t ws.workingDirectory = [] := if_pos h.absolute
  rw [Workspace.lookup, if_neg hnull, if_neg h.ne_nil, hstart, linkLimit, resolve,
    scan_steps _ _ _ h.steps]

theorem entryAt (hlimit : byteCount t < pathLimit) (follow : Bool) :
    ws.entryAt follow t = .ok ([], .directory) := by
  rw [Workspace.entryAt, h.lookup, if_neg (Nat.not_le.mpr hlimit)]
  rfl

theorem isDirectory (hlimit : byteCount t < pathLimit) : ws.isDirectory t = true :=
  Workspace.isDirectory_of_entryAt (h.entryAt ws hlimit true)

theorem entryAt_of_long (hlong : pathLimit ≤ byteCount t) (follow : Bool) :
    ws.entryAt follow t = .error .nameTooLong := by
  rw [Workspace.entryAt, h.lookup, if_pos hlong]
  rfl

theorem realPath : ws.realPath t = .ok (.ofText ['/']) := by
  have hstart : startOf t ws.workingDirectory = [] := if_pos h.absolute
  rw [Workspace.realPath, hstart, followLinks, followPieces_steps _ _ _ fun n => h.of_mem_splitOn]
  rfl

/-! ## Making directories -/

theorem ensureDirectory_of_long (hlong : pathLimit ≤ byteCount t) :
    ws.ensureDirectory t = (ws, some ⟨.nameTooLong, t⟩) := by
  have hmake : ws.makeDirectory t = .error ⟨.nameTooLong, t⟩ := by
    rw [Workspace.makeDirectory, h.lookup, if_pos hlong]
  have hnone : ws.isDirectory t = false := by
    rw [Workspace.isDirectory, Workspace.stat, h.entryAt_of_long ws hlong]
    rfl
  rw [Workspace.ensureDirectory, hmake]
  simp [hnone]

/-- No directory is made for a spelling that is too long: what precedes it either is there or is too long
itself. -/
theorem makeDirectories_of_long (hlong : pathLimit ≤ byteCount t) (depth : Nat) :
    ∃ path, ws.makeDirectories depth t = (ws, some ⟨.nameTooLong, path⟩) := by
  induction depth generalizing t with
  | zero => exact ⟨t, h.ensureDirectory_of_long ws hlong⟩
  | succ depth ih =>
      rw [Workspace.makeDirectories]
      dsimp only
      split
      · next hmissing =>
          have hhead : pathLimit ≤ byteCount (SourceAtlas.splitParent t).1 := by
            apply Nat.le_of_not_lt
            intro hlimit
            have hthere := h.splitParent.entryAt ws hlimit true
            simp [Workspace.leadsSomewhere, Workspace.stat, hthere, Except.map, Except.isOk,
              Except.toBool] at hmissing
          obtain ⟨path, hpath⟩ := ih h.splitParent hhead
          rw [hpath]
          exact ⟨path, rfl⟩
      · exact ⟨t, h.ensureDirectory_of_long ws hlong⟩

end SpellsRoot

/-! ## The root as a target -/

/-- The document in the root. -/
def rootTarget : Target := ⟨.ofText "/structure.xml".toList, .ofText ['/']⟩

namespace TargetRules

variable {request : Text} (h : SpellsRoot (trim request)) (ws : Workspace)
include h

/-- A request for the root points to the document there, unless it is a single slash or too long. -/
theorem pointsTo_root (hslash : trim request ≠ ['/']) (hlimit : byteCount (trim request) < pathLimit) :
    PointsTo {} ws request rootTarget := by
  have hsuffix : endsWith (trim request) ({} : TargetRules).suffix ≠ true := by
    rw [show endsWith (trim request) ({} : TargetRules).suffix = false from h.not_endsWith]
    simp
  have hdirectory : directoryText {} request = trim request := if_neg hsuffix
  have hroot : (ws.stat ['/']).isOk = true := by
    rw [Workspace.isDirectory_iff.mp (spellsRoot_slash.isDirectory ws (by decide))]
    rfl
  constructor
  · exact fun hrefused => hrefused.elim h.ne_nil hslash
  · intro _
    rw [hdirectory]
    exact h.isDirectory ws hlimit
  · rw [hdirectory]
    exact h.realPath ws
  · exact hroot
  · rw [documentName, if_neg hsuffix]
    rfl

theorem resolve_root_of_long (hlong : pathLimit ≤ byteCount (trim request)) :
    (resolve {} ws request).workspace = ws ∧
      ∃ f, (resolve {} ws request).outcome = .error f ∧ f.cls = .own .target := by
  have hslash : trim request ≠ ['/'] := fun hslash => by
    rw [hslash] at hlong
    exact absurd hlong (by decide)
  have hentry : ws.hasEntry (trim request) = false := by
    rw [Workspace.hasEntry, Workspace.linkStat, h.entryAt_of_long ws hlong]
    rfl
  have hsuffix : endsWith (trim request) ({} : TargetRules).suffix = false := h.not_endsWith
  obtain ⟨path, hpath⟩ := h.makeDirectories_of_long ws hlong (trim request).length
  rw [resolve]
  simp only [h.ne_nil, hslash, hsuffix, or_self, if_false, Bool.false_eq_true]
  rw [forDirectory]
  simp only [hentry, Workspace.makePath, hpath, Bool.false_eq_true, if_false]
  exact ⟨rfl, _, rfl, rfl⟩

end TargetRules

/-- A request for the root touches nothing.  It is refused exactly if it is a single slash or too long to be a
path; in any other spelling the root is a target like every directory. -/
theorem root_is_refused_iff (ws : Workspace) {request : Text} (h : SpellsRoot (trim request)) :
    let resolution := TargetRules.resolve {} ws request
    resolution.workspace = ws ∧
      ((∃ f, resolution.outcome = .error f ∧ f.cls = .own .target) ↔
        trim request = ['/'] ∨ pathLimit ≤ byteCount (trim request)) ∧
      (trim request ≠ ['/'] → byteCount (trim request) < pathLimit →
        resolution.outcome = .ok rootTarget) := by
  intro resolution
  by_cases hslash : trim request = ['/']
  · have hrefused : resolution =
        ⟨ws, [], .error (TargetRules.refusal
          ("Either an empty path or root was given: ".toList ++ trim request))⟩ :=
      if_pos (.inr hslash)
    rw [hrefused]
    exact ⟨rfl, iff_of_true ⟨_, rfl, rfl⟩ (.inl hslash), fun hne => absurd hslash hne⟩
  · obtain hlimit | hlong := Nat.lt_or_ge (byteCount (trim request)) pathLimit
    · obtain ⟨hok, hsame⟩ := (TargetRules.pointsTo_root h ws hslash hlimit).resolve
      refine ⟨hsame, iff_of_false ?_ ?_, fun _ _ => hok⟩
      · rintro ⟨f, hf, -⟩
        exact absurd (hok.symm.trans hf) (by simp)
      · rintro (hslash' | hlong)
        · exact hslash hslash'
        · exact absurd hlong (Nat.not_le.mpr hlimit)
    · obtain ⟨hsame, hrefused⟩ := TargetRules.resolve_root_of_long h ws hlong
      exact ⟨hsame, iff_of_true hrefused (.inr hlong), fun _ hlimit => absurd hlong (Nat.not_le.mpr hlimit)⟩

/-- A workspace without entries, at the root. -/
def vacant : Workspace := { files := ⟨[]⟩, workingDirectory := [], homes := [] }

/-- A single slash is refused, with white space at its ends too. -/
theorem single_slash_is_refused :
    SpellsRoot (trim " / ".toList) ∧
      ∃ f, (TargetRules.resolve {} vacant " / ".toList).outcome = .error f ∧ f.cls = .own .target := by
  have hspells : SpellsRoot (trim " / ".toList) := ⟨by decide, by decide⟩
  exact ⟨hspells, (root_is_refused_iff vacant hspells).2.1.mpr (.inl (by decide))⟩

/-- The root is not refused when it is spelled with two slashes, or by a step to the directory above it. -/
theorem other_spellings_of_root_are_targets :
    (SpellsRoot (trim "//".toList) ∧
        (TargetRules.resolve {} vacant "//".toList).outcome = .ok rootTarget) ∧
      SpellsRoot (trim "/..".toList) ∧
        (TargetRules.resolve {} vacant "/..".toList).outcome = .ok rootTarget :=
  ⟨⟨⟨by decide, by decide⟩, by decide⟩, ⟨by decide, by decide⟩, by decide⟩

end SourceAtlas
