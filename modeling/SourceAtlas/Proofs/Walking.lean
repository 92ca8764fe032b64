import SourceAtlas.Proofs.Descending
import SourceAtlas.Proofs.Ordering

/-!
# What a walk collects

Below its root, a walk that does not follow links crosses none, and neither does one that finds none
there.  So it visits the directories that none of the names on the way leaves out, as far as they can be
listed, and it collects the files of the selected kinds that it comes upon.
-/

namespace SourceAtlas

open Text Workspace

namespace Selection

/-- Whether a walk enters the directory below its root that has more names, and those on the way from
one that it has entered. -/
def entersAll (s : Selection) (root : Path) (entered : List Text) : List Text → Bool
  | [] => true
  | n :: ns =>
    s.enters root (below root (entered ++ [n])) && s.entersAll root (entered ++ [n]) ns

/-- Whether a walk collects the file with these names below its root: it is of a kind that is collected,
and is no more left out than the directories on the way. -/
def admits (s : Selection) (root : Path) (ns : List Text) : Bool :=
  s.kinds.contains (kindOf (below root ns)) && s.entersAll root [] ns

theorem entersAll_concat (s : Selection) (root : Path) (entered ns : List Text) (n : Text) :
    s.entersAll root entered (ns ++ [n]) =
      (s.entersAll root entered ns && s.enters root (below root (entered ++ ns ++ [n]))) := by
  induction ns generalizing entered with
  | nil => simp [entersAll]
  | cons m ms ih => simp [entersAll, ih, Bool.and_assoc]

end Selection

/-- A path that leads to a directory with no links below it, and goes on to what stands there without
being too long to be looked up. -/
structure Workspace.PlainRoot (ws : Workspace) (root : Path) (l : Location) : Prop where
  leads : ws.entryAt true root.text = .ok (l, .directory)
  plain : ∀ ns target, ws.files.get? (l ++ ns) ≠ some (.link target)
  short : ∀ ns e, ws.files.get? (l ++ ns) = some e → ∀ follow,
    ws.entryAt follow (Selection.below root ns).text ≠ .error .nameTooLong

/-- The directories on the way from a root down to one below it lead there, so they can be listed. -/
def Workspace.CanList (ws : Workspace) (root : Path) (ns : List Text) : Prop :=
  ∀ ms, ms <+: ns → ws.isDirectory (Selection.below root ms).text = true

theorem Workspace.CanList.concat {ws : Workspace} {root : Path} {ns : List Text} {n : Text}
    (h : ws.CanList root ns)
    (hlast : ws.isDirectory (Selection.below root (ns ++ [n])).text = true) :
    ws.CanList root (ns ++ [n]) := by
  intro ms hms
  obtain rfl | hms := List.prefix_concat_iff.mp hms
  · exact hlast
  · exact h ms hms

namespace Selection

variable {s : Selection} {ws : Workspace} {root : Path} {l : Location} {ns : List Text} {n : Text}
  {e : Entry}

/-- Below a location a walk crosses no links: it does not follow them, or there are none. -/
def CrossesNoLink (s : Selection) (ws : Workspace) (l : Location) : Prop :=
  s.followLinks = false ∨ ∀ ns target, ws.files.get? (l ++ ns) ≠ some (.link target)

theorem below_nil (root : Path) : below root [] = root := by
  rw [below, List.append_nil]

theorem name_below (root : Path) (ns : List Text) (n : Text) : (below root (ns ++ [n])).name = n := by
  rw [← child_below, Path.name, Path.child, List.getLast?_concat]
  rfl

/-! ## Below the root -/

section Below

variable (hsound : ws.Sound) (hroot : ∀ n ∈ root.names, IsProperName n)
include hsound hroot

theorem isProperName_below (he : ws.files.get? (l ++ ns) = some e) :
    ∀ n ∈ (below root ns).names, IsProperName n := by
  intro n hn
  obtain hn | hn := List.mem_append.mp hn
  · exact hroot n hn
  · exact (hsound.files.names he n (List.mem_append_right l hn)).toIsProperName

variable (hleads : ws.entryAt true root.text = .ok (l, .directory))
include hleads

theorem reaches_below (he : ws.files.get? (l ++ ns) = some e) (hlink : ∀ target, e ≠ .link target) :
    ws.Reaches (below root ns).text (l ++ ns) := by
  obtain ⟨k, hk, hlead⟩ := hsound.reaches_of_entryAt (by simp) hleads
  have hbelow := isProperName_below hsound hroot he
  rw [Path.namesOf_text hroot, Path.startOf_text hroot] at hlead
  refine ⟨k, hk, ?_⟩
  rw [Path.namesOf_text hbelow, Path.startOf_text hbelow]
  exact hlead.trans (hsound.files.leads_names he hlink)

/-- What stands below the root is found along its path, unless that is too long. -/
theorem entryAt_below (follow : Bool) (he : ws.files.get? (l ++ (ns ++ [n])) = some e)
    (hend : ∀ target, e = .link target → follow = false) :
    ws.entryAt follow (below root (ns ++ [n])).text = .ok (l ++ (ns ++ [n]), e) ∨
      ws.entryAt follow (below root (ns ++ [n])).text = .error .nameTooLong := by
  have hname := hsound.files.names he n (by simp)
  rw [← List.append_assoc] at he ⊢
  have hdirectory := hsound.files.parent he
  rw [← child_below]
  exact hsound.entryAt_child follow (isProperName_below hsound hroot hdirectory)
    (reaches_below hsound hroot hleads hdirectory (by simp)) hname he hend

/-- The path of a directory below the root leads nowhere else. -/
theorem eq_of_entryAt_directory {m : Location} (hns : ws.files.get? (l ++ ns) = some .directory)
    (hentry : ws.entryAt true (below root ns).text = .ok (m, .directory)) : m = l ++ ns :=
  (hsound.reaches_of_entryAt (by simp) hentry).unique
    (reaches_below hsound hroot hleads hns (by simp))

/-- A directory below the root is found along its path if that leads to a directory at all. -/
theorem entryAt_directory (hns : ws.files.get? (l ++ ns) = some .directory)
    (hdirectory : ws.isDirectory (below root ns).text = true) :
    ws.entryAt true (below root ns).text = .ok (l ++ ns, .directory) := by
  obtain ⟨⟨m, e⟩, hentry, rfl⟩ := map_eq_ok.mp (isDirectory_iff.mp hdirectory)
  obtain rfl := eq_of_entryAt_directory hsound hroot hleads hns hentry
  exact hentry

theorem realFile_below {content : Bytes} (he : ws.files.get? (l ++ ns) = some (.file content)) :
    ws.realFile (below root ns) = .ok (Location.path (l ++ ns)) := by
  have hreal := hsound.realPath_of_reaches (reaches_below hsound hroot hleads he (by simp))
  exact hsound.realFile_of_realPath hreal he (by simp)

/-! ## The directories that a walk visits -/

/-- A walk steps into the directories that it enters. -/
theorem stepsInto_below (he : ws.files.get? (l ++ (ns ++ [n])) = some .directory)
    (hdirectory : ws.isDirectory (below root ns).text = true)
    (henters : s.enters root (below root (ns ++ [n])) = true) :
    s.StepsInto ws root (below root ns) (below root (ns ++ [n])) := by
  have hlink : ws.isLink (below root (ns ++ [n])).text = false := by
    rw [isLink, linkStat]
    obtain hfound | hlong := entryAt_below hsound hroot hleads false he (by simp)
    · rw [hfound]
      rfl
    · rw [hlong]
      rfl
  have hname := hsound.files.names he n (by simp)
  rw [← List.append_assoc] at he
  have hentry := entryAt_directory hsound hroot hleads (hsound.files.parent he) hdirectory
  rw [← child_below] at henters hlink ⊢
  refine .intro hentry hname he ?_ henters (.inr hlink)
  rw [namesDirectory, he]

/-- A walk visits a directory below its root if it enters it and those on the way, and these can be
listed. -/
theorem visits_below (hns : ws.files.get? (l ++ ns) = some .directory)
    (henters : s.entersAll root [] ns = true) (hlist : ws.CanList root ns.dropLast) :
    s.Visits ws root (below root ns) := by
  induction ns using List.reverseRecOn with
  | nil =>
      rw [below_nil]
      exact visits_root s ws root
  | append_singleton ns n ih =>
      rw [entersAll_concat, Bool.and_eq_true] at henters
      rw [List.dropLast_concat] at hlist
      have hparent : ws.files.get? (l ++ ns) = some .directory := by
        rw [← List.append_assoc] at hns
        exact hsound.files.parent hns
      have hvisits := ih hparent henters.1 fun ms hms =>
        hlist ms (hms.trans (List.dropLast_prefix ns))
      exact hvisits.step (stepsInto_below hsound hroot hleads hns (hlist ns (List.prefix_refl ns))
        henters.2)

/-- A walk that crosses no links steps into directories only. -/
theorem StepsInto.exists_directory {p : Path} (hcross : s.CrossesNoLink ws l)
    (hns : ws.files.get? (l ++ ns) = some .directory)
    (h : s.StepsInto ws root (below root ns) p) : ∃ n, p = below root (ns ++ [n]) ∧
      ws.files.get? (l ++ (ns ++ [n])) = some .directory ∧
        s.enters root (below root (ns ++ [n])) = true := by
  obtain @⟨l', n, e, hentry, hn, he, hdirectory, henters, hlink⟩ := h
  obtain rfl := eq_of_entryAt_directory hsound hroot hleads hns hentry
  rw [namesDirectory, he] at hdirectory
  rw [child_below] at hdirectory henters hlink ⊢
  rw [List.append_assoc] at he
  refine ⟨n, rfl, ?_, henters⟩
  cases e with
  | directory => exact he
  | file content => cases hdirectory
  | link target =>
      obtain hfollow | hplain := hcross
      · -- what leads to a directory denotes something, so the link that the walk must not follow
        have hnot := hlink.resolve_left (by simp [hfollow])
        have hentry := hasEntry_of_isDirectory hdirectory
        rw [isLink, linkStat] at hnot
        rw [hasEntry, linkStat] at hentry
        obtain hfound | hlong := entryAt_below hsound hroot hleads false he (by simp)
        · rw [hfound] at hnot
          cases hnot
        · rw [hlong] at hentry
          cases hentry
      · exact absurd he (hplain _ target)

/-- A walk that crosses no links visits nothing else. -/
theorem Visits.exists_below {q : Path} (hcross : s.CrossesNoLink ws l) (h : s.Visits ws root q) :
    ∃ ns, q = below root ns ∧ ws.files.get? (l ++ ns) = some .directory ∧
      s.entersAll root [] ns = true ∧ ws.CanList root ns.dropLast := by
  have hl : ws.files.get? (l ++ []) = some .directory := by
    rw [List.append_nil]
    exact hsound.get?_of_entryAt hleads
  have hself : ws.isDirectory (below root []).text = true := by
    rw [below_nil]
    exact isDirectory_of_entryAt hleads
  obtain ⟨k, h⟩ := h
  induction k generalizing q with
  | zero =>
      obtain rfl := descends_zero_iff.mp h
      refine ⟨[], (below_nil q).symm, hl, rfl, fun ms hms => ?_⟩
      obtain rfl := List.prefix_nil.mp hms
      exact hself
  | succ k ih =>
      obtain ⟨p, hp, hlast⟩ := h.exists_last
      obtain ⟨ns, rfl, hns, henters, hlist⟩ := ih hp
      obtain ⟨n, rfl, hn, hentered⟩ :=
        hlast.exists_directory hsound hroot hleads hcross hns
      refine ⟨ns ++ [n], rfl, hn, ?_, ?_⟩
      · rw [entersAll_concat, henters, List.nil_append, hentered]
        rfl
      · rw [List.dropLast_concat]
        obtain rfl | ⟨ms, m, rfl⟩ := List.eq_nil_or_concat' ns
        · exact hlist
        · rw [List.dropLast_concat] at hlist
          exact hlist.concat hlast.isDirectory

/-! ## Whole walks -/

/-- A whole walk comes upon what no directory is where it visits. -/
theorem mem_whole_walk_of_get? (he : ws.files.get? (l ++ (ns ++ [n])) = some e)
    (hnot : ws.namesDirectory (l ++ ns) n (below root (ns ++ [n])).text = false)
    (henters : s.entersAll root [] ns = true) (hlist : ws.CanList root ns) :
    below root (ns ++ [n]) ∈ s.walk ws root (depthLimit ws) root := by
  have hname := hsound.files.names he n (by simp)
  rw [← List.append_assoc] at he
  have hns := hsound.files.parent he
  rw [mem_whole_walk_iff_visits hsound hroot]
  refine ⟨below root ns, visits_below hsound hroot hleads hns henters fun ms hms =>
    hlist ms (hms.trans (List.dropLast_prefix ns)), ?_⟩
  rw [← child_below] at hnot ⊢
  exact .intro (entryAt_directory hsound hroot hleads hns (hlist ns (List.prefix_refl ns))) hname he
    hnot

theorem mem_whole_walk_iff (hcross : s.CrossesNoLink ws l) {p : Path} :
    p ∈ s.walk ws root (depthLimit ws) root ↔ ∃ ns n e, p = below root (ns ++ [n]) ∧
      ws.files.get? (l ++ (ns ++ [n])) = some e ∧
        ws.namesDirectory (l ++ ns) n (below root (ns ++ [n])).text = false ∧
          s.entersAll root [] ns = true ∧ ws.CanList root ns := by
  constructor
  · intro hp
    obtain ⟨d, hd, hupon⟩ := (mem_whole_walk_iff_visits hsound hroot).mp hp
    obtain ⟨ns, rfl, hns, henters, hlist⟩ := hd.exists_below hsound hroot hleads hcross
    have hdirectory := hupon.isDirectory
    obtain @⟨l', n, e, hentry, hn, he, hnot⟩ := hupon
    obtain rfl := eq_of_entryAt_directory hsound hroot hleads hns hentry
    rw [child_below] at hnot
    rw [List.append_assoc] at he
    refine ⟨ns, n, e, child_below root ns n, he, hnot, henters, ?_⟩
    obtain rfl | ⟨ms, m, rfl⟩ := List.eq_nil_or_concat' ns
    · exact hlist
    · rw [List.dropLast_concat] at hlist
      exact hlist.concat hdirectory
  · rintro ⟨ns, n, e, rfl, he, hnot, henters, hlist⟩
    exact mem_whole_walk_of_get? hsound hroot hleads he hnot henters hlist

/-- Of a file below the root a walk tells whether it collects it, if it can ask about it. -/
theorem collects_file {content : Bytes}
    (he : ws.files.get? (l ++ (ns ++ [n])) = some (.file content)) {collected : Bool}
    (h : s.collects ws root (below root (ns ++ [n])) = .ok collected) :
    collected = (s.kinds.contains (kindOf (below root (ns ++ [n]))) &&
      s.enters root (below root (ns ++ [n]))) := by
  cases hfollow : s.followLinks with
  | true => exact (Except.ok.inj ((collects_of_follow hfollow _).symm.trans h)).symm
  | false =>
      obtain hfound | hlong := entryAt_below hsound hroot hleads false he (by simp)
      · have hlink : ws.denotesLink (below root (ns ++ [n])).text = .ok false := by
          rw [denotesLink, linkStat, hfound]
          rfl
        exact (Except.ok.inj ((collects_of_denotesLink hfollow hlink).symm.trans h)).symm
      · -- a path that cannot be asked for belongs to a hidden file, which is left out
        have hstat : ws.linkStat (below root (ns ++ [n])).text = .error .nameTooLong := by
          rw [linkStat, hlong]
          rfl
        have hhidden : s.includeHidden = false ∧ Glob.isHidden (below root (ns ++ [n])).name = true := by
          rw [← Bool.not_eq_false (Glob.isHidden _), ← Classical.not_imp]
          intro hshown
          obtain ⟨f, hf⟩ : ∃ f, s.collects ws root (below root (ns ++ [n])) = .error f :=
            (exists_collects_error_iff hfollow).mpr ⟨hshown, hstat⟩
          cases hf.symm.trans h
        rw [collects_of_hidden hhidden.1 hhidden.2] at h
        obtain rfl := Except.ok.inj h
        rw [enters, hhidden.1, hhidden.2]
        simp

/-- A walk that crosses no links collects files only. -/
theorem exists_file_of_collects (hcross : s.CrossesNoLink ws l)
    (he : ws.files.get? (l ++ (ns ++ [n])) = some e)
    (hnot : ws.namesDirectory (l ++ ns) n (below root (ns ++ [n])).text = false)
    (h : s.collects ws root (below root (ns ++ [n])) = .ok true) : ∃ content, e = .file content := by
  cases e with
  | directory =>
      rw [namesDirectory, List.append_assoc, he] at hnot
      cases hnot
  | file content => exact ⟨content, rfl⟩
  | link target =>
      obtain hfollow | hplain := hcross
      · have hasked := denotesLink_of_collects hfollow h
        rw [denotesLink, linkStat] at hasked
        obtain hfound | hlong := entryAt_below hsound hroot hleads false he (by simp)
        · rw [hfound] at hasked
          cases hasked
        · rw [hlong] at hasked
          cases hasked
      · exact absurd he (hplain _ target)

/-- A file below its root is among what a whole walk collects if the walk admits it, and can list the
directories on the way and ask about the file. -/
theorem collected_of_admits {content : Bytes}
    (he : ws.files.get? (l ++ ns) = some (.file content)) (hadmits : s.admits root ns = true)
    (hlist : ws.CanList root ns.dropLast)
    (hasks : ∀ p ∈ s.walk ws root (depthLimit ws) root, ∃ collected,
      s.collects ws root p = .ok collected) :
    below root ns ∈ s.walk ws root (depthLimit ws) root ∧
      s.collects ws root (below root ns) = .ok true := by
  obtain rfl | ⟨ms, n, rfl⟩ := List.eq_nil_or_concat' ns
  · rw [List.append_nil, hsound.get?_of_entryAt hleads] at he
    cases he
  · rw [admits, entersAll_concat, Bool.and_eq_true, Bool.and_eq_true, List.nil_append] at hadmits
    obtain ⟨hkind, hall, henters⟩ := hadmits
    rw [List.dropLast_concat] at hlist
    have hwalk : below root (ms ++ [n]) ∈ s.walk ws root (depthLimit ws) root := by
      refine mem_whole_walk_of_get? hsound hroot hleads he ?_ hall hlist
      rw [namesDirectory, List.append_assoc, he]
    obtain ⟨collected, hcollects⟩ := hasks _ hwalk
    refine ⟨hwalk, ?_⟩
    rw [hcollects, collects_file hsound hroot hleads he hcollects, hkind, henters]
    rfl

/-- A whole walk that crosses no links collects the files that it admits where it can list. -/
theorem collected_iff (hcross : s.CrossesNoLink ws l)
    (hasks : ∀ p ∈ s.walk ws root (depthLimit ws) root, ∃ collected,
      s.collects ws root p = .ok collected) {p : Path} :
    p ∈ s.walk ws root (depthLimit ws) root ∧ s.collects ws root p = .ok true ↔
      ∃ ns content, p = below root ns ∧ ws.files.get? (l ++ ns) = some (.file content) ∧
        s.admits root ns = true ∧ ws.CanList root ns.dropLast := by
  constructor
  · rintro ⟨hwalk, hcollects⟩
    obtain ⟨ns, n, e, rfl, he, hnot, hall, hlist⟩ :=
      (mem_whole_walk_iff hsound hroot hleads hcross).mp hwalk
    obtain ⟨content, rfl⟩ := exists_file_of_collects hsound hroot hleads hcross he hnot hcollects
    refine ⟨ns ++ [n], content, rfl, he, ?_, by rwa [List.dropLast_concat]⟩
    have hboth := (collects_file hsound hroot hleads he hcollects).symm
    rw [Bool.and_eq_true] at hboth
    rw [admits, entersAll_concat, hboth.1, hall, List.nil_append, hboth.2]
    rfl
  · rintro ⟨ns, content, rfl, he, hadmits, hlist⟩
    exact collected_of_admits hsound hroot hleads he hadmits hlist hasks

end Below

/-! ## The files of a directory -/

theorem outcome_filesOfDirectory {directory : Text}
    (hdirectory : ws.expandHomePath? (.ofText directory) = some root)
    (hisDirectory : ws.isDirectory root.text = true) : (s.filesOfDirectory ws directory).outcome =
      ((s.walk ws root (depthLimit ws) root).filterM (s.collects ws root) >>= fun picked =>
        picked.mapM ws.realFile) := by
  have hkind : ws.isKind Entry.isDirectory root.text = .ok true := by
    rw [isKind, isDirectory_iff.mp hisDirectory]
    rfl
  rw [filesOfDirectory, hdirectory]
  dsimp only
  rw [hkind]

/-- The files of a directory are those that its walk admits where it can list. -/
theorem exists_files_of_asks {directory : Text} (hsound : ws.Sound)
    (hdirectory : ws.expandHomePath? (.ofText directory) = some root)
    (hleads : ws.entryAt true root.text = .ok (l, .directory)) (hcross : s.CrossesNoLink ws l)
    (hasks : ∀ p ∈ s.walk ws root (depthLimit ws) root, ∃ collected,
      s.collects ws root p = .ok collected) :
    ∃ files, (s.filesOfDirectory ws directory).outcome = .ok files ∧ ∀ file, file ∈ files ↔
      ∃ ns content, file = Location.path (l ++ ns) ∧
        ws.files.get? (l ++ ns) = some (.file content) ∧ s.admits root ns = true ∧
          ws.CanList root ns.dropLast := by
  have hroot := isProperName_of_expandHomePath?_ofText hdirectory
  have hisDirectory := isDirectory_of_entryAt hleads
  obtain ⟨picked, hpicked⟩ := exists_filterM hasks
  have hmem : ∀ p, p ∈ picked ↔ ∃ ns content, p = below root ns ∧
      ws.files.get? (l ++ ns) = some (.file content) ∧ s.admits root ns = true ∧
        ws.CanList root ns.dropLast :=
    fun p => (mem_filterM hpicked).trans (collected_iff hsound hroot hleads hcross hasks)
  obtain ⟨files, hfiles⟩ : ∃ files, picked.mapM ws.realFile = .ok files := by
    apply exists_mapM
    intro p hp
    obtain ⟨ns, content, rfl, he, -⟩ := (hmem p).mp hp
    exact ⟨_, realFile_below hsound hroot hleads he⟩
  have hlists := lists_mapM hfiles
  refine ⟨files, ?_, fun file => ⟨fun hfile => ?_, ?_⟩⟩
  · rw [outcome_filesOfDirectory hdirectory hisDirectory, hpicked]
    exact hfiles
  · obtain ⟨p, hp, hreal⟩ := hlists.only file hfile
    obtain ⟨ns, content, rfl, he, hadmits⟩ := (hmem p).mp hp
    rw [realFile_below hsound hroot hleads he] at hreal
    exact ⟨ns, content, (Except.ok.inj hreal).symm, he, hadmits⟩
  · rintro ⟨ns, content, rfl, he, hadmits⟩
    obtain ⟨file, hfile, hreal⟩ := hlists.all _ ((hmem _).mpr ⟨ns, content, rfl, he, hadmits⟩)
    rw [realFile_below hsound hroot hleads he] at hreal
    rwa [Except.ok.inj hreal]

section Plain

variable (hsound : ws.Sound) (hroot : ∀ n ∈ root.names, IsProperName n) (h : ws.PlainRoot root l)
include hsound hroot h

/-- Below a plain root all directories can be listed. -/
theorem canList_of_plainRoot (hns : ws.files.get? (l ++ ns) = some .directory) :
    ws.CanList root ns := by
  rintro ms ⟨rest, rfl⟩
  have hms : ws.files.get? (l ++ ms) = some .directory := by
    by_cases hrest : rest = []
    · rwa [hrest, List.append_nil] at hns
    · rw [← List.append_assoc] at hns
      exact hsound.files.ancestor hns hrest
  obtain rfl | ⟨ks, k, rfl⟩ := List.eq_nil_or_concat' ms
  · rw [below_nil]
    exact isDirectory_of_entryAt h.leads
  · obtain hfound | hlong := entryAt_below hsound hroot h.leads true hms (by simp)
    · exact isDirectory_of_entryAt hfound
    · exact absurd hlong (h.short _ _ hms true)

/-- Below a plain root a walk can ask about everything. -/
theorem asks_of_plainRoot {p : Path} (hp : p ∈ s.walk ws root (depthLimit ws) root) :
    ∃ collected, s.collects ws root p = .ok collected := by
  obtain ⟨ns, n, e, rfl, he, -⟩ :=
    (mem_whole_walk_iff hsound hroot h.leads (.inr h.plain)).mp hp
  obtain hfound | hlong := entryAt_below hsound hroot h.leads false he (by simp)
  · cases hfollow : s.followLinks with
    | true => exact ⟨_, collects_of_follow hfollow _⟩
    | false =>
        have hlink : ws.denotesLink (below root (ns ++ [n])).text = .ok e.isLink := by
          rw [denotesLink, linkStat, hfound]
          rfl
        exact ⟨_, collects_of_denotesLink hfollow hlink⟩
  · exact absurd hlong (h.short _ _ he false)

end Plain

/-- The files of a directory without links are those that its walk admits. -/
theorem exists_filesOfDirectory {directory : Text} (hsound : ws.Sound)
    (hdirectory : ws.expandHomePath? (.ofText directory) = some root)
    (h : ws.PlainRoot root l) :
    ∃ files, (s.filesOfDirectory ws directory).outcome = .ok files ∧ ∀ file, file ∈ files ↔
      ∃ ns content, file = Location.path (l ++ ns) ∧
        ws.files.get? (l ++ ns) = some (.file content) ∧ s.admits root ns = true := by
  have hroot := isProperName_of_expandHomePath?_ofText hdirectory
  obtain ⟨files, hfiles, hmem⟩ := exists_files_of_asks (s := s) hsound hdirectory h.leads
    (.inr h.plain) fun p hp => asks_of_plainRoot hsound hroot h hp
  refine ⟨files, hfiles, fun file => (hmem file).trans ⟨?_, ?_⟩⟩
  · rintro ⟨ns, content, hfile, he, hadmits, -⟩
    exact ⟨ns, content, hfile, he, hadmits⟩
  · rintro ⟨ns, content, hfile, he, hadmits⟩
    refine ⟨ns, content, hfile, he, hadmits, canList_of_plainRoot hsound hroot h ?_⟩
    obtain rfl | ⟨ms, n, rfl⟩ := List.eq_nil_or_concat' ns
    · rw [List.append_nil, hsound.get?_of_entryAt h.leads] at he
      cases he
    · rw [← List.append_assoc] at he
      rw [List.dropLast_concat]
      exact hsound.files.parent he

end Selection

end SourceAtlas
