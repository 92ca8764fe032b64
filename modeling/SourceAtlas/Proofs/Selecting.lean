import SourceAtlas.Proofs.Collecting
import SourceAtlas.Proofs.Matching

/-!
# Selecting once a file is written

Once a file is written, a selection comes to the same files as before, unless the file itself is among
them: whatever is selected besides is reached through the file, and only the file can be.  A name that
is too long may keep such a path from being asked for.
-/

namespace SourceAtlas

open Text Workspace

/-! ## Home directories -/

section Homes

variable {ws ws' : Workspace} (h : ws'.homes = ws.homes)
include h

theorem expandHome_congr (t : Text) : ws'.expandHome t = ws.expandHome t := by
  simp only [expandHome, homeOf?, h]

theorem expandHomePath?_congr (p : Path) : ws'.expandHomePath? p = ws.expandHomePath? p := by
  simp only [expandHomePath?, expandHome_congr h]

end Homes

theorem isProperName_of_expandHomePath? {ws : Workspace} {p root : Path}
    (hp : ∀ n ∈ p.names, IsProperName n) (h : ws.expandHomePath? p = some root) :
    ∀ n ∈ root.names, IsProperName n := by
  rw [expandHomePath?] at h
  split at h
  · next first rest _ hnames =>
      split at h
      · dsimp only at h
        split at h
        · cases h
        · obtain rfl := Option.some.inj h
          intro n hn
          obtain hn | hn := List.mem_append.mp hn
          · exact Path.isProperName_of_mem_namesOf hn
          · exact hp n (hnames ▸ List.mem_cons_of_mem first hn)
      · obtain rfl := Option.some.inj h
        exact hp
  · obtain rfl := Option.some.inj h
    exact hp

theorem isProperName_of_expandHomePath?_ofText {ws : Workspace} {t : Text} {root : Path}
    (h : ws.expandHomePath? (.ofText t) = some root) : ∀ n ∈ root.names, IsProperName n :=
  isProperName_of_expandHomePath? (fun _ hn => Path.isProperName_of_mem_namesOf hn) h

/-- A path with a name that is too long cannot be asked for. -/
def IsTooLong (f : Fault) : Prop := ∃ path, f = .ofFile ⟨.nameTooLong, path⟩

theorem isTooLong_of_isKind {ws : Workspace} {kind : Entry → Bool} {t : Text} {e : FileError}
    (hkind : ws.isKind kind t = .error e) : IsTooLong (.ofFile e) :=
  ⟨t, congrArg Fault.ofFile (eq_of_kindFound (fun _ => reason_of_stat) hkind)⟩

theorem isTooLong_of_denotesLink {ws : Workspace} {t : Text} {e : FileError}
    (hlink : ws.denotesLink t = .error e) : IsTooLong (.ofFile e) :=
  ⟨t, congrArg Fault.ofFile (eq_of_kindFound (fun _ => reason_of_linkStat) hlink)⟩

namespace Selection

variable {s : Selection}

/-! ## How deep a walk goes -/

section Depth

variable {ws : Workspace} {root : Path}

/-- A directory below the root of a walk. -/
def below (root : Path) (more : List Text) : Path := ⟨root.anchor, root.names ++ more⟩

theorem child_below (root : Path) (more : List Text) (n : Text) :
    (below root more).child n = below root (more ++ [n]) := by
  rw [below, Path.child, below, List.append_assoc]

/-- The directories that a walk enters have the name of an entry. -/
theorem of_mem_visit (h : ws.Sound) {directory p : Path} (hp : p ∈ (s.visit ws root directory).2) :
    ∃ n, IsEntryName n ∧ p = directory.child n := by
  rw [visit] at hp
  split at hp
  · have hmem := List.mem_mergeSort.mp (List.mem_of_mem_filter hp)
    obtain ⟨n, hn, rfl⟩ := List.mem_map.mp (List.mem_of_mem_filter hmem)
    obtain ⟨e, he⟩ := FileSystem.exists_of_mem_names (List.mem_of_mem_filter hn)
    exact ⟨n, h.files.names he n (by simp), rfl⟩
  · cases hp

/-- A walk sees nothing where a path does not lead to a directory. -/
theorem walk_of_not_isDirectory {directory : Path} (h : ws.isDirectory directory.text = false)
    (depth : Nat) : s.walk ws root depth directory = [] := by
  have hvisit : s.visit ws root directory = ([], []) := by
    rw [visit]
    split
    · next l hentry =>
        rw [isDirectory, stat, hentry] at h
        cases h
    · rfl
  cases depth with
  | zero => rw [walk, hvisit]
  | succ depth =>
      rw [walk, hvisit]
      rfl

/-- No directory is deeper below the root than there can be entries between the links on the way. -/
theorem length_lt_depthLimit (h : ws.Sound) (hroot : ∀ n ∈ root.names, IsProperName n)
    {more : List Text} (hmore : ∀ n ∈ more, IsEntryName n)
    (hdirectory : ws.isDirectory (below root more).text = true) : more.length < depthLimit ws := by
  have hnames : ∀ n ∈ (below root more).names, IsProperName n := by
    intro n hn
    obtain hn | hn := List.mem_append.mp hn
    · exact hroot n hn
    · exact (hmore n hn).toIsProperName
  obtain ⟨l, ⟨k, hk, hlead⟩, -⟩ := h.reaches_of_stat (isDirectory_iff.mp hdirectory)
  rw [Path.namesOf_text hnames] at hlead
  obtain ⟨i, j, mid, hfirst, hrest, hsum⟩ := hlead.split
  have hmid := hfirst.exists_entry h.files
    ⟨_, FileSystem.Sound.startOf_isDirectory h.directory _⟩
  have hle := hrest.length_le h.files hmid hmore
  have hlinks : j * (ws.files.entries.length + 1) ≤
      FileSystem.linkLimit * (ws.files.entries.length + 1) := by
    apply Nat.mul_le_mul_right
    omega
  rw [depthLimit, Nat.add_mul, Nat.one_mul]
  omega

theorem of_mem_visit_below (h : ws.Sound) {more : List Text} (hmore : ∀ n ∈ more, IsEntryName n)
    {p : Path} (hp : p ∈ (s.visit ws root (below root more)).2) :
    ∃ n, p = below root (more ++ [n]) ∧ ∀ m ∈ more ++ [n], IsEntryName m := by
  obtain ⟨n, hn, rfl⟩ := of_mem_visit h hp
  rw [child_below]
  refine ⟨n, rfl, fun m hm => ?_⟩
  obtain hm | hm := List.mem_append.mp hm
  · exact hmore m hm
  · obtain rfl := List.mem_singleton.mp hm
    exact hn

/-- A walk that is as deep as directories can be gains nothing from going deeper. -/
theorem walk_succ (h : ws.Sound) (hroot : ∀ n ∈ root.names, IsProperName n) {depth : Nat}
    {more : List Text} (hmore : ∀ n ∈ more, IsEntryName n)
    (hdepth : depthLimit ws ≤ depth + more.length + 1) :
    s.walk ws root (depth + 1) (below root more) = s.walk ws root depth (below root more) := by
  induction depth generalizing more with
  | zero =>
      have hnone : (s.visit ws root (below root more)).2.flatMap (s.walk ws root 0) = [] := by
        rw [List.flatMap_eq_nil_iff]
        intro p hp
        obtain ⟨n, rfl, hnames⟩ := of_mem_visit_below h hmore hp
        apply walk_of_not_isDirectory
        rw [← Bool.not_eq_true]
        intro hdirectory
        have hlt := length_lt_depthLimit h hroot hnames hdirectory
        rw [List.length_append, List.length_singleton] at hlt
        omega
      rw [walk, walk]
      dsimp only
      rw [hnone, List.append_nil]
  | succ depth ih =>
      have hdirectories : ∀ p ∈ (s.visit ws root (below root more)).2,
          s.walk ws root (depth + 1) p = s.walk ws root depth p := by
        intro p hp
        obtain ⟨n, rfl, hnames⟩ := of_mem_visit_below h hmore hp
        apply ih hnames
        rw [List.length_append, List.length_singleton]
        omega
      rw [walk, walk]
      dsimp only
      rw [List.flatMap_def, List.map_congr_left hdirectories, List.flatMap_def]

theorem walk_add (h : ws.Sound) (hroot : ∀ n ∈ root.names, IsProperName n) (more : Nat) :
    s.walk ws root (depthLimit ws + more) root = s.walk ws root (depthLimit ws) root := by
  have hself : below root [] = root := by rw [below, List.append_nil]
  induction more with
  | zero => rfl
  | succ more ih =>
      have hdeeper : s.walk ws root (depthLimit ws + more + 1) (below root []) =
          s.walk ws root (depthLimit ws + more) (below root []) :=
        walk_succ h hroot (by simp) (by rw [List.length_nil]; omega)
      rw [hself] at hdeeper
      rw [← ih, ← hdeeper]
      rfl

end Depth

/-- A walk fails only where it cannot ask whether an entry is a link. -/
theorem isTooLong_of_collects {ws : Workspace} {root file : Path} {f : Fault}
    (h : s.collects ws root file = .error f) : IsTooLong f := by
  rw [collects] at h
  split at h
  · cases h
  · dsimp only at h
    split at h
    · cases h
    · cases hlink : ws.denotesLink file.text with
      | ok isLink =>
          rw [hlink] at h
          cases h
      | error e =>
          rw [hlink] at h
          obtain rfl := Except.error.inj h
          exact isTooLong_of_denotesLink hlink

/-! ## Once a file is written -/

section Written

variable {ws ws' : Workspace} {d : Location} {n : Text} {content : Bytes}
  (h : ws.Writes d n content ws')
include h

theorem collects_eq (root : Path) : s.collects ws' root = s.collects ws root := by
  funext file
  simp only [collects, h.denotesLink]

/-- A walk enters the same directories, and in a directory it comes upon the same entries and perhaps
the file. -/
theorem gains_visit (root : Path) {directory : Path}
    (hdirectory : ∀ m ∈ directory.names, IsProperName m) :
    (s.visit ws' root directory).2 = (s.visit ws root directory).2 ∧
      Gains (fun p => ws'.realPath p.text = .ok (Location.path (d ++ [n])))
        (s.visit ws root directory).1 (s.visit ws' root directory).1 := by
  have hentry := h.writesAt.entryAt true directory.text
  have hreaches : ws'.entryAt true directory.text = .ok (d, .directory) →
      ws'.Reaches directory.text d := h.sound'.reaches_of_entryAt (by simp)
  rw [visit, visit]
  generalize ws.entryAt true directory.text = r at hentry ⊢
  generalize ws'.entryAt true directory.text = r' at hentry hreaches ⊢
  cases hentry with
  | renewed => exact ⟨rfl, .refl _⟩
  | gained => exact ⟨rfl, .refl _⟩
  | blocked => exact ⟨rfl, .refl _⟩
  | same =>
      split
      · next l =>
          dsimp only
          simp only [h.isLink, h.namesDirectory]
          obtain hsame | ⟨rfl, hmore⟩ := h.names_cases l
          · rw [hsame]
            exact ⟨rfl, .refl _⟩
          · have hchild := Path.isProperName_child hdirectory h.name.toIsProperName
            have hfile : ws'.Reaches (directory.child n).text (l ++ [n]) := by
              apply (hreaches rfl).child h.name h.get?_place (by simp)
              · rw [Path.startOf_text hchild, Path.startOf_text hdirectory]
                rfl
              · rw [Path.namesOf_text hchild, Path.namesOf_text hdirectory]
                rfl
            have hnot : ws.namesDirectory l n (directory.child n).text = false := by
              rw [← h.namesDirectory, namesDirectory, h.get?_place]
            rw [hmore]
            constructor
            · rw [List.filter_append, List.filter_cons_of_neg (by simp [hnot]), List.filter_nil,
                List.append_nil]
            · rw [List.filter_append, List.filter_cons_of_pos (by simp [hnot]), List.filter_nil,
                List.map_append, List.map_singleton]
              apply Gains.concat
              exact h.realPath_of_reaches hfile
      · exact ⟨rfl, .refl _⟩

theorem gains_walk (root : Path) (depth : Nat) {directory : Path}
    (hdirectory : ∀ m ∈ directory.names, IsProperName m) :
    Gains (fun p => ws'.realPath p.text = .ok (Location.path (d ++ [n])))
      (s.walk ws root depth directory) (s.walk ws' root depth directory) := by
  induction depth generalizing directory with
  | zero => exact (gains_visit h root hdirectory).2
  | succ depth ih =>
      obtain ⟨hsame, hfiles⟩ := gains_visit (s := s) h root hdirectory
      rw [walk, walk]
      dsimp only
      rw [hsame]
      apply hfiles.append
      apply Gains.flatMap
      intro p hp
      obtain ⟨m, hm, rfl⟩ := of_mem_visit h.sound hp
      exact ih (Path.isProperName_child hdirectory hm.toIsProperName)

/-- A whole walk comes upon what it came upon, and perhaps the file. -/
theorem gains_whole_walk {root : Path} (hroot : ∀ m ∈ root.names, IsProperName m) :
    Gains (fun p => ws'.realPath p.text = .ok (Location.path (d ++ [n])))
      (s.walk ws root (depthLimit ws) root) (s.walk ws' root (depthLimit ws') root) := by
  have hdepth : ∃ more, depthLimit ws' = depthLimit ws + more := by
    rw [depthLimit, depthLimit]
    obtain hlength | hlength := h.length_entries
    · exact ⟨0, by rw [hlength]; rfl⟩
    · exact ⟨FileSystem.linkLimit + 1, by rw [hlength, Nat.mul_add, Nat.mul_one]⟩
  obtain ⟨more, hmore⟩ := hdepth
  rw [hmore, ← walk_add h.sound hroot more]
  exact gains_walk h root _ hroot

/-! ## The files of patterns and directories -/

/-- A path that passes through the file is picked only if it reaches the file. -/
theorem realPath_of_isFile {t : Text} (hthrough : ws'.PassesThrough t (d ++ [n]))
    (hfile : ws'.isKind Entry.isFile t = .ok true) :
    ws'.realPath t = .ok (Location.path (d ++ [n])) := by
  obtain ⟨content, hstat⟩ := isKind_isFile_iff.mp hfile
  obtain ⟨l, hreaches, -⟩ := h.sound'.reaches_of_stat hstat
  obtain rfl := h.sound'.eq_of_passesThrough h.get?_place hthrough hreaches
  exact h.realPath_of_reaches hreaches

theorem realFile_of_place {p : Path} (hp : ws'.realPath p.text = .ok (Location.path (d ++ [n]))) :
    ws.realFile p = .ok (Location.path (d ++ [n])) := by
  rw [← h.realFile]
  exact h.sound'.realFile_of_realPath hp h.get?_place (by simp)

/-- The real paths of paths are the same, and that of the file if they lead there. -/
theorem regains_realFiles {paths paths' : List Path}
    (hgains : Gains (fun p => ws'.realPath p.text = .ok (Location.path (d ++ [n]))) paths paths') :
    Regains IsTooLong (· = Location.path (d ++ [n])) (paths.mapM ws.realFile)
      (paths'.mapM ws'.realFile) := by
  rw [show ws'.realFile = ws.realFile from funext h.realFile]
  apply Regains.mapM hgains
  intro p hp
  exact ⟨_, realFile_of_place h hp, rfl⟩

/-- Picking the files among paths picks the same ones, and those that lead to the file. -/
theorem regains_picked (ignored : Path → Bool) {paths paths' : List Path}
    (hgains : Gains (fun p => ws'.PassesThrough p.text (d ++ [n])) paths paths') :
    Regains IsTooLong (fun p => ws'.realPath p.text = .ok (Location.path (d ++ [n])))
      (paths.filterM fun path => do
        let isFile ← (ws.isKind Entry.isFile path.text).mapError .ofFile
        return isFile && !ignored path)
      (paths'.filterM fun path => do
        let isFile ← (ws'.isKind Entry.isFile path.text).mapError .ofFile
        return isFile && !ignored path) := by
  apply Regains.filterM hgains
  · intro p
    obtain hsame | ⟨hbefore, hafter, hreaches⟩ := h.isFile_cases p.text
    · rw [hsame]
      exact .inl rfl
    · rw [hbefore, hafter]
      exact .inr ⟨rfl, _, rfl, h.realPath_of_reaches hreaches⟩
  · intro p hthrough
    cases hkind : ws'.isKind Entry.isFile p.text with
    | error e => exact .inl ⟨_, rfl, isTooLong_of_isKind hkind⟩
    | ok isFile =>
        refine .inr ⟨_, rfl, fun hpicked => ?_⟩
        rw [Bool.and_eq_true] at hpicked
        obtain ⟨rfl, -⟩ := hpicked
        exact realPath_of_isFile h hthrough hkind

/-- Of what a walk comes upon, it collects the same entries, and perhaps the file. -/
theorem regains_collects (root : Path) {paths paths' : List Path}
    (hgains : Gains (fun p => ws'.realPath p.text = .ok (Location.path (d ++ [n]))) paths paths') :
    Regains IsTooLong (fun p => ws'.realPath p.text = .ok (Location.path (d ++ [n])))
      (paths.filterM (s.collects ws root)) (paths'.filterM (s.collects ws' root)) := by
  rw [collects_eq h]
  apply Regains.filterM hgains
  · exact fun p => .inl rfl
  · intro p hp
    cases hcollects : s.collects ws root p with
    | error f => exact .inl ⟨f, rfl, isTooLong_of_collects hcollects⟩
    | ok collected => exact .inr ⟨collected, rfl, fun _ => hp⟩

theorem regains_filesOfPattern (pattern : Text) :
    Regains IsTooLong (· = Location.path (d ++ [n])) (s.filesOfPattern ws pattern)
      (s.filesOfPattern ws' pattern) := by
  have hmatched : Regains IsTooLong (ws'.Crosses (d ++ [n]))
      ((Glob.find ws (ws.expandHome pattern)).mapError fun r => .ofFile ⟨r, pattern⟩)
      ((Glob.find ws' (ws.expandHome pattern)).mapError fun r => .ofFile ⟨r, pattern⟩) :=
    (Glob.regains_find h (ws.expandHome pattern)).mapError (by simp)
  rw [filesOfPattern, filesOfPattern, expandHome_congr h.homes]
  apply hmatched.bind
  intro matched matched' hgains
  have hpaths : Gains (fun p : Path => ws'.PassesThrough p.text (d ++ [n]))
      (matched.map Path.ofText) (matched'.map Path.ofText) := by
    apply hgains.map
    intro t ht
    have hnames : Path.namesOf (Path.ofText t).text = Path.namesOf t ++ [] := by
      rw [Path.namesOf_text_ofText, List.append_nil]
    exact ht.through.append (Path.startOf_text_ofText t _) hnames
  apply (regains_picked h _ hpaths).bind
  intro picked picked' hgains
  exact regains_realFiles h hgains

theorem regains_filesOfDirectory (directory : Text) :
    Regains IsTooLong (· = Location.path (d ++ [n])) (s.filesOfDirectory ws directory).outcome
      (s.filesOfDirectory ws' directory).outcome := by
  rw [filesOfDirectory, filesOfDirectory, expandHomePath?_congr h.homes]
  cases hroot : ws.expandHomePath? (.ofText directory) with
  | none => exact .refl _
  | some root =>
      dsimp only
      rw [h.isKind_isDirectory]
      have hnames := isProperName_of_expandHomePath?_ofText hroot
      split
      · exact .refl _
      · exact .refl _
      · apply (regains_collects h root (gains_whole_walk h hnames)).bind
        intro picked picked' hgains
        exact regains_realFiles h hgains

end Written

/-- No file that is selected is the one that a path leads to, and no path that is selected is too
long to be asked for. -/
def PassesBy (s : Selection) (ws : Workspace) (document : Text) : Prop :=
  match (s.collect ws).outcome with
  | .ok files => ∀ file ∈ files, ws.realPath file.text ≠ ws.realPath document
  | .error f => ¬ IsTooLong f

section Written

variable {ws ws' : Workspace} {d : Location} {n : Text} {content : Bytes}
  (h : ws.Writes d n content ws')
include h

/-- A selection that passes by the file comes to the same files as before it was written. -/
theorem collect_of_passesBy {document : Text}
    (hdocument : ws'.realPath document = .ok (Location.path (d ++ [n])))
    (hpass : s.PassesBy ws' document) {files : List Path}
    (hcollect : (s.collect ws).outcome = .ok files) : (s.collect ws').outcome = .ok files := by
  rw [PassesBy, hdocument] at hpass
  rw [outcome_collect] at hcollect hpass ⊢
  have hfound := (Regains.concatM (regains_filesOfPattern (s := s) h) s.files).append
    (Regains.concatM (regains_filesOfDirectory (s := s) h) s.directories)
  generalize (concatM (s.filesOfPattern ws) s.files >>= _) = before at hfound hcollect
  generalize (concatM (s.filesOfPattern ws') s.files >>= _) = after at hfound hpass ⊢
  cases hfound with
  | failed => cases hcollect
  | excused hlong => exact absurd hlong hpass
  | gains hgains =>
      have hplace : ws'.realPath (Location.path (d ++ [n])).text = .ok (Location.path (d ++ [n])) :=
        h.realPath_of_reaches (h.sound'.reaches_text h.get?_place (by simp))
      have hsame := hgains.eq_of_none fun file hfile heq => by
        apply hpass file
        · rw [List.mem_mergeSort, List.mem_eraseDups]
          exact hfile
        · rw [heq]
          exact hplace
      rw [hsame]
      exact hcollect

end Written

end Selection

end SourceAtlas
