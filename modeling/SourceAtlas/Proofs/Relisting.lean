import Mathlib.Data.List.Nodup
import SourceAtlas.Proofs.Collected
import SourceAtlas.Proofs.Descending

/-!
# Entries in another order

A file system may list its entries in any order.  What stands at a location does not depend on it, so
every path leads where it led; only the names in a directory come in another order.  A selection
therefore finds the same files, in another order.
-/

namespace SourceAtlas

open Text

/-! ## Outcomes that are kept -/

/-- Where one operation gives a list, another one gives a list of the same elements. -/
inductive Keeps {ε α : Type} : Except ε (List α) → Except ε (List α) → Prop
  | failed (e : ε) (y : Except ε (List α)) : Keeps (.error e) y
  | found {as bs : List α} (h : ∀ a, a ∈ as ↔ a ∈ bs) : Keeps (.ok as) (.ok bs)

namespace Keeps

variable {ε ε' α β : Type} {x y : Except ε (List α)} {as bs : List α}

theorem refl (x : Except ε (List α)) : Keeps x x := by
  cases x with
  | error e => exact .failed e _
  | ok as => exact .found fun _ => .rfl

theorem exists_ok (h : Keeps x y) (hx : x = .ok as) : ∃ bs, y = .ok bs ∧ ∀ a, a ∈ as ↔ a ∈ bs := by
  cases h with
  | failed e => cases hx
  | found hsame =>
      obtain rfl := Except.ok.inj hx
      exact ⟨_, rfl, hsame⟩

theorem bind {f g : List α → Except ε (List β)} (h : Keeps x y)
    (hf : ∀ as bs, (∀ a, a ∈ as ↔ a ∈ bs) → Keeps (f as) (g bs)) : Keeps (x >>= f) (y >>= g) := by
  cases h with
  | failed e => exact .failed e _
  | found hsame => exact hf _ _ hsame

theorem mapError (h : Keeps x y) (f : ε → ε') : Keeps (x.mapError f) (y.mapError f) := by
  cases h with
  | failed e => exact .failed (f e) _
  | found hsame => exact .found hsame

theorem map (h : Keeps x y) (f : α → β) :
    Keeps (x.map fun as => as.map f) (y.map fun bs => bs.map f) := by
  cases h with
  | failed e => exact .failed e _
  | found hsame =>
      apply Keeps.found
      intro b
      simp only [List.mem_map, hsame]

theorem filterM (p : α → Except ε Bool) (h : ∀ a, a ∈ as ↔ a ∈ bs) :
    Keeps (as.filterM p) (bs.filterM p) := by
  cases has : as.filterM p with
  | error e => exact .failed e _
  | ok cs =>
      obtain ⟨ds, hds⟩ : ∃ ds, bs.filterM p = .ok ds :=
        exists_filterM fun b hb => exists_of_filterM has ((h b).mpr hb)
      rw [hds]
      exact .found fun a => by rw [mem_filterM has, mem_filterM hds, h]

theorem mapM (f : α → Except ε β) (h : ∀ a, a ∈ as ↔ a ∈ bs) : Keeps (as.mapM f) (bs.mapM f) := by
  cases has : as.mapM f with
  | error e => exact .failed e _
  | ok cs =>
      have hcs := lists_mapM has
      obtain ⟨ds, hds⟩ : ∃ ds, bs.mapM f = .ok ds := by
        apply exists_mapM
        intro b hb
        obtain ⟨c, -, hc⟩ := hcs.all b ((h b).mpr hb)
        exact ⟨c, hc⟩
      rw [hds]
      exact .found fun c => (hcs.congr fun a => (h a).symm).mem_iff (lists_mapM hds)

theorem concatM {f g : α → Except ε (List β)} (h : ∀ a, a ∈ as ↔ a ∈ bs)
    (hf : ∀ a, Keeps (f a) (g a)) : Keeps (SourceAtlas.concatM f as) (SourceAtlas.concatM g bs) := by
  cases has : SourceAtlas.concatM f as with
  | error e => exact .failed e _
  | ok cs =>
      have hfound := exists_concatM_iff.mp ⟨cs, has⟩
      obtain ⟨ds, hds⟩ : ∃ ds, SourceAtlas.concatM g bs = .ok ds := by
        rw [exists_concatM_iff]
        intro a ha
        obtain ⟨found, hok⟩ := hfound a ((h a).mpr ha)
        obtain ⟨found', hok', -⟩ := (hf a).exists_ok hok
        exact ⟨found', hok'⟩
      rw [hds]
      apply Keeps.found
      intro b
      rw [mem_concatM has, mem_concatM hds]
      constructor
      · rintro ⟨a, ha, found, hok, hb⟩
        obtain ⟨found', hok', hsame⟩ := (hf a).exists_ok hok
        exact ⟨a, (h a).mp ha, found', hok', (hsame b).mp hb⟩
      · rintro ⟨a, ha, found', hok', hb⟩
        obtain ⟨found, hok⟩ := hfound a ((h a).mpr ha)
        obtain ⟨found'', hok'', hsame⟩ := (hf a).exists_ok hok
        obtain rfl := Except.ok.inj (hok'.symm.trans hok'')
        exact ⟨a, (h a).mpr ha, found, hok, (hsame b).mpr hb⟩

end Keeps

/-! ## What stands where -/

namespace FileSystem

theorem get?_eq_some_iff {fs : FileSystem} (hdistinct : (fs.entries.map (·.1)).Nodup) {l : Location}
    {e : Entry} (hne : l ≠ []) : fs.get? l = some e ↔ (l, e) ∈ fs.entries := by
  refine ⟨mem_of_get? hne, fun hmem => ?_⟩
  cases hl : fs.get? l with
  | none =>
      rw [get?, Option.map_eq_none_iff] at hl
      · have hnot := List.find?_eq_none.mp hl (l, e) hmem
        simp at hnot
      · exact hne
  | some e' =>
      have hsame := List.inj_on_of_nodup_map hdistinct (mem_of_get? hne hl) hmem rfl
      rw [(Prod.mk.inj hsame).2]

section Congr

variable {fs fs' : FileSystem} (h : ∀ l, fs'.get? l = fs.get? l)
include h

theorem scan_eq_of_get? (follow dirOnly : Bool) (l : Location) (names : List Text) :
    scan fs' follow dirOnly l names = scan fs follow dirOnly l names := by
  induction names generalizing l with
  | nil => rfl
  | cons n ns ih => simp only [scan, h, ih]

theorem resolve_eq_of_get? (follow : Bool) (links : Nat) (dirOnly : Bool) (l : Location)
    (names : List Text) :
    resolve fs' follow links dirOnly l names = resolve fs follow links dirOnly l names := by
  induction links generalizing dirOnly l names with
  | zero => rw [resolve, resolve, scan_eq_of_get? h]
  | succ links ih =>
      rw [resolve, resolve, scan_eq_of_get? h]
      simp only [ih]

end Congr

end FileSystem

/-! ## Workspaces -/

namespace Workspace

open FileSystem

/-- A workspace with the same entries, each at its own location, listed in any order. -/
structure Relists (ws ws' : Workspace) : Prop where
  entries : ws.files.entries.Perm ws'.files.entries
  distinct : (ws.files.entries.map (·.1)).Nodup
  workingDirectory : ws'.workingDirectory = ws.workingDirectory
  homes : ws'.homes = ws.homes

namespace Relists

variable {ws ws' : Workspace} (h : ws.Relists ws')
include h

theorem symm : ws'.Relists ws :=
  ⟨h.entries.symm, (h.entries.map (·.1)).nodup_iff.mp h.distinct, h.workingDirectory.symm, h.homes.symm⟩

theorem get? (l : Location) : ws'.files.get? l = ws.files.get? l := by
  by_cases hl : l = []
  · rw [hl]
    rfl
  · ext e
    rw [get?_eq_some_iff h.distinct hl, get?_eq_some_iff h.symm.distinct hl, h.entries.mem_iff]

theorem sound (hsound : ws.Sound) : ws'.Sound := by
  refine ⟨⟨fun hl => ?_, fun hl => ?_, fun hl => ?_⟩, ?_⟩
  · rw [h.get?] at hl
    exact hsound.files.names hl
  · rw [h.get?] at hl ⊢
    exact hsound.files.parent hl
  · rw [h.get?] at hl
    exact hsound.files.links hl
  · rw [h.get?, h.workingDirectory]
    exact hsound.directory

theorem entryAt : ws'.entryAt = ws.entryAt := by
  funext follow t
  simp only [Workspace.entryAt, lookup, resolve_eq_of_get? h.get?, h.workingDirectory]

theorem isDirectory : ws'.isDirectory = ws.isDirectory := by
  funext t
  simp only [Workspace.isDirectory, stat, h.entryAt]

theorem isLink : ws'.isLink = ws.isLink := by
  funext t
  simp only [Workspace.isLink, linkStat, h.entryAt]

theorem hasEntry : ws'.hasEntry = ws.hasEntry := by
  funext t
  simp only [Workspace.hasEntry, linkStat, h.entryAt]

theorem isKind : ws'.isKind = ws.isKind := by
  funext kind t
  simp only [Workspace.isKind, stat, h.entryAt]

theorem denotesLink : ws'.denotesLink = ws.denotesLink := by
  funext t
  simp only [Workspace.denotesLink, linkStat, h.entryAt]

theorem namesDirectory : ws'.namesDirectory = ws.namesDirectory := by
  funext l n t
  simp only [Workspace.namesDirectory, h.get?, h.isDirectory]

theorem sameLinks : SameLinks ws.files ws'.files := fun {l target} => by rw [h.get?]

theorem realFile : ws'.realFile = ws.realFile := by
  funext p
  simp only [Workspace.realFile, realPath, stat, h.entryAt, h.workingDirectory,
    followLinks_congr h.sameLinks, h.entries.length_eq]

/-- A directory has the same names in another order; what is none fails in the same way. -/
theorem list_cases (t : Text) : ws'.list t = ws.list t ∨ ∃ names names',
    ws.list t = .ok names ∧ ws'.list t = .ok names' ∧ ∀ n, n ∈ names ↔ n ∈ names' := by
  rw [list, list, h.entryAt]
  split
  · next l _ =>
      refine .inr ⟨ws.files.names l, ws'.files.names l, rfl, rfl, fun n => ?_⟩
      simp only [mem_names_iff, h.get?]
  · exact .inl rfl
  · exact .inl rfl

end Relists

end Workspace

/-! ## Patterns -/

namespace Glob

theorem gather_eq_concatM (search : Text → Except Reason (List Text)) (directories : List Text) :
    gather search directories =
      concatM (fun d => (search d).map fun names => names.map (joinText d)) directories := by
  induction directories with
  | nil => rfl
  | cons d ds ih =>
      rw [gather, concatM, ← ih]
      cases search d <;> rfl

theorem keeps_gather {look look' : Text → Except Reason (List Text)}
    {directories directories' : List Text} (hsame : ∀ d, d ∈ directories ↔ d ∈ directories')
    (hlook : ∀ d, Keeps (look d) (look' d)) :
    Keeps (gather look directories) (gather look' directories') := by
  rw [gather_eq_concatM, gather_eq_concatM]
  exact .concatM hsame fun d => (hlook d).map (joinText d)

section Relisted

variable {ws ws' : Workspace} (h : ws.Relists ws')
include h

theorem keeps_matchingNames (dirOnly : Bool) (part directory : Text) :
    Keeps (matchingNames ws dirOnly part directory) (matchingNames ws' dirOnly part directory) := by
  have hnames : Keeps (namesIn ws directory) (namesIn ws' directory) := by
    rw [namesIn, namesIn]
    obtain hsame | ⟨names, names', hnames, hnames', hmem⟩ :=
      h.list_cases (if directory = [] then ['.'] else directory)
    · rw [hsame]
      exact .refl _
    · rw [hnames, hnames']
      exact .found hmem
  simp only [matchingNames, h.isDirectory]
  apply hnames.bind
  intro names names' hsame
  apply Keeps.found
  intro n
  simp only [List.mem_filter, hsame]

theorem keeps_lookIn (dirOnly : Bool) (part : Text) {directories directories' : List Text}
    (hsame : ∀ d, d ∈ directories ↔ d ∈ directories') :
    Keeps
      (if hasWildcard part = true then gather (matchingNames ws dirOnly part) directories
        else gather (fun directory => pure (givenName ws part directory)) directories)
      (if hasWildcard part = true then gather (matchingNames ws' dirOnly part) directories'
        else gather (fun directory => pure (givenName ws' part directory)) directories') := by
  split
  · exact keeps_gather hsame fun directory => keeps_matchingNames h dirOnly part directory
  · refine keeps_gather hsame fun directory => ?_
    simp only [givenName, h.isDirectory, h.hasEntry]
    exact .refl _

/-- The same paths match, in another order. -/
theorem keeps_search (depth : Nat) (dirOnly : Bool) (pattern : Text) :
    Keeps (search ws depth dirOnly pattern) (search ws' depth dirOnly pattern) := by
  induction depth generalizing dirOnly pattern with
  | zero => exact .refl _
  | succ depth ih =>
      rw [search, search]
      generalize splitPath pattern = parts
      obtain ⟨directory, part⟩ := parts
      dsimp only
      split
      · rw [h.isDirectory, h.hasEntry]
        exact .refl _
      · split
        · exact keeps_matchingNames h dirOnly part []
        · split
          · exact (ih true directory).bind fun _ _ => keeps_lookIn h dirOnly part
          · exact keeps_lookIn h dirOnly part fun _ => .rfl

end Relisted

end Glob

/-! ## Selections -/

namespace Selection

variable {s : Selection} {ws ws' : Workspace} {root directory p q : Path} {file : Path}
  {files : List Path}

theorem keeps_filesOfPattern (h : ws.Relists ws') (pattern : Text) :
    Keeps (s.filesOfPattern ws pattern) (s.filesOfPattern ws' pattern) := by
  rw [filesOfPattern, filesOfPattern, expandHome_congr h.homes, h.isKind, h.realFile]
  apply ((Glob.keeps_search h _ _ _).mapError _).bind
  intro matched matched' hsame
  have hpaths : ∀ p, p ∈ matched.map Path.ofText ↔ p ∈ matched'.map Path.ofText := by
    intro p
    simp only [List.mem_map, hsame]
  apply (Keeps.filterM _ hpaths).bind
  intro picked picked' hpicked
  exact .mapM ws.realFile hpicked

theorem StepsInto.relist (h : ws.Relists ws') (hstep : s.StepsInto ws root directory p) :
    s.StepsInto ws' root directory p := by
  obtain ⟨hentry, hn, he, hdirectory, henters, hlink⟩ := hstep
  rw [← h.entryAt] at hentry
  rw [← h.get?] at he
  rw [← h.namesDirectory] at hdirectory
  rw [← h.isLink] at hlink
  exact .intro hentry hn he hdirectory henters hlink

theorem ComesUpon.relist (h : ws.Relists ws') (hupon : ComesUpon ws directory p) :
    ComesUpon ws' directory p := by
  obtain ⟨hentry, hn, he, hnot⟩ := hupon
  rw [← h.entryAt] at hentry
  rw [← h.get?] at he
  rw [← h.namesDirectory] at hnot
  exact .intro hentry hn he hnot

theorem Descends.relist (h : ws.Relists ws') {k : Nat} (hdescends : s.Descends ws root directory k q) :
    s.Descends ws' root directory k q := by
  induction hdescends with
  | here directory => exact .here directory
  | step hstep _ ih => exact .step (hstep.relist h) ih

theorem mem_walk_of_relists (hsound : ws.Sound) (h : ws.Relists ws') {depth : Nat}
    (hp : p ∈ s.walk ws root depth directory) : p ∈ s.walk ws' root depth directory := by
  obtain ⟨k, hk, d, hd, hupon⟩ := (mem_walk_iff_descends hsound).mp hp
  exact (mem_walk_iff_descends (h.sound hsound)).mpr ⟨k, hk, d, hd.relist h, hupon.relist h⟩

theorem keeps_filesOfDirectory (hsound : ws.Sound) (h : ws.Relists ws') (directory : Text) :
    Keeps (s.filesOfDirectory ws directory).outcome (s.filesOfDirectory ws' directory).outcome := by
  have hcollects : s.collects ws' = s.collects ws := by
    funext root file
    simp only [collects, h.denotesLink]
  have hdepth : depthLimit ws' = depthLimit ws := by
    rw [depthLimit, depthLimit, h.entries.length_eq]
  rw [filesOfDirectory, filesOfDirectory, expandHomePath?_congr h.homes, h.isKind, h.realFile,
    hcollects, hdepth]
  split
  · exact .refl _
  · split
    · exact .refl _
    · exact .refl _
    · refine (Keeps.filterM _ fun p => ?_).bind fun picked picked' hpicked => .mapM _ hpicked
      exact ⟨mem_walk_of_relists hsound h, mem_walk_of_relists (h.sound hsound) h.symm⟩

theorem CanSearch.relist (hsound : ws.Sound) (h : ws.Relists ws') (hsearch : s.CanSearch ws) :
    s.CanSearch ws' := by
  constructor
  · intro pattern hpattern
    obtain ⟨found, hfound⟩ := hsearch.patterns pattern hpattern
    obtain ⟨found', hfound', -⟩ := (keeps_filesOfPattern h pattern).exists_ok hfound
    exact ⟨found', hfound'⟩
  · intro directory hdirectory
    obtain ⟨found, hfound⟩ := hsearch.directories directory hdirectory
    obtain ⟨found', hfound', -⟩ := (keeps_filesOfDirectory hsound h directory).exists_ok hfound
    exact ⟨found', hfound'⟩

theorem Finds.relist (hsound : ws.Sound) (h : ws.Relists ws') (hfinds : s.Finds ws file) :
    s.Finds ws' file := by
  cases hfinds with
  | picked hpattern hfound hfile =>
      obtain ⟨found', hfound', hsame⟩ := (keeps_filesOfPattern h _).exists_ok hfound
      exact .picked hpattern hfound' ((hsame file).mp hfile)
  | walked hdirectory hfound hfile =>
      obtain ⟨found', hfound', hsame⟩ := (keeps_filesOfDirectory hsound h _).exists_ok hfound
      exact .walked hdirectory hfound' ((hsame file).mp hfile)

/-- What a selection collects does not depend on the order of the entries. -/
theorem collect_of_relists (hsound : ws.Sound) (h : ws.Relists ws')
    (hfiles : (s.collect ws).outcome = .ok files) : (s.collect ws').outcome = .ok files := by
  have hsound' := h.sound hsound
  rw [collect_eq_ok_iff hsound.segments] at hfiles
  obtain ⟨hsearch, hascending, hmem⟩ := hfiles
  rw [collect_eq_ok_iff hsound'.segments]
  exact ⟨hsearch.relist hsound h, hascending, fun file => (hmem file).trans
    ⟨Finds.relist hsound h, Finds.relist hsound' h.symm⟩⟩

end Selection

end SourceAtlas
