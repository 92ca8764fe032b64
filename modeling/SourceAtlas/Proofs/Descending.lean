import Mathlib.Data.Set.Finite.Basic
import SourceAtlas.Proofs.Selecting

/-!
# How a walk descends

A walk steps from a directory into others that it holds, and comes upon what it holds besides.  However
the links run in circles, a look-up crosses few of them: so a walk visits finitely many paths, and the
bound on its depth cuts nothing off.
-/

namespace SourceAtlas

open Text Workspace

namespace FileSystem

/-- The names in a directory are those of the entries there. -/
theorem mem_names_iff {fs : FileSystem} {l : Location} {n : Text} :
    n ∈ fs.names l ↔ ∃ e, fs.get? (l ++ [n]) = some e := by
  refine ⟨exists_of_mem_names, fun ⟨e, he⟩ => ?_⟩
  rw [names_eq, List.mem_filterMap]
  refine ⟨(l ++ [n], e), mem_of_get? (by simp) he, ?_⟩
  rw [List.dropLast_concat, if_pos rfl, List.getLast?_concat]

end FileSystem

namespace Selection

variable {s : Selection} {ws : Workspace} {root directory p q : Path}

/-! ## Steps -/

/-- What a walk comes upon in a directory has a name there, and is no directory. -/
inductive ComesUpon (ws : Workspace) (directory : Path) : Path → Prop
  | intro {l : Location} {n : Text} {e : Entry}
      (hentry : ws.entryAt true directory.text = .ok (l, .directory)) (hn : IsEntryName n)
      (he : ws.files.get? (l ++ [n]) = some e)
      (hnot : ws.namesDirectory l n (directory.child n).text = false) :
      ComesUpon ws directory (directory.child n)

/-- A walk steps from a directory into one of its entries that it enters: a directory, or a link to one
if it follows links. -/
inductive StepsInto (s : Selection) (ws : Workspace) (root directory : Path) : Path → Prop
  | intro {l : Location} {n : Text} {e : Entry}
      (hentry : ws.entryAt true directory.text = .ok (l, .directory)) (hn : IsEntryName n)
      (he : ws.files.get? (l ++ [n]) = some e)
      (hdirectory : ws.namesDirectory l n (directory.child n).text = true)
      (henters : s.enters root (directory.child n) = true)
      (hlink : s.followLinks = true ∨ ws.isLink (directory.child n).text = false) :
      StepsInto s ws root directory (directory.child n)

theorem mem_visit_files_iff (hsound : ws.Sound) :
    p ∈ (s.visit ws root directory).1 ↔ ComesUpon ws directory p := by
  constructor
  · intro hp
    rw [visit] at hp
    split at hp
    · next l hentry =>
        obtain ⟨n, hn, rfl⟩ := List.mem_map.mp hp
        obtain ⟨hmem, hnot⟩ := List.mem_filter.mp hn
        obtain ⟨e, he⟩ := FileSystem.mem_names_iff.mp hmem
        exact .intro hentry (hsound.files.names he n (by simp)) he (by simpa using hnot)
    · cases hp
  · rintro @⟨l, n, e, hentry, hn, he, hnot⟩
    rw [visit, hentry]
    refine List.mem_map_of_mem (List.mem_filter.mpr ⟨FileSystem.mem_names_iff.mpr ⟨e, he⟩, ?_⟩)
    simpa using hnot

theorem mem_visit_directories_iff (hsound : ws.Sound) :
    p ∈ (s.visit ws root directory).2 ↔ s.StepsInto ws root directory p := by
  constructor
  · intro hp
    rw [visit] at hp
    split at hp
    · next l hentry =>
        obtain ⟨hmem, hlink⟩ := List.mem_filter.mp hp
        obtain ⟨hmem, henters⟩ := List.mem_filter.mp (List.mem_mergeSort.mp hmem)
        obtain ⟨n, hn, rfl⟩ := List.mem_map.mp hmem
        obtain ⟨hname, hdirectory⟩ := List.mem_filter.mp hn
        obtain ⟨e, he⟩ := FileSystem.mem_names_iff.mp hname
        exact .intro hentry (hsound.files.names he n (by simp)) he hdirectory henters
          (by simpa using hlink)
    · cases hp
  · rintro @⟨l, n, e, hentry, hn, he, hdirectory, henters, hlink⟩
    rw [visit, hentry]
    refine List.mem_filter.mpr ⟨?_, by simpa using hlink⟩
    rw [List.mem_mergeSort, List.mem_filter]
    refine ⟨List.mem_map_of_mem (List.mem_filter.mpr ⟨?_, hdirectory⟩), henters⟩
    exact FileSystem.mem_names_iff.mpr ⟨e, he⟩

/-- A walk descends from one directory to another by a number of steps. -/
inductive Descends (s : Selection) (ws : Workspace) (root : Path) : Path → Nat → Path → Prop
  | here (directory : Path) : Descends s ws root directory 0 directory
  | step {directory p q : Path} {k : Nat} (h : s.StepsInto ws root directory p)
      (rest : Descends s ws root p k q) : Descends s ws root directory (k + 1) q

theorem descends_zero_iff : s.Descends ws root directory 0 q ↔ q = directory := by
  constructor
  · intro h
    cases h
    rfl
  · rintro rfl
    exact .here q

theorem descends_succ_iff {k : Nat} : s.Descends ws root directory (k + 1) q ↔
    ∃ p, s.StepsInto ws root directory p ∧ s.Descends ws root p k q := by
  constructor
  · intro h
    cases h with
    | step hstep rest => exact ⟨_, hstep, rest⟩
  · exact fun ⟨p, h, rest⟩ => .step h rest

theorem Descends.concat {k : Nat} (h : s.Descends ws root directory k p)
    (hlast : s.StepsInto ws root p q) : s.Descends ws root directory (k + 1) q := by
  induction h with
  | here directory => exact .step hlast (.here q)
  | step hstep _ ih => exact .step hstep (ih hlast)

/-- The last step of a descent. -/
theorem Descends.exists_last {k : Nat} (h : s.Descends ws root directory (k + 1) q) :
    ∃ p, s.Descends ws root directory k p ∧ s.StepsInto ws root p q := by
  induction k generalizing directory with
  | zero =>
      obtain ⟨p, hstep, hrest⟩ := descends_succ_iff.mp h
      obtain rfl := descends_zero_iff.mp hrest
      exact ⟨directory, .here directory, hstep⟩
  | succ k ih =>
      obtain ⟨p, hstep, hrest⟩ := descends_succ_iff.mp h
      obtain ⟨d, hd, hlast⟩ := ih hrest
      exact ⟨d, .step hstep hd, hlast⟩

/-! ## Walks of a bounded depth -/

/-- The directories to which a walk descends, at most `depth` levels deep. -/
def descents (s : Selection) (ws : Workspace) (root : Path) : Nat → Path → List Path
  | 0, directory => [directory]
  | depth + 1, directory =>
    directory :: (s.visit ws root directory).2.flatMap (descents s ws root depth)

theorem mem_descents_iff (hsound : ws.Sound) {depth : Nat} :
    q ∈ s.descents ws root depth directory ↔ ∃ k ≤ depth, s.Descends ws root directory k q := by
  induction depth generalizing directory with
  | zero =>
      rw [descents, List.mem_singleton]
      constructor
      · rintro rfl
        exact ⟨0, Nat.le_refl 0, .here q⟩
      · rintro ⟨k, hk, h⟩
        obtain rfl := Nat.le_zero.mp hk
        exact descends_zero_iff.mp h
  | succ depth ih =>
      rw [descents, List.mem_cons, List.mem_flatMap]
      constructor
      · rintro (rfl | ⟨inner, hinner, hq⟩)
        · exact ⟨0, Nat.zero_le _, .here q⟩
        · obtain ⟨k, hk, h⟩ := ih.mp hq
          exact ⟨k + 1, Nat.succ_le_succ hk,
            .step ((mem_visit_directories_iff hsound).mp hinner) h⟩
      · rintro ⟨k, hk, h⟩
        cases k with
        | zero => exact .inl (descends_zero_iff.mp h)
        | succ k =>
            obtain ⟨inner, hstep, hrest⟩ := descends_succ_iff.mp h
            exact .inr ⟨inner, (mem_visit_directories_iff hsound).mpr hstep,
              ih.mpr ⟨k, Nat.le_of_succ_le_succ hk, hrest⟩⟩

/-- A walk gathers what the directories hold to which it descends. -/
theorem walk_eq_flatMap (s : Selection) (ws : Workspace) (root : Path) (depth : Nat)
    (directory : Path) : s.walk ws root depth directory =
      (s.descents ws root depth directory).flatMap fun d => (s.visit ws root d).1 := by
  induction depth generalizing directory with
  | zero => rw [walk, descents, List.flatMap_singleton]
  | succ depth ih =>
      rw [walk, descents, List.flatMap_cons, List.flatMap_assoc]
      exact congrArg _ (congrArg (List.flatMap · _) (funext ih))

theorem mem_walk_iff_descends (hsound : ws.Sound) {depth : Nat} :
    p ∈ s.walk ws root depth directory ↔
      ∃ k ≤ depth, ∃ d, s.Descends ws root directory k d ∧ ComesUpon ws d p := by
  rw [walk_eq_flatMap, List.mem_flatMap]
  constructor
  · rintro ⟨d, hd, hp⟩
    obtain ⟨k, hk, h⟩ := (mem_descents_iff hsound).mp hd
    exact ⟨k, hk, d, h, (mem_visit_files_iff hsound).mp hp⟩
  · rintro ⟨k, hk, d, h, hp⟩
    exact ⟨d, (mem_descents_iff hsound).mpr ⟨k, hk, h⟩, (mem_visit_files_iff hsound).mpr hp⟩

/-! ## Whole walks -/

/-- A walk visits its root, and what it descends to from there. -/
def Visits (s : Selection) (ws : Workspace) (root q : Path) : Prop :=
  ∃ k, s.Descends ws root root k q

theorem visits_root (s : Selection) (ws : Workspace) (root : Path) : s.Visits ws root root :=
  ⟨0, .here root⟩

theorem Visits.step (h : s.Visits ws root p) (hstep : s.StepsInto ws root p q) :
    s.Visits ws root q := by
  obtain ⟨k, h⟩ := h
  exact ⟨k + 1, h.concat hstep⟩

theorem StepsInto.isDirectory (h : s.StepsInto ws root directory p) :
    ws.isDirectory directory.text = true := by
  obtain ⟨hentry, -⟩ := h
  exact isDirectory_of_entryAt hentry

theorem ComesUpon.isDirectory (h : ComesUpon ws directory p) :
    ws.isDirectory directory.text = true := by
  obtain ⟨hentry, -⟩ := h
  exact isDirectory_of_entryAt hentry

/-- By every step of a descent a path gains the name of an entry. -/
theorem exists_below_of_descends {k : Nat} (h : s.Descends ws root directory k q) :
    ∃ ns, q = below directory ns ∧ ns.length = k ∧ ∀ n ∈ ns, IsEntryName n := by
  induction k generalizing directory with
  | zero =>
      obtain rfl := descends_zero_iff.mp h
      exact ⟨[], by rw [below, List.append_nil], rfl, by simp⟩
  | succ k ih =>
      obtain ⟨p, @⟨_, n, _, _, hn, _, _, _, _⟩, hrest⟩ := descends_succ_iff.mp h
      obtain ⟨ns, rfl, hlength, hns⟩ := ih hrest
      refine ⟨n :: ns, ?_, by rw [List.length_cons, hlength], List.forall_mem_cons.mpr ⟨hn, hns⟩⟩
      rw [below, below, Path.child, List.append_assoc, List.singleton_append]

theorem Descends.isProperName {k : Nat} (h : s.Descends ws root directory k q)
    (hdirectory : ∀ n ∈ directory.names, IsProperName n) : ∀ n ∈ q.names, IsProperName n := by
  obtain ⟨ns, rfl, -, hns⟩ := exists_below_of_descends h
  intro n hn
  exact (List.mem_append.mp hn).elim (hdirectory n) fun hn => (hns n hn).toIsProperName

section Whole

variable (hsound : ws.Sound) (hroot : ∀ n ∈ root.names, IsProperName n)
include hsound hroot

/-- No directory to which a walk descends is as deep as its bound. -/
theorem Descends.lt_depthLimit {k : Nat} (h : s.Descends ws root root k q)
    (hdirectory : ws.isDirectory q.text = true) : k < depthLimit ws := by
  obtain ⟨ns, rfl, rfl, hns⟩ := exists_below_of_descends h
  exact length_lt_depthLimit hsound hroot hns hdirectory

theorem Descends.le_depthLimit {k : Nat} (h : s.Descends ws root root k q) : k ≤ depthLimit ws := by
  cases k with
  | zero => exact Nat.zero_le _
  | succ k =>
      obtain ⟨p, hp, hlast⟩ := h.exists_last
      exact hp.lt_depthLimit hsound hroot hlast.isDirectory

/-- A walk visits finitely many paths. -/
theorem finite_visits : {q | s.Visits ws root q}.Finite := by
  refine (s.descents ws root (depthLimit ws) root).finite_toSet.subset ?_
  rintro q ⟨k, h⟩
  exact (mem_descents_iff hsound).mpr ⟨k, h.le_depthLimit hsound hroot, h⟩

/-- A whole walk comes upon what the directories hold that it visits. -/
theorem mem_whole_walk_iff_visits : p ∈ s.walk ws root (depthLimit ws) root ↔
    ∃ d, s.Visits ws root d ∧ ComesUpon ws d p := by
  rw [mem_walk_iff_descends hsound]
  constructor
  · rintro ⟨k, -, d, hd, h⟩
    exact ⟨d, ⟨k, hd⟩, h⟩
  · rintro ⟨d, ⟨k, hd⟩, h⟩
    exact ⟨k, Nat.le_of_lt (hd.lt_depthLimit hsound hroot h.isDirectory), d, hd, h⟩

end Whole

/-! ## What a walk asks of an entry -/

theorem collects_of_hidden {p : Path} (hhidden : s.includeHidden = false)
    (h : Glob.isHidden p.name = true) : s.collects ws root p = .ok false := by
  rw [collects, hhidden, h]
  rfl

theorem collects_of_follow (hfollow : s.followLinks = true) (p : Path) : s.collects ws root p =
    .ok (s.kinds.contains (kindOf p) && s.enters root p) := by
  rw [collects, enters, hfollow]
  generalize Glob.isHidden _ = hidden
  cases s.includeHidden <;> cases hidden <;> simp [Except.map]

theorem collects_of_denotesLink (hfollow : s.followLinks = false) {p : Path} {isLink : Bool}
    (hlink : ws.denotesLink p.text = .ok isLink) : s.collects ws root p =
      .ok (!isLink && s.kinds.contains (kindOf p) && s.enters root p) := by
  rw [collects, enters, hfollow, hlink]
  generalize Glob.isHidden _ = hidden
  cases s.includeHidden <;> cases hidden <;> simp [Except.map, mapError_ok]

/-- Unless it follows links, a walk collects none. -/
theorem denotesLink_of_collects (hfollow : s.followLinks = false) {p : Path}
    (h : s.collects ws root p = .ok true) : ws.denotesLink p.text = .ok false := by
  rw [collects] at h
  split at h
  · cases h
  · rw [hfollow] at h
    obtain ⟨isLink, hlink, hkept⟩ := map_eq_ok.mp h
    simp only [Bool.and_eq_true, Bool.not_eq_true'] at hkept
    obtain ⟨⟨rfl, -⟩, -⟩ := hkept
    exact mapError_eq_ok.mp hlink

/-- A walk collects an entry of a kind that is asked for, if it would enter a directory of that name, and
if it follows links or can tell that the entry is none. -/
theorem collects_eq_true_iff {p : Path} : s.collects ws root p = .ok true ↔
    (s.followLinks = true ∨ ws.denotesLink p.text = .ok false) ∧
      s.kinds.contains (kindOf p) = true ∧ s.enters root p = true := by
  cases hfollow : s.followLinks with
  | true =>
      rw [collects_of_follow hfollow, Except.ok.injEq, Bool.and_eq_true]
      simp
  | false =>
      constructor
      · intro h
        have hlink := denotesLink_of_collects hfollow h
        rw [collects_of_denotesLink hfollow hlink, Except.ok.injEq] at h
        simp only [Bool.and_eq_true] at h
        exact ⟨.inr hlink, h.1.2, h.2⟩
      · rintro ⟨hlink, hkind, henters⟩
        rw [collects_of_denotesLink hfollow (hlink.resolve_left (by simp)), hkind, henters]
        rfl

/-- Unless it follows links, a walk must be able to ask about every entry that it does not leave out as
hidden. -/
theorem exists_collects_error_iff (hfollow : s.followLinks = false) {p : Path} :
    (∃ f, s.collects ws root p = .error f) ↔
      (s.includeHidden = false → Glob.isHidden p.name = false) ∧
        ws.linkStat p.text = .error .nameTooLong := by
  constructor
  · rintro ⟨f, hf⟩
    constructor
    · intro hhidden
      rw [← Bool.not_eq_true]
      intro h
      rw [collects_of_hidden hhidden h] at hf
      cases hf
    · cases hlink : ws.denotesLink p.text with
      | ok isLink =>
          rw [collects_of_denotesLink hfollow hlink] at hf
          cases hf
      | error e => exact (exists_kindFound_error_iff fun _ => reason_of_linkStat).mp ⟨e, hlink⟩
  · rintro ⟨hshown, hlong⟩
    obtain ⟨e, hlink⟩ : ∃ e, ws.denotesLink p.text = .error e :=
      (exists_kindFound_error_iff fun _ => reason_of_linkStat).mpr hlong
    have hnot : (!s.includeHidden && Glob.isHidden p.name) = false := by
      cases hhidden : s.includeHidden with
      | true => rfl
      | false => exact hshown hhidden
    refine ⟨.ofFile e, ?_⟩
    rw [collects, if_neg (by simp [hnot]), hfollow, hlink]
    rfl

end Selection

end SourceAtlas
