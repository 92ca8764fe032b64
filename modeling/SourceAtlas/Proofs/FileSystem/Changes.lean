import SourceAtlas.Proofs.FileSystem.Lookups

/-!
# What changes leave alone

Making directories adds directories where nothing stood, and nothing else.  Writing sets the file that
the path leads to, and reading the path then gives what was written.
-/

namespace SourceAtlas

open Text

namespace FileSystem

/-- What is put at one location does not show at another. -/
theorem of_get?_put {fs : FileSystem} {l m : Location} {e e' : Entry}
    (h : (fs.put l e).get? m = some e') : (m = l ∧ e' = e) ∨ fs.get? m = some e' := by
  by_cases hm : m = l
  · subst hm
    cases m with
    | nil => exact .inr h
    | cons n ns =>
        rw [get?_put_self (by simp)] at h
        exact .inl ⟨rfl, (Option.some.inj h).symm⟩
  · rw [get?_put_of_ne hm] at h
    exact .inr h

end FileSystem

namespace Workspace

open FileSystem

variable {ws ws' ws'' : Workspace}

/-! ## Making directories -/

/-- A workspace that has all that an earlier one had, and beyond that only directories. -/
structure GainsDirectories (ws ws' : Workspace) : Prop where
  workingDirectory : ws'.workingDirectory = ws.workingDirectory
  homes : ws'.homes = ws.homes
  kept : ∀ l e, ws.files.get? l = some e → ws'.files.get? l = some e
  gained : ∀ l e, ws'.files.get? l = some e → ws.files.get? l = some e ∨ e = .directory

namespace GainsDirectories

theorem refl (ws : Workspace) : GainsDirectories ws ws :=
  ⟨rfl, rfl, fun _ _ h => h, fun _ _ h => .inl h⟩

theorem trans (h : GainsDirectories ws ws') (h' : GainsDirectories ws' ws'') :
    GainsDirectories ws ws'' := by
  constructor
  · exact h'.workingDirectory.trans h.workingDirectory
  · exact h'.homes.trans h.homes
  · exact fun l e hl => h'.kept l e (h.kept l e hl)
  · intro l e hl
    rcases h'.gained l e hl with hl | rfl
    · exact h.gained l e hl
    · exact .inr rfl

/-- The files and the links are the same. -/
theorem get?_eq_some_iff (h : GainsDirectories ws ws') {l : Location} {e : Entry}
    (he : e ≠ .directory) : ws'.files.get? l = some e ↔ ws.files.get? l = some e := by
  constructor
  · intro hl
    exact (h.gained l e hl).resolve_right he
  · exact h.kept l e

end GainsDirectories

theorem gainsDirectories_put {l : Location} (h : ws.files.get? l = none) :
    GainsDirectories ws (ws.put l .directory) := by
  constructor
  · rfl
  · rfl
  · intro m e hm
    have hne : m ≠ l := by
      rintro rfl
      exact absurd (h.symm.trans hm) (by simp)
    exact (get?_put_of_ne hne ws.files .directory).trans hm
  · intro m e hm
    rcases of_get?_put hm with ⟨-, rfl⟩ | hm
    · exact .inr rfl
    · exact .inl hm

theorem gainsDirectories_makeDirectory {path : Text} (h : ws.makeDirectory path = .ok ws') :
    GainsDirectories ws ws' := by
  unfold makeDirectory at h
  split at h
  · next hlookup =>
      obtain rfl := Except.ok.inj h
      cases arrives_of_lookup hlookup with
      | free hnone => exact gainsDirectories_put hnone
  · exact absurd h (by simp)
  · exact absurd h (by simp)

section Making

variable {P : Workspace → Prop} (hmake : ∀ {ws ws' : Workspace} {path : Text}, P ws →
  ws.makeDirectory path = .ok ws' → P ws')
include hmake

theorem of_ensureDirectory (h : P ws) (path : Text) : P (ws.ensureDirectory path).1 := by
  unfold ensureDirectory
  split
  · next hok => exact hmake h hok
  · split <;> exact h

theorem of_finish (h : P ws) (tail path : Text) : P (makeDirectories.finish ws tail path).1 := by
  unfold makeDirectories.finish
  split
  · exact h
  · exact of_ensureDirectory hmake h path

/-- What holds and is kept when a directory is made is kept when directories are made. -/
theorem of_makeDirectories (h : P ws) (depth : Nat) (path : Text) :
    P (ws.makeDirectories depth path).1 := by
  induction depth generalizing path with
  | zero => exact of_ensureDirectory hmake h path
  | succ depth ih =>
      have habove : ∀ {head : Text} {made : Workspace × Option FileError},
          ws.makeDirectories depth head = made → P made.1 := by
        rintro head made rfl
        exact ih head
      unfold makeDirectories
      dsimp only
      split
      · split
        · next hmade =>
            split
            · exact of_finish hmake (habove hmade) _ path
            · exact habove hmade
        · next hmade => exact of_finish hmake (habove hmade) _ path
      · exact of_ensureDirectory hmake h path

end Making

theorem gainsDirectories_makeDirectories (ws : Workspace) (depth : Nat) (path : Text) :
    GainsDirectories ws (ws.makeDirectories depth path).1 := by
  apply of_makeDirectories _ (.refl ws)
  intro ws' ws'' path hgains hmake
  exact hgains.trans (gainsDirectories_makeDirectory hmake)

/-! ## Null characters -/

theorem null_of_makeDirectory {path : Text} {e : FileError} (h : ws.makeDirectory path = .error e)
    (he : e.reason = .nullCharacter) : Char.ofNat 0 ∈ path := by
  unfold makeDirectory at h
  split at h
  · exact absurd h (by simp)
  · obtain rfl := Except.error.inj h
    exact absurd he (by simp)
  · next hlookup =>
      obtain rfl := Except.error.inj h
      obtain rfl := he
      exact lookup_eq_nullCharacter_iff.mp hlookup

theorem null_of_ensureDirectory {path : Text} {e : FileError}
    (h : (ws.ensureDirectory path).2 = some e) (he : e.reason = .nullCharacter) :
    Char.ofNat 0 ∈ path := by
  unfold ensureDirectory at h
  split at h
  · exact absurd h (by simp)
  · next hmake =>
      split at h
      · exact absurd h (by simp)
      · obtain rfl := Option.some.inj h
        exact null_of_makeDirectory hmake he

theorem null_of_finish {tail path : Text} {e : FileError}
    (h : (makeDirectories.finish ws tail path).2 = some e) (he : e.reason = .nullCharacter) :
    Char.ofNat 0 ∈ path := by
  unfold makeDirectories.finish at h
  split at h
  · exact absurd h (by simp)
  · exact null_of_ensureDirectory h he

theorem splitPath_fst_subset (t : Text) : (splitPath t).1 ⊆ t := by
  unfold splitPath
  dsimp only
  split
  · exact List.take_subset _ t
  · intro c hc
    have hdrop := (List.dropWhile_sublist _).subset (List.mem_reverse.mp hc)
    exact List.take_subset _ t (List.mem_reverse.mp hdrop)

theorem splitPath_snd_subset (t : Text) : (splitPath t).2 ⊆ t := by
  intro c hc
  have htail := (List.takeWhile_sublist _).subset (List.mem_reverse.mp hc)
  exact List.mem_reverse.mp htail

/-- The last part of a path is a single name. -/
theorem slash_of_splitPath (t : Text) : '/' ∉ (splitPath t).2 := by
  intro hslash
  have htail := List.mem_reverse.mp hslash
  have hne := List.all_eq_true.mp List.all_takeWhile _ htail
  simp at hne

theorem splitParent_fst_subset (t : Text) : (splitParent t).1 ⊆ t := by
  unfold splitParent
  split
  · next head hsplit =>
      have hhead : head ⊆ t := by
        simpa only [hsplit] using splitPath_fst_subset t
      exact List.Subset.trans (splitPath_fst_subset head) hhead
  · exact splitPath_fst_subset t

theorem null_of_makeDirectories {depth : Nat} {path : Text} {e : FileError}
    (h : (ws.makeDirectories depth path).2 = some e) (he : e.reason = .nullCharacter) :
    Char.ofNat 0 ∈ path := by
  induction depth generalizing path with
  | zero => exact null_of_ensureDirectory h he
  | succ depth ih =>
      unfold makeDirectories at h
      have hhead := splitParent_fst_subset path
      generalize splitParent path = parts at h hhead
      obtain ⟨head, tail⟩ := parts
      dsimp only at h hhead
      split at h
      · split at h
        · next hmade =>
            split at h
            · exact null_of_finish h he
            · obtain rfl := Option.some.inj h
              exact hhead (ih (congrArg Prod.snd hmade))
        · exact null_of_finish h he
      · exact null_of_ensureDirectory h he

theorem null_of_makePath {path : Text} {e : FileError} (h : ws.makePath path = (ws', some e))
    (he : e.reason = .nullCharacter) : Char.ofNat 0 ∈ path :=
  null_of_makeDirectories (congrArg Prod.snd h) he

/-- A workspace without null characters in its working directory and its links. -/
structure NullFree (ws : Workspace) : Prop where
  directory : ∀ n ∈ ws.workingDirectory, Char.ofNat 0 ∉ n
  links : ∀ l target, ws.files.get? l = some (.link target) → Char.ofNat 0 ∉ target

theorem NullFree.gainsDirectories (h : NullFree ws) (hgains : GainsDirectories ws ws') :
    NullFree ws' := by
  constructor
  · rw [hgains.workingDirectory]
    exact h.directory
  · intro l target hl
    exact h.links l target ((hgains.get?_eq_some_iff (by simp)).mp hl)

/-- Every file of a workspace is one of an earlier one, where the working directory was the same. -/
structure NoNewFiles (ws ws' : Workspace) : Prop where
  directory : ws'.workingDirectory = ws.workingDirectory
  files : ∀ l b, ws'.files.get? l = some (.file b) → ws.files.get? l = some (.file b)

theorem GainsDirectories.noNewFiles (h : GainsDirectories ws ws') : NoNewFiles ws ws' :=
  ⟨h.workingDirectory, fun _ _ hl => (h.get?_eq_some_iff (by simp)).mp hl⟩

/-! ## Writing -/

/-- A workspace in which a file was written at a place where a file stood before, or nothing. -/
structure WritesAt (place : Location) (content : Bytes) (ws ws' : Workspace) : Prop where
  workingDirectory : ws'.workingDirectory = ws.workingDirectory
  homes : ws'.homes = ws.homes
  before : ∀ e, ws.files.get? place = some e → e.isFile = true
  written : ws'.files.get? place = some (.file content)
  elsewhere : ∀ l, l ≠ place → ws'.files.get? l = ws.files.get? l

theorem writesAt_put {place : Location} (h : ∀ e, ws.files.get? place = some e → e.isFile = true)
    (content : Bytes) : WritesAt place content ws (ws.put place (.file content)) := by
  have hne : place ≠ [] := by
    rintro rfl
    exact absurd (h .directory rfl) (by simp [Entry.isFile])
  exact ⟨rfl, rfl, h, get?_put_self hne ws.files _, fun l hl => get?_put_of_ne hl ws.files _⟩

/-- A look-up leads to a place: to the file there, or to the free name. -/
inductive IsFor (place : Location) : Place → Prop
  | file (b : Bytes) : IsFor place (.found place (.file b))
  | free {directory : Location} {name : Text} (h : directory ++ [name] = place) :
      IsFor place (.free directory name)

theorem writesAt_of_write {path : Text} {content : Bytes} (h : ws.write path content = .ok ws') :
    ∃ place p, ws.lookup true (endsWith path ['/']) path = .ok p ∧ IsFor place p ∧
      WritesAt place content ws ws' := by
  unfold write at h
  split at h
  · exact absurd h (by simp)
  · next l e hdirectory hlookup =>
      obtain rfl := Except.ok.inj h
      cases arrives_of_lookup hlookup with
      | directory => exact absurd rfl hdirectory
      | file hfile =>
          refine ⟨l, _, hlookup, .file _, writesAt_put ?_ content⟩
          intro e he
          obtain rfl := Option.some.inj (hfile.symm.trans he)
          rfl
      | link hlink hfollow => exact absurd hfollow (by simp)
  · next directory name hlookup =>
      obtain rfl := Except.ok.inj h
      cases arrives_of_lookup hlookup with
      | free hnone =>
          refine ⟨directory ++ [name], _, hlookup, .free rfl, writesAt_put ?_ content⟩
          intro e he
          exact absurd (hnone.symm.trans he) (by simp)
  · exact absurd h (by simp)
  · exact absurd h (by simp)

/-- Writing writes at the place where the path leads. -/
theorem exists_writesAt {path : Text} {content : Bytes} (h : ws.write path content = .ok ws') :
    ∃ place, ws.LeadsTo path place ∧ WritesAt place content ws ws' := by
  obtain ⟨place, p, hlookup, hp, hwrites⟩ := writesAt_of_write h
  refine ⟨place, ?_, hwrites⟩
  rw [LeadsTo, hlookup]
  cases hp with
  | file b => rfl
  | free hplace => exact hplace

/-- A file that is there after writing was there before, or is the one that was written. -/
theorem of_write {path : Text} {content : Bytes} (h : ws.write path content = .ok ws') :
    ws'.workingDirectory = ws.workingDirectory ∧ ∀ l b, ws'.files.get? l = some (.file b) →
      b = content ∨ ws.files.get? l = some (.file b) := by
  obtain ⟨place, -, hwrites⟩ := exists_writesAt h
  refine ⟨hwrites.workingDirectory, fun l b hl => ?_⟩
  by_cases hplace : l = place
  · subst hplace
    exact .inl (Entry.file.inj (Option.some.inj (hl.symm.trans hwrites.written)))
  · exact .inr ((hwrites.elsewhere l hplace).symm.trans hl)

/-! ## Looking up what was written -/

/-- What becomes of a look-up when a file is written at a place: one for the place arrives at the
file, and one that asks for a directory there meets the file. -/
inductive Shift (place : Location) (content : Bytes) :
    Except Reason Place → Except Reason Place → Prop
  | same {r : Except Reason Place} (h : ∀ p, r = .ok p → ¬ IsFor place p) : Shift place content r r
  | arrives {p : Place} (h : IsFor place p) :
      Shift place content (.ok p) (.ok (.found place (.file content)))
  | barred : Shift place content (.ok (.barred false)) (.ok (.barred true))
  | blocked : Shift place content (.error .missing) (.error .notDirectory)

/-- What becomes of a look-up until the next link: it takes the same link, or ends so. -/
inductive StageShift (place : Location) (content : Bytes) : Stage → Stage → Prop
  | arrived {p p' : Place} (h : Shift place content (.ok p) (.ok p')) :
      StageShift place content (.arrived p) (.arrived p')
  | failed {r r' : Reason} (h : Shift place content (.error r) (.error r')) :
      StageShift place content (.failed r) (.failed r')
  | detour (l : Location) (target : Text) (rest : List Text) :
      StageShift place content (.detour l target rest) (.detour l target rest)

namespace Shift

variable {place : Location} {content : Bytes}

theorem error (r : Reason) : Shift place content (.error r) (.error r) :=
  .same fun _ h => absurd h (by simp)

theorem same_barred (byFile : Bool) : Shift place content (.ok (.barred byFile)) (.ok (.barred byFile)) :=
  .same fun p h => by
    obtain rfl := Except.ok.inj h
    rintro ⟨⟩

theorem same_found {l : Location} {e : Entry} (h : l ≠ place) :
    Shift place content (.ok (.found l e)) (.ok (.found l e)) :=
  .same fun p hp => by
    obtain rfl := Except.ok.inj hp
    rintro ⟨⟩
    exact h rfl

theorem same_free {directory : Location} {name : Text} (h : directory ++ [name] ≠ place) :
    Shift place content (.ok (.free directory name)) (.ok (.free directory name)) :=
  .same fun p hp => by
    obtain rfl := Except.ok.inj hp
    intro hfor
    cases hfor with
    | free hplace => exact h hplace

/-- A look-up for the place arrives at the file. -/
theorem eq_of_isFor {p : Place} {r : Except Reason Place} (h : Shift place content (.ok p) r)
    (hp : IsFor place p) : r = .ok (.found place (.file content)) := by
  cases h with
  | same hnot => exact absurd hp (hnot p rfl)
  | arrives => rfl
  | barred => cases hp

end Shift

section Written

variable {place : Location} {content : Bytes} (h : WritesAt place content ws ws')
include h

/-- What look-ups pass through is as it was. -/
theorem WritesAt.get?_of_not_file {l : Location} {e : Entry} (hl : ws.files.get? l = some e)
    (he : e.isFile = false) : l ≠ place ∧ ws'.files.get? l = some e := by
  have hne : l ≠ place := by
    rintro rfl
    exact absurd ((h.before e hl).symm.trans he) (by simp)
  exact ⟨hne, (h.elsewhere l hne).trans hl⟩

theorem WritesAt.scan (follow dirOnly : Bool) (l : Location) (names : List Text) :
    StageShift place content (FileSystem.scan ws.files follow dirOnly l names)
      (FileSystem.scan ws'.files follow dirOnly l names) := by
  induction names generalizing l with
  | nil =>
      refine .arrived (.same fun p hp => ?_)
      obtain rfl := Except.ok.inj hp
      rintro ⟨⟩
  | cons n ns ih =>
      cases firstName ws.files l n with
      | same =>
          rw [scan_same, scan_same]
          exact ih l
      | above =>
          rw [scan_above, scan_above]
          exact ih l.dropLast
      | tooLong hlong =>
          rw [scan_tooLong hlong, scan_tooLong hlong]
          exact .failed (.error _)
      | missing hn hnone =>
          rw [scan_missing hn hnone]
          by_cases hplace : l ++ [n] = place
          · -- What was free is the file now.
            subst hplace
            rw [scan_file hn h.written]
            split
            · cases dirOnly with
              | true => exact .arrived .barred
              | false => exact .arrived (.arrives (.free rfl))
            · exact .failed .blocked
          · rw [scan_missing hn ((h.elsewhere _ hplace).trans hnone)]
            split
            · cases dirOnly with
              | true => exact .arrived (.same_barred false)
              | false => exact .arrived (.same_free hplace)
            · exact .failed (.error _)
      | directory hn hdirectory =>
          rw [scan_directory hn hdirectory,
            scan_directory hn (h.get?_of_not_file hdirectory rfl).2]
          exact ih (l ++ [n])
      | file hn hfile =>
          rw [scan_file hn hfile]
          by_cases hplace : l ++ [n] = place
          · subst hplace
            rw [scan_file hn h.written]
            split
            · cases dirOnly with
              | true => exact .arrived (.same_barred true)
              | false => exact .arrived (.arrives (.file _))
            · exact .failed (.error _)
          · rw [scan_file hn ((h.elsewhere _ hplace).trans hfile)]
            split
            · cases dirOnly with
              | true => exact .arrived (.same_barred true)
              | false => exact .arrived (.same_found hplace)
            · exact .failed (.error _)
      | link hn hlink =>
          obtain ⟨hne, hkept⟩ := h.get?_of_not_file hlink rfl
          rw [scan_link hn hlink, scan_link hn hkept]
          split
          · exact .arrived (.same_found hne)
          · exact .detour l _ ns

theorem WritesAt.resolve (follow dirOnly : Bool) (links : Nat) (l : Location) (names : List Text) :
    Shift place content (FileSystem.resolve ws.files follow links dirOnly l names)
      (FileSystem.resolve ws'.files follow links dirOnly l names) := by
  induction links using Nat.strongRecOn generalizing dirOnly l names with
  | ind links ih =>
      have hstage := h.scan follow dirOnly l names
      rw [resolve_eq, resolve_eq]
      generalize FileSystem.scan ws.files follow dirOnly l names = stage at hstage ⊢
      generalize FileSystem.scan ws'.files follow dirOnly l names = stage' at hstage ⊢
      cases hstage with
      | arrived hshift => exact hshift
      | failed hshift => exact hshift
      | detour =>
          cases links with
          | zero => exact .error _
          | succ links => exact ih links (Nat.lt_succ_self links) _ _ _

/-- Every look-up changes as writing the file makes it change, if at all. -/
theorem WritesAt.lookup (follow dirOnly : Bool) (path : Text) :
    Shift place content (ws.lookup follow dirOnly path) (ws'.lookup follow dirOnly path) := by
  cases looksUp path with
  | refused _ _ hlookup =>
      rw [hlookup, hlookup]
      exact .error _
  | followed _ hlookup =>
      rw [hlookup, hlookup, h.workingDirectory]
      exact h.resolve follow dirOnly linkLimit _ _

end Written

/-- After writing, the path denotes the file at the place where it was written. -/
theorem entryAt_of_write {path : Text} {content : Bytes} (h : ws.write path content = .ok ws') :
    ∃ place, WritesAt place content ws ws' ∧
      ws'.entryAt true path = .ok (place, .file content) := by
  obtain ⟨place, p, hlookup, hp, hwrites⟩ := writesAt_of_write h
  refine ⟨place, hwrites, ?_⟩
  have hshift := hwrites.lookup true (endsWith path ['/']) path
  rw [hlookup] at hshift
  rw [entryAt, hshift.eq_of_isFor hp]
  rfl

/-- What was written is read. -/
theorem read_of_write {path : Text} {content : Bytes} (h : ws.write path content = .ok ws') :
    ws'.read path = .ok content := by
  obtain ⟨place, -, hentry⟩ := entryAt_of_write h
  rw [read_eq_ok, stat, hentry]
  rfl

theorem write_of_null {path : Text} (h : Char.ofNat 0 ∈ path) (content : Bytes) :
    ws.write path content = .error ⟨.nullCharacter, path⟩ := by
  unfold write
  rw [lookup_eq_nullCharacter_iff.mpr h]

theorem null_of_write {path : Text} {content : Bytes} {e : FileError}
    (h : ws.write path content = .error e) (he : e.reason = .nullCharacter) :
    Char.ofNat 0 ∈ path := by
  unfold write at h
  split at h
  · obtain rfl := Except.error.inj h
    exact absurd he (by simp)
  · exact absurd h (by simp)
  · exact absurd h (by simp)
  · obtain rfl := Except.error.inj h
    exact absurd he (by simp)
  · next hlookup =>
      obtain rfl := Except.error.inj h
      obtain rfl := he
      exact lookup_eq_nullCharacter_iff.mp hlookup

theorem write_of_stat_error {path : Text} {content : Bytes}
    (h : ws.stat path = .error .nameTooLong) :
    ws.write path content = .error ⟨.nameTooLong, path⟩ := by
  rw [stat_eq] at h
  unfold write
  split at h
  · exact absurd h (by simp)
  · exact absurd h (by simp)
  · exact absurd h (by simp)
  · exact absurd h (by simp)
  · next hlookup =>
      obtain rfl := Except.error.inj h
      simp only [hlookup]

end Workspace

end SourceAtlas
