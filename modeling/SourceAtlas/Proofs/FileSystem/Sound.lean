import SourceAtlas.Proofs.Targets

/-!
# Sound file systems

In a file system as it stands on a disk, entries have names that can stand between slashes, whatever
has a name in a directory is below a directory, and no link holds a null character.  Making
directories and writing files keep it so: what is put goes to a free name in a directory, or over a
file.
-/

namespace SourceAtlas

open Text

/-- A name that an entry can have. -/
structure IsEntryName (n : Text) : Prop extends IsProperName n where
  ne_up : n ≠ ['.', '.']
  null : Char.ofNat 0 ∉ n

theorem IsEntryName.not_idle {n : Text} (hn : IsEntryName n) : ¬ (n = [] ∨ n = ['.']) := by
  rintro (h | h)
  · exact hn.ne_nil h
  · exact hn.ne_dot h

theorem IsEntryName.isPiece {n : Text} (hn : IsEntryName n) : FileSystem.IsPiece n :=
  ⟨hn.not_idle, hn.ne_up, hn.null⟩

/-- The names of a path that a look-up can follow. -/
def CanFollow (names : List Text) : Prop := ∀ n ∈ names, n ≠ [] ∧ '/' ∉ n ∧ Char.ofNat 0 ∉ n

instance (n : Text) : Decidable (IsEntryName n) :=
  decidable_of_iff ((n ≠ [] ∧ n ≠ ['.'] ∧ '/' ∉ n) ∧ n ≠ ['.', '.'] ∧ Char.ofNat 0 ∉ n)
    ⟨fun ⟨⟨hne, hdot, hslash⟩, hup, hnull⟩ => ⟨⟨hne, hdot, hslash⟩, hup, hnull⟩,
      fun h => ⟨⟨h.ne_nil, h.ne_dot, h.slash⟩, h.ne_up, h.null⟩⟩

theorem CanFollow.tail {n : Text} {ns : List Text} (h : CanFollow (n :: ns)) : CanFollow ns :=
  fun m hm => h m (List.mem_cons_of_mem n hm)

theorem CanFollow.append {ns ms : List Text} (h : CanFollow ns) (h' : CanFollow ms) :
    CanFollow (ns ++ ms) :=
  fun m hm => (List.mem_append.mp hm).elim (h m) (h' m)

namespace FileSystem

theorem canFollow_namesIn {t : Text} (h : Char.ofNat 0 ∉ t) : CanFollow (namesIn t) := by
  intro n hn
  obtain ⟨hmem, hne⟩ := List.mem_filter.mp hn
  refine ⟨by simpa using hne, not_mem_of_mem_splitOn hmem, fun hnull => ?_⟩
  exact h (subset_of_mem_splitOn hmem hnull)

/-- A file system as it stands on a disk. -/
structure Sound (fs : FileSystem) : Prop where
  names : ∀ {l e}, fs.get? l = some e → ∀ n ∈ l, IsEntryName n
  parent : ∀ {l n e}, fs.get? (l ++ [n]) = some e → fs.get? l = some .directory
  links : ∀ {l target}, fs.get? l = some (.link target) → Char.ofNat 0 ∉ target

theorem mem_of_get? {fs : FileSystem} {l : Location} {e : Entry} (hne : l ≠ [])
    (h : fs.get? l = some e) : (l, e) ∈ fs.entries := by
  rw [get?] at h
  · obtain ⟨⟨l', e'⟩, hentry, rfl⟩ := Option.map_eq_some_iff.mp h
    have hplace : l' = l := by simpa using List.find?_some hentry
    rw [← hplace]
    exact List.mem_of_find?_eq_some hentry
  · exact hne

/-- An entry that can stand where it stands in a file system. -/
def Stands (fs : FileSystem) (entry : Location × Entry) : Prop :=
  (∀ n ∈ entry.1, IsEntryName n) ∧ fs.get? entry.1.dropLast = some .directory ∧
    match entry.2 with
    | .link target => Char.ofNat 0 ∉ target
    | _ => True

instance (fs : FileSystem) : DecidablePred fs.Stands := fun
  | (_, .directory) => inferInstanceAs (Decidable (_ ∧ _ ∧ True))
  | (_, .file _) => inferInstanceAs (Decidable (_ ∧ _ ∧ True))
  | (_, .link target) => inferInstanceAs (Decidable (_ ∧ _ ∧ Char.ofNat 0 ∉ target))

/-- A file system is sound if every entry can stand where it stands. -/
theorem sound_of_stands {fs : FileSystem} (h : ∀ entry ∈ fs.entries, fs.Stands entry) :
    fs.Sound := by
  have hstands : ∀ {l e}, l ≠ [] → fs.get? l = some e → fs.Stands (l, e) :=
    fun hne hl => h _ (mem_of_get? hne hl)
  constructor
  · intro l e hl n hn
    exact (hstands (List.ne_nil_of_mem hn) hl).1 n hn
  · intro l n e hl
    have hparent := (hstands (by simp) hl).2.1
    rwa [List.dropLast_concat] at hparent
  · intro l target hl
    have hne : l ≠ [] := by
      rintro rfl
      cases hl
    exact (hstands hne hl).2.2

namespace Sound

variable {fs : FileSystem} (h : fs.Sound)
include h

/-- What is above an entry is a directory; the root is above itself. -/
theorem above {l : Location} {e : Entry} (hl : fs.get? l = some e) :
    fs.get? l.dropLast = some .directory := by
  obtain rfl | ⟨d, n, rfl⟩ := List.eq_nil_or_concat l
  · rfl
  · rw [List.concat_eq_append] at hl ⊢
    rw [List.dropLast_concat]
    exact h.parent hl

/-- Every location above an entry is a directory. -/
theorem ancestor {d ns : Location} {e : Entry} (hl : fs.get? (d ++ ns) = some e) (hne : ns ≠ []) :
    fs.get? d = some .directory := by
  induction ns generalizing d with
  | nil => exact absurd rfl hne
  | cons n ns ih =>
      cases ns with
      | nil => exact h.parent hl
      | cons m ms =>
          have hbelow : fs.get? ((d ++ [n]) ++ m :: ms) = some e := by
            rwa [List.append_assoc, List.singleton_append]
          exact h.parent (ih hbelow (by simp))

/-- What is put at a free name in a directory, or over a file, leaves the file system sound. -/
theorem put {d : Location} {n : Text} {e : Entry} (hd : fs.get? d = some .directory)
    (hn : IsEntryName n) (hbefore : fs.get? (d ++ [n]) ≠ some .directory)
    (he : ∀ target, e ≠ .link target) : (fs.put (d ++ [n]) e).Sound := by
  have hkept : ∀ {l}, fs.get? l = some .directory →
      (fs.put (d ++ [n]) e).get? l = some .directory := by
    intro l hl
    have hne : l ≠ d ++ [n] := by
      rintro rfl
      exact hbefore hl
    exact (get?_put_of_ne hne fs e).trans hl
  constructor
  · intro l e' hl m hm
    obtain ⟨rfl, -⟩ | hl := of_get?_put hl
    · obtain hm | hm := List.mem_append.mp hm
      · exact h.names hd m hm
      · obtain rfl := List.mem_singleton.mp hm
        exact hn
    · exact h.names hl m hm
  · intro l m e' hl
    obtain ⟨hplace, -⟩ | hl := of_get?_put hl
    · obtain ⟨rfl, -⟩ := List.append_inj' hplace rfl
      exact hkept hd
    · exact hkept (h.parent hl)
  · intro l target hl
    obtain ⟨-, hlink⟩ | hl := of_get?_put hl
    · exact absurd hlink.symm (he target)
    · exact h.links hl

end Sound

/-! ## Where look-ups arrive -/

/-- A place of a file system: an entry, or a name that an entry can have in a directory. -/
inductive IsPlace (fs : FileSystem) : Place → Prop
  | found {l : Location} {e : Entry} (h : fs.get? l = some e) : IsPlace fs (.found l e)
  | free {d : Location} {n : Text} (hd : fs.get? d = some .directory) (hn : IsEntryName n) :
      IsPlace fs (.free d n)
  | barred (byFile : Bool) : IsPlace fs (.barred byFile)

/-- What a look-up comes to that starts in a directory: a place, or a link in a directory. -/
inductive IsStage (fs : FileSystem) : Stage → Prop
  | arrived {p : Place} (h : IsPlace fs p) : IsStage fs (.arrived p)
  | failed (r : Reason) : IsStage fs (.failed r)
  | detour {l : Location} {target : Text} {rest : List Text}
      (hl : fs.get? l = some .directory) (htarget : Char.ofNat 0 ∉ target)
      (hrest : CanFollow rest) : IsStage fs (.detour l target rest)

namespace Sound

variable {fs : FileSystem} (h : fs.Sound)
include h

theorem isStage_scan (follow dirOnly : Bool) {l : Location} (hl : fs.get? l = some .directory)
    {names : List Text} (hnames : CanFollow names) :
    IsStage fs (scan fs follow dirOnly l names) := by
  induction names generalizing l with
  | nil => exact .arrived (.found hl)
  | cons n ns ih =>
      obtain ⟨hempty, hslash, hnull⟩ := hnames n List.mem_cons_self
      cases firstName fs l n with
      | same =>
          rw [scan_same]
          exact ih hl hnames.tail
      | above =>
          rw [scan_above]
          exact ih (h.above hl) hnames.tail
      | tooLong hlong =>
          rw [scan_tooLong hlong]
          exact .failed _
      | missing hn hnone =>
          rw [scan_missing hn hnone]
          split
          · split
            · exact .arrived (.barred false)
            · exact .arrived (.free hl ⟨⟨hempty, hn.ne_dot, hslash⟩, hn.ne_up, hnull⟩)
          · exact .failed _
      | directory hn hdirectory =>
          rw [scan_directory hn hdirectory]
          exact ih hdirectory hnames.tail
      | file hn hfile =>
          rw [scan_file hn hfile]
          split
          · split
            · exact .arrived (.barred true)
            · exact .arrived (.found hfile)
          · exact .failed _
      | link hn hlink =>
          rw [scan_link hn hlink]
          split
          · exact .arrived (.found hlink)
          · exact .detour hl (h.links hlink) hnames.tail

omit h in
theorem startOf_isDirectory {l : Location} (hl : fs.get? l = some .directory) (t : Text) :
    fs.get? (startOf t l) = some .directory := by
  rw [startOf]
  split
  · rfl
  · exact hl

theorem isPlace_of_resolve {follow dirOnly : Bool} {links : Nat} {l : Location}
    (hl : fs.get? l = some .directory) {names : List Text} (hnames : CanFollow names) {p : Place}
    (hresolve : resolve fs follow links dirOnly l names = .ok p) : IsPlace fs p := by
  fun_induction resolve fs follow links dirOnly l names with
  | case1 links dirOnly l names q hscan =>
      obtain rfl := Except.ok.inj hresolve
      have hstage := h.isStage_scan follow dirOnly hl hnames
      rw [hscan] at hstage
      cases hstage with
      | arrived hplace => exact hplace
  | case2 => cases hresolve
  | case3 => cases hresolve
  | case4 dirOnly l names origin target rest hscan links ih =>
      have hstage := h.isStage_scan follow dirOnly hl hnames
      rw [hscan] at hstage
      cases hstage with
      | detour horigin htarget hrest =>
          exact ih (startOf_isDirectory horigin _) ((canFollow_namesIn htarget).append hrest)
            hresolve

end Sound

end FileSystem

namespace Workspace

open FileSystem

/-- A workspace as someone finds it who runs a build. -/
structure Sound (ws : Workspace) : Prop where
  files : ws.files.Sound
  directory : ws.files.get? ws.workingDirectory = some .directory

namespace Sound

variable {ws ws' : Workspace} (h : ws.Sound)
include h

theorem isPlace_of_lookup {follow dirOnly : Bool} {path : Text} {p : Place}
    (hlookup : ws.lookup follow dirOnly path = .ok p) : IsPlace ws.files p := by
  obtain ⟨hpath, hresolve⟩ := lookup_eq_ok_iff.mp hlookup
  exact h.files.isPlace_of_resolve (Sound.startOf_isDirectory h.directory path)
    (canFollow_namesIn hpath.null) hresolve

/-- What a path denotes stands where it is found. -/
theorem get?_of_entryAt {follow : Bool} {t : Text} {l : Location} {e : Entry}
    (hentry : ws.entryAt follow t = .ok (l, e)) : ws.files.get? l = some e := by
  cases h.isPlace_of_lookup (entryAt_eq_ok.mp hentry) with
  | found hfound => exact hfound

/-- The working directory stays when something is put where no directory stands. -/
theorem put {d : Location} {n : Text} {e : Entry} (hd : ws.files.get? d = some .directory)
    (hn : IsEntryName n) (hbefore : ws.files.get? (d ++ [n]) ≠ some .directory)
    (he : ∀ target, e ≠ .link target) : (ws.put (d ++ [n]) e).Sound := by
  constructor
  · exact h.files.put hd hn hbefore he
  · have hne : ws.workingDirectory ≠ d ++ [n] := by
      intro heq
      apply hbefore
      rw [← heq]
      exact h.directory
    exact (get?_put_of_ne hne ws.files e).trans h.directory

theorem makeDirectory {path : Text} (hmake : ws.makeDirectory path = .ok ws') : ws'.Sound := by
  rw [Workspace.makeDirectory] at hmake
  split at hmake
  · next hlookup =>
      obtain rfl := Except.ok.inj hmake
      cases arrives_of_lookup hlookup with
      | free hnone =>
          cases h.isPlace_of_lookup hlookup with
          | free hd hn =>
              apply h.put hd hn
              · rw [hnone]
                simp
              · simp
  · cases hmake
  · cases hmake

theorem resolve (rules : TargetRules) (request : Text) :
    (rules.resolve ws request).workspace.Sound :=
  TargetRules.of_resolve (fun h hmake => h.makeDirectory hmake) rules h request

end Sound

end Workspace

end SourceAtlas
