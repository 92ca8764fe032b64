import SourceAtlas.Discovery
import SourceAtlas.Proofs.FileSystem.Following
import SourceAtlas.Proofs.Paths

/-!
# What paths reach

The text of a path says where following it begins and which names come then.  Whatever a look-up finds
is reached that way, and is the real path.  Nothing is reached through a file but the file itself.
-/

namespace SourceAtlas

open Text

/-! ## Reaching a location -/

namespace FileSystem

theorem namesIn_slash (t : Text) : namesIn ('/' :: t) = namesIn t := by
  rw [namesIn, splitOn, if_pos rfl, List.filter_cons_of_neg (by simp)]
  rfl

theorem namesIn_join {names : List Text} (hne : names ≠ []) (h : ∀ n ∈ names, IsProperName n) :
    namesIn (join ['/'] names) = names := by
  rw [namesIn, splitOn_join hne fun n hn => (h n hn).slash]
  exact List.filter_eq_self.mpr fun n hn => by simpa using (h n hn).ne_nil

/-- The text of a path has its names, unless there are none. -/
theorem namesIn_text {p : Path} (hne : p.names ≠ []) (h : ∀ n ∈ p.names, IsProperName n) :
    namesIn p.text = p.names := by
  have hjoin := namesIn_join hne h
  rw [Path.text]
  split
  · next hnames => exact absurd hnames hne
  · cases p.anchor with
    | relative => exact hjoin
    | root => exact (namesIn_slash _).trans hjoin
    | doubled => exact (namesIn_slash _).trans ((namesIn_slash _).trans hjoin)

/-- A name in a directory is found there, unless it is too long. -/
theorem scan_name {fs : FileSystem} {follow : Bool} {l : Location} {n : Text} {e : Entry}
    (hn : IsEntryName n) (he : fs.get? (l ++ [n]) = some e)
    (hend : ∀ target, e = .link target → follow = false) :
    scan fs follow false l [n] = .failed .nameTooLong ∨
      scan fs follow false l [n] = .arrived (.found (l ++ [n]) e) := by
  by_cases hlong : nameLimit < byteCount n
  · exact .inl (scan_tooLong hlong)
  have hsought : IsSought n := ⟨hn.ne_dot, hn.ne_up, hlong⟩
  right
  cases e with
  | directory => exact scan_directory hsought he
  | file b => exact scan_file hsought he
  | link target =>
      obtain rfl := hend target rfl
      exact scan_link hsought he

/-- The names of an entry that is no link lead to it. -/
theorem Sound.leads_names {fs : FileSystem} (hsound : fs.Sound) {d ns : Location} {e : Entry}
    (he : fs.get? (d ++ ns) = some e) (hlink : ∀ target, e ≠ .link target) :
    Leads fs 0 d ns (d ++ ns) := by
  induction ns generalizing d with
  | nil =>
      rw [List.append_nil]
      exact .nil d
  | cons n ns ih =>
      have hname := hsound.names he n (by simp)
      have hwhole : d ++ n :: ns = (d ++ [n]) ++ ns := by simp
      rw [hwhole] at he ⊢
      cases ns with
      | nil =>
          rw [List.append_nil] at he ⊢
          exact .down hname he hlink (.nil _)
      | cons m ms => exact .down hname (hsound.ancestor he (by simp)) (by simp) (ih he)

end FileSystem

namespace Workspace

open FileSystem

variable {ws : Workspace} {t : Text} {l m : Location}

/-- A path leads to a location, over no more links than a look-up may follow. -/
def Reaches (ws : Workspace) (t : Text) (l : Location) : Prop :=
  ∃ k ≤ linkLimit, Leads ws.files k (startOf t ws.workingDirectory) (Path.namesOf t) l

/-- A path leads to a location and perhaps on from there. -/
def PassesThrough (ws : Workspace) (t : Text) (l : Location) : Prop :=
  ∃ ns ms k, Path.namesOf t = ns ++ ms ∧ Leads ws.files k (startOf t ws.workingDirectory) ns l

theorem Reaches.unique (h : ws.Reaches t l) (h' : ws.Reaches t m) : l = m := by
  obtain ⟨k, -, hlead⟩ := h
  obtain ⟨j, -, hlead'⟩ := h'
  exact (hlead.unique hlead').2

theorem Reaches.passesThrough (h : ws.Reaches t l) : ws.PassesThrough t l := by
  obtain ⟨k, -, hlead⟩ := h
  exact ⟨Path.namesOf t, [], k, (List.append_nil _).symm, hlead⟩

/-- A path passes through a location if it has the names of another one first. -/
theorem PassesThrough.append {t' : Text} {names : List Text} (h : ws.PassesThrough t l)
    (hstart : startOf t' ws.workingDirectory = startOf t ws.workingDirectory)
    (hnames : Path.namesOf t' = Path.namesOf t ++ names) : ws.PassesThrough t' l := by
  obtain ⟨ns, ms, k, heq, hlead⟩ := h
  refine ⟨ns, ms ++ names, k, ?_, ?_⟩
  · rw [hnames, heq, List.append_assoc]
  · rw [hstart]
    exact hlead

/-- A path that reaches a directory reaches what stands in it. -/
theorem Reaches.child {t' n : Text} {e : Entry} (h : ws.Reaches t l) (hn : IsEntryName n)
    (he : ws.files.get? (l ++ [n]) = some e) (hlink : ∀ target, e ≠ .link target)
    (hstart : startOf t' ws.workingDirectory = startOf t ws.workingDirectory)
    (hnames : Path.namesOf t' = Path.namesOf t ++ [n]) : ws.Reaches t' (l ++ [n]) := by
  obtain ⟨k, hk, hlead⟩ := h
  refine ⟨k, hk, ?_⟩
  rw [hstart, hnames]
  exact hlead.trans (.down hn he hlink (.nil _))

namespace Sound

variable (h : ws.Sound)
include h

theorem segments : Segments ws.workingDirectory := by
  intro n hn
  have hname := h.files.names h.directory n hn
  exact ⟨hname.ne_nil, hname.slash⟩

/-- What a path denotes, it reaches. -/
theorem reaches_of_entryAt {follow : Bool} {e : Entry} (he : ∀ target, e ≠ .link target)
    (hentry : ws.entryAt follow t = .ok (l, e)) : ws.Reaches t l := by
  obtain ⟨ht, hfound⟩ := entryAt_eq_ok_iff.mp hentry
  obtain ⟨k, hk, hlead⟩ := h.files.leads_of_resolve (Sound.startOf_isDirectory h.directory t)
    (canFollow_namesIn ht.null) he hfound
  refine ⟨k, hk, hlead.congr_idle ?_⟩
  rw [filter_namesIn]
  exact (Path.filter_names fun n hn => Path.isProperName_of_mem_namesOf hn).symm

/-- What a path leads to through links, it reaches. -/
theorem reaches_of_stat {e : Entry} (hstat : ws.stat t = .ok e) :
    ∃ l, ws.Reaches t l ∧ ws.files.get? l = some e := by
  obtain ⟨⟨l, e⟩, hentry, rfl⟩ := map_eq_ok.mp hstat
  exact ⟨l, h.reaches_of_entryAt (ne_link_of_entryAt hentry) hentry, h.get?_of_entryAt hentry⟩

theorem realPath_of_reaches (hreach : ws.Reaches t l) : ws.realPath t = .ok l.path := by
  obtain ⟨k, -, hlead⟩ := hreach
  exact h.realPath_of_leads hlead.of_filter

/-- A path that passes through a file reaches that file, or nothing. -/
theorem eq_of_passesThrough {b : Bytes} (hfile : ws.files.get? l = some (.file b))
    (hpass : ws.PassesThrough t l) (hreach : ws.Reaches t m) : m = l := by
  obtain ⟨ns, ms, k, hnames, hlead⟩ := hpass
  obtain ⟨j, -, hlead'⟩ := hreach
  rw [hnames] at hlead'
  obtain ⟨_, _, mid, hns, hms, -⟩ := hlead'.split
  obtain ⟨-, rfl⟩ := hlead.unique hns
  exact hms.eq_of_file h.files hfile

/-- The text of an entry that is no link reaches it. -/
theorem reaches_text {e : Entry} (he : ws.files.get? l = some e) (hlink : ∀ target, e ≠ .link target) :
    ws.Reaches l.text l := by
  have hnames : ∀ n ∈ (Location.path l).names, IsProperName n :=
    fun n hn => (h.files.names he n hn).toIsProperName
  have htext : (Location.path l).text = l.text := rfl
  refine ⟨0, Nat.zero_le _, ?_⟩
  rw [← htext, Path.namesOf_text hnames, Path.startOf_text hnames]
  exact h.files.leads_names (show ws.files.get? ([] ++ l) = some e from he) hlink

/-- A path that leads into a directory denotes what stands there, unless it is too long. -/
theorem entryAt_child (follow : Bool) {p : Path} {n : Text} {e : Entry}
    (hp : ∀ m ∈ p.names, IsProperName m) (hreach : ws.Reaches p.text l) (hn : IsEntryName n)
    (he : ws.files.get? (l ++ [n]) = some e)
    (hend : ∀ target, e = .link target → follow = false) :
    ws.entryAt follow (p.child n).text = .ok (l ++ [n], e) ∨
      ws.entryAt follow (p.child n).text = .error .nameTooLong := by
  obtain ⟨k, hk, hlead⟩ := hreach
  have hchild := Path.isProperName_child hp hn.toIsProperName
  rw [Path.namesOf_text hp, Path.startOf_text hp] at hlead
  have hnull : ¬ hasNull (p.child n).text = true := by
    rw [hasNull_iff]
    intro hnull
    obtain ⟨m, hm, hmem⟩ := Path.null_of_text hnull
    obtain hm | hm := List.mem_append.mp hm
    · exact hlead.null_not_mem m hm hmem
    · obtain rfl := List.mem_singleton.mp hm
      exact hn.null hmem
  have hnames : namesIn (p.child n).text = p.names ++ [n] :=
    namesIn_text (List.append_ne_nil_of_right_ne_nil _ (List.cons_ne_nil n [])) hchild
  have hempty : (p.child n).text ≠ [] := by
    intro hnil
    rw [hnil] at hnames
    exact absurd hnames.symm (by simp [namesIn, splitOn])
  rw [entryAt, Path.not_endsWith_slash_child p hn.toIsProperName, lookup, if_neg hnull,
    if_neg hempty]
  split
  · exact .inr rfl
  · rw [hnames, Path.startOf_text hchild]
    obtain hlong | ⟨links, hsame⟩ := hlead.resolve h.files follow false hk (h.files.parent he)
      (fun m hm => (hp m hm).ne_nil) (List.cons_ne_nil n [])
    · right
      rw [show (p.child n).anchor = p.anchor from rfl, hlong]
      rfl
    · rw [show (p.child n).anchor = p.anchor from rfl, hsame]
      obtain hlong | hfound := scan_name hn he hend
      · right
        rw [resolve_of_failed hlong]
        rfl
      · left
        rw [resolve_of_arrived hfound]
        rfl

/-- What stands at a location is found along its text, unless that is too long. -/
theorem entryAt_text (follow : Bool) {e : Entry} (he : ws.files.get? l = some e)
    (hend : ∀ target, e = .link target → follow = false) :
    ws.entryAt follow l.text = .ok (l, e) ∨ ws.entryAt follow l.text = .error .nameTooLong := by
  obtain rfl | ⟨d, n, rfl⟩ := List.eq_nil_or_concat' l
  · obtain rfl := Option.some.inj he
    exact .inl rfl
  · have hdirectory := h.files.parent he
    have hnames : ∀ m ∈ (Location.path d).names, IsProperName m :=
      fun m hm => (h.files.names hdirectory m hm).toIsProperName
    exact h.entryAt_child follow hnames (h.reaches_text hdirectory (by simp))
      (h.files.names he n (by simp)) he hend

/-- The real path of a path is the path of what stands there. -/
theorem realFile_of_realPath {p : Path} {e : Entry} (hreal : ws.realPath p.text = .ok l.path)
    (he : ws.files.get? l = some e) (hlink : ∀ target, e ≠ .link target) :
    ws.realFile p = .ok l.path := by
  rw [realFile, hreal]
  dsimp only
  rw [Location.text_path, stat]
  obtain hfound | hlong := h.entryAt_text true he fun target htarget =>
    absurd htarget (hlink target)
  · rw [hfound]
    rfl
  · rw [hlong]
    rfl

end Sound

end Workspace

end SourceAtlas
