import SourceAtlas.Proofs.FileSystem.Reaching

/-!
# Where the search for a real path settles

A search that comes to its end settles at a location on the way to which no link stands: what is there
is its own real path.  A search that breaks off at a circle of links takes the rest of the text as it
is, so it may end anywhere; but nothing is reached along such a text.
-/

namespace SourceAtlas

open Text

namespace FileSystem

variable {fs : FileSystem}

/-- A location of entry names on the way to which no link stands. -/
structure Settled (fs : FileSystem) (l : Location) : Prop where
  names : ∀ n ∈ l, IsEntryName n
  links : ∀ d, d <+: l → ∀ target, fs.get? d ≠ some (.link target)

theorem settled_nil (fs : FileSystem) : fs.Settled [] := by
  constructor
  · simp
  · intro d hd target hlink
    obtain rfl := List.prefix_nil.mp hd
    cases hlink

namespace Settled

variable {l : Location}

theorem concat (h : fs.Settled l) {n : Text} (hn : IsEntryName n)
    (hlink : ∀ target, fs.get? (l ++ [n]) ≠ some (.link target)) : fs.Settled (l ++ [n]) := by
  constructor
  · exact forall_mem_concat h.names hn
  · intro d hd
    obtain rfl | hd := List.prefix_concat_iff.mp hd
    · exact hlink
    · exact h.links d hd

theorem dropLast (h : fs.Settled l) : fs.Settled l.dropLast :=
  ⟨fun n hn => h.names n (List.dropLast_subset l hn),
    fun d hd => h.links d (hd.trans (List.dropLast_prefix l))⟩

theorem startOf (h : fs.Settled l) (t : Text) : fs.Settled (startOf t l) := by
  rw [FileSystem.startOf]
  split
  · exact settled_nil fs
  · exact h

/-- Along the names of a settled location, a search finds no link to follow. -/
theorem followPieces {nested : Location → List Text → Trail → Except Reason (Found × Trail)}
    {ns : List Text} (h : fs.Settled (l ++ ns)) (trail : Trail) :
    followPieces fs nested l trail ns = .ok (⟨.root, l ++ ns, true⟩, trail) := by
  induction ns generalizing l with
  | nil =>
      rw [List.append_nil]
      rfl
  | cons n ns ih =>
      have hn := h.names n (by simp)
      have hwhole : l ++ n :: ns = (l ++ [n]) ++ ns := by simp
      rw [hwhole] at h ⊢
      rw [followPieces_down hn.isPiece (h.links _ (List.prefix_append _ ns))]
      exact ih h

end Settled

/-- An entry that is no link stands where no link is on the way. -/
theorem Sound.settled (hsound : fs.Sound) {l : Location} {e : Entry} (he : fs.get? l = some e)
    (hlink : ∀ target, e ≠ .link target) : fs.Settled l := by
  refine ⟨hsound.names he, ?_⟩
  rintro d ⟨ns, rfl⟩ target hd
  by_cases hns : ns = []
  · subst hns
    rw [List.append_nil] at he
    exact hlink target (Option.some.inj (he.symm.trans hd))
  · exact absurd ((hsound.ancestor he hns).symm.trans hd) (by simp)

/-- Along the names of a settled location, there is only that location to come to. -/
theorem Leads.eq_of_settled {k : Nat} {l m : Location} {ns : List Text} (h : Leads fs k l ns m)
    (hsettled : fs.Settled (l ++ ns)) : m = l ++ ns := by
  have hname : ∀ {l n ns}, fs.Settled (l ++ n :: ns) → IsEntryName n :=
    fun hsettled => hsettled.names _ (by simp)
  induction h with
  | nil l => exact (List.append_nil l).symm
  | idle hn _ _ => exact absurd hn (hname hsettled).not_idle
  | up _ _ _ => exact absurd rfl (hname hsettled).ne_up
  | @down _ l _ n ns _ _ _ _ _ ih =>
      have hwhole : l ++ n :: ns = (l ++ [n]) ++ ns := by simp
      rw [hwhole] at hsettled ⊢
      exact ih hsettled
  | @link _ _ l _ _ n target ns _ hlink _ _ _ _ =>
      exact absurd hlink (hsettled.links _ ⟨ns, by simp⟩ target)

/-! ## Searches -/

/-- What the links on the way are known to lead to is settled. -/
def Trail.Settled (fs : FileSystem) (trail : Trail) : Prop :=
  ∀ q ∈ trail, ∀ l, q.2 = some l → fs.Settled l

theorem Trail.Settled.cons {trail : Trail} (h : trail.Settled fs) {here : Location}
    {known : Option Location} (hknown : ∀ l, known = some l → fs.Settled l) :
    Trail.Settled fs ((here, known) :: trail) := by
  intro q hq
  obtain rfl | hq := List.mem_cons.mp hq
  · exact hknown
  · exact h q hq

/-- A search that settles if it comes to its end and starts at a settled location. -/
def Settles (fs : FileSystem)
    (search : Location → List Text → Trail → Except Reason (Found × Trail)) : Prop :=
  ∀ {l pieces trail found trail'}, fs.Settled l → (∀ n ∈ pieces, '/' ∉ n) → trail.Settled fs →
    search l pieces trail = .ok (found, trail') →
      (found.complete = true → found.anchor = .root ∧ fs.Settled found.names) ∧ trail'.Settled fs

/-- Following pieces settles if following the target of a link does. -/
theorem settles_followPieces
    {nested : Location → List Text → Trail → Except Reason (Found × Trail)}
    (hnested : Settles fs nested) :
    Settles fs fun l pieces trail => followPieces fs nested l trail pieces := by
  intro l pieces trail found trail' hl hpieces htrail h
  have htail : ∀ {n : Text} {ns : List Text}, (∀ m ∈ n :: ns, '/' ∉ m) → ∀ m ∈ ns, '/' ∉ m :=
    fun hpieces m hm => hpieces m (List.mem_cons_of_mem _ hm)
  replace h := searches_of_followPieces h
  induction h with
  | done => exact ⟨fun _ => ⟨rfl, hl⟩, htrail⟩
  | idle _ _ ih => exact ih hl (htail hpieces) htrail
  | up _ ih => exact ih hl.dropLast (htail hpieces) htrail
  | down hidle hup hnull hlink _ ih =>
      rw [not_or] at hidle
      have hn : IsEntryName _ := ⟨⟨hidle.1, hidle.2, hpieces _ List.mem_cons_self⟩, hup, hnull⟩
      exact ih (hl.concat hn hlink) (htail hpieces) htrail
  | known hknown _ ih => exact ih (htrail _ hknown _ rfl) (htail hpieces) htrail
  | circle => exact ⟨by simp, htrail⟩
  | @through _ _ _ _ _ _ _ _ target _ hinner hcomplete _ ih =>
      obtain ⟨hsettled, htrail'⟩ := hnested (hl.startOf target) (fun _ => not_mem_of_mem_splitOn)
        (htrail.cons (by simp)) hinner
      refine ih (hsettled hcomplete).2 (htail hpieces) (htrail'.cons ?_)
      rintro l' ⟨⟩
      exact (hsettled hcomplete).2
  | @broken _ _ _ _ _ _ target _ hinner =>
      obtain ⟨-, htrail'⟩ := hnested (hl.startOf target) (fun _ => not_mem_of_mem_splitOn)
        (htrail.cons (by simp)) hinner
      exact ⟨by simp, htrail'⟩

theorem settles_followLinks (fs : FileSystem) (depth : Nat) : Settles fs (followLinks fs depth) := by
  induction depth with
  | zero =>
      apply settles_followPieces
      intro l pieces trail found trail' _ _ htrail h
      obtain ⟨rfl, rfl⟩ := Prod.mk.inj (Except.ok.inj h)
      exact ⟨by simp, htrail⟩
  | succ depth ih => exact settles_followPieces ih

end FileSystem

/-! ## Real directories -/

namespace Workspace

open FileSystem

variable {ws : Workspace} {t : Text} {l : Location}

/-- The search for the real path of a text breaks off at a circle of links. -/
def BreaksOff (ws : Workspace) (t : Text) : Prop :=
  ∃ found trail, ws.files.followLinks (ws.files.entries.length + 1) (startOf t ws.workingDirectory)
    (splitOn '/' t) [] = .ok (found, trail) ∧ found.complete = false

/-- A settled location is the real path of its own text. -/
theorem realPath_of_settled (h : ws.files.Settled l) : ws.realPath l.text = .ok l.path := by
  have hpieces : ∀ (nested : Location → List Text → Trail → Except Reason (Found × Trail)),
      followPieces ws.files nested [] [] (splitOn '/' l.text) = .ok (⟨.root, l, true⟩, []) := by
    intro nested
    have hfound : followPieces ws.files nested [] [] l = .ok (⟨.root, l, true⟩, []) :=
      h.followPieces []
    rw [Location.text, splitOn, if_pos rfl, followPieces_idle (.inl rfl)]
    by_cases hl : l = []
    · subst hl
      rfl
    · rw [splitOn_join hl fun n hn => (h.names n hn).slash]
      exact hfound
  have hstart : startOf l.text ws.workingDirectory = [] := rfl
  rw [realPath, hstart, followLinks, hpieces]
  exact congrArg (fun l => Except.ok (Location.path l)) (collapse_of_names h.names)

/-- The real path of a path is its own if it is settled. -/
theorem realFile_of_settled {p file : Path} (hreal : ws.realPath p.text = .ok l.path)
    (h : ws.files.Settled l) (hfile : ws.realFile p = .ok file) :
    file = l.path ∧ ws.realFile file = .ok file := by
  have hplace : ws.realFile p = ws.realFile l.path := by
    rw [realFile, realFile, hreal, Location.text_path, realPath_of_settled h]
  have hpath : file = l.path := by
    rw [realFile, hreal] at hfile
    dsimp only at hfile
    split at hfile
    · cases hfile
    · exact (Except.ok.inj hfile).symm
  refine ⟨hpath, ?_⟩
  rw [← hfile, hplace, hpath]

/-- A path that leads to a directory and is its own real path. -/
structure IsRealDirectory (ws : Workspace) (p : Path) : Prop where
  directory : ws.isDirectory p.text = true
  real : ws.realPath p.text = .ok p

namespace Sound

variable (h : ws.Sound)
include h

/-- A real path is settled, unless its search breaks off. -/
theorem settled_realPath {real : Path} (hreal : ws.realPath t = .ok real) :
    ws.BreaksOff t ∨ ∃ l, real = l.path ∧ ws.files.Settled l := by
  obtain ⟨⟨found, trail⟩, hfound, hl⟩ := bind_eq_ok.mp hreal
  obtain rfl := pure_eq_ok.mp hl
  cases hcomplete : found.complete with
  | false => exact .inl ⟨found, trail, hfound, hcomplete⟩
  | true =>
      have hstart := (h.files.settled h.directory (by simp)).startOf t
      obtain ⟨hanchor, hsettled⟩ := (settles_followLinks ws.files _ hstart
        (fun _ => not_mem_of_mem_splitOn) (by simp [Trail.Settled]) hfound).1 hcomplete
      refine .inr ⟨found.names, ?_, hsettled⟩
      rw [hanchor, collapse_of_names hsettled.names]
      rfl

omit h in
/-- Nothing is reached along a text whose search breaks off. -/
theorem not_breaksOff_of_reaches (hreach : ws.Reaches t l) : ¬ ws.BreaksOff t := by
  rintro ⟨found, trail, hbroken, hcomplete⟩
  obtain ⟨k, -, hlead⟩ := hreach
  obtain ⟨trail', hfound⟩ := ws.followLinks_of_leads hlead.of_filter
  obtain ⟨rfl, -⟩ := Prod.mk.inj (Except.ok.inj (hbroken.symm.trans hfound))
  cases hcomplete

/-- What the text of a settled location leads to stands there. -/
theorem entryAt_of_settled {m : Location} {e : Entry} (hsettled : ws.files.Settled l)
    (hentry : ws.entryAt true l.text = .ok (m, e)) : m = l := by
  have hnames : ∀ n ∈ (Location.path l).names, IsProperName n :=
    fun n hn => (hsettled.names n hn).toIsProperName
  have htext : (Location.path l).text = l.text := rfl
  obtain ⟨k, -, hlead⟩ := h.reaches_of_entryAt (ne_link_of_entryAt hentry) hentry
  rw [← htext, Path.namesOf_text hnames, Path.startOf_text hnames] at hlead
  exact hlead.eq_of_settled hsettled

/-- A path is a real directory if it is that of a location where a directory stands that can be asked
for. -/
theorem isRealDirectory_iff {p : Path} (hstat : (ws.stat p.text).isOk = true) :
    ws.IsRealDirectory p ↔ ∃ l, p = Location.path l ∧ ws.files.get? l = some .directory := by
  constructor
  · rintro ⟨hdirectory, hreal⟩
    obtain ⟨l, hreach, hl⟩ := h.reaches_of_stat (isDirectory_iff.mp hdirectory)
    exact ⟨l, Except.ok.inj (hreal.symm.trans (h.realPath_of_reaches hreach)), hl⟩
  · rintro ⟨l, rfl, hl⟩
    rw [Location.text_path] at hstat
    have hreach := h.reaches_text hl (by simp)
    refine ⟨?_, h.realPath_of_reaches hreach⟩
    obtain ⟨e, hstat⟩ := exists_eq_ok_of_isOk hstat
    obtain ⟨⟨m, e'⟩, hentry, rfl⟩ := map_eq_ok.mp hstat
    obtain rfl := h.entryAt_of_settled (h.files.settled hl (by simp)) hentry
    obtain rfl := Option.some.inj ((h.get?_of_entryAt hentry).symm.trans hl)
    exact isDirectory_iff.mpr hstat

end Sound

end Workspace

end SourceAtlas
