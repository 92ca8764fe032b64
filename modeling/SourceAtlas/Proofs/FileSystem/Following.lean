import Mathlib.Data.List.Induction
import Mathlib.Data.List.Perm.Subperm
import SourceAtlas.Proofs.FileSystem.Sound

/-!
# Where names lead

Following names from a location leads to one location at most, and crosses a number of links on the
way.  What a look-up finds, the names lead to, with no more links than a look-up may follow; and what
names lead to is the real path.  Between two links a path of entry names only descends, so its length
is bounded by the links that it crosses.
-/

namespace SourceAtlas

open Text

namespace FileSystem

/-- Names lead from a location to another one and cross a number of links, those in the targets of
links among them. -/
inductive Leads (fs : FileSystem) : Nat → Location → List Text → Location → Prop
  | nil (l : Location) : Leads fs 0 l [] l
  | idle {k : Nat} {l m : Location} {n : Text} {ns : List Text} (hn : n = [] ∨ n = ['.'])
      (rest : Leads fs k l ns m) : Leads fs k l (n :: ns) m
  | up {k : Nat} {l m : Location} {ns : List Text} (hl : fs.get? l = some .directory)
      (rest : Leads fs k l.dropLast ns m) : Leads fs k l (['.', '.'] :: ns) m
  | down {k : Nat} {l m : Location} {n : Text} {ns : List Text} {e : Entry} (hn : IsEntryName n)
      (he : fs.get? (l ++ [n]) = some e) (hlink : ∀ target, e ≠ .link target)
      (rest : Leads fs k (l ++ [n]) ns m) : Leads fs k l (n :: ns) m
  | link {j k : Nat} {l mid m : Location} {n target : Text} {ns : List Text} (hn : IsEntryName n)
      (hlink : fs.get? (l ++ [n]) = some (.link target))
      (inner : Leads fs j (startOf target l) (splitOn '/' target) mid) (rest : Leads fs k mid ns m) :
      Leads fs (j + k + 1) l (n :: ns) m

variable {fs : FileSystem}

theorem isIdle_iff {n : Text} : Path.isIdle n = true ↔ n = [] ∨ n = ['.'] := by
  simp [Path.isIdle]

namespace Leads

/-- Names lead to one location, over one number of links. -/
theorem unique {k k' : Nat} {l m m' : Location} {ns : List Text} (h : Leads fs k l ns m)
    (h' : Leads fs k' l ns m') : k = k' ∧ m = m' := by
  induction h generalizing k' m' with
  | nil l =>
      cases h' with
      | nil => exact ⟨rfl, rfl⟩
  | idle hn _ ih =>
      cases h' with
      | idle _ rest => exact ih rest
      | up _ _ => exact absurd hn (by simp)
      | down hn' _ _ _ => exact absurd hn hn'.not_idle
      | link hn' _ _ _ => exact absurd hn hn'.not_idle
  | up _ _ ih =>
      cases h' with
      | idle hn _ => exact absurd hn (by simp)
      | up _ rest => exact ih rest
      | down hn _ _ _ => exact absurd rfl hn.ne_up
      | link hn _ _ _ => exact absurd rfl hn.ne_up
  | down hn he hlink _ ih =>
      cases h' with
      | idle hn' _ => exact absurd hn' hn.not_idle
      | up _ _ => exact absurd rfl hn.ne_up
      | down _ _ _ rest => exact ih rest
      | link _ hlink' _ _ =>
          obtain rfl := Option.some.inj (he.symm.trans hlink')
          exact absurd rfl (hlink _)
  | link hn hlink _ _ ihinner ih =>
      cases h' with
      | idle hn' _ => exact absurd hn' hn.not_idle
      | up _ _ => exact absurd rfl hn.ne_up
      | down _ he hlink' _ =>
          obtain rfl := Option.some.inj (he.symm.trans hlink)
          exact absurd rfl (hlink' _)
      | link _ hlink' inner rest =>
          obtain rfl := Entry.link.inj (Option.some.inj (hlink.symm.trans hlink'))
          obtain ⟨rfl, rfl⟩ := ihinner inner
          obtain ⟨rfl, rfl⟩ := ih rest
          exact ⟨rfl, rfl⟩

theorem trans {i j : Nat} {l mid m : Location} {ns ms : List Text} (h : Leads fs i l ns mid)
    (h' : Leads fs j mid ms m) : Leads fs (i + j) l (ns ++ ms) m := by
  induction h with
  | nil => rwa [Nat.zero_add]
  | idle hn _ ih => exact .idle hn (ih h')
  | up hl _ ih => exact .up hl (ih h')
  | down hn he hlink _ ih => exact .down hn he hlink (ih h')
  | @link i k l _ _ n target ns hn hlink inner _ _ ih =>
      have hsum : i + k + 1 + j = i + (k + j) + 1 := by omega
      rw [hsum]
      exact .link hn hlink inner (ih h')

/-- Where names are followed by others, there is a location between them. -/
theorem split {k : Nat} {l m : Location} {ns ms : List Text} (h : Leads fs k l (ns ++ ms) m) :
    ∃ i j mid, Leads fs i l ns mid ∧ Leads fs j mid ms m ∧ i + j = k := by
  induction ns generalizing k l with
  | nil => exact ⟨0, k, l, .nil l, h, Nat.zero_add k⟩
  | cons n ns ih =>
      cases h with
      | idle hn rest =>
          obtain ⟨i, j, mid, hns, hms, hsum⟩ := ih rest
          exact ⟨i, j, mid, .idle hn hns, hms, hsum⟩
      | up hl rest =>
          obtain ⟨i, j, mid, hns, hms, hsum⟩ := ih rest
          exact ⟨i, j, mid, .up hl hns, hms, hsum⟩
      | down hn he hlink rest =>
          obtain ⟨i, j, mid, hns, hms, hsum⟩ := ih rest
          exact ⟨i, j, mid, .down hn he hlink hns, hms, hsum⟩
      | @link o _ _ _ _ _ _ _ hn hlink inner rest =>
          obtain ⟨i, j, mid, hns, hms, rfl⟩ := ih rest
          exact ⟨o + i + 1, j, mid, .link hn hlink inner hns, hms, by omega⟩

/-- Idle names do not count. -/
theorem of_filter {k : Nat} {l m : Location} {ns : List Text}
    (h : Leads fs k l (ns.filter fun n => !Path.isIdle n) m) : Leads fs k l ns m := by
  induction ns generalizing k l with
  | nil => exact h
  | cons n ns ih =>
      by_cases hn : Path.isIdle n = true
      · rw [List.filter_cons_of_neg (by simp [hn])] at h
        exact .idle (isIdle_iff.mp hn) (ih h)
      · rw [List.filter_cons_of_pos (by simp [hn])] at h
        cases h with
        | idle hn rest => exact .idle hn (ih rest)
        | up hl rest => exact .up hl (ih rest)
        | down hn he hlink rest => exact .down hn he hlink (ih rest)
        | link hn hlink inner rest => exact .link hn hlink inner (ih rest)

theorem filter {k : Nat} {l m : Location} {ns : List Text} (h : Leads fs k l ns m) :
    Leads fs k l (ns.filter fun n => !Path.isIdle n) m := by
  induction h with
  | nil l => exact .nil l
  | idle hn _ ih =>
      rw [List.filter_cons_of_neg (by simp [isIdle_iff.mpr hn])]
      exact ih
  | up hl _ ih =>
      rw [List.filter_cons_of_pos (by decide)]
      exact .up hl ih
  | down hn he hlink _ ih =>
      rw [List.filter_cons_of_pos (by simpa using mt isIdle_iff.mp hn.not_idle)]
      exact .down hn he hlink ih
  | link hn hlink inner _ _ ih =>
      rw [List.filter_cons_of_pos (by simpa using mt isIdle_iff.mp hn.not_idle)]
      exact .link hn hlink inner ih

/-- Names that differ by idle ones lead to the same location. -/
theorem congr_idle {k : Nat} {l m : Location} {ns ms : List Text} (h : Leads fs k l ns m)
    (heq : (ns.filter fun n => !Path.isIdle n) = ms.filter fun n => !Path.isIdle n) :
    Leads fs k l ms m := by
  apply of_filter
  rw [← heq]
  exact h.filter

/-- From an entry, names lead to an entry. -/
theorem exists_entry (hsound : fs.Sound) {k : Nat} {l m : Location} {ns : List Text}
    (h : Leads fs k l ns m) (hl : ∃ e, fs.get? l = some e) : ∃ e, fs.get? m = some e := by
  induction h with
  | nil => exact hl
  | idle _ _ ih => exact ih hl
  | up hdirectory _ ih => exact ih ⟨_, hsound.above hdirectory⟩
  | down _ he _ _ ih => exact ih ⟨_, he⟩
  | @link _ _ l _ _ n target _ _ hlink _ _ ihinner ih =>
      have hdirectory := hsound.parent hlink
      exact ih (ihinner ⟨_, Sound.startOf_isDirectory hdirectory target⟩)

end Leads

/-- From a file, names lead to the file only. -/
theorem Leads.eq_of_file (hsound : fs.Sound) {k : Nat} {l m : Location} {b : Bytes}
    {ns : List Text} (h : Leads fs k l ns m) (hl : fs.get? l = some (.file b)) : m = l := by
  induction h with
  | nil => rfl
  | idle _ _ ih => exact ih hl
  | up hdirectory _ _ => exact absurd (hdirectory.symm.trans hl) (by simp)
  | down _ he _ _ _ => exact absurd ((hsound.parent he).symm.trans hl) (by simp)
  | link _ hlink _ _ _ _ => exact absurd ((hsound.parent hlink).symm.trans hl) (by simp)

/-! ## Look-ups -/

/-- The names of a path, the idle ones left out. -/
theorem filter_namesIn (t : Text) :
    ((namesIn t).filter fun n => !Path.isIdle n) = (splitOn '/' t).filter fun n => !Path.isIdle n := by
  rw [namesIn, List.filter_filter]
  apply List.filter_congr
  intro n _
  by_cases hn : n = []
  · simp [hn, Path.isIdle]
  · simp [hn]

/-- What a scan of names from a location says of the way to where it stops. -/
def Stage.Tells (fs : FileSystem) (l : Location) (names : List Text) : Stage → Prop
  | .arrived (.found m e) => (∀ target, e ≠ .link target) → Leads fs 0 l names m
  | .detour origin target rest =>
    ∃ seen n, names = seen ++ n :: rest ∧ Leads fs 0 l seen origin ∧ IsEntryName n ∧
      fs.get? (origin ++ [n]) = some (.link target)
  | _ => True

/-- A name that leads to a location comes before the way from there. -/
theorem Stage.Tells.cons {l l' : Location} {n : Text} {ns : List Text} {s : Stage}
    (h : s.Tells fs l' ns)
    (hstep : ∀ {ms m}, Leads fs 0 l' ms m → Leads fs 0 l (n :: ms) m) : s.Tells fs l (n :: ns) := by
  cases s with
  | arrived p =>
      cases p with
      | found m e => exact fun he => hstep (h he)
      | free d m => trivial
      | barred byFile => trivial
  | failed r => trivial
  | detour origin target rest =>
      obtain ⟨seen, m, rfl, hseen, hm, hlink⟩ := h
      exact ⟨n :: seen, m, rfl, hstep hseen, hm, hlink⟩

theorem Sound.tells_scan (hsound : fs.Sound) (follow dirOnly : Bool) {l : Location}
    (hl : fs.get? l = some .directory) {names : List Text} (hnames : CanFollow names) :
    (scan fs follow dirOnly l names).Tells fs l names := by
  induction names generalizing l with
  | nil => exact fun _ => .nil l
  | cons n ns ih =>
      obtain ⟨hempty, hslash, hnull⟩ := hnames n List.mem_cons_self
      have hname : IsSought n → IsEntryName n :=
        fun hn => ⟨⟨hempty, hn.ne_dot, hslash⟩, hn.ne_up, hnull⟩
      cases firstName fs l n with
      | same =>
          rw [scan_same]
          exact (ih hl hnames.tail).cons (.idle (.inr rfl))
      | above =>
          rw [scan_above]
          exact (ih (hsound.above hl) hnames.tail).cons (.up hl)
      | tooLong hlong =>
          rw [scan_tooLong hlong]
          trivial
      | missing hn hnone =>
          rw [scan_missing hn hnone]
          split
          · split <;> trivial
          · trivial
      | directory hn hdirectory =>
          rw [scan_directory hn hdirectory]
          exact (ih hdirectory hnames.tail).cons (.down (hname hn) hdirectory (by simp))
      | file hn hfile =>
          rw [scan_file hn hfile]
          split
          · next hlast =>
              subst hlast
              split
              · trivial
              · exact fun he => .down (hname hn) hfile he (.nil _)
          · trivial
      | link hn hlink =>
          rw [scan_link hn hlink]
          split
          · exact fun he => absurd rfl (he _)
          · exact ⟨[], n, rfl, .nil l, hname hn, hlink⟩

/-- What a look-up finds, the names lead to, over no more links than it may follow. -/
theorem Sound.leads_of_resolve (hsound : fs.Sound) {follow dirOnly : Bool} {links : Nat}
    {l m : Location} (hl : fs.get? l = some .directory) {names : List Text}
    (hnames : CanFollow names) {e : Entry} (he : ∀ target, e ≠ .link target)
    (h : resolve fs follow links dirOnly l names = .ok (.found m e)) :
    ∃ k ≤ links, Leads fs k l names m := by
  fun_induction resolve fs follow links dirOnly l names with
  | case1 links dirOnly l names p hscan =>
      obtain rfl := Except.ok.inj h
      have htells := hsound.tells_scan follow dirOnly hl hnames
      rw [hscan] at htells
      exact ⟨0, Nat.zero_le _, htells he⟩
  | case2 => cases h
  | case3 => cases h
  | case4 dirOnly l names origin target rest hscan links ih =>
      have htells := hsound.tells_scan follow dirOnly hl hnames
      have hstage := hsound.isStage_scan follow dirOnly hl hnames
      rw [hscan] at htells hstage
      obtain ⟨seen, n, rfl, hseen, hn, hlink⟩ := htells
      cases hstage with
      | detour horigin htarget hrest =>
          obtain ⟨k, hk, hlead⟩ := ih (startOf_isDirectory horigin target)
            ((canFollow_namesIn htarget).append hrest) h
          obtain ⟨i, j, mid, hinner, hrest, rfl⟩ := hlead.split
          have hway := hseen.trans (.link hn hlink (hinner.congr_idle (filter_namesIn target)) hrest)
          exact ⟨_, by omega, hway⟩

/-- What a scan comes to along names that lead to a directory, and further names after them: it stops at
a name that is too long, or goes on from the directory, or comes upon a link from which other names
lead to the directory, over one link less. -/
inductive Continues (fs : FileSystem) (follow dirOnly : Bool) (m : Location) (rest : List Text) :
    Nat → Stage → Prop
  | tooLong (k : Nat) : Continues fs follow dirOnly m rest k (.failed .nameTooLong)
  | there : Continues fs follow dirOnly m rest 0 (scan fs follow dirOnly m rest)
  | detour {k : Nat} {origin : Location} {target : Text} {ns : List Text}
      (hlead : Leads fs k (startOf target origin) (namesIn target ++ ns) m)
      (hns : ∀ n ∈ ns, n ≠ []) :
      Continues fs follow dirOnly m rest (k + 1) (.detour origin target (ns ++ rest))

theorem Leads.continues (hsound : fs.Sound) (follow dirOnly : Bool) {k : Nat} {l m : Location}
    {ns rest : List Text} (h : Leads fs k l ns m) (hm : fs.get? m = some .directory)
    (hns : ∀ n ∈ ns, n ≠ []) (hrest : rest ≠ []) :
    Continues fs follow dirOnly m rest k (scan fs follow dirOnly l (ns ++ rest)) := by
  have htail : ∀ {n : Text} {ns : List Text}, (∀ m ∈ n :: ns, m ≠ []) → ∀ m ∈ ns, m ≠ [] :=
    fun hns m hm => hns m (List.mem_cons_of_mem _ hm)
  induction h with
  | nil l => exact .there
  | idle hn _ ih =>
      obtain rfl := hn.resolve_left (hns _ List.mem_cons_self)
      rw [List.cons_append, scan_same]
      exact ih hm (htail hns)
  | up _ _ ih =>
      rw [List.cons_append, scan_above]
      exact ih hm (htail hns)
  | @down _ _ _ n _ e hn he hlink hlead ih =>
      rw [List.cons_append]
      by_cases hlong : nameLimit < byteCount n
      · rw [scan_tooLong hlong]
        exact .tooLong _
      cases e with
      | directory =>
          rw [scan_directory ⟨hn.ne_dot, hn.ne_up, hlong⟩ he]
          exact ih hm (htail hns)
      | file b =>
          -- nothing leads from a file to a directory
          obtain rfl := hlead.eq_of_file hsound he
          cases he.symm.trans hm
      | link target => exact absurd rfl (hlink target)
  | @link _ _ _ _ _ n _ _ hn hlink inner hlead _ _ =>
      rw [List.cons_append]
      by_cases hlong : nameLimit < byteCount n
      · rw [scan_tooLong hlong]
        exact .tooLong _
      · rw [scan_link ⟨hn.ne_dot, hn.ne_up, hlong⟩ hlink, if_neg (by simp [hrest])]
        exact .detour ((inner.congr_idle (filter_namesIn _).symm).trans hlead) (htail hns)

/-- Where names lead to a directory over no more links than a look-up may follow, the look-up goes on
from there, unless a name is too long. -/
theorem Leads.resolve (hsound : fs.Sound) (follow dirOnly : Bool) {links k : Nat} {l m : Location}
    {ns rest : List Text} (h : Leads fs k l ns m) (hk : k ≤ links)
    (hm : fs.get? m = some .directory) (hns : ∀ n ∈ ns, n ≠ []) (hrest : rest ≠ []) :
    FileSystem.resolve fs follow links dirOnly l (ns ++ rest) = .error .nameTooLong ∨
      ∃ links', FileSystem.resolve fs follow links dirOnly l (ns ++ rest) =
        FileSystem.resolve fs follow links' dirOnly m rest := by
  induction links generalizing k l ns with
  | zero =>
      have hcontinues := h.continues hsound follow dirOnly hm hns hrest
      generalize hscan : scan fs follow dirOnly l (ns ++ rest) = stage at hcontinues
      cases hcontinues with
      | tooLong => exact .inl (resolve_of_failed hscan _)
      | there => exact .inr ⟨0, resolve_congr hscan _⟩
      | detour => omega
  | succ links ih =>
      have hcontinues := h.continues hsound follow dirOnly hm hns hrest
      generalize hscan : scan fs follow dirOnly l (ns ++ rest) = stage at hcontinues
      cases hcontinues with
      | tooLong => exact .inl (resolve_of_failed hscan _)
      | there => exact .inr ⟨links + 1, resolve_congr hscan _⟩
      | @detour k origin target names hlead hnames =>
          have hnonempty : ∀ n ∈ namesIn target ++ names, n ≠ [] := by
            intro n hn
            obtain hn | hn := List.mem_append.mp hn
            · simpa using (List.mem_filter.mp hn).2
            · exact hnames n hn
          rw [resolve_succ_of_detour hscan, if_neg (by simp [hrest]), ← List.append_assoc]
          exact ih hlead (by omega) hnonempty

/-- Names that lead somewhere hold no null character. -/
theorem Leads.null_not_mem {k : Nat} {l m : Location} {ns : List Text} (h : Leads fs k l ns m) :
    ∀ n ∈ ns, Char.ofNat 0 ∉ n := by
  induction h with
  | nil => simp
  | idle hn _ ih =>
      refine List.forall_mem_cons.mpr ⟨?_, ih⟩
      obtain rfl | rfl := hn <;> decide
  | up _ _ ih => exact List.forall_mem_cons.mpr ⟨by decide, ih⟩
  | down hn _ _ _ ih => exact List.forall_mem_cons.mpr ⟨hn.null, ih⟩
  | link hn _ _ _ _ ih => exact List.forall_mem_cons.mpr ⟨hn.null, ih⟩

/-! ## How far names lead -/

theorem mem_entries_of_get? {l : Location} {e : Entry} (hne : l ≠ []) (h : fs.get? l = some e) :
    l ∈ fs.entries.map (·.1) :=
  List.mem_map_of_mem (f := (·.1)) (mem_of_get? hne h)

/-- At every location on the way down to an entry stands another entry. -/
theorem Sound.exists_ways (hsound : fs.Sound) {l : Location} {e : Entry}
    (h : fs.get? l = some e) :
    ∃ ways : List Location, ways.Nodup ∧ ways ⊆ fs.entries.map (·.1) ∧
      ways.length = l.length ∧ ∀ way ∈ ways, way.length ≤ l.length := by
  induction l using List.reverseRecOn generalizing e with
  | nil => exact ⟨[], List.nodup_nil, List.nil_subset _, rfl, by simp⟩
  | append_singleton d n ih =>
      obtain ⟨ways, hnodup, hmem, hlength, hshort⟩ := ih (hsound.parent h)
      have hdepth : (d ++ [n]).length = d.length + 1 := List.length_append
      refine ⟨(d ++ [n]) :: ways, ?_, ?_, ?_, ?_⟩
      · rw [List.nodup_cons]
        refine ⟨fun hway => ?_, hnodup⟩
        have hle := hshort _ hway
        omega
      · exact List.cons_subset.mpr ⟨mem_entries_of_get? (by simp) h, hmem⟩
      · rw [List.length_cons, hlength, hdepth]
      · intro way hway
        obtain rfl | hway := List.mem_cons.mp hway
        · exact Nat.le_refl _
        · have hle := hshort way hway
          omega

/-- No entry is deeper than there are entries. -/
theorem Sound.length_le (hsound : fs.Sound) {l : Location} {e : Entry} (h : fs.get? l = some e) :
    l.length ≤ fs.entries.length := by
  obtain ⟨ways, hnodup, hmem, hlength, -⟩ := hsound.exists_ways h
  have hle := (hnodup.subperm hmem).length_le
  rwa [hlength, List.length_map] at hle

/-- A way of entry names only descends between its links, so these bound it. -/
theorem Leads.length_le (hsound : fs.Sound) {k : Nat} {l m : Location} {ns : List Text}
    (h : Leads fs k l ns m) (hl : ∃ e, fs.get? l = some e) (hns : ∀ n ∈ ns, IsEntryName n) :
    l.length + ns.length ≤ fs.entries.length + k * (fs.entries.length + 1) := by
  induction h with
  | nil l =>
      obtain ⟨e, he⟩ := hl
      simpa using hsound.length_le he
  | idle hn _ _ => exact absurd hn (hns _ List.mem_cons_self).not_idle
  | up _ _ => exact absurd rfl (hns _ List.mem_cons_self).ne_up
  | down _ he _ _ ih =>
      have hrest := ih ⟨_, he⟩ fun m hm => hns m (List.mem_cons_of_mem _ hm)
      rw [List.length_append, List.length_singleton] at hrest
      rw [List.length_cons]
      omega
  | @link j k l mid m n target ns hn hlink inner rest _ ih =>
      obtain ⟨e, he⟩ := hl
      have hdirectory := hsound.parent hlink
      have hmid := inner.exists_entry hsound ⟨_, Sound.startOf_isDirectory hdirectory target⟩
      have hrest := ih hmid fun m hm => hns m (List.mem_cons_of_mem _ hm)
      have hdepth := hsound.length_le he
      have hproduct : (j + k + 1) * (fs.entries.length + 1) =
          j * (fs.entries.length + 1) + k * (fs.entries.length + 1) + (fs.entries.length + 1) := by
        rw [Nat.add_mul, Nat.add_mul, Nat.one_mul]
      rw [List.length_cons, hproduct]
      omega

/-! ## Real paths -/

/-- The target of a link leads to a location, over a number of links. -/
inductive ResolvesTo (fs : FileSystem) : Location → Nat → Location → Prop
  | intro {l m : Location} {n target : Text} {c : Nat}
      (hlink : fs.get? (l ++ [n]) = some (.link target))
      (inner : Leads fs c (startOf target l) (splitOn '/' target) m) : ResolvesTo fs (l ++ [n]) c m

theorem ResolvesTo.unique {here m m' : Location} {c c' : Nat} (h : ResolvesTo fs here c m)
    (h' : ResolvesTo fs here c' m') : c = c' ∧ m = m' := by
  obtain ⟨hlink, inner⟩ := h
  generalize hhere : _ ++ [_] = here at h'
  obtain ⟨hlink', inner'⟩ := h'
  obtain ⟨rfl, -⟩ := List.append_inj' hhere rfl
  rw [hhere] at hlink
  obtain rfl := Entry.link.inj (Option.some.inj (hlink.symm.trans hlink'))
  exact inner.unique inner'

namespace Trail

variable {trail : Trail} {here other : Location} {known : Option Location}

/-- The trail knows of links where they lead. -/
def Knows (fs : FileSystem) (trail : Trail) : Prop :=
  ∀ {here m}, trail.at? here = some (some m) → ∃ c, ResolvesTo fs here c m

/-- The links whose targets are being followed take at least as many links as a way. -/
def Awaits (fs : FileSystem) (k : Nat) (trail : Trail) : Prop :=
  ∀ {here}, trail.at? here = some none → ∀ {c m}, ResolvesTo fs here c m → k ≤ c

/-- Different links that the trail says something of. -/
structure Opens (fs : FileSystem) (trail : Trail) (opened : List Location) : Prop where
  nodup : opened.Nodup
  links : ∀ here ∈ opened, ∃ target, fs.get? here = some (.link target)
  seen : ∀ here ∈ opened, trail.at? here ≠ none

/-- A trail that says more than another one, and awaits no more. -/
structure Grows (trail trail' : Trail) : Prop where
  pending : ∀ {here}, trail'.at? here = some none → trail.at? here = some none
  seen : ∀ {here}, trail.at? here ≠ none → trail'.at? here ≠ none

theorem Grows.refl (trail : Trail) : Grows trail trail := ⟨id, id⟩

theorem Opens.grows {trail trail' : Trail} {opened : List Location} (h : Opens fs trail opened)
    (hgrows : Grows trail trail') : Opens fs trail' opened :=
  ⟨h.nodup, h.links, fun here hhere => hgrows.seen (h.seen here hhere)⟩

/-- Fewer links are open than there are entries. -/
theorem Opens.length_le {opened : List Location} (h : Opens fs trail opened) :
    opened.length ≤ fs.entries.length := by
  have hmem : opened ⊆ fs.entries.map (·.1) := by
    intro here hhere
    obtain ⟨target, hlink⟩ := h.links here hhere
    apply mem_entries_of_get? _ hlink
    rintro rfl
    exact absurd hlink (by simp [get?])
  have hle := (h.nodup.subperm hmem).length_le
  rwa [List.length_map] at hle

/-- A link is opened that the trail says nothing of. -/
theorem Opens.cons {opened : List Location} (h : Opens fs trail opened) {target : Text}
    (hlink : fs.get? here = some (.link target)) (hnone : trail.at? here = none) :
    Opens fs ((here, none) :: trail) (here :: opened) := by
  have hseen : ∀ other ∈ opened, other ≠ here := by
    rintro other hother rfl
    exact h.seen other hother hnone
  constructor
  · rw [List.nodup_cons]
    exact ⟨fun hhere => hseen here hhere rfl, h.nodup⟩
  · intro other hother
    obtain rfl | hother := List.mem_cons.mp hother
    · exact ⟨target, hlink⟩
    · exact h.links other hother
  · intro other hother
    obtain rfl | hother := List.mem_cons.mp hother
    · rw [at?_cons_self]
      simp
    · rw [at?_cons_of_ne (hseen other hother)]
      exact h.seen other hother

theorem Knows.open (h : trail.Knows fs) : Trail.Knows fs ((here, none) :: trail) := by
  intro other m hother
  by_cases heq : other = here
  · subst heq
    rw [at?_cons_self] at hother
    cases hother
  · rw [at?_cons_of_ne heq] at hother
    exact h hother

/-- The target of a link takes fewer links than the link. -/
theorem Awaits.open {j k : Nat} {m : Location} (h : trail.Awaits fs (j + k + 1))
    (hhere : ResolvesTo fs here j m) : Trail.Awaits fs j ((here, none) :: trail) := by
  intro other hother c m' hresolves
  by_cases heq : other = here
  · subst heq
    exact Nat.le_of_eq (hhere.unique hresolves).1
  · rw [at?_cons_of_ne heq] at hother
    have hle := h hother hresolves
    omega

theorem Knows.close {m : Location} (h : trail.Knows fs) {c : Nat} (hhere : ResolvesTo fs here c m) :
    Trail.Knows fs ((here, some m) :: trail) := by
  intro other m' hother
  by_cases heq : other = here
  · subst heq
    rw [at?_cons_self] at hother
    obtain rfl := Option.some.inj (Option.some.inj hother)
    exact ⟨c, hhere⟩
  · rw [at?_cons_of_ne heq] at hother
    exact h hother

/-- A link that was followed to its end is awaited no more. -/
theorem Grows.close {trail trail' : Trail} {m : Location} (h : Grows ((here, none) :: trail) trail') :
    Grows trail ((here, some m) :: trail') := by
  constructor
  · intro other hother
    by_cases heq : other = here
    · subst heq
      rw [at?_cons_self] at hother
      cases hother
    · rw [at?_cons_of_ne heq] at hother
      have hbefore := h.pending hother
      rwa [at?_cons_of_ne heq] at hbefore
  · intro other hother
    by_cases heq : other = here
    · subst heq
      rw [at?_cons_self]
      simp
    · rw [at?_cons_of_ne heq]
      apply h.seen
      rwa [at?_cons_of_ne heq]

theorem Grows.trans {trail trail' trail'' : Trail} (h : Grows trail trail')
    (h' : Grows trail' trail'') : Grows trail trail'' :=
  ⟨fun hpending => h.pending (h'.pending hpending), fun hseen => h'.seen (h.seen hseen)⟩

theorem Awaits.grows {j k : Nat} {trail trail' : Trail} (h : trail.Awaits fs k)
    (hgrows : Grows trail trail') (hle : j ≤ k) : trail'.Awaits fs j := by
  intro here hhere c m hresolves
  exact Nat.le_trans hle (h (hgrows.pending hhere) hresolves)

end Trail

/-- Where names lead, the search for the real path comes, as long as it may open all links. -/
theorem followLinks_of_leads {depth k : Nat} {l m : Location} {ns : List Text} {trail : Trail}
    {opened : List Location} (h : Leads fs k l ns m) (hknows : trail.Knows fs)
    (hawaits : trail.Awaits fs k) (hopens : trail.Opens fs opened)
    (hdepth : fs.entries.length < depth + opened.length) :
    ∃ trail', followLinks fs depth l ns trail = .ok (⟨.root, m, true⟩, trail') ∧ trail'.Knows fs ∧
      trail.Grows trail' := by
  induction depth generalizing k l m ns trail opened with
  | zero =>
      have hle := hopens.length_le
      omega
  | succ depth ihdepth =>
      rw [followLinks]
      induction h generalizing trail opened with
      | nil l => exact ⟨trail, rfl, hknows, .refl trail⟩
      | idle hn _ ih =>
          rw [followPieces_idle hn]
          exact ih hknows hawaits hopens hdepth
      | up _ _ ih =>
          rw [followPieces_up]
          exact ih hknows hawaits hopens hdepth
      | @down k l m n ns e hn he hlink _ ih =>
          have hpass : ∀ target, fs.get? (l ++ [n]) ≠ some (.link target) :=
            fun target htarget => hlink target (Option.some.inj (he.symm.trans htarget))
          rw [followPieces_down hn.isPiece hpass]
          exact ih hknows hawaits hopens hdepth
      | @link j k l mid m n target ns hn hlink inner _ _ ih =>
          have hresolves : ResolvesTo fs (l ++ [n]) j mid := .intro hlink inner
          rw [followPieces_link hn.isPiece hlink]
          cases hat : trail.at? (l ++ [n]) with
          | some known =>
              cases known with
              | some known =>
                  obtain ⟨c, hknown⟩ := hknows hat
                  obtain ⟨-, rfl⟩ := hresolves.unique hknown
                  exact ih hknows (hawaits.grows (.refl trail) (by omega)) hopens hdepth
              | none =>
                  have hle := hawaits hat hresolves
                  omega
          | none =>
              obtain ⟨trail', hinner, hknows', hgrows⟩ := ihdepth inner hknows.open
                (hawaits.open hresolves) (hopens.cons hlink hat) (by rw [List.length_cons]; omega)
              have hclosed : trail.Grows ((l ++ [n], some mid) :: trail') := hgrows.close
              obtain ⟨trail'', hrest, hknows'', hgrows'⟩ := ih (hknows'.close hresolves)
                (hawaits.grows hclosed (by omega)) (hopens.grows hclosed) hdepth
              refine ⟨trail'', ?_, hknows'', hclosed.trans hgrows'⟩
              simp only [hinner]
              exact hrest

/-- Entry names stay when parent steps are taken back. -/
theorem collapse_of_names {done l : Location} (h : ∀ n ∈ l, IsEntryName n) :
    collapse done l = done ++ l := by
  induction l generalizing done with
  | nil => exact (List.append_nil done).symm
  | cons n ns ih =>
      have hn := h n List.mem_cons_self
      rw [collapse, if_neg hn.ne_dot, if_neg hn.ne_up, ih fun m hm => h m (List.mem_cons_of_mem n hm),
        List.append_assoc, List.singleton_append]

end FileSystem

/-- Where the pieces of a text lead, the search for its real path comes. -/
theorem Workspace.followLinks_of_leads (ws : Workspace) {k : Nat} {t : Text} {l : Location}
    (hlead : FileSystem.Leads ws.files k (FileSystem.startOf t ws.workingDirectory)
      (splitOn '/' t) l) :
    ∃ trail, ws.files.followLinks (ws.files.entries.length + 1)
      (FileSystem.startOf t ws.workingDirectory) (splitOn '/' t) [] = .ok (⟨.root, l, true⟩, trail) := by
  have hopens : FileSystem.Trail.Opens ws.files [] [] := ⟨List.nodup_nil, by simp, by simp⟩
  have hroom : ws.files.entries.length <
      (ws.files.entries.length + 1) + ([] : List Location).length := by simp
  obtain ⟨trail, hfound, -⟩ := FileSystem.followLinks_of_leads hlead
    (by simp [FileSystem.Trail.Knows, FileSystem.Trail.at?])
    (by simp [FileSystem.Trail.Awaits, FileSystem.Trail.at?]) hopens hroom
  exact ⟨trail, hfound⟩

/-- The real path is where the pieces of a text lead. -/
theorem Workspace.Sound.realPath_of_leads {ws : Workspace} (h : ws.Sound) {k : Nat} {t : Text}
    {l : Location}
    (hlead : FileSystem.Leads ws.files k (FileSystem.startOf t ws.workingDirectory)
      (splitOn '/' t) l) : ws.realPath t = .ok l.path := by
  obtain ⟨trail, hfound⟩ := ws.followLinks_of_leads hlead
  obtain ⟨e, he⟩ := hlead.exists_entry h.files
    ⟨_, FileSystem.Sound.startOf_isDirectory h.directory t⟩
  rw [realPath, hfound]
  exact congrArg (fun l => Except.ok (Location.path l))
    (FileSystem.collapse_of_names (h.files.names he))

end SourceAtlas
