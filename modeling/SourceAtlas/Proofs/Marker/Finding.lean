import Mathlib.Data.List.Basic
import SourceAtlas.Proofs.Marker.Pattern
import SourceAtlas.Proofs.Markers

/-!
# The markers that are found in a text

Each line of a text gives at most one marker: the one that counts in it, with its note and the number
of the line.  It is what the comment pattern captures there, and it is of no ignored name.
-/

namespace SourceAtlas

open Text

namespace Marker

open Sighting

/-! ## Markers of numbered lines -/

variable {markers : List Text} {t : Text}

/-- The marker that is found in a numbered line. -/
def ofLine? (markers : List Text) (line : Text × Nat) : Option Marker :=
  (inLine? markers line.1).map fun found => ⟨found.1, line.2, noteOf found.2⟩

/-- The marker that the groups of a pattern capture in a numbered line: first its name, then its
note. -/
def capturedIn? (p : Pattern) (line : Text × Nat) : Option Marker :=
  match p.search none line.1 with
  | some [type, note] => some ⟨type, line.2, note⟩
  | _ => none

theorem ofLines_eq (n : Nat) (ls : List Text) :
    ofLines markers n ls = (ls.zipIdx n).filterMap (ofLine? markers) := by
  induction ls generalizing n with
  | nil => rfl
  | cons l ls ih =>
      rw [ofLines, List.zipIdx_cons, List.filterMap_cons, ofLine?]
      cases hfound : inLine? markers l with
      | none => exact ih (n + 1)
      | some found =>
          dsimp only [Option.map_some]
          rw [ih (n + 1)]

theorem find_eq : find markers t = ((lines t).zipIdx 1).filterMap (ofLine? markers) :=
  ofLines_eq 1 (lines t)

/-- A line holds no line feed, so the pattern captures the marker that is found in it. -/
theorem capturedIn?_comment {line : Text × Nat} (h : '\n' ∉ line.1) :
    capturedIn? (comment markers) line = ofLine? markers line := by
  rw [capturedIn?, ofLine?, search_comment h]
  cases inLine? markers line.1 with
  | none => rfl
  | some found => rfl

theorem mem_zipIdx_lines {line : Text} {n : Nat} :
    (line, n) ∈ (lines t).zipIdx 1 ↔ 1 ≤ n ∧ (lines t)[n - 1]? = some line :=
  List.mk_mem_zipIdx_iff_le_and_getElem?_sub

theorem find_eq_captured :
    find markers t = ((lines t).zipIdx 1).filterMap (capturedIn? (comment markers)) := by
  rw [find_eq]
  apply List.filterMap_congr
  rintro ⟨line, n⟩ hline
  have hmem : line ∈ lines t := List.mem_of_getElem? (mem_zipIdx_lines.mp hline).2
  refine (capturedIn?_comment fun hend => ?_).symm
  cases (mem_of_mem_lines hmem _ hend).2

/-- The markers come in the order of their lines, and each line gives at most one. -/
theorem pairwise_find : (find markers t).Pairwise fun m m' => m.line < m'.line := by
  rw [find_eq, List.pairwise_filterMap]
  have hnumbers : ((lines t).zipIdx 1).Pairwise fun l l' => l.2 < l'.2 := by
    rw [← List.pairwise_map (f := Prod.snd) (R := (· < ·)), List.zipIdx_map_snd]
    exact List.pairwise_lt_range'
  refine hnumbers.imp fun {l l'} hlt m hm m' hm' => ?_
  obtain ⟨found, -, rfl⟩ := Option.map_eq_some_iff.mp hm
  obtain ⟨found', -, rfl⟩ := Option.map_eq_some_iff.mp hm'
  exact hlt

/-! ## The reference -/

/-- A marker of a text: the one that counts in a line, with the number of the line and the note that
follows. -/
inductive IsFound (markers : List Text) (t : Text) : Marker → Prop
  | intro {n : Nat} {line note : Text} {s : Sighting} (hline : (lines t)[n]? = some line)
      (hcounts : Counts markers line s) (hnote : IsNote s.rest note) :
      IsFound markers t ⟨s.type, n + 1, note⟩

theorem mem_find_iff {m : Marker} : m ∈ find markers t ↔ IsFound markers t m := by
  rw [find_eq, List.mem_filterMap]
  constructor
  · rintro ⟨⟨line, n⟩, hline, hgives⟩
    obtain ⟨⟨type, rest⟩, hfound, rfl⟩ := Option.map_eq_some_iff.mp hgives
    obtain ⟨s, hcounts, rfl, rfl⟩ := inLine?_eq_some_iff.mp hfound
    obtain ⟨hn, hline⟩ := mem_zipIdx_lines.mp hline
    obtain ⟨k, rfl⟩ := Nat.exists_eq_add_of_le' hn
    exact .intro hline hcounts (isNote_iff.mpr rfl)
  · rintro @⟨n, line, note, s, hline, hcounts, hnote⟩
    refine ⟨(line, n + 1), mem_zipIdx_lines.mpr ⟨Nat.le_add_left 1 n, hline⟩, ?_⟩
    rw [isNote_iff.mp hnote, ofLine?, inLine?_eq_some_iff.mpr ⟨s, hcounts, rfl, rfl⟩]
    rfl

/-- A line gives a marker exactly if one stands in it. -/
theorem exists_mem_find_iff {n : Nat} {line : Text} (hline : (lines t)[n]? = some line) :
    (∃ m ∈ find markers t, m.line = n + 1) ↔ ∃ s, In markers line s := by
  constructor
  · rintro ⟨m, hm, hn⟩
    cases mem_find_iff.mp hm with
    | intro hline' hcounts _ =>
        obtain rfl := Nat.succ.inj hn
        obtain rfl := Option.some.inj (hline.symm.trans hline')
        exact ⟨_, hcounts.toIn⟩
  · intro hin
    obtain ⟨⟨type, rest⟩, hfound⟩ := Option.isSome_iff_exists.mp (isSome_inLine?_iff.mpr hin)
    obtain ⟨s, hcounts, -, -⟩ := inLine?_eq_some_iff.mp hfound
    obtain ⟨note, hnote⟩ := exists_isNote s.rest
    exact ⟨_, mem_find_iff.mpr (.intro hline hcounts hnote), rfl⟩

/-- A marker of an ignored name is not looked for. -/
theorem lower_ne_of_mem_active {ignoredTags : List Text} {m tag : Text}
    (hm : m ∈ active markers ignoredTags) (htag : tag ∈ ignoredTags) : lower m ≠ lower tag := by
  intro heq
  have hkept := (List.mem_filter.mp hm).2
  rw [Bool.not_eq_true', ← Bool.not_eq_true, List.contains_iff_mem, heq] at hkept
  exact hkept (List.mem_map_of_mem htag)

/-- The markers that are found in a text are what the comment pattern captures line by line.  They come
in the order of their lines, at most one for a line, and are those that count there: a line gives one
exactly if a marker stands in it.  None is of an ignored name. -/
theorem find_tells_what_counts (markers ignoredTags : List Text) (t : Text) :
    find (active markers ignoredTags) t =
        ((lines t).zipIdx 1).filterMap (capturedIn? (comment (active markers ignoredTags))) ∧
      (find (active markers ignoredTags) t).Pairwise (fun m m' => m.line < m'.line) ∧
      (∀ m, m ∈ find (active markers ignoredTags) t ↔ IsFound (active markers ignoredTags) t m) ∧
      (∀ (n : Nat) line, (lines t)[n]? = some line →
        ((∃ m ∈ find (active markers ignoredTags) t, m.line = n + 1) ↔
          ∃ s, In (active markers ignoredTags) line s)) ∧
      ∀ m ∈ find (active markers ignoredTags) t, ∀ tag ∈ ignoredTags, lower m.type ≠ lower tag := by
  refine ⟨find_eq_captured, pairwise_find, fun m => mem_find_iff,
    fun n line hline => exists_mem_find_iff hline, fun m hm tag htag => ?_⟩
  exact lower_ne_of_mem_active (foundIn_of_mem_find hm).type htag

end Marker

end SourceAtlas
