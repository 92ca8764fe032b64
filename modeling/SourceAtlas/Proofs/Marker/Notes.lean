import SourceAtlas.Marker
import SourceAtlas.Proofs.Trimming

/-!
# The note of a marker

What follows a marker is a colon or none, white space, the note, white space again, and the closer of
the comment if the line ends with one.  These parts are determined by the line: the note neither begins
nor ends with white space, and the colon and the closer are dropped when they are there.
-/

namespace SourceAtlas

open Text

namespace Text

/-- What precedes an end that a text has. -/
theorem dropTail?_eq_some_iff {tail t lead : Text} :
    dropTail? tail t = some lead ↔ t = lead ++ tail := by
  rw [dropTail?, Option.map_eq_some_iff]
  constructor
  · rintro ⟨r, hr, rfl⟩
    rw [← List.reverse_inj, dropLead?_eq_some_iff.mp hr]
    simp
  · rintro rfl
    exact ⟨lead.reverse, dropLead?_eq_some_iff.mpr (by simp), by simp⟩

end Text

namespace Marker

/-- The closer of a comment. -/
def closer : Text := "*/".toList

/-- The note in what follows a marker. -/
inductive IsNote : Text → Text → Prop
  | intro {colon lead note trail tail : Text}
      (hcolon : colon = [':'] ∨
        colon = [] ∧ (lead ++ (note ++ trail ++ tail)).head? ≠ some ':')
      (hlead : ∀ c ∈ lead, isBlank c = true)
      (hstart : ∀ c, (note ++ trail ++ tail).head? = some c → isBlank c = false)
      (htail : tail = closer ∨ tail = [] ∧ ¬ closer <:+ note ++ trail)
      (htrail : ∀ c ∈ trail, isBlank c = true)
      (hend : ∀ c, note.getLast? = some c → isBlank c = false) :
      IsNote (colon ++ (lead ++ (note ++ trail ++ tail))) note

theorem IsNote.eq_noteOf {rest note : Text} (h : IsNote rest note) : note = noteOf rest := by
  obtain @⟨colon, lead, note, trail, tail, hcolon, hlead, hstart, htail, htrail, hend⟩ := h
  have hbehind : (dropLead? [':'] (colon ++ (lead ++ (note ++ trail ++ tail)))).getD
      (colon ++ (lead ++ (note ++ trail ++ tail))) = lead ++ (note ++ trail ++ tail) := by
    obtain rfl | ⟨rfl, hhead⟩ := hcolon
    · rfl
    · rw [List.nil_append]
      cases hdrop : dropLead? [':'] (lead ++ (note ++ trail ++ tail)) with
      | none => rfl
      | some after =>
          rw [dropLead?_eq_some_iff.mp hdrop] at hhead
          exact absurd rfl hhead
  have hfront : (dropTail? closer (note ++ trail ++ tail)).getD (note ++ trail ++ tail) =
      note ++ trail := by
    obtain rfl | ⟨rfl, hnot⟩ := htail
    · rw [dropTail?_eq_some_iff.mpr rfl]
      rfl
    · rw [List.append_nil]
      cases hdrop : dropTail? closer (note ++ trail) with
      | none => rfl
      | some before => exact absurd ⟨before, (dropTail?_eq_some_iff.mp hdrop).symm⟩ hnot
  calc note = trimEnd (note ++ trail) := (trimEnd_append hend htrail).symm
    _ = trimEnd ((dropTail? closer (note ++ trail ++ tail)).getD (note ++ trail ++ tail)) := by
        rw [hfront]
    _ = noteOf (colon ++ (lead ++ (note ++ trail ++ tail))) := by
        rw [noteOf, hbehind, trimStart_append hlead hstart]
        rfl

theorem exists_isNote (rest : Text) : ∃ note, IsNote rest note := by
  obtain ⟨colon, behind, hrest, hcolon⟩ : ∃ colon behind, rest = colon ++ behind ∧
      (colon = [':'] ∨ colon = [] ∧ behind.head? ≠ some ':') := by
    by_cases hhead : rest.head? = some ':'
    · obtain ⟨behind, rfl⟩ := List.head?_eq_some_iff.mp hhead
      exact ⟨[':'], behind, rfl, .inl rfl⟩
    · exact ⟨[], rest, rfl, .inr ⟨rfl, hhead⟩⟩
  have hbehind : behind = behind.takeWhile isBlank ++ trimStart behind :=
    List.takeWhile_append_dropWhile.symm
  obtain ⟨front, tail, hfront, htail⟩ : ∃ front tail, trimStart behind = front ++ tail ∧
      (tail = closer ∨ tail = [] ∧ ¬ closer <:+ front) := by
    by_cases hend : closer <:+ trimStart behind
    · obtain ⟨front, hfront⟩ := hend
      exact ⟨front, closer, hfront.symm, .inl rfl⟩
    · exact ⟨trimStart behind, [], (List.append_nil _).symm, .inr ⟨rfl, hend⟩⟩
  obtain ⟨trail, htrim, htrail, hend⟩ := exists_trimEnd front
  have hall : rest = colon ++ (behind.takeWhile isBlank ++ (trimEnd front ++ trail ++ tail)) := by
    rw [← htrim, ← hfront, ← hbehind, hrest]
  rw [hall]
  refine ⟨trimEnd front, .intro ?_ ?_ ?_ ?_ htrail hend⟩
  · rwa [← htrim, ← hfront, ← hbehind]
  · exact List.all_eq_true.mp List.all_takeWhile
  · rw [← htrim, ← hfront]
    intro c hc
    have hstop := List.head?_dropWhile_not isBlank behind
    rw [trimStart] at hc
    rwa [hc] at hstop
  · rwa [← htrim]

/-- What follows a marker has one note. -/
theorem isNote_iff {rest note : Text} : IsNote rest note ↔ note = noteOf rest := by
  refine ⟨IsNote.eq_noteOf, ?_⟩
  rintro rfl
  obtain ⟨note, hnote⟩ := exists_isNote rest
  rwa [← hnote.eq_noteOf]

end Marker

end SourceAtlas
