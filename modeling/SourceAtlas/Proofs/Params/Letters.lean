import SourceAtlas.Proofs.Params.Pieces

/-!
# Letters as entries

A text given for a list is one entry.  Taken apart into its letters it has the same pieces if none of them
is longer than a letter: commas and white space are pieces neither way.
-/

namespace SourceAtlas.Value

open Text

/-- A part without commas is one piece, unless it is blank. -/
theorem pieces_part {part : Text} (h : ',' ∉ part) :
    items?.pieces [part] = if trim part = [] then [] else [trim part] := by
  rw [pieces_of_not_mem (by simpa using h)]
  by_cases hnil : trim part = [] <;> simp [hnil]

theorem pieces_cons (t : Text) (ts : List Text) :
    items?.pieces (t :: ts) = items?.pieces [t] ++ items?.pieces ts := pieces_append [t] ts

/-- The letters of a text, each as a text. -/
def letters (t : Text) : List Text := t.map fun c => [c]

theorem letters_append (t u : Text) : letters (t ++ u) = letters t ++ letters u := List.map_append

theorem pieces_letters_of_blank {t : Text} (h : ∀ c ∈ t, isBlank c = true) :
    items?.pieces (letters t) = [] := by
  induction t with
  | nil => rfl
  | cons c cs ih =>
      obtain ⟨hc, hcs⟩ := List.forall_mem_cons.mp h
      have hcomma : ',' ∉ [c] := by
        intro hcomma
        obtain rfl := List.mem_singleton.mp hcomma
        exact absurd hc (by decide)
      rw [letters, List.map_cons, pieces_cons, ← letters, ih hcs, pieces_part hcomma,
        if_pos (trim_eq_nil_iff.mpr (by simpa using hc)), List.append_nil]

/-- A part of which trimming leaves one letter at most has the piece that its letters have. -/
theorem pieces_letters_of_part {part : Text} (hcomma : ',' ∉ part) (hshort : (trim part).length ≤ 1) :
    items?.pieces (letters part) = items?.pieces [part] := by
  obtain ⟨lead, blanks, hpart, hlead, hblanks⟩ := exists_trim part
  have hletters : items?.pieces (letters part) = items?.pieces (letters (trim part)) := by
    rw [congrArg letters hpart, letters_append, letters_append, pieces_append, pieces_append,
      pieces_letters_of_blank hlead, pieces_letters_of_blank hblanks, List.nil_append, List.append_nil]
  rw [hletters, pieces_part hcomma]
  have hkept := trim_subset part
  have htrimmed := trimmed_trim part
  generalize trim part = kept at *
  match kept, hshort with
  | [], _ => rfl
  | [c], _ =>
      have hc : ',' ∉ [c] := fun hmem => hcomma (hkept hmem)
      rw [letters, List.map_singleton, pieces_part hc, trim_eq_self htrimmed.first htrimmed.last]

theorem pieces_letters_join {parts : List Text} (h : ∀ part ∈ parts, ',' ∉ part ∧ (trim part).length ≤ 1) :
    items?.pieces (letters (join [','] parts)) = items?.pieces parts := by
  induction parts with
  | nil => rfl
  | cons part parts ih =>
      obtain ⟨⟨hcomma, hpart⟩, hrest⟩ := List.forall_mem_cons.mp h
      have hmark : items?.pieces (letters [',']) = [] := rfl
      rw [pieces_cons, ← pieces_letters_of_part hcomma hpart, ← ih hrest]
      cases parts with
      | nil => simp [join, letters, items?.pieces]
      | cons next parts =>
          have hjoin : join [','] (part :: next :: parts) = part ++ [','] ++ join [','] (next :: parts) := rfl
          rw [hjoin, letters_append, letters_append, pieces_append, pieces_append, hmark, List.append_nil]

/-- A text has the pieces of its letters if no piece has more than one. -/
theorem pieces_letters {t : Text} (h : ∀ p ∈ items?.pieces [t], p.length ≤ 1) :
    items?.pieces (letters t) = items?.pieces [t] := by
  have hparts : ∀ part ∈ splitOn ',' t, ',' ∉ part ∧ (trim part).length ≤ 1 := by
    intro part hpart
    refine ⟨not_mem_of_mem_splitOn hpart, ?_⟩
    by_cases hnil : trim part = []
    · simp [hnil]
    · refine h (trim part) (List.mem_filter.mpr ⟨?_, by simpa using hnil⟩)
      rw [List.flatMap_singleton]
      exact List.mem_map_of_mem hpart
  rw [← join_splitOn ',' t, pieces_letters_join hparts, pieces_join]

end SourceAtlas.Value
