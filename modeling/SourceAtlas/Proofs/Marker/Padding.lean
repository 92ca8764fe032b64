import SourceAtlas.Proofs.Marker.Comments

/-!
# White space at the end of a line

Spaces and tabs behind a line bring no marker and take none away: where a word ends in front of them, it
ends at the end of the line too.  They are no part of the note either, unless a closer is in front of
them: it does not end the line any more, and the note goes on with it.
-/

namespace SourceAtlas

open Text

namespace Marker

open Sighting

/-- Spaces and tabs. -/
def Padding (w : Text) : Prop := ∀ c ∈ w, c = ' ' ∨ c = '\t'

instance (w : Text) : Decidable (Padding w) :=
  List.decidableBAll (fun c => c = ' ' ∨ c = '\t') w

variable {markers : List Text} {line rest note w : Text} {s : Sighting}

namespace Padding

theorem blank (hw : Padding w) : ∀ c ∈ w, isBlank c = true := by
  intro c hc
  obtain rfl | rfl := hw c hc <;> decide

theorem unbroken (hw : Padding w) : Unbroken w := by
  intro c hc
  obtain rfl | rfl := hw c hc <;> decide

theorem not_word (hw : Padding w) : ∀ c ∈ w, isWord c = false := by
  intro c hc
  obtain rfl | rfl := hw c hc <;> exact isWord_of_mark (by decide)

end Padding

theorem any_isWord_eq_false {o : Option Char} (h : ∀ c, o = some c → isWord c = false) :
    o.any isWord = false := by
  cases o with
  | none => rfl
  | some c => exact h c rfl

/-! ## Markers in padded lines -/

/-- A word that ends in front of padding ends at the end of a line too. -/
theorem isWordBoundary_padded (hw : Padding w) (before : Option Char) (t : Text) :
    isWordBoundary before (t ++ w).head? = isWordBoundary before t.head? := by
  cases t with
  | nil =>
      have hnone : w.head?.any isWord = false :=
        any_isWord_eq_false fun c hc => hw.not_word c (List.mem_of_head? hc)
      rw [List.nil_append, isWordBoundary, hnone]
      rfl
  | cons c cs => rfl

/-- The sighting in a line with padding behind. -/
def Sighting.padded (s : Sighting) (w : Text) : Sighting := { s with rest := s.rest ++ w }

theorem Sighting.In.padded (hw : Padding w) (h : In markers line s) :
    In markers (line ++ w) (s.padded w) where
  line_eq := by
    rw [h.line_eq, List.append_assoc]
    rfl
  opener := h.opener
  blanks := h.blanks
  type := h.type
  ends := (isWordBoundary_padded hw _ _).trans h.ends

/-- A marker that ends in front of the padding stands in the line. -/
theorem Sighting.In.of_rest_padded {more : Text} (hw : Padding w) (h : In markers (line ++ w) s)
    (hline : line = s.upTo ++ more) (hrest : s.rest = more ++ w) :
    ∃ s', s = s'.padded w ∧ In markers line s' := by
  obtain ⟨lead, opener, blanks, type, rest⟩ := s
  obtain rfl : rest = more ++ w := hrest
  refine ⟨⟨lead, opener, blanks, type, more⟩, rfl, hline, h.opener, h.blanks, h.type, ?_⟩
  exact (isWordBoundary_padded hw _ _).symm.trans h.ends

/-- No marker ends within padding. -/
theorem Sighting.In.of_padded (hw : Padding w) (h : In markers (line ++ w) s) :
    ∃ s', s = s'.padded w ∧ In markers line s' := by
  obtain ⟨more, hline, hrest⟩ | ⟨more, hupTo, hw'⟩ := List.append_eq_append_iff.mp h.line_eq.symm
  · exact h.of_rest_padded hw hline hrest
  by_cases hnil : more = []
  · subst hnil
    rw [List.append_nil] at hupTo
    exact h.of_rest_padded hw ((List.append_nil _).trans hupTo).symm hw'.symm
  · -- the marker would end behind a blank and in front of a blank or the end of the line
    have hlast : s.upTo.getLast?.any isWord = false := by
      apply any_isWord_eq_false
      intro c hc
      rw [hupTo, List.getLast?_append_of_ne_nil _ hnil] at hc
      refine hw.not_word c ?_
      rw [hw']
      exact List.mem_append_left _ (List.mem_of_getLast? hc)
    have hnext : s.rest.head?.any isWord = false := by
      apply any_isWord_eq_false
      intro c hc
      refine hw.not_word c ?_
      rw [hw']
      exact List.mem_append_right _ (List.mem_of_head? hc)
    have hends := h.ends
    rw [isWordBoundary, hlast, hnext] at hends
    cases hends

theorem Sighting.Counts.padded (hw : Padding w) (h : Counts markers line s) :
    Counts markers (line ++ w) (s.padded w) := by
  obtain ⟨hin, hleftmost, hlongest, earlier, later, hmarkers, hfirst⟩ := h
  refine ⟨hin.padded hw, ?_, ?_, earlier, later, hmarkers, ?_⟩
  · intro s' hin'
    obtain ⟨s'', rfl, hin''⟩ := hin'.of_padded hw
    exact hleftmost s'' hin''
  · intro s' hin' hlead
    obtain ⟨s'', rfl, hin''⟩ := hin'.of_padded hw
    exact hlongest s'' hin'' hlead
  · intro s' hin' hlead hblanks
    obtain ⟨s'', rfl, hin''⟩ := hin'.of_padded hw
    exact hfirst s'' hin'' hlead hblanks

/-- Padding follows what follows a marker. -/
theorem inLine?_padded (hw : Padding w) : inLine? markers (line ++ w) =
    (inLine? markers line).map fun found => (found.1, found.2 ++ w) := by
  cases hfound : inLine? markers line with
  | none =>
      rw [Option.map_none, Option.eq_none_iff_forall_ne_some]
      rintro ⟨m, rest⟩ hpadded
      obtain ⟨s, hcounts, -, -⟩ := inLine?_eq_some_iff.mp hpadded
      obtain ⟨s', -, hin⟩ := hcounts.toIn.of_padded hw
      exact not_in_of_inLine?_eq_none hfound hin
  | some found =>
      obtain ⟨m, rest⟩ := found
      obtain ⟨s, hcounts, rfl, rfl⟩ := inLine?_eq_some_iff.mp hfound
      exact inLine?_eq_some_iff.mpr ⟨s.padded w, hcounts.padded hw, rfl, rfl⟩

/-! ## Closers -/

/-- A closer at the end of two parts is at the end of the second one, or begins in the first one. -/
theorem closer_suffix_append {front back : Text} (h : closer <:+ front ++ back) :
    closer <:+ back ∨ back = ['/'] ∧ front.getLast? = some '*' ∨
      back = [] ∧ front.getLast? = some '/' := by
  obtain ⟨before, hbefore⟩ := h
  obtain ⟨more, hfront, hback⟩ | ⟨more, -, hback⟩ := List.append_eq_append_iff.mp hbefore
  · cases more with
    | nil =>
        rw [List.nil_append] at hback
        exact .inl ⟨[], hback⟩
    | cons c cs =>
        obtain ⟨rfl, hcs⟩ := List.cons.inj hback
        cases cs with
        | nil =>
            refine .inr (.inl ⟨hcs.symm, ?_⟩)
            rw [hfront, List.getLast?_concat]
            rfl
        | cons d ds =>
            obtain ⟨rfl, hds⟩ := List.cons.inj hcs
            obtain ⟨rfl, rfl⟩ := List.append_eq_nil_iff.mp hds.symm
            refine .inr (.inr ⟨rfl, ?_⟩)
            rw [hfront, List.getLast?_append_of_ne_nil _ (List.cons_ne_nil _ _)]
            rfl
  · exact .inl ⟨more, hback.symm⟩

/-- A line ends with a closer exactly if what follows a marker in it does. -/
theorem Sighting.In.closer_suffix_iff (h : In markers line s) :
    closer <:+ line ↔ closer <:+ s.rest := by
  have hstar : isWord '*' = false := isWord_of_mark (by decide)
  have hslash : isWord '/' = false := isWord_of_mark (by decide)
  constructor
  · intro hline
    rw [h.line_eq] at hline
    have hends := h.ends
    obtain hrest | ⟨hrest, hlast⟩ | ⟨hrest, hlast⟩ := closer_suffix_append hline
    · exact hrest
    · rw [hrest, hlast, isWordBoundary, List.head?_cons, Option.any_some, Option.any_some, hstar,
        hslash] at hends
      cases hends
    · rw [hrest, hlast, isWordBoundary, Option.any_some, hslash] at hends
      cases hends
  · intro hrest
    rw [h.line_eq]
    exact hrest.trans (List.suffix_append _ _)

/-- No closer ends with white space. -/
theorem not_closer_suffix_padded {t : Text} (hw : ∀ c ∈ w, isBlank c = true) (hne : w ≠ []) :
    ¬ closer <:+ t ++ w := by
  have hslash : '/' ∉ w := by
    intro hmem
    have hblank : isBlank '/' = true := hw '/' hmem
    exact absurd hblank (by decide)
  intro hend
  obtain hback | ⟨hback, -⟩ | ⟨hback, -⟩ := closer_suffix_append hend
  · exact hslash (hback.subset (by decide))
  · exact hslash (hback ▸ List.mem_cons_self)
  · exact hne hback

/-! ## Notes in padded lines -/

/-- With white space behind it, what stands behind the colon is the note up to the white space at its
end. -/
theorem isNote_of_padding {colon lead body blanks : Text}
    (hcolon : colon = [':'] ∨ colon = [] ∧ (lead ++ body).head? ≠ some ':')
    (hlead : ∀ c ∈ lead, isBlank c = true) (hstart : ∀ c, body.head? = some c → isBlank c = false)
    (hbody : body ≠ []) (hw : ∀ c ∈ w, isBlank c = true) (hne : w ≠ [])
    (hparts : body ++ w = note ++ blanks) (hblanks : ∀ c ∈ blanks, isBlank c = true)
    (hend : ∀ c, note.getLast? = some c → isBlank c = false) :
    IsNote (colon ++ (lead ++ body) ++ w) note := by
  have hnote : IsNote (colon ++ (lead ++ (note ++ blanks ++ []))) note := by
    refine .intro (hcolon.imp_right fun hnone => ⟨hnone.1, ?_⟩) hlead ?_ (.inr ⟨rfl, ?_⟩) hblanks hend
    · rw [List.append_nil, ← hparts, ← List.append_assoc,
        List.head?_append_of_ne_nil _ (List.append_ne_nil_of_right_ne_nil _ hbody)]
      exact hnone.2
    · rwa [List.append_nil, ← hparts, List.head?_append_of_ne_nil _ hbody]
    · rw [← hparts]
      exact not_closer_suffix_padded hw hne
  rw [List.append_nil, ← hparts] at hnote
  simpa only [List.append_assoc] using hnote

/-- Where white space is all that stands behind the colon, there is no note. -/
theorem isNote_of_blank {colon lead : Text}
    (hcolon : colon = [':'] ∨ colon = [] ∧ lead.head? ≠ some ':')
    (hlead : ∀ c ∈ lead, isBlank c = true) : IsNote (colon ++ lead) [] := by
  have hnote : IsNote (colon ++ (lead ++ ([] ++ [] ++ []))) [] := by
    refine .intro ?_ hlead (by simp) (.inr ⟨rfl, by decide⟩) (by simp) (by simp)
    rwa [List.append_nil, List.append_nil, List.append_nil]
  rwa [List.append_nil, List.append_nil, List.append_nil] at hnote

/-- White space behind a note is no part of it. -/
theorem IsNote.padded (h : IsNote rest note) (hw : ∀ c ∈ w, isBlank c = true)
    (hopen : ¬ closer <:+ rest) : IsNote (rest ++ w) note := by
  by_cases hne : w = []
  · rwa [hne, List.append_nil]
  obtain @⟨colon, lead, note, trail, tail, hcolon, hlead, hstart, htail, htrail, hend⟩ := h
  obtain rfl : tail = [] := by
    refine (htail.resolve_left ?_).1
    rintro rfl
    exact hopen ((List.suffix_append _ _).trans
      ((List.suffix_append _ _).trans (List.suffix_append _ _)))
  rw [List.append_nil] at hcolon hstart ⊢
  by_cases hbody : note ++ trail = []
  · obtain ⟨rfl, rfl⟩ := List.append_eq_nil_iff.mp hbody
    have hblank : ∀ c ∈ lead ++ w, isBlank c = true := List.forall_mem_append.mpr ⟨hlead, hw⟩
    have hhead : (lead ++ w).head? ≠ some ':' := by
      intro hhead
      exact absurd (hblank ':' (List.mem_of_head? hhead)) (by decide)
    rw [List.append_nil, List.append_nil, List.append_assoc]
    exact isNote_of_blank (hcolon.imp_right fun hnone => ⟨hnone.1, hhead⟩) hblank
  · exact isNote_of_padding hcolon hlead hstart hbody hw hne (List.append_assoc _ _ _)
      (List.forall_mem_append.mpr ⟨htrail, hw⟩) hend

/-- A closer in front of white space becomes a part of the note. -/
theorem IsNote.padded_closer (h : IsNote rest note) (hw : ∀ c ∈ w, isBlank c = true) (hne : w ≠ [])
    (hclosed : closer <:+ rest) : ∃ trail, IsNote (rest ++ w) (note ++ trail ++ closer) := by
  obtain @⟨colon, lead, note, trail, tail, hcolon, hlead, hstart, htail, htrail, hend⟩ := h
  obtain rfl : tail = closer := by
    refine htail.resolve_right ?_
    rintro ⟨rfl, hopen⟩
    rw [List.append_nil, ← List.append_assoc] at hclosed
    have hlast : ∀ c, (colon ++ lead).getLast? = some c → c = ':' ∨ isBlank c = true := by
      intro c hc
      obtain hmem | hmem := List.mem_append.mp (List.mem_of_getLast? hc)
      · obtain rfl | ⟨rfl, -⟩ := hcolon
        · exact .inl (List.mem_singleton.mp hmem)
        · cases hmem
      · exact .inr (hlead c hmem)
    obtain hbody | ⟨-, hstar⟩ | ⟨-, hslash⟩ := closer_suffix_append hclosed
    · exact hopen hbody
    · exact absurd (hlast _ hstar) (by decide)
    · exact absurd (hlast _ hslash) (by decide)
  have hcloser : closer ≠ [] := List.cons_ne_nil _ _
  refine ⟨trail, isNote_of_padding hcolon hlead hstart
    (List.append_ne_nil_of_right_ne_nil _ hcloser) hw hne rfl hw fun c hc => ?_⟩
  rw [List.getLast?_append_of_ne_nil _ hcloser] at hc
  obtain rfl : '/' = c := Option.some.inj hc
  decide

/-! ## Padded texts -/

/-- A marker is found in a line that is a text of its own as in a line of a longer text. -/
theorem find_unbroken (hline : Unbroken line) :
    find markers line = (ofLine? markers (line, 1)).toList := by
  by_cases hne : line = []
  · have hnone : inLine? markers [] = none := by
      rw [← Option.not_isSome_iff_eq_none, isSome_inLine?_iff]
      rintro ⟨s, hin⟩
      exact not_in_nil hin
    rw [hne, find_eq, lines_nil, ofLine?, hnone]
    rfl
  · rw [find_eq, lines_of_no_end hne hline]
    cases hfound : ofLine? markers (line, 1) <;> simp [hfound]

/-- The note of a line with padding is that of the line, unless a closer comes to stand in front of
the padding. -/
theorem noteOf_padded_iff (hw : Padding w) :
    noteOf (rest ++ w) = noteOf rest ↔ w = [] ∨ ¬ closer <:+ rest := by
  have hnote : IsNote rest (noteOf rest) := isNote_iff.mpr rfl
  constructor
  · intro hsame
    by_contra hnot
    obtain ⟨hne, hclosed⟩ := not_or.mp hnot
    obtain ⟨trail, hlonger⟩ := hnote.padded_closer hw.blank hne (not_not.mp hclosed)
    have hlength := congrArg List.length (hlonger.eq_noteOf.trans hsame)
    have hcloser : closer.length = 2 := rfl
    rw [List.length_append, List.length_append] at hlength
    omega
  · rintro (rfl | hopen)
    · rw [List.append_nil]
    · exact (hnote.padded hw.blank hopen).eq_noteOf.symm

/-- Spaces and tabs behind a line change neither the types nor the lines of the markers in it.  They
change no note either, exactly if there are none, the line holds no marker, or does not end with a
closer. -/
theorem padding_changes_no_note_iff (hline : Unbroken line) (hw : Padding w) :
    (find markers (line ++ w)).map (fun m => (m.type, m.line)) =
        (find markers line).map (fun m => (m.type, m.line)) ∧
      (find markers (line ++ w) = find markers line ↔
        w = [] ∨ find markers line = [] ∨ ¬ closer <:+ line) := by
  have hpadded : Unbroken (line ++ w) := unbroken_append_iff.mpr ⟨hline, hw.unbroken⟩
  rw [find_unbroken hline, find_unbroken hpadded, ofLine?, ofLine?]
  dsimp only
  rw [inLine?_padded hw]
  cases hfound : inLine? markers line with
  | none => simp
  | some found =>
      obtain ⟨type, rest⟩ := found
      obtain ⟨s, hcounts, rfl, rfl⟩ := inLine?_eq_some_iff.mp hfound
      refine ⟨rfl, ?_⟩
      have hcloser := hcounts.toIn.closer_suffix_iff
      have hnote : noteOf (s.rest ++ w) = noteOf s.rest ↔ w = [] ∨ ¬ closer <:+ s.rest :=
        noteOf_padded_iff hw
      simp [hcloser, hnote]

/-- A line without a closer. -/
theorem padded_line_without_closer :
    Unbroken "/* TODO tidy up".toList ∧ Padding " \t".toList ∧
      find usual ("/* TODO tidy up".toList ++ " \t".toList) =
        [⟨"TODO".toList, 1, "tidy up".toList⟩] := by
  have hline : Unbroken "/* TODO tidy up".toList := no_end_of_all (by decide)
  have hpadding : Padding " \t".toList := by decide
  have hfound : find usual "/* TODO tidy up".toList = [⟨"TODO".toList, 1, "tidy up".toList⟩] := by
    have htext : "/* TODO tidy up".toList =
        "/* ".toList ++ ("TODO".toList ++ ' ' :: "tidy up".toList) := by decide
    rw [find_unbroken hline, ofLine?, htext, inLine?_usual (by decide)]
    decide
  refine ⟨hline, hpadding, ?_⟩
  rw [(padding_changes_no_note_iff hline hpadding).2.mpr (.inr (.inr (by decide))), hfound]

/-- A space behind a closer makes the closer a part of the note. -/
theorem closer_in_front_of_space_joins_note :
    find ({} : Description).activeMarkers "/* TODO tidy up */".toList =
        [⟨"TODO".toList, 1, "tidy up".toList⟩] ∧
      find ({} : Description).activeMarkers ("/* TODO tidy up */".toList ++ " ".toList) =
        [⟨"TODO".toList, 1, "tidy up */".toList⟩] := by
  have hline : Unbroken "/* TODO tidy up */".toList := no_end_of_all (by decide)
  have hpadded : Unbroken ("/* TODO tidy up */".toList ++ " ".toList) := no_end_of_all (by decide)
  have htext : "/* TODO tidy up */".toList ++ " ".toList =
      "/* ".toList ++ ("TODO".toList ++ ' ' :: "tidy up */ ".toList) := by decide
  refine ⟨(find_unbroken hline).trans (congrArg Option.toList (tidy.ofLine?_text 1)),
    (find_unbroken hpadded).trans ?_⟩
  rw [← usual, ofLine?, htext, inLine?_usual (by decide)]
  decide

end Marker

end SourceAtlas
