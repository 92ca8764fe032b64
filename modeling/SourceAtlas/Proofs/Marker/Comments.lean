import SourceAtlas.Document.Fingerprint
import SourceAtlas.Proofs.Lines
import SourceAtlas.Proofs.Marker.Finding

/-!
# Complete comments

A complete comment has an opener, one of the usual markers, a note and a closer.  Several of them can
stand in a line with spaces between them, but a line is searched once, and a note goes on to the end of
its line.  So a row of comments reads like one comment: the first one, with a note that reaches to the
last closer.  There is one marker for each comment exactly if no line holds two.
-/

namespace SourceAtlas

open Text

namespace Marker

/-- The markers that are looked for if no others are asked for. -/
def usual : List Text := ({} : Description).activeMarkers

theorem usual_eq : usual = ["TODO".toList, "FIXME".toList] := rfl

/-- What follows a usual marker and a blank is found behind the marker. -/
theorem inLine?_usual {m : Text} (hm : m ∈ usual) (t : Text) :
    inLine? usual ("/* ".toList ++ (m ++ ' ' :: t)) = some (m, ' ' :: t) := by
  have hends : ∀ {c : Char}, isWord c = true → isWordBoundary (some c) (some ' ') = true := by
    intro c hc
    rw [isWordBoundary, Option.any_some, Option.any_some, hc, isWord_of_mark (by decide)]
    rfl
  have hopener : "/*".toList ∈ openers := by decide
  rw [usual_eq, List.mem_cons, List.mem_singleton] at hm
  have hat : markerAt? usual (some ' ') (m ++ ' ' :: t) = some (m, ' ' :: t) := by
    rw [markerAt?_eq_some_iff, usual_eq]
    obtain rfl | rfl := hm
    · exact ⟨[], ["FIXME".toList], rfl, ⟨rfl, hends (c := 'O') (by decide)⟩, by simp⟩
    · refine ⟨["TODO".toList], [], rfl, ⟨rfl, hends (c := 'E') (by decide)⟩, ?_⟩
      intro m' hm' r hbegins
      obtain rfl := List.mem_singleton.mp hm'
      cases (List.cons.inj hbegins.text_eq).1
  refine inLine?_opener hopener ?_ hat
  obtain rfl | rfl := hm
  · intro c hc
    obtain rfl : 'T' = c := Option.some.inj hc
    decide
  · intro c hc
    obtain rfl : 'F' = c := Option.some.inj hc
    decide

/-! ## Comments -/

/-- A usual marker, and a note that neither begins nor ends with white space. -/
structure Comment where
  type : Text
  note : Text
  known : type ∈ usual
  filled : note ≠ []
  trimmed : Trimmed note

namespace Comment

/-- The comment as it is written. -/
def text (c : Comment) : Text := "/* ".toList ++ (c.type ++ ' ' :: (c.note ++ " */".toList))

/-- The marker of the comment in a line. -/
def marker (n : Nat) (c : Comment) : Marker := ⟨c.type, n, c.note⟩

theorem noteOf_eq (c : Comment) : noteOf (' ' :: (c.note ++ " */".toList)) = c.note := by
  have hfirst : ∀ d, (c.note ++ [' '] ++ closer).head? = some d → isBlank d = false := by
    intro d hd
    rw [List.append_assoc, List.head?_append_of_ne_nil _ c.filled] at hd
    exact c.trimmed.first d hd
  have hblank : ∀ d ∈ [' '], isBlank d = true := List.forall_mem_singleton.mpr (by decide)
  have hnote : IsNote ([] ++ ([' '] ++ (c.note ++ [' '] ++ closer))) c.note :=
    .intro (.inr ⟨rfl, by simp⟩) hblank hfirst (.inl rfl) hblank c.trimmed.last
  rw [List.append_assoc] at hnote
  exact hnote.eq_noteOf.symm

/-- A line that is a comment gives the marker of the comment. -/
theorem ofLine?_text (c : Comment) (n : Nat) : ofLine? usual (c.text, n) = some (c.marker n) := by
  rw [ofLine?, text, inLine?_usual c.known, Option.map_some, c.noteOf_eq]
  rfl

/-- What stands between the notes of two comments that are `gap + 1` spaces apart. -/
def between (gap : Nat) (d : Comment) : Text :=
  " */".toList ++ (List.replicate (gap + 1) ' ' ++ ("/* ".toList ++ (d.type ++ [' '])))

/-- The comment whose note goes on with another comment. -/
def goingOn (c : Comment) (gap : Nat) (d : Comment) : Comment where
  type := c.type
  note := c.note ++ (between gap d ++ d.note)
  known := c.known
  filled := List.append_ne_nil_of_left_ne_nil c.filled _
  trimmed := by
    refine ⟨fun e he => c.trimmed.first e ?_, fun e he => d.trimmed.last e ?_⟩
    · rwa [List.head?_append_of_ne_nil _ c.filled] at he
    · rwa [← List.append_assoc, List.getLast?_append_of_ne_nil _ d.filled] at he

theorem text_goingOn (c : Comment) (gap : Nat) (d : Comment) :
    (c.goingOn gap d).text = c.text ++ (List.replicate (gap + 1) ' ' ++ d.text) := by
  simp only [text, goingOn, between, List.append_assoc, List.cons_append, List.nil_append]

end Comment

/-! ## Rows of comments -/

/-- Comments with spaces between them, one more than the gap says. -/
inductive Row
  | last (c : Comment)
  | more (c : Comment) (gap : Nat) (rest : Row)

namespace Row

/-- The row as it is written. -/
def text : Row → Text
  | last c => c.text
  | more c gap rest => c.text ++ (List.replicate (gap + 1) ' ' ++ rest.text)

/-- The comments of the row. -/
def comments : Row → List Comment
  | last c => [c]
  | more c _ rest => c :: rest.comments

/-- The comment that the row reads like. -/
def whole : Row → Comment
  | last c => c
  | more c gap rest => c.goingOn gap rest.whole

theorem text_whole (r : Row) : r.whole.text = r.text := by
  induction r with
  | last c => rfl
  | more c gap rest ih => rw [whole, Comment.text_goingOn, ih, text]

theorem length_comments_pos (r : Row) : 0 < r.comments.length := by
  cases r <;> exact Nat.succ_pos _

end Row

/-- A line that a row of comments makes up, or an empty one. -/
def lineOf : Option Row → Text
  | none => []
  | some r => r.text

/-- The comments of a line. -/
def commentsOf : Option Row → List Comment
  | none => []
  | some r => r.comments

/-- One marker for each comment of numbered lines. -/
def forEach (rows : List (Option Row × Nat)) : List Marker :=
  rows.flatMap fun row => (commentsOf row.1).map (Comment.marker row.2)

/-- One marker for each numbered line that is not empty, with a note up to the last closer. -/
def forWhole (rows : List (Option Row × Nat)) : List Marker :=
  rows.filterMap fun row => row.1.map fun r => r.whole.marker row.2

variable {rows : List (Option Row)} {t : Text}

theorem find_eq_forWhole (h : lines t = rows.map lineOf) :
    find usual t = forWhole (rows.zipIdx 1) := by
  rw [find_eq, h, List.zipIdx_map, List.filterMap_map, forWhole]
  congr 1
  funext row
  obtain ⟨row, n⟩ := row
  cases row with
  | none => rfl
  | some r =>
      change ofLine? usual (r.text, n) = some (r.whole.marker n)
      rw [← r.text_whole, r.whole.ofLine?_text]

/-- Lines with one comment at most give a marker for each comment. -/
theorem forWhole_eq_forEach {numbered : List (Option Row × Nat)}
    (h : ∀ row ∈ numbered, (commentsOf row.1).length ≤ 1) : forWhole numbered = forEach numbered := by
  induction numbered with
  | nil => rfl
  | cons row rows ih =>
      obtain ⟨hrow, hrows⟩ := List.forall_mem_cons.mp h
      rw [forWhole, List.filterMap_cons, forEach, List.flatMap_cons, ← forEach, ← ih hrows, forWhole]
      obtain ⟨row, n⟩ := row
      cases row with
      | none => rfl
      | some r =>
          cases r with
          | last c => rfl
          | more c gap rest =>
              have hpos := rest.length_comments_pos
              simp only [commentsOf, Row.comments, List.length_cons] at hrow
              omega

/-- Markers of comments whose line numbers ascend are of lines with one comment at most. -/
theorem length_le_one_of_pairwise {numbered : List (Option Row × Nat)}
    (h : (forEach numbered).Pairwise fun m m' => m.line < m'.line) :
    ∀ row ∈ numbered, (commentsOf row.1).length ≤ 1 := by
  intro row hrow
  have hline := (List.pairwise_flatMap.mp h).1 row hrow
  rw [List.pairwise_map] at hline
  cases hcomments : commentsOf row.1 with
  | nil => exact Nat.zero_le 1
  | cons c cs =>
      rw [hcomments] at hline
      cases cs with
      | nil => exact Nat.le_refl 1
      | cons d ds =>
          have hless := (List.pairwise_cons.mp hline).1 d List.mem_cons_self
          exact absurd hless (Nat.lt_irrefl row.2)

/-- A text of lines with complete comments gives one marker for each line that is not empty: that of
the first comment, with a note up to the last closer.  So it gives one marker for each comment exactly
if no line holds more than one. -/
theorem find_one_for_each_comment_iff (h : lines t = rows.map lineOf) :
    find usual t = forWhole (rows.zipIdx 1) ∧
      (find usual t = forEach (rows.zipIdx 1) ↔ ∀ row ∈ rows, (commentsOf row).length ≤ 1) := by
  have hfind := find_eq_forWhole h
  refine ⟨hfind, fun heach row hrow => ?_, fun hone => ?_⟩
  · have hascending : (find usual t).Pairwise fun m m' => m.line < m'.line := pairwise_find
    rw [heach] at hascending
    obtain ⟨n, hn⟩ := List.getElem?_of_mem hrow
    exact length_le_one_of_pairwise hascending (row, n + 1)
      (List.mk_mem_zipIdx_iff_le_and_getElem?_sub.mpr ⟨Nat.le_add_left 1 n, hn⟩)
  · rw [hfind]
    exact forWhole_eq_forEach fun row hrow => hone row.1 (List.fst_mem_of_mem_zipIdx hrow)

/-- A comment that asks for tidying. -/
def tidy : Comment := ⟨"TODO".toList, "tidy up".toList, by decide, by decide, by decide⟩

/-- A comment that asks for a repair. -/
def repair : Comment := ⟨"FIXME".toList, "null case".toList, by decide, by decide, by decide⟩

/-- The lines of a text with an empty line between two lines of comments. -/
theorem lines_tidy_repair :
    lines "/* TODO tidy up */  /* FIXME null case */\r\n\r\n/* FIXME null case */".toList =
      [some (.more tidy 1 (.last repair)), none, some (.last repair)].map lineOf := by
  have hrow : Unbroken (Row.more tidy 1 (.last repair)).text := no_end_of_all (by decide)
  have hlast : Unbroken repair.text := no_end_of_all (by decide)
  have hnone : Unbroken [] := no_end_of_all rfl
  have htext : "/* TODO tidy up */  /* FIXME null case */\r\n\r\n/* FIXME null case */".toList =
      (Row.more tidy 1 (.last repair)).text ++
        (['\r', '\n'] ++ ([] ++ (['\r', '\n'] ++ repair.text))) := by
    decide
  rw [htext, lines_cons hrow (.pair _), lines_cons hnone (.pair _), lines_of_no_end (by decide) hlast]
  rfl

/-- Two comments in a line give one marker, and one in a line of its own gives its own. -/
theorem first_of_two_comments_is_found :
    lines "/* TODO tidy up */  /* FIXME null case */\r\n\r\n/* FIXME null case */".toList =
        [some (.more tidy 1 (.last repair)), none, some (.last repair)].map lineOf ∧
      find usual "/* TODO tidy up */  /* FIXME null case */\r\n\r\n/* FIXME null case */".toList =
        [⟨"TODO".toList, 1, "tidy up */  /* FIXME null case".toList⟩, repair.marker 3] := by
  refine ⟨lines_tidy_repair, ?_⟩
  rw [(find_one_for_each_comment_iff lines_tidy_repair).1]
  decide

/-- The second comment of a line gives no marker of its own; it becomes a part of the first one's
note. -/
theorem second_comment_is_swallowed :
    find ({} : Description).activeMarkers "/* TODO tidy up */ /* FIXME null case */".toList =
        [⟨"TODO".toList, 1, "tidy up */ /* FIXME null case".toList⟩] ∧
      find ({} : Description).activeMarkers "/* TODO tidy up */ /* FIXME null case */".toList ≠
        [⟨"TODO".toList, 1, "tidy up".toList⟩, ⟨"FIXME".toList, 1, "null case".toList⟩] := by
  have hlines : lines "/* TODO tidy up */ /* FIXME null case */".toList =
      [some (.more tidy 0 (.last repair))].map lineOf :=
    lines_of_no_end (by decide) (no_end_of_all (by decide))
  have hfind : find ({} : Description).activeMarkers
      "/* TODO tidy up */ /* FIXME null case */".toList =
        [⟨"TODO".toList, 1, "tidy up */ /* FIXME null case".toList⟩] :=
    (find_eq_forWhole hlines).trans (by decide)
  exact ⟨hfind, by rw [hfind]; decide⟩

end Marker

end SourceAtlas
