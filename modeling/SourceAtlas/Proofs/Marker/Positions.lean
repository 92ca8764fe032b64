import SourceAtlas.Document.Decoding
import SourceAtlas.Proofs.Bytes.Ascii
import SourceAtlas.Proofs.Marker.Comments

/-!
# Where markers stand in a text

A text that is cut behind a line end gives the markers of its parts, those of the second part as many
lines further down as the first part has.  So a source file can be cut behind every line feed, whatever
its bytes are.

The number of a marker's line is one more than the line ends in front of the marker.  Source files end
their lines with carriage returns and line feeds; every other character that ends a line here moves
the markers behind it one line further down.
-/

namespace SourceAtlas

open Text

namespace Marker

open Sighting

variable {markers : List Text} {t : Text} {m : Marker}

/-! ## Markers of parts -/

/-- A marker that many lines further down. -/
def below (n : Nat) (m : Marker) : Marker := { m with line := m.line + n }

theorem ofLine?_below (n : Nat) (line : Text × Nat) :
    ofLine? markers (Prod.map id (· + n) line) = (ofLine? markers line).map (below n) := by
  rw [ofLine?, ofLine?, Option.map_map]
  rfl

/-- Behind a cut, the markers of a text are those of what stands there, further down. -/
theorem find_append {x y : Text} (h : Cut x y) : find markers (x ++ y) =
    find markers x ++ (find markers y).map (below (lines x).length) := by
  have hlater : (lines y).zipIdx (1 + (lines x).length) =
      ((lines y).zipIdx 1).map (Prod.map id (· + (lines x).length)) := by
    rw [List.map_snd_add_zipIdx_eq_zipIdx, Nat.add_comm]
  rw [find_eq, find_eq, find_eq, lines_append h, List.zipIdx_append, List.filterMap_append, hlater,
    List.filterMap_map, List.map_filterMap]
  congr 1
  apply List.filterMap_congr
  intro line _
  exact ofLine?_below _ line

/-- The byte of a line feed. -/
def lineFeed : UInt8 := 0x0A

/-- What a source file holds up to a line feed and what it holds behind it are decoded and searched
independently: the text is that of the one part and that of the other, and so are the markers, but for
the numbers of the lines of the second part. -/
theorem parts_are_searched_independently (markers ignoredTags : List Text) (validate : Bool)
    (name : Text) (a b : Bytes) :
    let textOf := fun bytes => (decodeSource validate name bytes).1
    let markersIn := fun bytes => find (active markers ignoredTags) (textOf bytes)
    textOf (a ++ lineFeed :: b) = textOf (a ++ [lineFeed]) ++ textOf b ∧
      markersIn (a ++ lineFeed :: b) = markersIn (a ++ [lineFeed]) ++
        (markersIn b).map (below (lines (textOf (a ++ [lineFeed]))).length) := by
  obtain ⟨before, hbefore⟩ := Utf8.exists_decode_ascii (b := lineFeed) (by decide) a
  have hchar : Char.ofNat lineFeed.toNat = '\n' := by decide
  rw [hchar] at hbefore
  have hfirst : Utf8.decode (a ++ [lineFeed]) = before ++ ['\n'] := hbefore []
  have htext : Utf8.decode (a ++ lineFeed :: b) =
      Utf8.decode (a ++ [lineFeed]) ++ Utf8.decode b := by
    rw [hbefore b, hfirst, List.append_assoc, List.singleton_append]
  have hcut : Cut (Utf8.decode (a ++ [lineFeed])) (Utf8.decode b) := by
    rw [hfirst]
    exact LineEnd.cut (.single (by decide) fun hreturn => absurd hreturn (by decide))
  refine ⟨htext, ?_⟩
  dsimp only [decodeSource]
  rw [htext]
  exact find_append hcut

/-! ## Line numbers -/

/-- A place of a marker in a text: the lines in front of its line, where it stands in the line, and what
follows the line. -/
structure Place where
  before : Text
  sighting : Sighting
  after : Text

namespace Place

/-- The line of a place. -/
def line (p : Place) : Text := p.sighting.upTo ++ p.sighting.rest

/-- The text in front of the marker. -/
def front (p : Place) : Text :=
  p.before ++ (p.sighting.lead ++ p.sighting.opener ++ p.sighting.blanks)

/-- A place of a text at which a marker counts. -/
structure In (markers : List Text) (t : Text) (p : Place) : Prop where
  holds : Holds t p.before p.line p.after
  counts : Counts markers p.line p.sighting

/-- The marker that is recorded for a place. -/
structure Records (p : Place) (m : Marker) : Prop where
  type : m.type = p.sighting.type
  note : IsNote p.sighting.rest m.note
  line : m.line = 1 + sourceEnds p.front + otherEnds p.front

variable {p : Place}

theorem In.text_eq (h : p.In markers t) :
    t = p.front ++ (p.sighting.type ++ (p.sighting.rest ++ p.after)) := by
  have htext := h.holds.text
  rw [line, upTo] at htext
  rw [htext, front]
  simp only [List.append_assoc]

/-- All line ends in front of a marker are in front of its line. -/
theorem In.ends_front (h : p.In markers t) :
    sourceEnds p.front + otherEnds p.front = (lines p.before).length := by
  have hunbroken : Unbroken (p.sighting.lead ++ p.sighting.opener ++ p.sighting.blanks) := by
    have hline := h.holds.unbroken
    rw [line, upTo] at hline
    exact (unbroken_append_iff.mp (unbroken_append_iff.mp hline).1).1
  rw [front, sourceEnds_append_unbroken hunbroken, otherEnds_append, otherEnds_unbroken hunbroken,
    Nat.add_zero, length_lines h.holds.cut]

end Place

/-- A marker is found exactly if it is recorded for a place where it counts. -/
theorem mem_find_iff_records :
    m ∈ find markers t ↔ ∃ p : Place, p.In markers t ∧ p.Records m := by
  rw [mem_find_iff]
  constructor
  · rintro @⟨n, line, note, s, hline, hcounts, hnote⟩
    obtain ⟨before, after, hholds, hcount⟩ := exists_holds hline
    obtain rfl : line = s.upTo ++ s.rest := hcounts.line_eq
    have hin : Place.In markers t ⟨before, s, after⟩ := ⟨hholds, hcounts⟩
    refine ⟨_, hin, rfl, hnote, ?_⟩
    have hends := hin.ends_front
    dsimp only at hends ⊢
    omega
  · rintro ⟨p, hin, htype, hnote, hnumber⟩
    have hne : p.line ≠ [] := by
      intro hnil
      exact not_in_nil (hnil ▸ hin.counts.toIn)
    have hends := hin.ends_front
    have hfound := IsFound.intro (hin.holds.getElem?_lines hne) hin.counts hnote
    have hm : m = ⟨p.sighting.type, (lines p.before).length + 1, m.note⟩ := by
      rw [← htype, ← hends]
      obtain ⟨type, number, note⟩ := m
      simp only [Marker.mk.injEq, true_and, and_true]
      dsimp only at hnumber
      omega
    rwa [← hm] at hfound

/-- The markers of a text are those that are recorded for its places.  The number of a marker's line is
one more than the source line ends in front of it exactly if no other character that ends a line is
there. -/
theorem line_numbers_count_source_ends_iff (markers ignoredTags : List Text) (t : Text) :
    (∀ m, m ∈ find (active markers ignoredTags) t ↔
        ∃ p : Place, p.In (active markers ignoredTags) t ∧ p.Records m) ∧
      ∀ (p : Place) (m : Marker), p.In (active markers ignoredTags) t → p.Records m →
        t = p.front ++ (m.type ++ (p.sighting.rest ++ p.after)) ∧
          (m.line = 1 + sourceEnds p.front ↔
            ∀ c ∈ p.front, isLineEnd c = true → c = '\r' ∨ c = '\n') := by
  refine ⟨fun m => mem_find_iff_records, fun p m hin hrecords => ⟨?_, ?_⟩⟩
  · rw [hrecords.type]
    exact hin.text_eq
  · rw [hrecords.line, ← otherEnds_eq_zero_iff]
    omega

/-- A carriage return with a line feed and a carriage return alone are one line end each. -/
theorem source_ends_give_the_line :
    ∃ p : Place, p.In usual "\r\n\r/* TODO tidy up */".toList ∧ p.Records (tidy.marker 3) ∧
      (tidy.marker 3).line = 1 + sourceEnds p.front := by
  have hlines : lines "\r\n\r/* TODO tidy up */".toList =
      [none, none, some (.last tidy)].map lineOf := by
    have hnone : Unbroken [] := no_end_of_all rfl
    have hlast : Unbroken tidy.text := no_end_of_all (by decide)
    have htext : "\r\n\r/* TODO tidy up */".toList =
        [] ++ (['\r', '\n'] ++ ([] ++ (['\r'] ++ tidy.text))) := by decide
    rw [htext, lines_cons hnone (.pair _), lines_cons hnone (.single (by decide) (by decide)),
      lines_of_no_end (by decide) hlast]
    rfl
  have hfound : tidy.marker 3 ∈ find usual "\r\n\r/* TODO tidy up */".toList := by
    rw [find_eq_forWhole hlines]
    exact List.mem_singleton_self _
  have hsource : ∀ c ∈ "\r\n\r/* TODO tidy up */".toList,
      isLineEnd c = true → c = '\r' ∨ c = '\n' := otherEnds_eq_zero_iff.mp (by decide)
  obtain ⟨hplaces, hnumbers⟩ := line_numbers_count_source_ends_iff ({} : Description).markers []
    "\r\n\r/* TODO tidy up */".toList
  obtain ⟨p, hin, hrecords⟩ := (hplaces _).mp hfound
  obtain ⟨htext, hnumber⟩ := hnumbers p _ hin hrecords
  refine ⟨p, hin, hrecords, hnumber.mpr fun c hc => hsource c ?_⟩
  rw [htext]
  exact List.mem_append_left _ hc

/-- A form feed moves the markers behind it to the next line, though it ends no line of a source
file. -/
theorem form_feed_shifts_line_numbers :
    find ({} : Description).activeMarkers ("\x0c\n/* ".toList ++ "TODO tidy up */".toList) =
        [⟨"TODO".toList, 3, "tidy up".toList⟩] ∧
      1 + sourceEnds "\x0c\n/* ".toList = 2 := by
  have hlines : lines ("\x0c\n/* ".toList ++ "TODO tidy up */".toList) =
      [none, none, some (.last tidy)].map lineOf := by
    have hnone : Unbroken [] := no_end_of_all rfl
    have hlast : Unbroken tidy.text := no_end_of_all (by decide)
    have htext : "\x0c\n/* ".toList ++ "TODO tidy up */".toList =
        [] ++ (['\x0c'] ++ ([] ++ (['\n'] ++ tidy.text))) := by decide
    rw [htext, lines_cons hnone (.single (by decide) (by decide)),
      lines_cons hnone (.single (by decide) (by decide)), lines_of_no_end (by decide) hlast]
    rfl
  exact ⟨(find_eq_forWhole hlines).trans (by decide), by decide⟩

end Marker

end SourceAtlas
