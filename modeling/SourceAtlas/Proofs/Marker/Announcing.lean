import SourceAtlas.Document.Fingerprint
import SourceAtlas.Proofs.Lines
import SourceAtlas.Proofs.Marker.Finding
import SourceAtlas.Proofs.Params.Items

/-!
# Announced markers

The plainest comment with a marker is two slashes, a blank, the marker, and a note behind a colon.  A
marker of an accepted configuration is found there with its note exactly if it holds no line end, ends
with a word character, and no marker before it in the list stands at the same place.
-/

namespace SourceAtlas

open Text

namespace Marker

open Sighting

/-- What follows the marker in its announcement. -/
def remark : Text := ": note".toList

/-- A comment with a marker and a note. -/
def announcement (m : Text) : Text := "// ".toList ++ (m ++ remark)

/-- Another marker stands where one is announced. -/
def Hides (m' m : Text) : Prop := ∃ rest, Begins (some ' ') (m ++ remark) m' rest

/-- A marker that is found where it is announced. -/
structure Announces (markers : List Text) (m : Text) : Prop where
  line : ∀ c ∈ m, isLineEnd c = false
  word : m.getLast?.any isWord = true
  first : ∃ earlier later, markers = earlier ++ m :: later ∧ ∀ m' ∈ earlier, ¬ Hides m' m

variable {markers : List Text} {m : Text}

theorem lines_announcement (h : ∀ c ∈ m, isLineEnd c = false) :
    lines (announcement m) = [announcement m] := by
  have hfront : ∀ c ∈ "// ".toList, isLineEnd c = false := no_end_of_all (by decide)
  have hremark : ∀ c ∈ remark, isLineEnd c = false := no_end_of_all (by decide)
  apply lines_of_no_end
  · simp [announcement]
  · intro c hc
    obtain hc | hc := List.mem_append.mp hc
    · exact hfront c hc
    · exact (List.mem_append.mp hc).elim (h c) (hremark c)

/-- A marker that stands behind the opener and the blank of an announcement is found. -/
theorem inLine?_announcement (hm : IsItem m) {found : Text × Text}
    (h : markerAt? markers (some ' ') (m ++ remark) = some found) :
    inLine? markers (announcement m) = some found := by
  have hslashes : "//".toList ∈ openers := by decide
  have hfirst : ∀ c, (m ++ remark).head? = some c → isBlank c = false := by
    obtain ⟨c, cs, rfl⟩ := List.exists_cons_of_ne_nil hm.ne_nil
    exact hm.first
  exact inLine?_opener hslashes hfirst h

/-- No word goes on with a punctuation mark. -/
theorem any_isWord_of_head {t : Text} {c : Char} (h : t.head? = some c)
    (hc : c.toNat < 48 ∨ 57 < c.toNat ∧ c.toNat < 65) : t.head?.any isWord = false := by
  rw [h, Option.any_some]
  exact isWord_of_mark hc

theorem remark_head : remark.head?.any isWord = false := any_isWord_of_head rfl (by decide)

/-- The announced marker itself stands there if it ends with a word character. -/
theorem begins_announced (h : m.getLast?.any isWord = true) :
    Begins (some ' ') (m ++ remark) m remark := by
  refine ⟨rfl, ?_⟩
  cases hlast : m.getLast? with
  | none =>
      rw [hlast] at h
      cases h
  | some c =>
      rw [hlast] at h
      have hc : isWord c = true := h
      rw [Option.some_or, isWordBoundary, Option.any_some, hc, remark_head]
      rfl

/-- Where the remark is cut in front of a word character, what precedes ends with a blank or with a word
character. -/
theorem remark_cut {front rest : Text} (h : remark = front ++ rest)
    (hrest : rest.head?.any isWord = true) :
    ∃ c, front.getLast? = some c ∧ (isWord c = true ∨ isBlank c = true) := by
  have hmark : ∀ t, t = ": note".toList ∨ t = " note".toList → t.head?.any isWord = false := by
    rintro t (rfl | rfl) <;> exact any_isWord_of_head rfl (by decide)
  have hcuts : ∀ k < 7, (remark.drop k = ": note".toList ∨ remark.drop k = " note".toList) ∨
      (remark.take k).getLast?.any (fun c => isBlank c || isWord c) = true := by
    decide
  have hlength : front.length < 7 := by
    have hlong := congrArg List.length h
    rw [List.length_append] at hlong
    have hremark : remark.length = 6 := rfl
    omega
  have hcut := hcuts front.length hlength
  rw [h, List.drop_left, List.take_left] at hcut
  obtain hmarked | hlast := hcut
  · rw [hmark rest hmarked] at hrest
    cases hrest
  · cases hfront : front.getLast? with
    | none =>
        rw [hfront] at hlast
        cases hlast
    | some c =>
        rw [hfront, Option.any_some, Bool.or_eq_true] at hlast
        exact ⟨c, rfl, hlast.symm⟩

/-- What an announcement opens with, cut behind its second slash or later. -/
theorem slashes_cut {front rest : Text} (h : "// ".toList = front ++ rest) (hne : front ≠ [])
    (hslash : front ≠ ['/']) : rest = [' '] ∨ rest = [] := by
  have hcuts : ∀ k < 4, "// ".toList.take k = [] ∨ "// ".toList.take k = ['/'] ∨
      "// ".toList.drop k = [' '] ∨ "// ".toList.drop k = [] := by
    decide
  have hlength : front.length < 4 := by
    have hlong := congrArg List.length h
    rw [List.length_append] at hlong
    have hslashes : "// ".toList.length = 3 := rfl
    omega
  have hcut := hcuts front.length hlength
  rw [h, List.take_left, List.drop_left] at hcut
  exact (hcut.resolve_left hne).resolve_left hslash

/-- What stands in front of a marker in a line is longer than the first slash of an announcement. -/
theorem ne_slash_of_in {line : Text} {s : Sighting} (hin : In markers line s) :
    s.lead ++ s.opener ++ s.blanks ≠ ['/'] := by
  intro heq
  have hone : ∀ o ∈ openers, o.length ≤ 1 → '/' ∉ o := by decide
  have hlength : s.opener.length ≤ 1 := by
    have hall := congrArg List.length heq
    simp only [List.length_append, List.length_singleton] at hall
    omega
  obtain ⟨c, cs, hopener⟩ := List.exists_cons_of_ne_nil (ne_nil_of_mem_openers hin.opener)
  have hmem : c ∈ s.lead ++ s.opener ++ s.blanks := by simp [hopener]
  obtain rfl := List.mem_singleton.mp (heq ▸ hmem)
  exact hone s.opener hin.opener hlength (hopener ▸ List.mem_cons_self)

/-- A marker that stands in its announcement ends with a word character. -/
theorem word_of_in_announcement (hm : IsItem m) {s : Sighting} (hin : In markers (announcement m) s)
    (htype : s.type = m) : m.getLast?.any isWord = true := by
  obtain ⟨d, hd⟩ : ∃ d, m.getLast? = some d := ⟨_, List.getLast?_eq_some_getLast hm.ne_nil⟩
  rw [hd, Option.any_some, ← Bool.not_eq_false]
  intro hword
  have hblank : isBlank d = false := hm.last d hd
  have hends := hin.ends
  have hline : "// ".toList ++ m ++ remark = s.lead ++ s.opener ++ s.blanks ++ m ++ s.rest := by
    have heq := hin.line_eq
    rw [announcement, upTo, htype, ← List.append_assoc] at heq
    exact heq
  -- the marker does not end with a word character, so what follows it begins with one
  have hrest : s.rest.head?.any isWord = true := by
    rw [upTo, htype, List.getLast?_append, hd, Option.some_or, isWordBoundary, Option.any_some,
      hword] at hends
    simpa using hends
  generalize hfront : s.lead ++ s.opener ++ s.blanks = front at hline
  obtain ⟨more, hmore, hremark⟩ | ⟨more, hmore, hremark⟩ := List.append_eq_append_iff.mp hline
  · obtain ⟨c, hc, hkind⟩ := remark_cut hremark hrest
    have hlast : some d = some c := by
      have hends := congrArg List.getLast? hmore
      rwa [List.getLast?_append, List.getLast?_append, hd, hc, Option.some_or, Option.some_or] at hends
    obtain rfl := Option.some.inj hlast
    rw [hword, hblank] at hkind
    simp at hkind
  · -- the marker begins at the end of the opener and the blank of the announcement, or before it
    have hslot : "// ".toList ++ m = front ++ (m ++ more) := by rw [hmore, List.append_assoc]
    have hmore_ne : more ≠ [] := by
      rintro rfl
      rw [hremark, List.nil_append, remark_head] at hrest
      cases hrest
    obtain ⟨late, -, hlate⟩ | ⟨early, hslashes, hearly⟩ := List.append_eq_append_iff.mp hslot
    · have hlengths := congrArg List.length hlate
      have hlong := List.length_pos_of_ne_nil hmore_ne
      rw [List.length_append, List.length_append] at hlengths
      omega
    · have hfront_ne : front ≠ [] := by
        rw [← hfront]
        simp [ne_nil_of_mem_openers hin.opener]
      obtain rfl | rfl := slashes_cut hslashes hfront_ne (hfront ▸ ne_slash_of_in hin)
      · obtain ⟨c, cs, rfl⟩ := List.exists_cons_of_ne_nil hm.ne_nil
        obtain rfl : c = ' ' := (List.cons.inj hearly).1
        cases hm.first ' ' rfl
      · rw [List.nil_append] at hearly
        exact hmore_ne (List.append_right_eq_self.mp hearly)

/-- The marker that an announcement gives. -/
def announced (m : Text) : Marker := ⟨m, 1, "note".toList⟩

theorem find_announcement (hm : IsItem m) (h : Announces markers m) :
    find markers (announcement m) = [announced m] := by
  obtain ⟨earlier, later, hmarkers, hfirst⟩ := h.first
  have hnote : noteOf remark = "note".toList := by decide
  have hat : markerAt? markers (some ' ') (m ++ remark) = some (m, remark) :=
    markerAt?_eq_some_iff.mpr ⟨earlier, later, hmarkers, begins_announced h.word,
      fun m' hm' rest hbegins => hfirst m' hm' ⟨rest, hbegins⟩⟩
  rw [find, lines_announcement h.line, ofLines, inLine?_announcement hm hat]
  dsimp only
  rw [hnote]
  rfl

theorem announces_of_mem_find (hm : IsItem m) (h : announced m ∈ find markers (announcement m)) :
    Announces markers m := by
  obtain ⟨line, s, hline, hcounts, htype⟩ : ∃ line s, line ∈ lines (announcement m) ∧
      Counts markers line s ∧ s.type = m := by
    generalize hwhole : announced m = found at h
    obtain @⟨n, line, note, s, hline, hcounts, -⟩ := mem_find_iff.mp h
    exact ⟨line, s, List.mem_of_getElem? hline, hcounts, (congrArg Marker.type hwhole).symm⟩
  have hends : ∀ c ∈ m, isLineEnd c = false := by
    intro c hc
    refine (mem_of_mem_lines hline c ?_).2
    rw [hcounts.line_eq, upTo, htype]
    simp [hc]
  rw [lines_announcement hends, List.mem_singleton] at hline
  subst hline
  have hword := word_of_in_announcement hm hcounts.toIn htype
  have hmem : m ∈ markers := htype ▸ hcounts.type
  cases hat : markerAt? markers (some ' ') (m ++ remark) with
  | none => exact absurd (begins_announced hword) (not_begins_of_markerAt?_eq_none hat hmem)
  | some found =>
      have hfound : some found = some (m, s.rest) :=
        (inLine?_announcement hm hat).symm.trans (inLine?_eq_some_iff.mpr ⟨s, hcounts, htype, rfl⟩)
      rw [hfound] at hat
      obtain ⟨earlier, later, hmarkers, -, hfirst⟩ := markerAt?_eq_some_iff.mp hat
      refine ⟨hends, hword, earlier, later, hmarkers, ?_⟩
      rintro m' hm' ⟨rest, hbegins⟩
      exact hfirst m' hm' rest hbegins

/-- Exactly the markers that stand first where they are announced are found there. -/
theorem find_announcement_iff (hm : IsItem m) :
    find markers (announcement m) = [announced m] ↔ Announces markers m :=
  ⟨fun h => announces_of_mem_find hm (h ▸ List.mem_singleton_self _), find_announcement hm⟩

theorem Announces.mem (h : Announces markers m) : m ∈ markers := by
  obtain ⟨earlier, later, rfl, -⟩ := h.first
  exact List.mem_append_right earlier List.mem_cons_self

end Marker

namespace Config

open Marker

theorem active_of_no_tags {c : Config} (h : c.ignoreTags = []) :
    c.toOptions.description.activeMarkers = c.markers := by
  change active c.markers c.ignoreTags = c.markers
  rw [h, active]
  simp

/-- With no ignored tags, each marker of an accepted configuration that holds no line end, ends with a
word character, and stands first where it is announced is the one marker of its announcement. -/
theorem find_announced {params : Params} {c : Config} {m : Text} (h : ofParams params = .ok c)
    (hno : c.ignoreTags = []) (hann : Announces c.markers m) :
    find c.toOptions.description.activeMarkers (announcement m) = [announced m] := by
  rw [active_of_no_tags hno]
  exact (find_announcement_iff (isItem_of_mem_markers h m hann.mem)).mpr hann

/-- Parameters for markers. -/
def paramsMarking (markers : List Text) : Params := [("markers".toList, .list (markers.map .text))]

/-- The configuration that they are. -/
def marking (markers : List Text) : Config := { markers := markers }

/-- A marker whose name goes on where another one ends is found if it comes first. -/
theorem longer_marker_first_is_found :
    ofParams (paramsMarking ["C++".toList, "TODO LATER".toList, "TODO".toList]) =
        .ok (marking ["C++".toList, "TODO LATER".toList, "TODO".toList]) ∧
      find (marking ["C++".toList, "TODO LATER".toList, "TODO".toList]).toOptions.description.activeMarkers
        "// TODO LATER: note".toList = [announced "TODO LATER".toList] := by
  have h : ofParams (paramsMarking ["C++".toList, "TODO LATER".toList, "TODO".toList]) =
      .ok (marking ["C++".toList, "TODO LATER".toList, "TODO".toList]) :=
    toOption_eq_some.mp (by decide)
  have hann : Announces ["C++".toList, "TODO LATER".toList, "TODO".toList] "TODO LATER".toList := by
    refine ⟨no_end_of_all (by decide), by decide, ["C++".toList], ["TODO".toList], rfl, ?_⟩
    rintro m' hm' ⟨rest, htext, -⟩
    obtain rfl := List.mem_singleton.mp hm'
    cases (List.cons.inj htext).1
  exact ⟨h, find_announced h rfl hann⟩

/-- A marker that ends with a punctuation character, one behind a marker that it begins with, and one
with a line end in it are not found where they are announced. -/
theorem markers_not_found_where_announced :
    ((ofParams (paramsMarking ["C++".toList])).toOption = some (marking ["C++".toList]) ∧
        find (marking ["C++".toList]).toOptions.description.activeMarkers "// C++: note".toList = []) ∧
      ((ofParams (paramsMarking ["TODO".toList, "TODO LATER".toList])).toOption =
          some (marking ["TODO".toList, "TODO LATER".toList]) ∧
        find (marking ["TODO".toList, "TODO LATER".toList]).toOptions.description.activeMarkers
          "// TODO LATER: note".toList = [⟨"TODO".toList, 1, "LATER: note".toList⟩]) ∧
      (ofParams (paramsMarking ["TODO\nLATER".toList])).toOption =
          some (marking ["TODO\nLATER".toList]) ∧
        find (marking ["TODO\nLATER".toList]).toOptions.description.activeMarkers
          "// TODO\nLATER: note".toList = [] := by
  decide +kernel

end Config

end SourceAtlas
