import SourceAtlas.Marker

/-!
# Where markers stand in a line

A marker stands in a line behind a comment opener and white space, and ends where a word ends.  Of all
the places where one stands, a line counts the one at the leftmost opener, there the one with the
longest white space, and there the marker that comes first in the order in which they are given.
-/

namespace SourceAtlas

open Text

namespace Text

/-- The last character of a text, or the one in front of it. -/
theorem last_or (t : Text) (before : Option Char) :
    (if t = [] then before else t.getLast?) = t.getLast?.or before := by
  by_cases ht : t = []
  · subst ht
    rfl
  · rw [if_neg ht, List.getLast?_eq_some_getLast ht]
    rfl

theorem last_cons_or (c : Char) (cs : Text) (before : Option Char) :
    (c :: cs).getLast?.or before = cs.getLast?.or (some c) := by
  cases cs with
  | nil => rfl
  | cons d ds => simp [List.getLast?_cons]

end Text

namespace Marker

/-- A marker in a line, and the parts of the line around it. -/
structure Sighting where
  lead : Text
  opener : Text
  blanks : Text
  type : Text
  rest : Text

namespace Sighting

/-- The line up to the end of the marker. -/
def upTo (s : Sighting) : Text := s.lead ++ s.opener ++ s.blanks ++ s.type

/-- One of the markers stands in a line. -/
structure In (markers : List Text) (line : Text) (s : Sighting) : Prop where
  line_eq : line = s.upTo ++ s.rest
  opener : s.opener ∈ openers
  blanks : ∀ c ∈ s.blanks, isBlank c = true
  type : s.type ∈ markers
  ends : isWordBoundary s.upTo.getLast? s.rest.head? = true

/-- The marker that counts in a line. -/
structure Counts (markers : List Text) (line : Text) (s : Sighting) : Prop
    extends In markers line s where
  leftmost : ∀ s', In markers line s' → s.lead.length ≤ s'.lead.length
  longest : ∀ s', In markers line s' → s'.lead = s.lead → s'.blanks.length ≤ s.blanks.length
  first : ∃ earlier later, markers = earlier ++ s.type :: later ∧
    ∀ s', In markers line s' → s'.lead = s.lead → s'.blanks = s.blanks → s'.type ∉ earlier

end Sighting

/-! ## Comment openers -/

theorem ne_nil_of_mem_openers {o : Text} (h : o ∈ openers) : o ≠ [] := by
  rintro rfl
  revert h
  decide

/-- No opener begins with another one. -/
theorem opener_unique {o o' r r' : Text} (ho : o ∈ openers) (ho' : o' ∈ openers)
    (h : o ++ r = o' ++ r') : o = o' := by
  have hcases : ∀ {u}, u ∈ openers → u = ['#'] ∨ u = ['/', '/'] ∨ u = ['/', '*'] ∨ u = ['*'] := by
    intro u hu
    simpa [openers] using hu
  rcases hcases ho with rfl | rfl | rfl | rfl <;> rcases hcases ho' with rfl | rfl | rfl | rfl <;>
    simp_all

theorem afterOpener?_eq_some_iff {t rest : Text} :
    afterOpener? t = some rest ↔ ∃ o ∈ openers, t = o ++ rest := by
  constructor
  · intro h
    obtain ⟨o, ho, hdrop⟩ := List.exists_of_findSome?_eq_some h
    exact ⟨o, ho, dropLead?_eq_some_iff.mp hdrop⟩
  · rintro ⟨o, ho, rfl⟩
    cases hafter : afterOpener? (o ++ rest) with
    | none =>
        have hnone := List.findSome?_eq_none_iff.mp hafter o ho
        rw [dropLead?_eq_some_iff.mpr rfl] at hnone
        cases hnone
    | some r =>
        obtain ⟨o', ho', hdrop⟩ := List.exists_of_findSome?_eq_some hafter
        have heq := dropLead?_eq_some_iff.mp hdrop
        obtain rfl := opener_unique ho ho' heq
        rw [List.append_cancel_left heq]

/-! ## Markers at one place -/

/-- A marker begins a text and ends where a word ends; `before` is the character in front. -/
structure Begins (before : Option Char) (t m rest : Text) : Prop where
  text_eq : t = m ++ rest
  ends : isWordBoundary (m.getLast?.or before) rest.head? = true

variable {markers : List Text} {before : Option Char} {t m rest : Text}

/-- What the search for a marker at one place tries for each marker. -/
theorem tries_iff {m' : Text} : ((dropLead? m' t).bind fun rest =>
      if isWordBoundary (if m' = [] then before else m'.getLast?) rest.head? then some (m', rest)
      else none) = some (m, rest) ↔ m' = m ∧ Begins before t m rest := by
  rw [last_or, Option.bind_eq_some_iff]
  constructor
  · rintro ⟨after, hafter, hpick⟩
    rw [Option.ite_none_right_eq_some] at hpick
    obtain ⟨hends, heq⟩ := hpick
    obtain ⟨rfl, rfl⟩ := Prod.mk.inj (Option.some.inj heq)
    exact ⟨rfl, dropLead?_eq_some_iff.mp hafter, hends⟩
  · rintro ⟨rfl, htext, hends⟩
    refine ⟨rest, dropLead?_eq_some_iff.mpr htext, ?_⟩
    rw [if_pos hends]

/-- At one place the first marker in order is found. -/
theorem markerAt?_eq_some_iff : markerAt? markers before t = some (m, rest) ↔
    ∃ earlier later, markers = earlier ++ m :: later ∧ Begins before t m rest ∧
      ∀ m' ∈ earlier, ∀ r, ¬ Begins before t m' r := by
  rw [markerAt?, List.findSome?_eq_some_iff]
  constructor
  · rintro ⟨earlier, m', later, hmarkers, hfound, hnone⟩
    obtain ⟨rfl, hbegins⟩ := tries_iff.mp hfound
    refine ⟨earlier, later, hmarkers, hbegins, fun m'' hm r hbegins' => ?_⟩
    have htried := tries_iff.mpr ⟨rfl, hbegins'⟩
    cases (hnone m'' hm).symm.trans htried
  · rintro ⟨earlier, later, hmarkers, hbegins, hnone⟩
    refine ⟨earlier, m, later, hmarkers, tries_iff.mpr ⟨rfl, hbegins⟩, fun m' hm => ?_⟩
    rw [Option.eq_none_iff_forall_ne_some]
    rintro ⟨m'', r⟩ htried
    obtain ⟨rfl, hbegins'⟩ := tries_iff.mp htried
    exact hnone _ hm r hbegins'

theorem not_begins_of_markerAt?_eq_none (h : markerAt? markers before t = none) (hm : m ∈ markers) :
    ¬ Begins before t m rest := by
  intro hbegins
  have htried := tries_iff.mpr ⟨rfl, hbegins⟩
  cases (List.findSome?_eq_none_iff.mp h m hm).symm.trans htried

/-! ## Markers behind white space -/

theorem markerAt?_of_markerAfterBlanks?_eq_none (h : markerAfterBlanks? markers before t = none)
    {blanks after : Text} (ht : t = blanks ++ after) (hblanks : ∀ c ∈ blanks, isBlank c = true) :
    markerAt? markers (blanks.getLast?.or before) after = none := by
  induction t generalizing before blanks with
  | nil =>
      obtain ⟨rfl, rfl⟩ := List.append_eq_nil_iff.mp ht.symm
      exact h
  | cons c cs ih =>
      rw [markerAfterBlanks?, Option.or_eq_none_iff] at h
      obtain ⟨hlater, hhere⟩ := h
      cases blanks with
      | nil =>
          obtain rfl : c :: cs = after := ht
          exact hhere
      | cons d ds =>
          obtain ⟨rfl, hcs⟩ := List.cons.inj ht
          rw [if_pos (hblanks c List.mem_cons_self)] at hlater
          rw [last_cons_or]
          exact ih hlater hcs fun e he => hblanks e (List.mem_cons_of_mem c he)

/-- The marker after the longest white space that one follows is found. -/
theorem markerAfterBlanks?_eq_some (h : markerAfterBlanks? markers before t = some (m, rest)) :
    ∃ blanks after, t = blanks ++ after ∧ (∀ c ∈ blanks, isBlank c = true) ∧
      markerAt? markers (blanks.getLast?.or before) after = some (m, rest) ∧
      ∀ blanks' after', t = blanks' ++ after' → (∀ c ∈ blanks', isBlank c = true) →
        blanks.length < blanks'.length →
        markerAt? markers (blanks'.getLast?.or before) after' = none := by
  induction t generalizing before with
  | nil =>
      refine ⟨[], [], rfl, by simp, h, fun blanks' after' ht _ hlonger => ?_⟩
      obtain ⟨rfl, -⟩ := List.append_eq_nil_iff.mp ht.symm
      cases hlonger
  | cons c cs ih =>
      rw [markerAfterBlanks?, Option.or_eq_some_iff] at h
      obtain hlater | ⟨hnone, hhere⟩ := h
      · split at hlater
        · next hblank =>
            obtain ⟨blanks, after, hcs, hblanks, hfound, hlongest⟩ := ih hlater
            refine ⟨c :: blanks, after, by rw [hcs, List.cons_append], ?_, ?_, ?_⟩
            · exact List.forall_mem_cons.mpr ⟨hblank, hblanks⟩
            · rwa [last_cons_or]
            · intro blanks' after' ht hblanks' hlonger
              cases blanks' with
              | nil => cases hlonger
              | cons d ds =>
                  obtain ⟨rfl, hds⟩ := List.cons.inj ht
                  rw [last_cons_or]
                  have hmore : ∀ e ∈ ds, isBlank e = true :=
                    fun e he => hblanks' e (List.mem_cons_of_mem c he)
                  exact hlongest ds after' hds hmore (Nat.lt_of_succ_lt_succ hlonger)
        · cases hlater
      · refine ⟨[], c :: cs, rfl, by simp, hhere, fun blanks' after' ht hblanks' hlonger => ?_⟩
        cases blanks' with
        | nil => cases hlonger
        | cons d ds =>
            obtain ⟨rfl, hds⟩ := List.cons.inj ht
            rw [if_pos (hblanks' c List.mem_cons_self)] at hnone
            rw [last_cons_or]
            exact markerAt?_of_markerAfterBlanks?_eq_none hnone hds
              fun e he => hblanks' e (List.mem_cons_of_mem c he)

/-! ## Markers behind an opener -/

namespace Sighting

variable {line : Text} {s : Sighting}

/-- What stands in front of the marker ends with white space or with the opener. -/
theorem last_upTo (h : s.opener ∈ openers) :
    s.upTo.getLast? = s.type.getLast?.or (s.blanks.getLast?.or s.opener.getLast?) := by
  obtain ⟨c, hc⟩ : ∃ c, s.opener.getLast? = some c :=
    ⟨_, List.getLast?_eq_some_getLast (ne_nil_of_mem_openers h)⟩
  simp only [upTo, List.getLast?_append, hc, Option.some_or]

theorem in_iff : In markers line s ↔ s.opener ∈ openers ∧ (∀ c ∈ s.blanks, isBlank c = true) ∧
    s.type ∈ markers ∧ ∃ after, line = s.lead ++ (s.opener ++ (s.blanks ++ after)) ∧
      Begins (s.blanks.getLast?.or s.opener.getLast?) after s.type s.rest := by
  constructor
  · rintro ⟨hline, hopener, hblanks, htype, hends⟩
    refine ⟨hopener, hblanks, htype, s.type ++ s.rest, ?_, rfl, last_upTo hopener ▸ hends⟩
    rw [hline, upTo]
    simp only [List.append_assoc]
  · rintro ⟨hopener, hblanks, htype, after, hline, rfl, hends⟩
    refine ⟨?_, hopener, hblanks, htype, (last_upTo hopener).symm ▸ hends⟩
    rw [hline, upTo]
    simp only [List.append_assoc]

/-- The sighting in a line that has one more character in front. -/
def behind (c : Char) (s : Sighting) : Sighting := { s with lead := c :: s.lead }

theorem in_behind {c : Char} {cs : Text} :
    In markers (c :: cs) (s.behind c) ↔ In markers cs s := by
  rw [in_iff, in_iff]
  simp only [behind, List.cons_append, List.cons.injEq, true_and]

/-- A marker in a line stands at its beginning, or in what follows the first character. -/
theorem In.cases {c : Char} {cs : Text} (h : In markers (c :: cs) s) :
    s.lead = [] ∨ ∃ s', s = s'.behind c ∧ In markers cs s' := by
  cases hlead : s.lead with
  | nil => exact .inl rfl
  | cons d ds =>
      obtain ⟨-, -, -, _, hline, -⟩ := in_iff.mp h
      rw [hlead] at hline
      obtain rfl := (List.cons.inj hline).1
      have hs : s = behind c { s with lead := ds } := by
        rw [behind, ← hlead]
      exact .inr ⟨_, hs, in_behind.mp (hs ▸ h)⟩

theorem not_in_nil : ¬ In markers [] s := by
  intro h
  obtain ⟨hopener, _, _, _, hline, _⟩ := in_iff.mp h
  have hempty := (List.append_eq_nil_iff.mp (List.append_eq_nil_iff.mp hline.symm).2).1
  exact ne_nil_of_mem_openers hopener hempty

end Sighting

open Sighting

theorem markerHere?_opener {o after : Text} (ho : o ∈ openers) :
    markerHere? markers (o ++ after) = markerAfterBlanks? markers o.getLast? after := by
  have hafter : afterOpener? (o ++ after) = some after :=
    afterOpener?_eq_some_iff.mpr ⟨o, ho, rfl⟩
  have hopener : (o ++ after).take ((o ++ after).length - after.length) = o := by
    rw [List.length_append, Nat.add_sub_cancel, List.take_left]
  rw [markerHere?, hafter]
  dsimp only [Option.bind_eq_bind, Option.bind_some]
  rw [hopener]

/-- What stands behind an opener and a blank is found in the line that they begin. -/
theorem inLine?_opener {o : Text} {found : Text × Text} (ho : o ∈ openers)
    (ht : ∀ c, t.head? = some c → isBlank c = false)
    (h : markerAt? markers (some ' ') t = some found) :
    inLine? markers (o ++ ' ' :: t) = some found := by
  have hlater : markerAfterBlanks? markers (some ' ') t = some found := by
    cases t with
    | nil => exact h
    | cons c cs => rw [markerAfterBlanks?, if_neg (by simp [ht c rfl]), Option.none_or, h]
  have hhere : markerHere? markers (o ++ ' ' :: t) = some found := by
    rw [markerHere?_opener ho, markerAfterBlanks?, if_pos (by decide), hlater, Option.some_or]
  obtain ⟨c, cs, rfl⟩ := List.exists_cons_of_ne_nil (ne_nil_of_mem_openers ho)
  rw [List.cons_append] at hhere ⊢
  rw [inLine?, hhere, Option.some_or]

theorem not_in_of_markerHere?_eq_none (h : markerHere? markers t = none) {s : Sighting}
    (hlead : s.lead = []) : ¬ In markers t s := by
  intro hin
  obtain ⟨hopener, hblanks, htype, after, ht, hbegins⟩ := in_iff.mp hin
  rw [hlead, List.nil_append] at ht
  rw [ht, markerHere?_opener hopener] at h
  have hnone := markerAt?_of_markerAfterBlanks?_eq_none h rfl hblanks
  exact not_begins_of_markerAt?_eq_none hnone htype hbegins

/-- Where a text opens with markers, the first one behind the longest white space is found. -/
theorem markerHere?_eq_some (h : markerHere? markers t = some (m, rest)) :
    ∃ s : Sighting, s.lead = [] ∧ s.type = m ∧ s.rest = rest ∧ Counts markers t s := by
  obtain ⟨after, hopener, -⟩ := Option.bind_eq_some_iff.mp h
  obtain ⟨o, ho, rfl⟩ := afterOpener?_eq_some_iff.mp hopener
  rw [markerHere?_opener ho] at h
  obtain ⟨blanks, text, rfl, hblanks, hfound, hlongest⟩ := markerAfterBlanks?_eq_some h
  obtain ⟨earlier, later, hmarkers, hbegins, hfirst⟩ := markerAt?_eq_some_iff.mp hfound
  have htype : m ∈ markers := by simp [hmarkers]
  -- another marker at the beginning of the text stands behind the same opener
  have hothers : ∀ s', In markers (o ++ (blanks ++ text)) s' → s'.lead = [] →
      s'.opener = o ∧ ∃ text', blanks ++ text = s'.blanks ++ text' ∧
        Begins (s'.blanks.getLast?.or o.getLast?) text' s'.type s'.rest := by
    intro s' hin hlead
    obtain ⟨hopener', -, -, text', htext, hbegins'⟩ := in_iff.mp hin
    rw [hlead, List.nil_append] at htext
    obtain hsame := opener_unique ho hopener' htext
    rw [← hsame] at htext hbegins'
    exact ⟨hsame.symm, text', List.append_cancel_left htext, hbegins'⟩
  refine ⟨⟨[], o, blanks, m, rest⟩, rfl, rfl, rfl, ?_, ?_, ?_, earlier, later, hmarkers, ?_⟩
  · exact in_iff.mpr ⟨ho, hblanks, htype, text, rfl, hbegins⟩
  · exact fun _ _ => Nat.zero_le _
  · intro s' hin hlead
    obtain ⟨-, text', htext, hbegins'⟩ := hothers s' hin hlead
    rw [← Nat.not_lt]
    intro hlonger
    have hnone := hlongest s'.blanks text' htext hin.blanks hlonger
    exact not_begins_of_markerAt?_eq_none hnone hin.type hbegins'
  · intro s' hin hlead hsame hearlier
    obtain ⟨-, text', htext, hbegins'⟩ := hothers s' hin hlead
    rw [hsame] at htext hbegins'
    obtain rfl := List.append_cancel_left htext
    exact hfirst s'.type hearlier s'.rest hbegins'

/-! ## Markers in a line -/

theorem not_in_of_inLine?_eq_none {line : Text} (h : inLine? markers line = none) {s : Sighting} :
    ¬ In markers line s := by
  induction line generalizing s with
  | nil => exact not_in_nil
  | cons c cs ih =>
      rw [inLine?, Option.or_eq_none_iff] at h
      obtain ⟨hhere, hlater⟩ := h
      intro hin
      obtain hlead | ⟨s', -, hin'⟩ := hin.cases
      · exact not_in_of_markerHere?_eq_none hhere hlead hin
      · exact ih hlater hin'

theorem Sighting.Counts.behind {c : Char} {cs : Text} {s : Sighting} (h : Counts markers cs s)
    (hnone : ∀ s', In markers (c :: cs) s' → s'.lead ≠ []) : Counts markers (c :: cs) (s.behind c) := by
  have hothers : ∀ s', In markers (c :: cs) s' → ∃ s'', s' = s''.behind c ∧ In markers cs s'' :=
    fun s' hin => hin.cases.resolve_left (hnone s' hin)
  obtain ⟨hin, hleftmost, hlongest, earlier, later, hmarkers, hfirst⟩ := h
  refine ⟨in_behind.mpr hin, ?_, ?_, earlier, later, hmarkers, ?_⟩
  · intro s' hin'
    obtain ⟨s'', rfl, hin''⟩ := hothers s' hin'
    exact Nat.succ_le_succ (hleftmost s'' hin'')
  · intro s' hin' hlead
    obtain ⟨s'', rfl, hin''⟩ := hothers s' hin'
    exact hlongest s'' hin'' (List.cons.inj hlead).2
  · intro s' hin' hlead hblanks
    obtain ⟨s'', rfl, hin''⟩ := hothers s' hin'
    exact hfirst s'' hin'' (List.cons.inj hlead).2 hblanks

/-- The marker that is found in a line is one that counts. -/
theorem counts_of_inLine? {line : Text} (h : inLine? markers line = some (m, rest)) :
    ∃ s : Sighting, s.type = m ∧ s.rest = rest ∧ Counts markers line s := by
  induction line with
  | nil => cases h
  | cons c cs ih =>
      rw [inLine?, Option.or_eq_some_iff] at h
      obtain hhere | ⟨hnone, hlater⟩ := h
      · obtain ⟨s, -, htype, hrest, hcounts⟩ := markerHere?_eq_some hhere
        exact ⟨s, htype, hrest, hcounts⟩
      · obtain ⟨s, htype, hrest, hcounts⟩ := ih hlater
        refine ⟨s.behind c, htype, hrest, hcounts.behind fun s' hin hlead => ?_⟩
        exact not_in_of_markerHere?_eq_none hnone hlead hin

/-- Two elements of a list that do not precede one another are the same. -/
theorem eq_of_splits {α : Type} {a b : α} {as bs cs ds : List α} (h : as ++ a :: bs = cs ++ b :: ds)
    (ha : a ∉ cs) (hb : b ∉ as) : a = b := by
  obtain ⟨es, rfl, hes⟩ | ⟨es, rfl, hes⟩ := List.append_eq_append_iff.mp h
  · cases es with
    | nil => exact (List.cons.inj hes).1
    | cons e es =>
        obtain rfl := (List.cons.inj hes).1
        exact absurd (by simp) ha
  · cases es with
    | nil => exact (List.cons.inj hes).1.symm
    | cons e es =>
        obtain rfl := (List.cons.inj hes).1
        exact absurd (by simp) hb

/-- At most one marker counts in a line. -/
theorem Sighting.Counts.unique {line : Text} {s s' : Sighting} (h : Counts markers line s)
    (h' : Counts markers line s') : s = s' := by
  have hline : s.lead ++ (s.opener ++ (s.blanks ++ (s.type ++ s.rest))) =
      s'.lead ++ (s'.opener ++ (s'.blanks ++ (s'.type ++ s'.rest))) := by
    have heq := h.line_eq.symm.trans h'.line_eq
    simpa only [upTo, List.append_assoc] using heq
  have hlength : s.lead.length = s'.lead.length :=
    Nat.le_antisymm (h.leftmost s' h'.toIn) (h'.leftmost s h.toIn)
  obtain ⟨hlead, hline⟩ := List.append_inj hline hlength
  have hopener := opener_unique h.opener h'.opener hline
  rw [← hopener] at hline
  have hblanks : s.blanks.length = s'.blanks.length :=
    Nat.le_antisymm (h'.longest s h.toIn hlead) (h.longest s' h'.toIn hlead.symm)
  obtain ⟨hblanks, hline⟩ := List.append_inj (List.append_cancel_left hline) hblanks
  obtain ⟨earlier, later, hmarkers, hfirst⟩ := h.first
  obtain ⟨earlier', later', hmarkers', hfirst'⟩ := h'.first
  have htype : s.type = s'.type := by
    apply eq_of_splits (hmarkers.symm.trans hmarkers')
    · exact hfirst' s h.toIn hlead hblanks
    · exact hfirst s' h'.toIn hlead.symm hblanks.symm
  rw [← htype] at hline
  have hrest := List.append_cancel_left hline
  obtain ⟨lead, opener, blanks, type, rest⟩ := s
  obtain ⟨lead', opener', blanks', type', rest'⟩ := s'
  simp only at hlead hopener hblanks htype hrest
  rw [hlead, hopener, hblanks, htype, hrest]

/-- The marker that is found in a line is the one that counts. -/
theorem inLine?_eq_some_iff {line : Text} : inLine? markers line = some (m, rest) ↔
    ∃ s : Sighting, Counts markers line s ∧ s.type = m ∧ s.rest = rest := by
  constructor
  · intro h
    obtain ⟨s, htype, hrest, hcounts⟩ := counts_of_inLine? h
    exact ⟨s, hcounts, htype, hrest⟩
  · rintro ⟨s, hcounts, rfl, rfl⟩
    cases hfound : inLine? markers line with
    | none => exact absurd hcounts.toIn (not_in_of_inLine?_eq_none hfound)
    | some found =>
        obtain ⟨m, rest⟩ := found
        obtain ⟨s', rfl, rfl, hcounts'⟩ := counts_of_inLine? hfound
        rw [hcounts.unique hcounts']

/-- A marker is found in a line exactly if one stands there. -/
theorem isSome_inLine?_iff {line : Text} :
    (inLine? markers line).isSome = true ↔ ∃ s, In markers line s := by
  constructor
  · intro h
    obtain ⟨⟨m, rest⟩, hfound⟩ := Option.isSome_iff_exists.mp h
    obtain ⟨s, -, -, hcounts⟩ := counts_of_inLine? hfound
    exact ⟨s, hcounts.toIn⟩
  · rintro ⟨s, hin⟩
    rw [Option.isSome_iff_ne_none]
    exact fun hnone => not_in_of_inLine?_eq_none hnone hin

end Marker

end SourceAtlas
