import SourceAtlas.Proofs.Document.Settings
import SourceAtlas.Proofs.Markers
import SourceAtlas.Proofs.Params.Items

/-!
# Settings with the same line

The line of settings joins the name of the package and the markers, which are free texts, with the
mark `;markers=` between them.  Two settings with the same line are therefore the same, or the name of
one package takes in that mark and what the other settings list after it.
-/

namespace SourceAtlas

open Text

namespace Text

/-- A text without the separator that stands in two texts with a separator between them stands in one
of the two. -/
theorem infix_of_infix_append {sep : Char} {u t rest : Text} (hu : sep ∉ u)
    (h : u <:+: t ++ sep :: rest) : u <:+: t ∨ u <:+: rest := by
  obtain ⟨a, b, h⟩ := h
  obtain ⟨more, ht, -⟩ | ⟨more, hau, hrest⟩ := List.append_eq_append_iff.mp h
  · exact .inl ⟨a, more, ht.symm⟩
  · obtain ⟨front, ht, hsplit⟩ | ⟨front, -, hmore⟩ := List.append_eq_append_iff.mp hau
    · cases more with
      | nil => exact .inl ⟨a, [], by rw [hsplit, ht, List.append_nil, List.append_nil]⟩
      | cons c cs =>
          obtain rfl := (List.cons.inj hrest).1
          exact absurd (hsplit ▸ List.mem_append_right front List.mem_cons_self) hu
    · rw [hmore, List.append_assoc] at hrest
      cases front with
      | nil =>
          cases u with
          | nil => exact .inl List.nil_infix
          | cons c cs =>
              obtain rfl := (List.cons.inj hrest).1
              exact absurd List.mem_cons_self hu
      | cons c cs =>
          refine .inr ⟨cs, b, ?_⟩
          rw [(List.cons.inj hrest).2, List.append_assoc]
          rfl

/-- A text without the separator that stands in what is joined stands in one of the parts. -/
theorem exists_infix_of_join {sep : Char} {u : Text} (hne : u ≠ []) (hu : sep ∉ u) {ts : List Text}
    (h : u <:+: join [sep] ts) : ∃ t ∈ ts, u <:+: t := by
  induction ts with
  | nil => exact absurd (List.infix_nil.mp h) hne
  | cons t ts ih =>
      cases ts with
      | nil => exact ⟨t, List.mem_cons_self, h⟩
      | cons v vs =>
          rw [join, List.append_assoc, List.singleton_append] at h
          · obtain ht | hrest := infix_of_infix_append hu h
            · exact ⟨t, List.mem_cons_self, ht⟩
            · obtain ⟨w, hw, hin⟩ := ih hrest
              exact ⟨w, List.mem_cons_of_mem t hw, hin⟩
          · simp

end Text

namespace Description

/-- What stands between the name of the package and the markers. -/
def mark : Text := ";markers=".toList

/-- The mark does not overlap with itself: where it stands at the beginning of a text and again after
some characters, these are none, or begin with the whole mark. -/
theorem append_mark_cases {r m m' : Text} (h : mark ++ m = r ++ (mark ++ m')) :
    r = [] ∧ m = m' ∨ ∃ mid, r = mark ++ mid ∧ m = mid ++ (mark ++ m') := by
  obtain ⟨mid, hr, hm⟩ | ⟨x, hmark, hm'⟩ := List.append_eq_append_iff.mp h
  · exact .inr ⟨mid, hr, hm⟩
  · cases r with
    | nil => exact .inl ⟨rfl, List.append_cancel_left h⟩
    | cons c cs =>
        cases x with
        | nil =>
            rw [List.append_nil] at hmark
            exact .inr ⟨[], by rw [hmark, List.append_nil], hm'.symm⟩
        | cons d ds =>
            obtain rfl : ';' = d := (List.cons.inj hm').1
            have htail : "markers=".toList = cs ++ ';' :: ds := (List.cons.inj hmark).2
            have hmem : ';' ∈ "markers=".toList := htail ▸ List.mem_append_right cs List.mem_cons_self
            exact absurd hmem (by decide)

theorem append_mark_eq_iff {p p' m m' : Text} : p ++ (mark ++ m) = p' ++ (mark ++ m') ↔
    p = p' ∧ m = m' ∨ (∃ mid, p' = p ++ (mark ++ mid) ∧ m = mid ++ (mark ++ m')) ∨
      ∃ mid, p = p' ++ (mark ++ mid) ∧ m' = mid ++ (mark ++ m) := by
  constructor
  · intro h
    obtain ⟨r, rfl, hm⟩ | ⟨r, rfl, hm⟩ := List.append_eq_append_iff.mp h
    · obtain ⟨rfl, rfl⟩ | ⟨mid, rfl, rfl⟩ := append_mark_cases hm
      · exact .inl ⟨(List.append_nil p).symm, rfl⟩
      · exact .inr (.inl ⟨mid, rfl, rfl⟩)
    · obtain ⟨rfl, rfl⟩ | ⟨mid, rfl, rfl⟩ := append_mark_cases hm
      · exact .inl ⟨List.append_nil p', rfl⟩
      · exact .inr (.inr ⟨mid, rfl, rfl⟩)
  · rintro (⟨rfl, rfl⟩ | ⟨mid, rfl, rfl⟩ | ⟨mid, rfl, rfl⟩)
    · rfl
    · simp only [List.append_assoc]
    · simp only [List.append_assoc]

/-- The name of the package of the other settings takes in the mark and a part of the markers. -/
def TakenIn (s s' : Description) : Prop :=
  ∃ mid, s'.packageName = s.packageName ++ (mark ++ mid) ∧
    join [','] s.activeMarkers = mid ++ (mark ++ join [','] s'.activeMarkers)

/-- Settings of files that agree. -/
def SameSettings (s s' : Description) : Prop :=
  s.includeSource = s'.includeSource ∧ s.packageName = s'.packageName ∧
    s.activeMarkers = s'.activeMarkers

variable {s s' : Description}

/-- Lines of settings whose markers are items are the same if the settings are, or if the name of one
package takes in the mark. -/
theorem settingsLine_eq_iff (hs : ∀ m ∈ s.activeMarkers, IsItem m)
    (hs' : ∀ m ∈ s'.activeMarkers, IsItem m) :
    s.settingsLine s.includeSource = s'.settingsLine s'.includeSource ↔
      SameSettings s s' ∨ s.includeSource = s'.includeSource ∧ (s.TakenIn s' ∨ s'.TakenIn s) := by
  have hparts : ∀ (a b package m markers : Text) (source : Bool),
      a ++ (if source then ['1'] else ['0']) ++ b ++ package ++ m ++ markers =
        a ++ (if source then '1' else '0') :: (b ++ (package ++ (m ++ markers))) := by
    intro a b package m markers source
    cases source <;> simp
  have hline : ∀ s : Description, s.settingsLine s.includeSource = "source=".toList ++
      (if s.includeSource then '1' else '0') :: (";package=".toList ++
        (s.packageName ++ (mark ++ join [','] s.activeMarkers))) :=
    fun s => hparts _ _ _ _ _ _
  have hsource : ∀ b b' : Bool, (if b then '1' else '0') = (if b' then '1' else '0') ↔ b = b' := by
    decide
  have hjoin : join [','] s.activeMarkers = join [','] s'.activeMarkers ↔
      s.activeMarkers = s'.activeMarkers :=
    ⟨join_injective (fun m hm => ⟨(hs m hm).ne_nil, (hs m hm).comma⟩)
      (fun m hm => ⟨(hs' m hm).ne_nil, (hs' m hm).comma⟩), congrArg _⟩
  rw [hline, hline, List.append_cancel_left_eq, List.cons.injEq, hsource,
    List.append_cancel_left_eq, append_mark_eq_iff, hjoin, and_or_left]
  rfl

theorem TakenIn.mark_infix (h : s.TakenIn s') :
    mark <:+: s'.packageName ∧ ∃ m ∈ s.activeMarkers, mark <:+: m := by
  obtain ⟨mid, hpackage, hmarkers⟩ := h
  have hjoin : mark <:+: join [','] s.activeMarkers := ⟨mid, _, by rw [hmarkers, List.append_assoc]⟩
  refine ⟨⟨s.packageName, mid, by rw [hpackage, List.append_assoc]⟩, ?_⟩
  exact exists_infix_of_join (by decide) (by decide) hjoin

end Description

namespace Config

open Description

variable {params params' : Params} {c c' : Config}

theorem mem_markers_of_active {m : Text} (h : m ∈ c.toOptions.description.activeMarkers) :
    m ∈ c.markers :=
  Marker.active_subset c.markers c.ignoreTags h

theorem isItem_of_mem_activeMarkers (h : ofParams params = .ok c) :
    ∀ m ∈ c.toOptions.description.activeMarkers, IsItem m :=
  fun m hm => isItem_of_mem_markers h m (mem_markers_of_active hm)

/-- Accepted configurations with different settings have different lines of settings, exactly unless the
name of one package takes in the mark and a part of the markers of the other one.  Then that name holds
the mark, and so does one of these markers. -/
theorem settings_lines_differ_iff (h : ofParams params = .ok c) (h' : ofParams params' = .ok c')
    (hdiffer : ¬ SameSettings c.toOptions.description c'.toOptions.description) :
    (c.toOptions.description.settingsLine c.toOptions.description.includeSource ≠
        c'.toOptions.description.settingsLine c'.toOptions.description.includeSource ↔
      ¬ (c.sourceCode = c'.sourceCode ∧ (c.toOptions.description.TakenIn c'.toOptions.description ∨
        c'.toOptions.description.TakenIn c.toOptions.description))) ∧
    (c.toOptions.description.TakenIn c'.toOptions.description →
      mark <:+: c'.defaultPackageName ∧ ∃ m ∈ c.markers, mark <:+: m) ∧
    (c'.toOptions.description.TakenIn c.toOptions.description →
      mark <:+: c.defaultPackageName ∧ ∃ m ∈ c'.markers, mark <:+: m) := by
  refine ⟨?_, fun htaken => ?_, fun htaken => ?_⟩
  · rw [Ne, settingsLine_eq_iff (isItem_of_mem_activeMarkers h) (isItem_of_mem_activeMarkers h'),
      or_iff_right hdiffer]
    rfl
  · obtain ⟨hpackage, m, hm, hmark⟩ := htaken.mark_infix
    exact ⟨hpackage, m, mem_markers_of_active hm, hmark⟩
  · obtain ⟨hpackage, m, hm, hmark⟩ := htaken.mark_infix
    exact ⟨hpackage, m, mem_markers_of_active hm, hmark⟩

/-- Parameters for the name of a package and markers. -/
def paramsNaming (packageName : Text) (markers : List Text) : Params :=
  [("defaultpackagename".toList, .text packageName), ("markers".toList, .list (markers.map .text))]

/-- The configuration that they are. -/
def naming (packageName : Text) (markers : List Text) : Config :=
  { defaultPackageName := packageName, markers := markers }

/-- A package name with the mark in it is told apart from one without, as long as no marker holds the
mark. -/
theorem package_with_mark_is_told_apart :
    ofParams (paramsNaming "A;markers=B".toList ["C".toList]) =
        .ok (naming "A;markers=B".toList ["C".toList]) ∧
      ofParams (paramsNaming "A".toList ["B".toList, "C".toList]) =
        .ok (naming "A".toList ["B".toList, "C".toList]) ∧
      (naming "A;markers=B".toList ["C".toList]).toOptions.description.settingsLine false ≠
        (naming "A".toList ["B".toList, "C".toList]).toOptions.description.settingsLine false := by
  have h : ofParams (paramsNaming "A;markers=B".toList ["C".toList]) =
      .ok (naming "A;markers=B".toList ["C".toList]) := toOption_eq_some.mp (by decide)
  have h' : ofParams (paramsNaming "A".toList ["B".toList, "C".toList]) =
      .ok (naming "A".toList ["B".toList, "C".toList]) := toOption_eq_some.mp (by decide)
  have hdiffer : ¬ SameSettings (naming "A;markers=B".toList ["C".toList]).toOptions.description
      (naming "A".toList ["B".toList, "C".toList]).toOptions.description :=
    fun hsame => absurd hsame.2.1 (by decide)
  obtain ⟨hiff, htaken, htaken'⟩ := settings_lines_differ_iff h h' hdiffer
  refine ⟨h, h', hiff.mpr fun ⟨_, hshared⟩ => ?_⟩
  obtain hshared | hshared := hshared
  · exact absurd (htaken hshared).1 (by decide)
  · exact absurd (htaken' hshared).2 (by decide)

/-- Where the name of a package and a marker hold the mark, different settings can have the same line. -/
theorem different_settings_share_a_line :
    (ofParams (paramsNaming "A".toList ["B;markers=C".toList])).toOption =
        some (naming "A".toList ["B;markers=C".toList]) ∧
      (ofParams (paramsNaming "A;markers=B".toList ["C".toList])).toOption =
        some (naming "A;markers=B".toList ["C".toList]) ∧
      (naming "A".toList ["B;markers=C".toList]).toOptions.description.activeMarkers ≠
        (naming "A;markers=B".toList ["C".toList]).toOptions.description.activeMarkers ∧
      (naming "A".toList ["B;markers=C".toList]).toOptions.description.settingsLine false =
        (naming "A;markers=B".toList ["C".toList]).toOptions.description.settingsLine false := by
  decide

end Config

end SourceAtlas
