import SourceAtlas.Document.Fingerprint
import SourceAtlas.Proofs.Joining

/-!
# What the line of settings tells

The line of settings tells whether sources are included, the name of the package and the active
markers, provided that these do not hold the characters that stand between them.
-/

namespace SourceAtlas

open Text

namespace Description

/-- Settings that can be told from their line. -/
structure Separable (s : Description) : Prop where
  packageName : ';' ∉ s.packageName
  markers : ∀ m ∈ s.activeMarkers, m ≠ [] ∧ ',' ∉ m ∧ ';' ∉ m

/-- The parts of the line of settings. -/
def settings (s : Description) (includeSource : Bool) : List Text :=
  ["source=".toList ++ (if includeSource then ['1'] else ['0']),
    "package=".toList ++ s.packageName,
    "markers=".toList ++ join [','] s.activeMarkers]

theorem join_settings (a b c source packageName markers : Text) :
    a ++ source ++ (';' :: b) ++ packageName ++ (';' :: c) ++ markers =
      join [';'] [a ++ source, b ++ packageName, c ++ markers] := by
  simp [join]

theorem settingsLine_eq (s : Description) (includeSource : Bool) :
    s.settingsLine includeSource = join [';'] (s.settings includeSource) :=
  join_settings "source=".toList "package=".toList "markers=".toList _ _ _

theorem Separable.settings {s : Description} (h : s.Separable) (includeSource : Bool) :
    ∀ part ∈ s.settings includeSource, ';' ∉ part := by
  have hmarkers := not_mem_join (show ';' ≠ ',' by decide) fun m hm => (h.markers m hm).2.2
  have hsource : ';' ∉ "source=".toList ++ (if includeSource then ['1'] else ['0']) := by
    cases includeSource <;> decide
  have hpackage : ';' ∉ "package=".toList ++ s.packageName := by
    simp only [List.mem_append, not_or]
    exact ⟨by decide, h.packageName⟩
  have hlist : ';' ∉ "markers=".toList ++ join [','] s.activeMarkers := by
    simp only [List.mem_append, not_or]
    exact ⟨by decide, hmarkers⟩
  intro part hpart
  simp only [Description.settings, List.mem_cons, List.not_mem_nil, or_false] at hpart
  rcases hpart with rfl | rfl | rfl
  · exact hsource
  · exact hpackage
  · exact hlist

/-- The line of settings tells what it is made of. -/
theorem eq_of_settingsLine_eq {s s' : Description} {includeSource includeSource' : Bool}
    (hs : s.Separable) (hs' : s'.Separable)
    (h : s.settingsLine includeSource = s'.settingsLine includeSource') :
    includeSource = includeSource' ∧ s.packageName = s'.packageName ∧
      s.activeMarkers = s'.activeMarkers := by
  have hparts : s.settings includeSource = s'.settings includeSource' := by
    calc s.settings includeSource = splitOn ';' (s.settingsLine includeSource) := by
          rw [settingsLine_eq, splitOn_join (by simp [settings]) (hs.settings includeSource)]
      _ = splitOn ';' (s'.settingsLine includeSource') := by rw [h]
      _ = s'.settings includeSource' := by
          rw [settingsLine_eq, splitOn_join (by simp [settings]) (hs'.settings includeSource')]
  simp only [settings, List.cons.injEq, List.append_cancel_left_eq, and_true] at hparts
  obtain ⟨hsource, hpackage, hmarkers⟩ := hparts
  refine ⟨?_, hpackage, ?_⟩
  · cases includeSource <;> cases includeSource' <;> simp_all
  · exact join_injective (fun m hm => ⟨(hs.markers m hm).1, (hs.markers m hm).2.1⟩)
      (fun m hm => ⟨(hs'.markers m hm).1, (hs'.markers m hm).2.1⟩) hmarkers

end Description

end SourceAtlas
