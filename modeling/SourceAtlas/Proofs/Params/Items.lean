import SourceAtlas.Params.Config
import SourceAtlas.Proofs.Joining
import SourceAtlas.Proofs.Outcomes
import SourceAtlas.Proofs.Trimming

/-!
# The items of checked lists

An item of a list parameter is not empty, holds no comma and has no white space at its ends.  So have
the defaults of a configuration, and with them all the markers and ignored tags of one that is accepted.
-/

namespace SourceAtlas

open Text

/-- A text that can be an item of a list parameter. -/
structure IsItem (t : Text) : Prop extends Trimmed t where
  ne_nil : t ≠ []
  comma : ',' ∉ t

namespace Value

theorem isItem_of_mem_pieces {entries : List Text} {t : Text} (h : t ∈ items?.pieces entries) :
    IsItem t := by
  obtain ⟨hmem, hne⟩ := List.mem_filter.mp h
  obtain ⟨entry, -, hentry⟩ := List.mem_flatMap.mp hmem
  obtain ⟨piece, hpiece, rfl⟩ := List.mem_map.mp hentry
  refine ⟨trimmed_trim piece, by simpa using hne, fun hcomma => ?_⟩
  exact not_mem_of_mem_splitOn hpiece (trim_subset piece hcomma)

theorem isItem_of_mem_items? {v : Value} {items : List Text} (h : v.items? = some items) {t : Text}
    (ht : t ∈ items) : IsItem t := by
  cases v with
  | null =>
      obtain rfl := Option.some.inj h
      cases ht
  | text u =>
      obtain rfl := Option.some.inj h
      exact isItem_of_mem_pieces ht
  | list entries =>
      obtain rfl := Option.some.inj h
      exact isItem_of_mem_pieces ht
  | tuple entries =>
      obtain rfl := Option.some.inj h
      exact isItem_of_mem_pieces ht
  | flag b => cases h
  | integer n => cases h
  | real digits places => cases h
  | table entries => cases h

end Value

namespace Config

/-- A field that is checked without an issue has its default or a value that passes its check. -/
theorem checked_cases {α : Type} {params : Params} {field : String} {default : α}
    {check : Value → Except Cause α} (h : (checked params field default check).issues = []) :
    (checked params field default check).value = default ∨
      ∃ v, check v = .ok (checked params field default check).value := by
  unfold checked at h ⊢
  split
  · exact .inl rfl
  · next v hgiven =>
      cases hcheck : check v with
      | ok a => exact .inr ⟨v, by rw [hcheck]⟩
      | error cause =>
          simp only [hgiven, hcheck] at h
          cases h

theorem isItem_of_checkList {v : Value} {items : List Text} (h : checkList v = .ok items) {t : Text}
    (ht : t ∈ items) : IsItem t := by
  rw [checkList] at h
  split at h
  · next hitems =>
      obtain rfl := Except.ok.inj h
      exact Value.isItem_of_mem_items? hitems ht
  · cases h

/-- A list field that is checked without an issue holds items if its default does. -/
theorem isItem_of_checked {params : Params} {field : String} {default : List Text}
    (hdefault : ∀ t ∈ default, IsItem t)
    (h : (checked params field default checkList).issues = []) :
    ∀ t ∈ (checked params field default checkList).value, IsItem t := by
  obtain heq | ⟨v, hcheck⟩ := checked_cases h
  · rwa [heq]
  · exact fun t ht => isItem_of_checkList hcheck ht

theorem isItem_iff {t : Text} : IsItem t ↔ t.head?.all (fun c => !isBlank c) = true ∧
    t.getLast?.all (fun c => !isBlank c) = true ∧ t ≠ [] ∧ ',' ∉ t := by
  simp only [Option.all_eq_true, Bool.not_eq_true']
  exact ⟨fun h => ⟨h.first, h.last, h.ne_nil, h.comma⟩,
    fun ⟨hfirst, hlast, hne, hcomma⟩ => ⟨⟨hfirst, hlast⟩, hne, hcomma⟩⟩

instance (t : Text) : Decidable (IsItem t) := decidable_of_iff' _ isItem_iff

/-- The extensions and the markers of an accepted configuration were checked without an issue. -/
theorem checked_of_ofParams {params : Params} {c : Config} (h : ofParams params = .ok c) :
    checked params "extensions" ({} : Config).extensions checkExtensions = ⟨c.extensions, []⟩ ∧
      checked params "markers" ({} : Config).markers checkList = ⟨c.markers, []⟩ := by
  unfold ofParams at h
  extract_lets base target filename directory extensions ignore ignoreTags hidden ignoreSymlinks
    markers title force validateFiles visibility packageName sourceCode progressBar verbose issues at h
  split at h
  · next hissues =>
      obtain rfl := Except.ok.inj h
      obtain ⟨hissues, -⟩ := List.append_eq_nil_iff.mp (List.isEmpty_iff.mp hissues)
      iterate 8 replace hissues := (List.append_eq_nil_iff.mp hissues).1
      have hmarkers : markers.issues = [] := (List.append_eq_nil_iff.mp hissues).2
      iterate 5 replace hissues := (List.append_eq_nil_iff.mp hissues).1
      have hextensions : extensions.issues = [] := (List.append_eq_nil_iff.mp hissues).2
      constructor
      · rw [← hextensions]
      · rw [← hmarkers]
  · cases h

/-- The markers of an accepted configuration are items. -/
theorem isItem_of_mem_markers {params : Params} {c : Config} (h : ofParams params = .ok c) :
    ∀ m ∈ c.markers, IsItem m := by
  have hchecked := (checked_of_ofParams h).2
  have hitems := isItem_of_checked (by decide) (congrArg Checked.issues hchecked)
  rwa [hchecked] at hitems

end Config

end SourceAtlas
