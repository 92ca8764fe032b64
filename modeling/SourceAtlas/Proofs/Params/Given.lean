import SourceAtlas.Params.Config

/-!
# Parameters that are given

Parameters are often written down from a list of things, each of which has a field of its own and may have a
value.  Looking such a field up gives the value of its thing.
-/

namespace SourceAtlas.Config

section Lookup

variable {ι : Type} {field : ι → Text} {value? : ι → Option Value} {is : List ι}

theorem valueOf?_cons (key : Text) (v : Value) (params : Params) (name : Text) :
    valueOf? ((key, v) :: params) name = if key = name then some v else valueOf? params name := by
  unfold valueOf?
  rw [List.find?_cons]
  by_cases h : key = name <;> simp [h]

theorem valueOf?_filterMap_of_not_mem {name : Text} (h : name ∉ is.map field) :
    valueOf? (is.filterMap fun i => (value? i).map fun v => (field i, v)) name = none := by
  rw [valueOf?, Option.map_eq_none_iff, List.find?_eq_none]
  intro parameter hparameter
  obtain ⟨i, hi, heq⟩ := List.mem_filterMap.mp hparameter
  obtain ⟨v, -, rfl⟩ := Option.map_eq_some_iff.mp heq
  simpa using fun hname => h (List.mem_map.mpr ⟨i, hi, hname⟩)

/-- Where all fields differ, each one has the value of its thing. -/
theorem valueOf?_filterMap (hfields : (is.map field).Nodup) {i : ι} (hi : i ∈ is) :
    valueOf? (is.filterMap fun i => (value? i).map fun v => (field i, v)) (field i) = value? i := by
  induction is with
  | nil => cases hi
  | cons j is ih =>
      obtain ⟨hnew, hrest⟩ := List.nodup_cons.mp hfields
      rcases List.mem_cons.mp hi with rfl | hi
      · cases hvalue : value? i with
        | none =>
            rw [List.filterMap_cons_none (by rw [hvalue]; rfl)]
            exact valueOf?_filterMap_of_not_mem hnew
        | some v =>
            rw [List.filterMap_cons_some (by rw [hvalue]; rfl), valueOf?_cons, if_pos rfl]
      · have hne : field j ≠ field i := fun heq => hnew (List.mem_map.mpr ⟨i, hi, heq.symm⟩)
        cases hvalue : value? j with
        | none =>
            rw [List.filterMap_cons_none (by rw [hvalue]; rfl)]
            exact ih hrest hi
        | some v =>
            rw [List.filterMap_cons_some (by rw [hvalue]; rfl), valueOf?_cons, if_neg hne]
            exact ih hrest hi

/-- Where some parameters only are kept, with other values perhaps, a field has the value kept of it. -/
theorem valueOf?_filterMap_value {params : Params} (hfields : (params.map (·.1)).Nodup)
    (kept? : Value → Option Value) (name : Text) :
    valueOf? (params.filterMap fun p => (kept? p.2).map fun v => (p.1, v)) name =
      (valueOf? params name).bind kept? := by
  cases hfind : params.find? (·.1 = name) with
  | none =>
      have hnone : name ∉ params.map (·.1) := by
        intro hmem
        obtain ⟨p, hp, hname⟩ := List.mem_map.mp hmem
        exact List.find?_eq_none.mp hfind p hp (by simpa using hname)
      have hvalue : valueOf? params name = none := by rw [valueOf?, hfind, Option.map_none]
      rw [hvalue]
      exact valueOf?_filterMap_of_not_mem hnone
  | some p =>
      have hvalue : valueOf? params name = some p.2 := by rw [valueOf?, hfind, Option.map_some]
      have hname : p.1 = name := by simpa using List.find?_some hfind
      rw [hvalue, ← hname]
      exact @valueOf?_filterMap (Text × Value) (·.1) (kept? ·.2) _ hfields _
        (List.mem_of_find?_eq_some hfind)

/-- Things with declared fields give no unknown parameter. -/
theorem unknownFields_filterMap (hknown : ∀ i ∈ is, field i ∈ fieldNames.map String.toList) :
    unknownFields (is.filterMap fun i => (value? i).map fun v => (field i, v)) = [] := by
  rw [unknownFields, List.map_eq_nil_iff, List.filter_eq_nil_iff]
  intro parameter hparameter
  obtain ⟨i, hi, heq⟩ := List.mem_filterMap.mp hparameter
  obtain ⟨v, -, rfl⟩ := Option.map_eq_some_iff.mp heq
  simpa using hknown i hi

end Lookup

/-! ## Checks that read items only -/

section Congruence

variable {v w : Value}

theorem checkList_congr (h : v.items? = w.items?) : checkList v = checkList w := by
  rw [checkList, checkList, h]

theorem checkExtensions_congr (h : v.items? = w.items?) : checkExtensions v = checkExtensions w := by
  rw [checkExtensions, checkExtensions, checkList_congr h]

theorem checkVisibility_congr (h : v.items? = w.items?) : checkVisibility v = checkVisibility w := by
  rw [checkVisibility, checkVisibility, checkList_congr h]

end Congruence

end SourceAtlas.Config
