import SourceAtlas.CommandLine.Command
import SourceAtlas.Proofs.CommandLine.Parts
import SourceAtlas.Proofs.Params.Alike
import SourceAtlas.Proofs.Params.Given
import SourceAtlas.Proofs.Params.Pieces

/-!
# The call that flags stand for

The flags on a command line stand for a build with the last value of each single flag, the presence of each
switch, and the pieces of all values of each repeated flag.  The parameters that the flags set are written
in another way, but every check makes the same of them.
-/

namespace SourceAtlas.CommandLine

open Text Config

/-- The value of a single flag that does not occur. -/
def absentText (f : Flag) : Text :=
  if f.field = "target".toList then "output".toList
  else if f.field = "defaultpackagename".toList then "Default".toList
  else []

/-- The fields that a call leaves out when their flag does not occur. -/
def fieldsLeftOut : List Text := ["extensions".toList, "markers".toList]

/-- The value that a call gives to the field of a flag. -/
def argumentOf? (os : List Occurrence) (f : Flag) : Option Value :=
  match f.kind with
  | .single => some (.text ((valuesOf f os).getLast?.getD (absentText f)))
  | .switch => some (.flag (occurs f os))
  | .repeated =>
    if !occurs f os && fieldsLeftOut.contains f.field then none
    else some (.list (((valuesOf f os).flatMap (splitOn ',')).map .text))

/-- The parameters of the call that occurrences stand for. -/
def callOf (os : List Occurrence) : Params :=
  buildFlags.filterMap fun f => (argumentOf? os f).map fun v => (f.field, v)

/-! ## Parameters by flags -/

theorem nodup_field_buildFlags : (buildFlags.map (·.field)).Nodup := by decide

theorem field_mem_fieldNames : ∀ f ∈ buildFlags, f.field ∈ fieldNames.map String.toList := by decide

/-! ## The call and the parameters -/

section Agreement

variable {α : Type} {os : List Occurrence} {f : Flag} {name : String}

/-- The flag that sets a field. -/
def flagOf? (name : String) : Option Flag := buildFlags.find? (·.field = name.toList)

theorem mem_of_flagOf? (h : flagOf? name = some f) : f ∈ buildFlags ∧ f.field = name.toList := by
  unfold flagOf? at h
  exact ⟨List.mem_of_find?_eq_some h, by simpa using List.find?_some h⟩

theorem valueOf?_paramsOf (hf : f ∈ buildFlags) :
    Config.valueOf? (paramsOf os) f.field = CommandLine.valueOf? f os :=
  valueOf?_filterMap nodup_field_buildFlags hf

theorem valueOf?_callOf (hf : f ∈ buildFlags) :
    Config.valueOf? (callOf os) f.field = argumentOf? os f :=
  valueOf?_filterMap nodup_field_buildFlags hf

/-- A single flag that does not occur stands for the default. -/
theorem alikeAt_single (h : flagOf? name = some f) (hkind : f.kind = .single)
    {default : α} {check : Value → Except Cause α} (hdefault : check (.text (absentText f)) = .ok default) :
    AlikeAt (paramsOf os) (callOf os) name default check := by
  obtain ⟨hf, hname⟩ := mem_of_flagOf? h
  rw [AlikeAt, ← hname, valueOf?_paramsOf hf, valueOf?_callOf hf]
  unfold CommandLine.valueOf? argumentOf?
  simp only [hkind]
  cases (valuesOf f os).getLast? with
  | none => exact hdefault.symm
  | some t => rfl

theorem alikeAt_switch (h : flagOf? name = some f) (hkind : f.kind = .switch) :
    AlikeAt (paramsOf os) (callOf os) name false checkFlag := by
  obtain ⟨hf, hname⟩ := mem_of_flagOf? h
  rw [AlikeAt, ← hname, valueOf?_paramsOf hf, valueOf?_callOf hf]
  unfold CommandLine.valueOf? argumentOf?
  simp only [hkind]
  cases occurs f os with
  | false => rfl
  | true => rfl

/-- A repeated flag may be cut at its commas; if it does not occur, it stands for the default. -/
theorem alikeAt_repeated (hfits : ∀ o ∈ os, o.Fits buildFlags) (h : flagOf? name = some f)
    (hkind : f.kind = .repeated) {default : α}
    {check : Value → Except Cause α} (hcheck : ∀ v w : Value, v.items? = w.items? → check v = check w)
    (hdefault : f.field ∈ fieldsLeftOut ∨ check (.list []) = .ok default) :
    AlikeAt (paramsOf os) (callOf os) name default check := by
  obtain ⟨hf, hname⟩ := mem_of_flagOf? h
  rw [AlikeAt, ← hname, valueOf?_paramsOf hf, valueOf?_callOf hf]
  unfold CommandLine.valueOf? argumentOf?
  have hoccurs := valuesOf_eq_nil_iff hfits (show f.takesValue = true by rw [Flag.takesValue, hkind]; rfl)
  simp only [hkind]
  cases hvalues : valuesOf f os with
  | nil =>
      rw [hoccurs.mp hvalues]
      by_cases hleft : f.field ∈ fieldsLeftOut
      · simp [hleft, settled]
      · simpa [hleft, settled] using (hdefault.resolve_left hleft).symm
  | cons t ts =>
      have htrue : occurs f os = true := by
        rw [← Bool.not_eq_false, ← hoccurs, hvalues]
        simp
      rw [htrue]
      apply hcheck
      rw [Value.items?_texts, Value.items?_texts, Value.pieces_flatMap_splitOn]

/-- Every check makes the same of the parameters that flags set and of the call that they stand for. -/
theorem alike_callOf (hfits : ∀ o ∈ os, o.Fits buildFlags) : Alike (paramsOf os) (callOf os) where
  target := alikeAt_single rfl rfl rfl
  filename := alikeAt_repeated hfits rfl rfl @checkList_congr (.inr rfl)
  directory := alikeAt_repeated hfits rfl rfl @checkList_congr (.inr rfl)
  extensions := alikeAt_repeated hfits rfl rfl @checkExtensions_congr (.inl (by decide))
  ignore := alikeAt_repeated hfits rfl rfl @checkList_congr (.inr rfl)
  ignoreTags := alikeAt_repeated hfits rfl rfl @checkList_congr (.inr rfl)
  hidden := alikeAt_switch rfl rfl
  ignoreSymlinks := alikeAt_switch rfl rfl
  markers := alikeAt_repeated hfits rfl rfl @checkList_congr (.inl (by decide))
  title := alikeAt_single rfl rfl rfl
  force := alikeAt_switch rfl rfl
  validateFiles := alikeAt_switch rfl rfl
  visibility := alikeAt_repeated hfits rfl rfl @checkVisibility_congr (.inr rfl)
  defaultPackageName := alikeAt_single rfl rfl rfl
  sourceCode := alikeAt_switch rfl rfl
  progressBar := alikeAt_switch rfl rfl
  verbose := alikeAt_switch rfl rfl
  unknown := by
    rw [paramsOf, callOf, unknownFields_filterMap field_mem_fieldNames,
      unknownFields_filterMap field_mem_fieldNames]
    rfl

end Agreement

end SourceAtlas.CommandLine
