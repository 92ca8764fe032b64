import Mathlib.Algebra.Ring.Int.Defs
import SourceAtlas.Proofs.LowerCase
import SourceAtlas.Proofs.Params.Checking

/-!
# The grammar of parameters

Which values a field may have is said by its kind, without the checks.  Parameters are accepted exactly if
each one is a declared field and has a value that the kind of the field admits.  If they are not, there is
one issue for each field whose value is not admitted, in the order of their declaration, and then one for
each unknown parameter, in the order in which these are given.
-/

namespace SourceAtlas

open Text

/-! ## Values -/

namespace Value

/-- A value that can be a list: nothing, a text, a list or a tuple. -/
inductive IsListed : Value → Prop
  | null : IsListed .null
  | text (t : Text) : IsListed (.text t)
  | list (items : List Value) : IsListed (.list items)
  | tuple (items : List Value) : IsListed (.tuple items)

/-- An entry of a value that can be a list, as a text. -/
inductive HasEntry : Value → Text → Prop
  | text (t : Text) : HasEntry (.text t) t
  | list {items : List Value} {v : Value} (h : v ∈ items) : HasEntry (.list items) v.item
  | tuple {items : List Value} {v : Value} (h : v ∈ items) : HasEntry (.tuple items) v.item

/-- A piece of a value: what stands in an entry between commas, without the white space at its ends, if
anything is left of it. -/
inductive HasPiece (v : Value) : Text → Prop
  | intro {entry part : Text} (hentry : v.HasEntry entry) (hpart : part ∈ splitOn ',' entry)
      (hne : trim part ≠ []) : HasPiece v (trim part)

/-- The words for a yes. -/
def yesWords : List String := ["1", "on", "t", "true", "y", "yes"]

/-- The words for a no. -/
def noWords : List String := ["0", "off", "f", "false", "n", "no"]

/-- A value that reads as a yes or a no: a flag, the numbers zero and one, and the words in any case. -/
inductive IsYesNo : Value → Prop
  | flag (b : Bool) : IsYesNo (.flag b)
  | integer {n : Int} (h : n = 0 ∨ n = 1) : IsYesNo (.integer n)
  | real {digits : Int} {places : Nat} (h : digits = 0 ∨ digits = 10 ^ places) :
      IsYesNo (.real digits places)
  | text {t : Text} (h : lowerAscii t ∈ (yesWords ++ noWords).map String.toList) : IsYesNo (.text t)

theorem mem_pieces_iff {entries : List Text} {p : Text} :
    p ∈ items?.pieces entries ↔ ∃ entry ∈ entries, ∃ part ∈ splitOn ',' entry, trim part = p ∧ p ≠ [] := by
  simp only [items?.pieces, List.mem_filter, List.mem_flatMap, List.mem_map, decide_eq_true_eq]
  constructor
  · rintro ⟨⟨entry, hentry, part, hpart, rfl⟩, hne⟩
    exact ⟨entry, hentry, part, hpart, rfl, hne⟩
  · rintro ⟨entry, hentry, part, hpart, rfl, hne⟩
    exact ⟨⟨entry, hentry, part, hpart, rfl⟩, hne⟩

theorem exists_items?_iff {v : Value} : (∃ items, v.items? = some items) ↔ v.IsListed := by
  constructor
  · rintro ⟨items, h⟩
    cases v with
    | null => exact .null
    | text t => exact .text t
    | list entries => exact .list entries
    | tuple entries => exact .tuple entries
    | flag b => cases h
    | integer n => cases h
    | real digits places => cases h
    | table entries => cases h
  · rintro (_ | _ | _ | _) <;> exact ⟨_, rfl⟩

theorem mem_items?_iff {v : Value} {items : List Text} (h : v.items? = some items) {p : Text} :
    p ∈ items ↔ v.HasPiece p := by
  have hpieces : ∀ {entries : List Text}, (∀ entry, entry ∈ entries ↔ v.HasEntry entry) →
      (p ∈ items?.pieces entries ↔ v.HasPiece p) := by
    intro entries hentries
    rw [mem_pieces_iff]
    constructor
    · rintro ⟨entry, hentry, part, hpart, rfl, hne⟩
      exact .intro ((hentries entry).mp hentry) hpart hne
    · rintro ⟨hentry, hpart, hne⟩
      exact ⟨_, (hentries _).mpr hentry, _, hpart, rfl, hne⟩
  cases v with
  | null =>
      obtain rfl := Option.some.inj h
      refine iff_of_false List.not_mem_nil ?_
      rintro ⟨hentry, -, -⟩
      cases hentry
  | text t =>
      obtain rfl := Option.some.inj h
      refine hpieces fun entry => ⟨fun hentry => ?_, fun hentry => ?_⟩
      · obtain rfl := List.mem_singleton.mp hentry
        exact .text entry
      · cases hentry
        exact List.mem_singleton_self t
  | list entries =>
      obtain rfl := Option.some.inj h
      refine hpieces fun entry => ⟨fun hentry => ?_, fun hentry => ?_⟩
      · obtain ⟨v, hv, rfl⟩ := List.mem_map.mp hentry
        exact .list hv
      · cases hentry with
        | list hv => exact List.mem_map_of_mem hv
  | tuple entries =>
      obtain rfl := Option.some.inj h
      refine hpieces fun entry => ⟨fun hentry => ?_, fun hentry => ?_⟩
      · obtain ⟨v, hv, rfl⟩ := List.mem_map.mp hentry
        exact .tuple hv
      · cases hentry with
        | tuple hv => exact List.mem_map_of_mem hv
  | flag b => cases h
  | integer n => cases h
  | real digits places => cases h
  | table entries => cases h

theorem powerOfTen_eq (places : Nat) : powerOfTen places = 10 ^ places := by
  induction places with
  | zero => rfl
  | succ places ih => rw [powerOfTen, ih, Int.pow_succ, Int.mul_comm]

theorem ofNumber_isSome_iff {digits : Int} {places : Nat} :
    (yesNo?.ofNumber digits places).isSome = true ↔ digits = 0 ∨ digits = 10 ^ places := by
  unfold yesNo?.ofNumber
  rw [powerOfTen_eq]
  split
  · next h => simp [h]
  · next h =>
      split
      · next h' => simp [h']
      · next h' => simp [h, h']

theorem ofList_mem_iff {t : Text} {words : List String} :
    String.ofList t ∈ words ↔ t ∈ words.map String.toList := by
  rw [List.mem_map]
  constructor
  · exact fun h => ⟨_, h, String.toList_ofList⟩
  · rintro ⟨word, h, rfl⟩
    rwa [String.ofList_toList]

theorem isSome_yesNo?_text_iff (t : Text) :
    (yesNo? (.text t)).isSome = true ↔ lowerAscii t ∈ (yesWords ++ noWords).map String.toList := by
  have hyesNo : yesNo? (.text t) =
      if String.ofList (lowerAscii t) ∈ yesWords then some true
      else if String.ofList (lowerAscii t) ∈ noWords then some false else none := rfl
  rw [hyesNo, ← ofList_mem_iff, List.mem_append]
  by_cases hyes : String.ofList (lowerAscii t) ∈ yesWords
  · simp [hyes]
  · by_cases hno : String.ofList (lowerAscii t) ∈ noWords <;> simp [hyes, hno]

theorem yesNo?_isSome_iff {v : Value} : v.yesNo?.isSome = true ↔ v.IsYesNo := by
  cases v with
  | flag b => exact iff_of_true rfl (.flag b)
  | integer n =>
      refine ofNumber_isSome_iff.trans ⟨fun h => .integer h, fun h => ?_⟩
      cases h with
      | integer h => exact h
  | real digits places =>
      refine ofNumber_isSome_iff.trans ⟨fun h => .real h, fun h => ?_⟩
      cases h with
      | real h => exact h
  | text t =>
      refine (isSome_yesNo?_text_iff t).trans ⟨fun h => .text h, fun h => ?_⟩
      cases h with
      | text h => exact h
  | null => exact iff_of_false (by simp [yesNo?]) (by rintro ⟨⟩)
  | list items => exact iff_of_false (by simp [yesNo?]) (by rintro ⟨⟩)
  | tuple items => exact iff_of_false (by simp [yesNo?]) (by rintro ⟨⟩)
  | table entries => exact iff_of_false (by simp [yesNo?]) (by rintro ⟨⟩)

end Value

/-! ## Kinds of fields -/

namespace Config

/-- The values that a kind of field admits. -/
def FieldKind.Admits : FieldKind → Value → Prop
  | .text, v => ∃ t, v = .text t
  | .trimmed, v => ∃ t, v = .text t
  | .packageName, v => ∃ t, v = .text t ∧ ∃ c ∈ t, isBlank c = false
  | .flag, v => v.IsYesNo
  | .list, v => v.IsListed
  | .extensions, v => v.IsListed ∧ ∀ p, v.HasPiece p → ∃ c ∈ p, c ≠ '.'
  | .visibility, v => v.IsListed ∧ ∀ p, v.HasPiece p → lower p ∈ visibilityLevels

theorem exists_checkText_iff {v : Value} : (∃ t, checkText v = .ok t) ↔ ∃ t, v = .text t := by
  constructor
  · rintro ⟨t, h⟩
    unfold checkText at h
    split at h
    · exact ⟨_, rfl⟩
    · cases h
  · rintro ⟨t, rfl⟩
    exact ⟨t, rfl⟩

theorem exists_checkTrimmed_iff {v : Value} :
    (∃ t, checkTrimmed v = .ok t) ↔ ∃ t, v = .text t := by
  rw [← exists_checkText_iff]
  simp only [checkTrimmed, map_eq_ok]
  exact ⟨fun ⟨_, t, h, _⟩ => ⟨t, h⟩, fun ⟨t, h⟩ => ⟨_, t, h, rfl⟩⟩

theorem checkPackageName_text (t : Text) :
    checkPackageName (.text t) = if trim t = [] then .error .emptyPackageName else .ok (trim t) := rfl

theorem exists_checkPackageName_iff {v : Value} :
    (∃ t, checkPackageName v = .ok t) ↔ ∃ t, v = .text t ∧ ∃ c ∈ t, isBlank c = false := by
  constructor
  · rintro ⟨name, h⟩
    obtain ⟨t, rfl⟩ : ∃ t, v = .text t := by
      obtain ⟨trimmed, htrimmed, -⟩ := bind_eq_ok.mp h
      exact exists_checkTrimmed_iff.mp ⟨trimmed, htrimmed⟩
    refine ⟨t, rfl, ?_⟩
    rw [checkPackageName_text] at h
    split at h
    · cases h
    · next hne => simpa [trim_eq_nil_iff] using hne
  · rintro ⟨t, rfl, c, hc, hblank⟩
    have hne : trim t ≠ [] := by
      rw [Ne, trim_eq_nil_iff]
      exact fun hall => by simp [hall c hc] at hblank
    exact ⟨trim t, by rw [checkPackageName_text, if_neg hne]⟩

theorem exists_checkFlag_iff {v : Value} : (∃ b, checkFlag v = .ok b) ↔ v.IsYesNo := by
  rw [← Value.yesNo?_isSome_iff, checkFlag]
  cases v.yesNo? with
  | none => simp
  | some b => simp

theorem checkList_eq_ok_iff {v : Value} {items : List Text} :
    checkList v = .ok items ↔ v.items? = some items := by
  rw [checkList]
  cases v.items? with
  | none => simp
  | some items => simp

theorem exists_checkList_iff {v : Value} : (∃ items, checkList v = .ok items) ↔ v.IsListed := by
  simp only [checkList_eq_ok_iff, Value.exists_items?_iff]

/-- A check of a list that goes on with its items accepts a value of pieces that pass. -/
theorem exists_bind_checkList_iff {α : Type} {next : List Text → Except Cause α} {p : Text → Prop}
    (hnext : ∀ items, (∃ a, next items = .ok a) ↔ ∀ t ∈ items, p t) {v : Value} :
    (∃ a, (checkList v >>= next) = .ok a) ↔ v.IsListed ∧ ∀ t, v.HasPiece t → p t := by
  constructor
  · rintro ⟨a, h⟩
    obtain ⟨items, hitems, ha⟩ := bind_eq_ok.mp h
    have hmem := @Value.mem_items?_iff v items (checkList_eq_ok_iff.mp hitems)
    exact ⟨exists_checkList_iff.mp ⟨items, hitems⟩,
      fun t ht => (hnext items).mp ⟨a, ha⟩ t (hmem.mpr ht)⟩
  · rintro ⟨hlisted, hpieces⟩
    obtain ⟨items, hitems⟩ := exists_checkList_iff.mpr hlisted
    have hmem := @Value.mem_items?_iff v items (checkList_eq_ok_iff.mp hitems)
    obtain ⟨a, ha⟩ := (hnext items).mpr fun t ht => hpieces t (hmem.mp ht)
    exact ⟨a, bind_eq_ok.mpr ⟨items, hitems, ha⟩⟩

theorem normalExtension_eq_nil_iff {t : Text} : normalExtension t = [] ↔ ∀ c ∈ t, c = '.' := by
  rw [normalExtension, lower_eq_nil_iff]
  induction t with
  | nil => simp
  | cons c cs ih =>
      by_cases hc : c = '.'
      · rw [List.dropWhile_cons_of_pos (by simp [hc]), ih, List.forall_mem_cons]
        exact (and_iff_right hc).symm
      · rw [List.dropWhile_cons_of_neg (by simp [hc]), List.forall_mem_cons]
        exact iff_of_false (by simp) fun h => hc h.1

theorem exists_checkExtensions_iff {v : Value} :
    (∃ es, checkExtensions v = .ok es) ↔
      v.IsListed ∧ ∀ p, v.HasPiece p → ∃ c ∈ p, c ≠ '.' := by
  refine exists_bind_checkList_iff fun items => ?_
  have hempty : (items.map normalExtension).contains [] = true ↔ ∃ t ∈ items, ∀ c ∈ t, c = '.' := by
    simp only [List.contains_iff_mem, List.mem_map, normalExtension_eq_nil_iff]
  dsimp only
  split
  · next h =>
      obtain ⟨t, ht, hdots⟩ := hempty.mp h
      refine iff_of_false (by simp) fun hall => ?_
      obtain ⟨c, hc, hne⟩ := hall t ht
      exact hne (hdots c hc)
  · next h =>
      refine iff_of_true ⟨_, rfl⟩ fun t ht => ?_
      simpa using fun hdots => h (hempty.mpr ⟨t, ht, hdots⟩)

theorem exists_checkVisibility_iff {v : Value} :
    (∃ levels, checkVisibility v = .ok levels) ↔
      v.IsListed ∧ ∀ p, v.HasPiece p → lower p ∈ visibilityLevels := by
  refine exists_bind_checkList_iff fun items => ?_
  dsimp only
  split
  · next h =>
      refine iff_of_true ⟨_, rfl⟩ fun t ht => ?_
      have hknown := List.filter_eq_nil_iff.mp h (lower t) (List.mem_map_of_mem ht)
      simpa using hknown
  · next h =>
      refine iff_of_false (by simp) fun hall => h (List.filter_eq_nil_iff.mpr ?_)
      intro level hlevel
      obtain ⟨t, ht, rfl⟩ := List.mem_map.mp hlevel
      simpa using hall t ht

/-- Nothing is wrong with a value exactly if the kind of the field admits it. -/
theorem FieldKind.cause?_eq_none_iff (k : FieldKind) (v : Value) : k.cause? v = none ↔ k.Admits v := by
  cases k with
  | text => exact causeOf_eq_none_iff.trans exists_checkText_iff
  | trimmed => exact causeOf_eq_none_iff.trans exists_checkTrimmed_iff
  | packageName => exact causeOf_eq_none_iff.trans exists_checkPackageName_iff
  | flag => exact causeOf_eq_none_iff.trans exists_checkFlag_iff
  | list => exact causeOf_eq_none_iff.trans exists_checkList_iff
  | extensions => exact causeOf_eq_none_iff.trans exists_checkExtensions_iff
  | visibility => exact causeOf_eq_none_iff.trans exists_checkVisibility_iff

instance (k : FieldKind) (v : Value) : Decidable (k.Admits v) :=
  decidable_of_iff _ (Option.isNone_iff_eq_none.trans (k.cause?_eq_none_iff v))

/-! ## Parameters -/

/-- The value given for a field is not one that its kind admits. -/
def Field.IsWrong (f : Field) (params : Params) : Prop :=
  ∃ v, valueOf? params f.name.toList = some v ∧ ¬ f.kind.Admits v

theorem Field.isSome_issue?_iff (f : Field) (params : Params) :
    (issue? params f.name f.kind.cause?).isSome = true ↔ f.IsWrong params := by
  unfold issue? Field.IsWrong
  cases valueOf? params f.name.toList with
  | none => simp
  | some v =>
      simp only [Option.bind_some, Option.isSome_map, Option.some.injEq, exists_eq_left',
        ← f.kind.cause?_eq_none_iff]
      cases f.kind.cause? v <;> simp

instance (f : Field) (params : Params) : Decidable (f.IsWrong params) :=
  decidable_of_iff _ (f.isSome_issue?_iff params)

theorem field_of_issue? {params : Params} {name : String} {cause? : Value → Option Cause} {i : Issue}
    (h : issue? params name cause? = some i) :
    i.field = name.toList ∧ valueOf? params name.toList = some i.value := by
  obtain ⟨v, hv, h⟩ := Option.bind_eq_some_iff.mp h
  obtain ⟨cause, -, rfl⟩ := Option.map_eq_some_iff.mp h
  exact ⟨rfl, hv⟩

theorem mem_of_valueOf? {params : Params} {key : Text} {v : Value}
    (h : valueOf? params key = some v) : (key, v) ∈ params := by
  obtain ⟨p, hp, rfl⟩ := Option.map_eq_some_iff.mp h
  have hkey : p.1 = key := by simpa using List.find?_some hp
  exact hkey ▸ List.mem_of_find?_eq_some hp

variable {params : Params}

/-- The issues of fields are those of the wrong fields, one for each, in the order of the fields. -/
theorem map_field_issues (fs : List Field) :
    (fs.flatMap fun f => (issue? params f.name f.kind.cause?).toList).map (·.field) =
      (fs.filter fun f => f.IsWrong params).map (·.name.toList) := by
  induction fs with
  | nil => rfl
  | cons f fs ih =>
      rw [List.flatMap_cons, List.map_append, ih]
      have hwrong := f.isSome_issue?_iff params
      cases h : issue? params f.name f.kind.cause? with
      | none =>
          rw [h] at hwrong
          rw [List.filter_cons_of_neg (by simpa using hwrong)]
          rfl
      | some i =>
          rw [h] at hwrong
          rw [List.filter_cons_of_pos (by simpa using hwrong), List.map_cons, ← (field_of_issue? h).1]
          rfl

theorem map_field_unknownFields :
    (unknownFields params).map (·.field) =
      (params.map (·.1)).filter fun key => key ∉ fieldNames.map String.toList := by
  rw [unknownFields, List.map_map, List.filter_map]
  refine congrArg (List.map Prod.fst) (List.filter_congr fun p _ => ?_)
  rw [List.contains_eq_mem, ← decide_not, Function.comp]

theorem mem_of_mem_issuesOf {i : Issue} (h : i ∈ issuesOf params) : (i.field, i.value) ∈ params := by
  obtain h | h := List.mem_append.mp h
  · obtain ⟨f, -, hf⟩ := List.mem_flatMap.mp h
    obtain ⟨hfield, hvalue⟩ := field_of_issue? (Option.mem_toList.mp hf)
    rw [hfield]
    exact mem_of_valueOf? hvalue
  · obtain ⟨p, hp, rfl⟩ := List.mem_map.mp h
    exact (List.mem_filter.mp hp).1

end Config

end SourceAtlas
