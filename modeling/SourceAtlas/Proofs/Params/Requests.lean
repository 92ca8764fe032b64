import SourceAtlas.Params.Request
import SourceAtlas.Proofs.Params.Alike
import SourceAtlas.Proofs.Params.Given
import SourceAtlas.Proofs.Params.Grammar
import SourceAtlas.Proofs.Params.Letters

/-!
# The call with the values of a request

A request makes lists of its values before they are checked.  The call with the same values gives them as they
are and leaves out those that are missing.  Every check makes the same of both, unless a text or a flag is
missing or a list is given by a value that is no list.
-/

namespace SourceAtlas

open Text Config

/-! ## Values for lists -/

namespace Value

/-- The value, if there is one. -/
def given? : Value → Option Value
  | null => none
  | v => some v

theorem given?_of_ne {v : Value} (h : v ≠ .null) : v.given? = some v := by
  cases v with
  | null => exact absurd rfl h
  | _ => rfl

/-- The list of what a value consists of, if there is a value. -/
def listedIfGiven : Value → Except Fault Value
  | null => .ok null
  | v => v.listed

theorem listedIfGiven_of_ne {v : Value} (h : v ≠ .null) : v.listedIfGiven = v.listed := by
  cases v with
  | null => exact absurd rfl h
  | _ => rfl

/-- A value that is the same list whether it is taken as it is or as what it consists of: no value, a list, a
tuple, or a text of which no piece is longer than a letter. -/
inductive IsPlainList : Value → Prop
  | null : IsPlainList .null
  | list (items : List Value) : IsPlainList (.list items)
  | tuple (items : List Value) : IsPlainList (.tuple items)
  | text {t : Text} (h : ∀ p, (Value.text t).HasPiece p → p.length ≤ 1) : IsPlainList (.text t)

theorem items?_letters {t : Text} (h : ∀ p, (Value.text t).HasPiece p → p.length ≤ 1) :
    (list (t.map fun c => text [c])).items? = (text t).items? := by
  have hpieces : (text t).items? = some (items?.pieces [t]) := rfl
  have hletters : (t.map fun c => text [c]) = (letters t).map text := by
    rw [letters, List.map_map]
    rfl
  rw [hletters, items?_texts, pieces_letters fun p hp => h p ((mem_items?_iff hpieces).mp hp), hpieces]

namespace IsPlainList

variable {v : Value} (h : v.IsPlainList)
include h

/-- A plain list consists of values that have its items. -/
theorem exists_listed (hne : v ≠ .null) :
    ∃ items, v.listed = .ok (.list items) ∧ (Value.list items).items? = v.items? := by
  cases h with
  | null => exact absurd rfl hne
  | list items => exact ⟨items, rfl, rfl⟩
  | tuple items => exact ⟨items, rfl, rfl⟩
  | text h => exact ⟨_, rfl, items?_letters h⟩

theorem items?_of_isNothing (hnothing : v.isNothing = true) : v.items? = some [] := by
  cases h with
  | null => rfl
  | list items =>
      obtain rfl := List.isEmpty_iff.mp hnothing
      rfl
  | tuple items =>
      obtain rfl := List.isEmpty_iff.mp hnothing
      rfl
  | @text t h =>
      obtain rfl : t = [] := of_decide_eq_true hnothing
      rfl

/-- The list that is made of a plain list has its items, and is left out with it. -/
theorem exists_listedIfGiven : ∃ w, v.listedIfGiven = .ok w ∧
    (w = .null ↔ v = .null) ∧ w.items? = v.items? := by
  by_cases hne : v = .null
  · subst hne
    exact ⟨.null, rfl, Iff.rfl, rfl⟩
  · obtain ⟨items, hlisted, hitems⟩ := h.exists_listed hne
    exact ⟨.list items, (listedIfGiven_of_ne hne).trans hlisted, iff_of_false nofun hne, hitems⟩

theorem exists_listedOrEmpty :
    ∃ items, v.listedOrEmpty = .ok (.list items) ∧ (Value.list items).items? = v.items? := by
  by_cases hnothing : v.isNothing = true
  · exact ⟨[], if_pos hnothing, (h.items?_of_isNothing hnothing).symm⟩
  · have hne : v ≠ .null := by
      rintro rfl
      exact hnothing rfl
    obtain ⟨items, hlisted, hitems⟩ := h.exists_listed hne
    exact ⟨items, (if_neg hnothing).trans hlisted, hitems⟩

end IsPlainList

end Value

/-! ## Requests and their calls -/

namespace Request

/-- The values of a request under the names of the fields, missing ones included. -/
def arguments (r : Request) : Params :=
  [("target".toList, r.target), ("filename".toList, r.files), ("directory".toList, r.directories),
    ("ignore".toList, r.ignore), ("title".toList, r.title), ("force".toList, r.force),
    ("sourcecode".toList, r.includeSource), ("progressbar".toList, r.progressBar),
    ("verbose".toList, r.verbose), ("extensions".toList, r.extensions), ("markers".toList, r.markers)]

/-- The parameters of the call with the values of a request, those left out that are missing. -/
def call (r : Request) : Params :=
  r.arguments.filterMap fun a => a.2.given?.map fun v => (a.1, v)

/-- The fields that a request has values for. -/
def argumentNames : List Text :=
  ["target", "filename", "directory", "ignore", "title", "force", "sourcecode", "progressbar", "verbose",
    "extensions", "markers"].map String.toList

theorem map_fst_arguments (r : Request) : r.arguments.map (·.1) = argumentNames := rfl

/-- A call has the values of the request that are not missing. -/
theorem valueOf?_call (r : Request) (name : Text) :
    valueOf? r.call name = (valueOf? r.arguments name).bind Value.given? :=
  valueOf?_filterMap_value (by rw [map_fst_arguments]; decide) Value.given? name

theorem unknownFields_call (r : Request) : unknownFields r.call = [] := by
  refine unknownFields_filterMap fun a ha => ?_
  have hknown : ∀ name ∈ argumentNames, name ∈ fieldNames.map String.toList := by decide
  refine hknown _ ?_
  rw [← r.map_fst_arguments]
  exact List.mem_map_of_mem ha

/-- The texts and flags of a request. -/
def singles (r : Request) : List Value :=
  [r.target, r.title, r.force, r.includeSource, r.progressBar, r.verbose]

/-- The lists of a request that are empty where the value is nothing. -/
def emptyLists (r : Request) : List Value := [r.files, r.directories, r.ignore]

/-- The lists of a request that have a default where the value is missing. -/
def defaultLists (r : Request) : List Value := [r.extensions, r.markers]

/-- A request whose values a call takes alike: no text or flag is missing, and every list is a plain one. -/
structure IsPlain (r : Request) : Prop where
  given : ∀ v ∈ r.singles, v ≠ .null
  emptyLists : ∀ v ∈ r.emptyLists, v.IsPlainList
  defaultLists : ∀ v ∈ r.defaultLists, v.IsPlainList

/-- A request of which every list can be made: its value consists of something, or need not. -/
structure IsListable (r : Request) : Prop where
  emptyLists : ∀ v ∈ r.emptyLists, v.isNothing = true ∨ v.elements?.isSome = true
  defaultLists : ∀ v ∈ r.defaultLists, v = .null ∨ v.elements?.isSome = true

/-! ## What a request translates into -/

theorem given_eq (field : String) (v : Value) :
    given field v = v.listedIfGiven.map fun w => (w.given?.map fun w => (field.toList, w)).toList := by
  cases v <;> rfl

/-- The call with lists made of the values of a request is what that translates into. -/
theorem toParams_eq {r : Request} {files directories ignore : List Value} {extensions markers : Value}
    (hgiven : ∀ v ∈ r.singles, v ≠ .null) (hfiles : r.files.listedOrEmpty = .ok (.list files))
    (hdirectories : r.directories.listedOrEmpty = .ok (.list directories))
    (hignore : r.ignore.listedOrEmpty = .ok (.list ignore))
    (hextensions : r.extensions.listedIfGiven = .ok extensions)
    (hmarkers : r.markers.listedIfGiven = .ok markers) :
    r.toParams = .ok (call { r with
      files := .list files
      directories := .list directories
      ignore := .list ignore
      extensions
      markers }) := by
  have hsingle : ∀ v ∈ r.singles, v.given? = some v := fun v hv => Value.given?_of_ne (hgiven v hv)
  simp only [singles, List.forall_mem_cons] at hsingle
  obtain ⟨htarget, htitle, hforce, hsource, hprogress, hverbose, -⟩ := hsingle
  rw [toParams, hfiles, hdirectories, hignore, given_eq, given_eq, hextensions, hmarkers]
  simp only [call, arguments, List.filterMap, htarget, htitle, hforce, hsource, hprogress, hverbose,
    Except.map]
  cases extensions.given? <;> cases markers.given? <;> rfl

/-- What a request translates into holds its texts and flags, missing or not. -/
theorem exists_of_toParams {r : Request} {params : Params} (h : r.toParams = .ok params) :
    ∃ files directories ignore more, params =
      ("target".toList, r.target) :: ("filename".toList, files) :: ("directory".toList, directories) ::
        ("ignore".toList, ignore) :: ("title".toList, r.title) :: ("force".toList, r.force) ::
        ("sourcecode".toList, r.includeSource) :: ("progressbar".toList, r.progressBar) ::
        ("verbose".toList, r.verbose) :: more := by
  obtain ⟨files, -, h⟩ := bind_eq_ok.mp h
  obtain ⟨directories, -, h⟩ := bind_eq_ok.mp h
  obtain ⟨ignore, -, h⟩ := bind_eq_ok.mp h
  obtain ⟨extensions, -, h⟩ := bind_eq_ok.mp h
  obtain ⟨markers, -, h⟩ := bind_eq_ok.mp h
  exact ⟨files, directories, ignore, extensions ++ markers, (pure_eq_ok.mp h).symm⟩

/-- A text or a flag is handed to a field that does not admit a missing value. -/
theorem exists_field_of_single {r : Request} {v : Value} (hv : v ∈ r.singles) {params : Params}
    (h : r.toParams = .ok params) :
    ∃ f ∈ fields, valueOf? params f.name.toList = some v ∧ ¬ f.kind.Admits .null := by
  obtain ⟨files, directories, ignore, more, rfl⟩ := exists_of_toParams h
  simp only [singles, List.mem_cons, List.not_mem_nil, or_false] at hv
  rcases hv with rfl | rfl | rfl | rfl | rfl | rfl
  · exact ⟨⟨"target", .text⟩, by decide, rfl, by decide⟩
  · exact ⟨⟨"title", .trimmed⟩, by decide, rfl, by decide⟩
  · exact ⟨⟨"force", .flag⟩, by decide, rfl, by decide⟩
  · exact ⟨⟨"sourcecode", .flag⟩, by decide, rfl, by decide⟩
  · exact ⟨⟨"progressbar", .flag⟩, by decide, rfl, by decide⟩
  · exact ⟨⟨"verbose", .flag⟩, by decide, rfl, by decide⟩

/-- A list is handed to a field that admits only values that can be lists. -/
theorem exists_field_of_list {r : Request} {v : Value} (hv : v ∈ r.emptyLists ++ r.defaultLists) :
    ∃ f ∈ fields, valueOf? r.arguments f.name.toList = some v ∧ (f.kind.Admits v → v.IsListed) := by
  simp only [emptyLists, defaultLists, List.cons_append, List.nil_append, List.mem_cons,
    List.not_mem_nil, or_false] at hv
  rcases hv with rfl | rfl | rfl | rfl | rfl
  · exact ⟨⟨"filename", .list⟩, by decide, rfl, id⟩
  · exact ⟨⟨"directory", .list⟩, by decide, rfl, id⟩
  · exact ⟨⟨"ignore", .list⟩, by decide, rfl, id⟩
  · exact ⟨⟨"extensions", .extensions⟩, by decide, rfl, And.left⟩
  · exact ⟨⟨"markers", .list⟩, by decide, rfl, id⟩

theorem exists_listed_iff {v : Value} : (∃ w, v.listed = .ok w) ↔ v.elements?.isSome = true := by
  rw [Value.listed]
  cases v.elements? with
  | none => simp
  | some items => simp

theorem exists_listedOrEmpty_iff {v : Value} :
    (∃ w, v.listedOrEmpty = .ok w) ↔ v.isNothing = true ∨ v.elements?.isSome = true := by
  rw [Value.listedOrEmpty]
  split
  · next hnothing => simp [hnothing]
  · next hnothing => simp [hnothing, exists_listed_iff]

theorem exists_given_iff {field : String} {v : Value} :
    (∃ ps, given field v = .ok ps) ↔ v = .null ∨ v.elements?.isSome = true := by
  rw [given_eq]
  by_cases hv : v = .null
  · subst hv
    exact iff_of_true ⟨_, rfl⟩ (.inl rfl)
  · rw [Value.listedIfGiven_of_ne hv, ← exists_listed_iff]
    simp only [map_eq_ok, hv, false_or]
    exact ⟨fun ⟨_, w, hw, _⟩ => ⟨w, hw⟩, fun ⟨w, hw⟩ => ⟨_, w, hw, rfl⟩⟩

/-- A request is translated exactly if every list can be made. -/
theorem exists_toParams_iff (r : Request) : (∃ params, r.toParams = .ok params) ↔ r.IsListable := by
  have hlists : r.IsListable ↔ (∃ w, r.files.listedOrEmpty = .ok w) ∧
      (∃ w, r.directories.listedOrEmpty = .ok w) ∧ (∃ w, r.ignore.listedOrEmpty = .ok w) ∧
      (∃ ps, given "extensions" r.extensions = .ok ps) ∧ ∃ ps, given "markers" r.markers = .ok ps := by
    simp only [exists_listedOrEmpty_iff, exists_given_iff]
    constructor
    · rintro ⟨hempty, hdefault⟩
      simpa [emptyLists, defaultLists, and_assoc] using And.intro hempty hdefault
    · intro h
      constructor <;> simp [emptyLists, defaultLists, h]
  rw [hlists]
  constructor
  · rintro ⟨params, h⟩
    obtain ⟨files, hfiles, h⟩ := bind_eq_ok.mp h
    obtain ⟨directories, hdirectories, h⟩ := bind_eq_ok.mp h
    obtain ⟨ignore, hignore, h⟩ := bind_eq_ok.mp h
    obtain ⟨extensions, hextensions, h⟩ := bind_eq_ok.mp h
    obtain ⟨markers, hmarkers, -⟩ := bind_eq_ok.mp h
    exact ⟨⟨_, hfiles⟩, ⟨_, hdirectories⟩, ⟨_, hignore⟩, ⟨_, hextensions⟩, _, hmarkers⟩
  · rintro ⟨⟨files, hfiles⟩, ⟨directories, hdirectories⟩, ⟨ignore, hignore⟩, ⟨extensions, hextensions⟩,
      markers, hmarkers⟩
    rw [toParams, hfiles, hdirectories, hignore, hextensions, hmarkers]
    exact ⟨_, rfl⟩

theorem blames_listed (v : Value) : Blames v.listed (·.cls = .type) := by
  unfold Value.listed
  split
  · exact blames_ok _
  · exact blames_error rfl

theorem blames_listedOrEmpty (v : Value) : Blames v.listedOrEmpty (·.cls = .type) := by
  unfold Value.listedOrEmpty
  split
  · exact blames_ok _
  · exact blames_listed v

theorem blames_given (field : String) (v : Value) : Blames (given field v) (·.cls = .type) := by
  unfold given
  split
  · exact blames_ok _
  · exact (blames_listed v).map _

/-- What keeps a request from being translated is the kind of a value. -/
theorem blames_toParams (r : Request) : Blames r.toParams (·.cls = .type) := by
  refine (blames_listedOrEmpty _).bind fun files => ?_
  refine (blames_listedOrEmpty _).bind fun directories => ?_
  refine (blames_listedOrEmpty _).bind fun ignore => ?_
  refine (blames_given _ _).bind fun extensions => ?_
  exact (blames_given _ _).bind fun markers => blames_ok _

/-! ## What the checks make of both -/

section Alike

variable {r r' : Request} {name : String} {v w : Value} {α : Type} {default : α}
  {check : Value → Except Cause α}

theorem alikeAt_same (h : valueOf? r'.arguments name.toList = valueOf? r.arguments name.toList) :
    AlikeAt r'.call r.call name default check := by
  rw [AlikeAt, valueOf?_call, valueOf?_call, h]

/-- A list that is empty where its value is missing. -/
theorem alikeAt_emptyList (h : valueOf? r'.arguments name.toList = some w)
    (h' : valueOf? r.arguments name.toList = some v) (hitems : w.items? = v.items?) :
    AlikeAt r'.call r.call name [] checkList := by
  have hsettled : ∀ u : Value, settled [] checkList u.given? = checkList u := by
    intro u
    cases u <;> rfl
  rw [AlikeAt, valueOf?_call, valueOf?_call, h, h', Option.bind_some, Option.bind_some, hsettled, hsettled,
    checkList_congr hitems]

/-- A list that has a default where its value is missing. -/
theorem alikeAt_defaultList (h : valueOf? r'.arguments name.toList = some w)
    (h' : valueOf? r.arguments name.toList = some v) (hnull : w = .null ↔ v = .null)
    (hitems : w.items? = v.items?) (hcheck : ∀ v w : Value, v.items? = w.items? → check v = check w) :
    AlikeAt r'.call r.call name default check := by
  rw [AlikeAt, valueOf?_call, valueOf?_call, h, h', Option.bind_some, Option.bind_some]
  by_cases hv : v = .null
  · rw [hv, hnull.mpr hv]
  · rw [Value.given?_of_ne hv, Value.given?_of_ne (mt hnull.mp hv)]
    exact hcheck w v hitems

/-- A plain request translates into parameters of which every check makes the same as of its call. -/
theorem IsPlain.exists_alike (h : r.IsPlain) : ∃ params, r.toParams = .ok params ∧ Alike params r.call := by
  obtain ⟨hgiven, hempty, hdefault⟩ := h
  simp only [Request.emptyLists, Request.defaultLists, List.forall_mem_cons] at hempty hdefault
  obtain ⟨hfiles, hdirectories, hignore, -⟩ := hempty
  obtain ⟨hextensions, hmarkers, -⟩ := hdefault
  obtain ⟨files, hfiles, hsameFiles⟩ := hfiles.exists_listedOrEmpty
  obtain ⟨directories, hdirectories, hsameDirectories⟩ := hdirectories.exists_listedOrEmpty
  obtain ⟨ignore, hignore, hsameIgnore⟩ := hignore.exists_listedOrEmpty
  obtain ⟨extensions, hextensions, hnoExtensions, hsameExtensions⟩ := hextensions.exists_listedIfGiven
  obtain ⟨markers, hmarkers, hnoMarkers, hsameMarkers⟩ := hmarkers.exists_listedIfGiven
  refine ⟨_, toParams_eq hgiven hfiles hdirectories hignore hextensions hmarkers, ?_⟩
  exact
    { target := alikeAt_same rfl
      filename := alikeAt_emptyList rfl rfl hsameFiles
      directory := alikeAt_emptyList rfl rfl hsameDirectories
      extensions := alikeAt_defaultList rfl rfl hnoExtensions hsameExtensions @checkExtensions_congr
      ignore := alikeAt_emptyList rfl rfl hsameIgnore
      ignoreTags := alikeAt_same rfl
      hidden := alikeAt_same rfl
      ignoreSymlinks := alikeAt_same rfl
      markers := alikeAt_defaultList rfl rfl hnoMarkers hsameMarkers @checkList_congr
      title := alikeAt_same rfl
      force := alikeAt_same rfl
      validateFiles := alikeAt_same rfl
      visibility := alikeAt_same rfl
      defaultPackageName := alikeAt_same rfl
      sourceCode := alikeAt_same rfl
      progressBar := alikeAt_same rfl
      verbose := alikeAt_same (by rfl)
      unknown := by rw [unknownFields_call, unknownFields_call, List.map_nil] }

end Alike

end Request

end SourceAtlas
