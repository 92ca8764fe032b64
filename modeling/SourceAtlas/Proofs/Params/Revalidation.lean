import SourceAtlas.Proofs.LowerCase
import SourceAtlas.Proofs.Params.Checking
import SourceAtlas.Proofs.Params.Pieces

/-!
# Checking a configuration again

What a check makes of a value passes the same check unchanged, with one exception: an extension that begins
with white space.  Leading dots are dropped after an item is trimmed, so white space behind them stays.  A
configuration that was accepted is therefore accepted again and is the same exactly if no extension begins
with white space; and whatever becomes of it, only the extensions can change.
-/

namespace SourceAtlas

open Text

namespace Text

theorem length_trimEnd_le (t : Text) : (trimEnd t).length ≤ t.length := by
  obtain ⟨blanks, ht, -⟩ := exists_trimEnd t
  have hlength := congrArg List.length ht
  rw [List.length_append] at hlength
  omega

/-- A text that is not shorter when it is trimmed does not begin with white space. -/
theorem not_isBlank_of_length_trim {t : Text} (h : t.length ≤ (trim t).length) {c : Char}
    (hc : t.head? = some c) : isBlank c = false := by
  have hstart : t.length ≤ (trimStart t).length := Nat.le_trans h (length_trimEnd_le (trimStart t))
  have hsame : trimStart t = t := (List.dropWhile_sublist isBlank).eq_of_length_le hstart
  have hstop := List.head?_dropWhile_not isBlank t
  rw [← trimStart, hsame, hc] at hstop
  exact hstop

end Text

namespace Config

/-! ## Single values -/

theorem trim_eq_of_checkTrimmed {v : Value} {t : Text} (h : checkTrimmed v = .ok t) : trim t = t := by
  obtain ⟨u, -, rfl⟩ := map_eq_ok.mp h
  have htrimmed := trimmed_trim u
  exact trim_eq_self htrimmed.first htrimmed.last

theorem checkTrimmed_again {v : Value} {t : Text} (h : checkTrimmed v = .ok t) :
    checkTrimmed (.text t) = .ok t :=
  congrArg Except.ok (trim_eq_of_checkTrimmed h)

theorem checkPackageName_again {v : Value} {t : Text} (h : checkPackageName v = .ok t) :
    checkPackageName (.text t) = .ok t := by
  obtain ⟨name, hname, h⟩ := bind_eq_ok.mp h
  split at h
  · cases h
  · next hne =>
      obtain rfl := Except.ok.inj h
      have hpass : checkPackageName (.text name) =
          if trim name = [] then .error .emptyPackageName else .ok (trim name) := rfl
      rw [hpass, trim_eq_of_checkTrimmed hname, if_neg hne]

/-- A list of texts as a value. -/
def listValue (ts : List Text) : Value := .list (ts.map .text)

theorem checkList_listValue (ts : List Text) :
    checkList (listValue ts) = .ok (Value.items?.pieces ts) := by
  rw [checkList, listValue, Value.items?_texts]

theorem checkList_of_isItem {ts : List Text} (h : ∀ t ∈ ts, IsItem t) :
    checkList (listValue ts) = .ok ts := by
  rw [checkList_listValue, Value.pieces_of_isItem h]

theorem checkList_again {v : Value} {ts : List Text} (h : checkList v = .ok ts) :
    checkList (listValue ts) = .ok ts :=
  checkList_of_isItem fun _ => isItem_of_checkList h

/-- The levels of visibility are items in lower case. -/
theorem isItem_of_mem_levels : ∀ t ∈ visibilityLevels, IsItem t ∧ lower t = t := by
  decide +kernel

theorem checkVisibility_of_mem {levels : List Text} (h : ∀ t ∈ levels, t ∈ visibilityLevels) :
    checkVisibility (listValue levels) = .ok levels := by
  have hitems := checkList_of_isItem fun t ht => (isItem_of_mem_levels t (h t ht)).1
  have hlower : levels.map lower = levels := by
    rw [List.map_congr_left fun t ht => (isItem_of_mem_levels t (h t ht)).2, List.map_id']
  have hknown : (levels.filter fun t => !visibilityLevels.contains t) = [] := by
    rw [List.filter_eq_nil_iff]
    simpa using h
  refine bind_eq_ok.mpr ⟨levels, hitems, ?_⟩
  dsimp only
  rw [hlower, if_pos hknown]

theorem checkVisibility_again {v : Value} {levels : List Text} (h : checkVisibility v = .ok levels) :
    checkVisibility (listValue levels) = .ok levels := by
  obtain ⟨items, -, h⟩ := bind_eq_ok.mp h
  dsimp only at h
  split at h
  · next hknown =>
      obtain rfl := Except.ok.inj h
      refine checkVisibility_of_mem fun t ht => ?_
      simpa using List.filter_eq_nil_iff.mp hknown t ht
  · cases h

/-! ## Extensions -/

/-- An extension as it is accepted: in lower case, without leading dots, and an item but for white space at
its beginning. -/
structure IsNormal (e : Text) : Prop where
  ne_nil : e ≠ []
  lower : ∀ c ∈ e, IsLower c
  dot : ∀ c, e.head? = some c → c ≠ '.'
  comma : ',' ∉ e
  last : ∀ c, e.getLast? = some c → isBlank c = false

/-- Dropping the leading dots of a lower-case text is all that is left to do with it. -/
theorem normalExtension_of_isLower {t : Text} (h : ∀ c ∈ t, IsLower c) :
    normalExtension t = t.dropWhile (· == '.') :=
  lower_eq_self fun c hc => h c ((List.dropWhile_sublist _).subset hc)

theorem IsNormal.normalExtension_eq {e : Text} (h : IsNormal e) : normalExtension e = e := by
  rw [normalExtension_of_isLower h.lower]
  cases e with
  | nil => rfl
  | cons c cs => exact List.dropWhile_cons_of_neg (by simpa using h.dot c rfl)

theorem isNormal_normalExtension {t : Text} (h : IsItem t) (hne : normalExtension t ≠ []) :
    IsNormal (normalExtension t) := by
  have hsuffix : t.dropWhile (· == '.') <:+ t := List.dropWhile_suffix _
  refine ⟨hne, fun _ => isLower_of_mem_lower, fun c hc hdot => ?_, fun hcomma => ?_, fun c hc => ?_⟩
  · subst hdot
    have hstop := List.head?_dropWhile_not (· == '.') t
    rw [head?_lower hc (by decide)] at hstop
    exact absurd hstop (by simp)
  · exact h.comma (hsuffix.subset (mem_of_mem_lower hcomma (by decide)))
  · rw [Bool.eq_false_iff]
    intro hblank
    have hlast := getLast?_lower hc (by simp [isMark, hblank])
    obtain ⟨dots, hdots⟩ := hsuffix
    have hlast' : t.getLast? = some c := by rw [← hdots, List.getLast?_append, hlast, Option.some_or]
    exact absurd hblank (by simp [h.last c hlast'])

theorem isNormal_of_checkExtensions {v : Value} {es : List Text} (h : checkExtensions v = .ok es) :
    ∀ e ∈ es, IsNormal e := by
  obtain ⟨items, hitems, h⟩ := bind_eq_ok.mp h
  dsimp only at h
  split at h
  · cases h
  · next hempty =>
      obtain rfl := Except.ok.inj h
      intro e he
      obtain ⟨t, ht, rfl⟩ := List.mem_map.mp he
      exact isNormal_normalExtension (isItem_of_checkList hitems ht) fun hnil =>
        hempty (List.contains_iff_mem.mpr (hnil ▸ he))

/-- Extensions pass their check again unchanged exactly if none begins with white space. -/
theorem checkExtensions_again_iff {es : List Text} (h : ∀ e ∈ es, IsNormal e) :
    checkExtensions (listValue es) = .ok es ↔ ∀ e ∈ es, ∀ c, e.head? = some c → isBlank c = false := by
  have hpieces : Value.items?.pieces es = (es.map trim).filter (· ≠ []) :=
    Value.pieces_of_not_mem fun e he => (h e he).comma
  constructor
  · intro hpass e he c hc
    obtain ⟨items, hitems, hpass⟩ := bind_eq_ok.mp hpass
    rw [checkList_listValue, hpieces] at hitems
    obtain rfl := Except.ok.inj hitems
    dsimp only at hpass
    split at hpass
    · cases hpass
    · have hsame := Except.ok.inj hpass
      -- no trimmed extension is empty, since there are as many as before
      have hlength : ((es.map trim).filter (· ≠ [])).length = (es.map trim).length := by
        rw [← List.length_map normalExtension, hsame, List.length_map]
      rw [List.filter_eq_self.mpr (List.length_filter_eq_length_iff.mp hlength), List.map_map] at hsame
      have hfixed : normalExtension (trim e) = e :=
        List.map_inj_left.mp (hsame.trans (List.map_id' es).symm) e he
      have hlower := normalExtension_of_isLower fun c hc => (h e he).lower c (trim_subset e hc)
      rw [hlower] at hfixed
      refine not_isBlank_of_length_trim ?_ hc
      rw [← congrArg List.length hfixed]
      exact (List.dropWhile_sublist _).length_le
  · intro hfirst
    have hitems : checkList (listValue es) = .ok es := by
      refine checkList_of_isItem fun e he => ?_
      exact ⟨⟨hfirst e he, (h e he).last⟩, (h e he).ne_nil, (h e he).comma⟩
    have hnormal : es.map normalExtension = es := by
      rw [List.map_congr_left fun e he => (h e he).normalExtension_eq, List.map_id']
    refine bind_eq_ok.mpr ⟨es, hitems, ?_⟩
    dsimp only
    rw [hnormal, if_neg]
    exact fun hempty => (h [] (List.contains_iff_mem.mp hempty)).ne_nil rfl

/-! ## Configurations -/

/-- The default of a field, or a value that passed its check, passes it again. -/
theorem check_value_again {α : Type} {params : Params} {name : String} {default : α}
    {check : Value → Except Cause α} {write : α → Value}
    (hissue : issue? params name (causeOf check) = none) (hdefault : check (write default) = .ok default)
    (hagain : ∀ v a, check v = .ok a → check (write a) = .ok a) :
    check (write (checked params name default check).value) =
      .ok (checked params name default check).value := by
  have hissues : (checked params name default check).issues = [] := by
    rw [issues_checked, hissue]
    rfl
  obtain heq | ⟨v, hv⟩ := checked_cases hissues
  · rw [heq, hdefault]
  · exact hagain v _ hv

/-- A field whose value passes its check has what the check makes of it, and no issue. -/
theorem checked_of_ok {α : Type} (params : Params) (name : String) (default : α)
    {check : Value → Except Cause α} {v : Value} {a : α} (hv : valueOf? params name.toList = some v)
    (h : check v = .ok a) :
    (checked params name default check).value = a ∧ issue? params name (causeOf check) = none := by
  have hchecked : checked params name default check = ⟨a, []⟩ := by
    unfold checked
    rw [hv]
    dsimp only
    rw [h]
  have hissue := issues_checked params name default check
  rw [hchecked] at hissue
  exact ⟨by rw [hchecked], Option.toList_eq_nil_iff.mp hissue.symm⟩

/-- The fields of a configuration, apart from the extensions, pass their checks. -/
structure Passes (c : Config) : Prop where
  filename : checkList (listValue c.filename) = .ok c.filename
  directory : checkList (listValue c.directory) = .ok c.directory
  ignore : checkList (listValue c.ignore) = .ok c.ignore
  ignoreTags : checkList (listValue c.ignoreTags) = .ok c.ignoreTags
  markers : checkList (listValue c.markers) = .ok c.markers
  title : checkTrimmed (.text c.title) = .ok c.title
  visibility : checkVisibility (listValue c.visibility) = .ok c.visibility
  packageName : checkPackageName (.text c.defaultPackageName) = .ok c.defaultPackageName

variable {params : Params} {c : Config}

theorem passes_of_ofParams (h : ofParams params = .ok c) : Passes c := by
  obtain ⟨hnone, rfl⟩ := ofParams_eq_ok_iff.mp h
  have hissue := (issuesOf_eq_nil_iff.mp hnone).1
  constructor
  · exact check_value_again (hissue ⟨"filename", .list⟩ (by decide)) rfl fun _ _ => checkList_again
  · exact check_value_again (hissue ⟨"directory", .list⟩ (by decide)) rfl fun _ _ => checkList_again
  · exact check_value_again (hissue ⟨"ignore", .list⟩ (by decide)) rfl fun _ _ => checkList_again
  · exact check_value_again (hissue ⟨"ignore_tags", .list⟩ (by decide)) rfl fun _ _ => checkList_again
  · exact check_value_again (hissue ⟨"markers", .list⟩ (by decide))
      (checkList_of_isItem (by decide)) fun _ _ => checkList_again
  · exact check_value_again (hissue ⟨"title", .trimmed⟩ (by decide)) rfl fun _ _ => checkTrimmed_again
  · exact check_value_again (hissue ⟨"visibility", .visibility⟩ (by decide)) rfl fun _ _ =>
      checkVisibility_again
  · exact check_value_again (hissue ⟨"defaultpackagename", .packageName⟩ (by decide)) rfl fun _ _ =>
      checkPackageName_again

theorem isNormal_of_ofParams (h : ofParams params = .ok c) : ∀ e ∈ c.extensions, IsNormal e := by
  obtain ⟨hnone, rfl⟩ := ofParams_eq_ok_iff.mp h
  have hissue := (issuesOf_eq_nil_iff.mp hnone).1
  have hdefault : checkExtensions (listValue ({} : Config).extensions) = .ok ({} : Config).extensions :=
    toOption_eq_some.mp (by decide +kernel)
  have hissues := issues_checked params "extensions" ({} : Config).extensions checkExtensions
  rw [show issue? params "extensions" (causeOf checkExtensions) = none from
    hissue ⟨"extensions", .extensions⟩ (by decide), Option.toList_none] at hissues
  obtain heq | ⟨v, hv⟩ := checked_cases hissues
  · rw [show (read params).extensions = _ from heq]
    exact isNormal_of_checkExtensions hdefault
  · exact isNormal_of_checkExtensions hv

/-- Only the check of the extensions decides what becomes of a configuration of which all other fields
pass. -/
theorem ofParams_toParams (h : Passes c) :
    ofParams c.toParams =
      match checkExtensions (listValue c.extensions) with
      | .ok es => .ok { c with extensions := es }
      | .error cause => .error [⟨"extensions".toList, cause, listValue c.extensions⟩] := by
  have hunknown : unknownFields c.toParams = [] := rfl
  have hgiven : valueOf? c.toParams "extensions".toList = some (listValue c.extensions) := rfl
  let base : Config := {}
  have flag (name : String) (default b : Bool)
      (hv : valueOf? c.toParams name.toList = some (.flag b)) :=
    checked_of_ok c.toParams name default hv (show checkFlag (.flag b) = .ok b from rfl)
  have list (name : String) (default : List Text) {ts : List Text}
      (hv : valueOf? c.toParams name.toList = some (listValue ts))
      (hts : checkList (listValue ts) = .ok ts) := checked_of_ok c.toParams name default hv hts
  obtain ⟨target, htarget⟩ := checked_of_ok c.toParams "target" base.target rfl
    (show checkText (.text c.target) = .ok c.target from rfl)
  obtain ⟨filename, hfilename⟩ := list "filename" base.filename rfl h.filename
  obtain ⟨directory, hdirectory⟩ := list "directory" base.directory rfl h.directory
  obtain ⟨ignore, hignore⟩ := list "ignore" base.ignore rfl h.ignore
  obtain ⟨ignoreTags, hignoreTags⟩ := list "ignore_tags" base.ignoreTags rfl h.ignoreTags
  obtain ⟨hidden, hhidden⟩ := flag "hidden" base.hidden c.hidden rfl
  obtain ⟨ignoreSymlinks, hignoreSymlinks⟩ := flag "ignore_symlinks" base.ignoreSymlinks c.ignoreSymlinks rfl
  obtain ⟨markers, hmarkers⟩ := list "markers" base.markers rfl h.markers
  obtain ⟨title, htitle⟩ := checked_of_ok c.toParams "title" base.title rfl h.title
  obtain ⟨force, hforce⟩ := flag "force" base.force c.force rfl
  obtain ⟨validate, hvalidate⟩ := flag "validate_files" base.validateFiles c.validateFiles rfl
  obtain ⟨visibility, hvisibility⟩ := checked_of_ok c.toParams "visibility" base.visibility rfl h.visibility
  obtain ⟨packageName, hpackageName⟩ :=
    checked_of_ok c.toParams "defaultpackagename" base.defaultPackageName rfl h.packageName
  obtain ⟨sourceCode, hsourceCode⟩ := flag "sourcecode" base.sourceCode c.sourceCode rfl
  obtain ⟨progressBar, hprogressBar⟩ := flag "progressbar" base.progressBar c.progressBar rfl
  obtain ⟨verbose, hverbose⟩ := flag "verbose" base.verbose c.verbose rfl
  have hissues : issuesOf c.toParams =
      (issue? c.toParams "extensions" (causeOf checkExtensions)).toList := by
    simp only [issuesOf, fields, List.flatMap_cons, List.flatMap_nil, FieldKind.cause?, htarget,
      hfilename, hdirectory, hignore, hignoreTags, hhidden, hignoreSymlinks, hmarkers, htitle, hforce,
      hvalidate, hvisibility, hpackageName, hsourceCode, hprogressBar, hverbose, hunknown,
      Option.toList_none, List.nil_append, List.append_nil]
  have hread : read c.toParams = { c with
      extensions := (checked c.toParams "extensions" base.extensions checkExtensions).value } := by
    simp only [read, target, filename, directory, ignore, ignoreTags, hidden, ignoreSymlinks, markers,
      title, force, validate, visibility, packageName, sourceCode, progressBar, verbose, base]
  rw [ofParams_eq, hissues, hread]
  cases hcheck : checkExtensions (listValue c.extensions) with
  | ok es =>
      obtain ⟨extensions, hextensions⟩ := checked_of_ok c.toParams "extensions" base.extensions hgiven hcheck
      rw [hextensions, extensions]
      rfl
  | error cause =>
      have hcause : causeOf checkExtensions (listValue c.extensions) = some cause := by
        rw [causeOf, hcheck]
      rw [issue?, hgiven, Option.bind_some, hcause]
      rfl

/-- A configuration that was accepted is accepted again and is the same exactly if none of its extensions
begins with white space.  Otherwise it is the same but for the extensions, or is refused for them alone. -/
theorem accepted_configuration_is_accepted_again_iff (h : ofParams params = .ok c) :
    (ofParams c.toParams = .ok c ↔
      ∀ e ∈ c.extensions, ∀ d, e.head? = some d → isBlank d = false) ∧
    (∀ c', ofParams c.toParams = .ok c' → c' = { c with extensions := c'.extensions }) ∧
    ∀ issues, ofParams c.toParams = .error issues → issues.map (·.field) = ["extensions".toList] := by
  have hagain := ofParams_toParams (passes_of_ofParams h)
  rw [← checkExtensions_again_iff (isNormal_of_ofParams h), hagain]
  cases checkExtensions (listValue c.extensions) with
  | ok es =>
      refine ⟨⟨fun heq => ?_, fun heq => ?_⟩, fun c' hc' => ?_, fun issues hissues => ?_⟩
      · exact congrArg Except.ok (congrArg Config.extensions (Except.ok.inj heq))
      · obtain rfl := Except.ok.inj heq
        rfl
      · obtain rfl := Except.ok.inj hc'
        rfl
      · cases hissues
  | error cause =>
      refine ⟨⟨fun heq => ?_, fun heq => ?_⟩, fun c' hc' => ?_, fun issues hissues => ?_⟩
      · cases heq
      · cases heq
      · cases hc'
      · obtain rfl := Except.error.inj hissues
        rfl

/-- Parameters of several kinds, none of them in the form in which it is kept. -/
def variedParams : Params :=
  [("visibility".toList, .list [.text "Public, PRIVATE".toList, .text ",".toList]),
    ("extensions".toList, .tuple [.text "..PHP".toList, .text " .İnc ,php".toList]),
    ("title".toList, .text "\t a b ".toList), ("force".toList, .text "Yes".toList)]

/-- The configuration that they are. -/
def variedConfig : Config :=
  { extensions := ["php".toList, lower "İnc".toList, "php".toList]
    title := "a b".toList
    force := true
    visibility := ["public".toList, "private".toList] }

theorem varied_configuration_is_accepted_again :
    ofParams variedParams = .ok variedConfig ∧
      (∀ e ∈ variedConfig.extensions, ∀ d, e.head? = some d → isBlank d = false) ∧
      ofParams variedConfig.toParams = .ok variedConfig := by
  have h : ofParams variedParams = .ok variedConfig := toOption_eq_some.mp (by decide +kernel)
  have hall : variedConfig.extensions.all (fun e => e.head?.all fun d => !isBlank d) = true := by
    decide +kernel
  have hfirst : ∀ e ∈ variedConfig.extensions, ∀ d, e.head? = some d → isBlank d = false := by
    simpa only [List.all_eq_true, Option.all_eq_true, Bool.not_eq_true'] using hall
  exact ⟨h, hfirst, (accepted_configuration_is_accepted_again_iff h).1.mpr hfirst⟩

/-- White space behind the leading dots of an extension is kept at first.  Checked again, it is trimmed, or
what is left of the extension is nothing but a dot. -/
theorem white_space_behind_dots_is_kept_once :
    ((ofParams [("extensions".toList, .text ". php".toList)]).toOption =
        some { extensions := [" php".toList] } ∧
      (ofParams { extensions := [" php".toList] : Config }.toParams).toOption =
        some { extensions := ["php".toList] }) ∧
    ((ofParams [("extensions".toList, .text ". .".toList)]).toOption =
        some { extensions := [" .".toList] } ∧
      (ofParams { extensions := [" .".toList] : Config }.toParams).toOption = none) := by
  decide +kernel

end Config

end SourceAtlas
