import SourceAtlas.Proofs.Bytes.Utf8
import SourceAtlas.Proofs.Document.Unreadable

/-!
# Validation

Validation reports a file whose bytes are not valid UTF-8 when it decodes the file, and only a file
that is described anew is decoded.  So the errors of a description are those of the invalid files
among the ones that are described anew, in the order of the files; a file that is taken over from
the earlier document is not reported, however invalid it is.
-/

namespace SourceAtlas

open Text Xml

/-- The errors among the signals. -/
def errors (signals : List Signal) : List Event :=
  signals.filterMap fun
    | .event e => if e.priority = Event.errorPriority then some e else none
    | .processed => none

@[simp] theorem errors_append (signals signals' : List Signal) :
    errors (signals ++ signals') = errors signals ++ errors signals' :=
  List.filterMap_append

@[simp] theorem errors_processed (signals : List Signal) :
    errors (.processed :: signals) = errors signals := rfl

theorem errors_event_of_ne {e : Event} (h : e.priority ≠ Event.errorPriority)
    (signals : List Signal) : errors (.event e :: signals) = errors signals := by
  simp only [errors, List.filterMap_cons, if_neg h]

/-- What is left out of a selection is nothing exactly if the selection says as much as the whole. -/
theorem filterMap_filter_eq_iff {α β : Type} {f : α → Option β} {p : α → Bool} {xs : List α} :
    (xs.filter p).filterMap f = xs.filterMap f ↔ ∀ x ∈ xs, p x = false → f x = none := by
  induction xs with
  | nil => simp only [List.filter_nil, List.filterMap_nil, List.not_mem_nil, false_implies,
      implies_true]
  | cons x xs ih =>
      rw [List.forall_mem_cons, ← ih]
      cases hp : p x with
      | true =>
          cases hf : f x <;> simp [hp, hf]
      | false =>
          cases hf : f x with
          | none => simp [hp, hf]
          | some y =>
              have hle : ((xs.filter p).filterMap f).length ≤ (xs.filterMap f).length :=
                (List.filter_sublist.filterMap f).length_le
              constructor
              · intro h
                have hlength := congrArg List.length h
                simp only [List.filter_cons, hp, List.filterMap_cons, hf, List.length_cons,
                  Bool.false_eq_true, if_false] at hlength
                omega
              · rintro ⟨h, -⟩
                exact absurd (h rfl) (by simp)

namespace Loading

/-- What is reported of the earlier document is no error in a source file. -/
theorem errors_ofBytes {path fingerprint : Text} {bytes : Bytes} {loading : Loading}
    (h : ofBytes path fingerprint bytes = .ok loading) :
    errors (loading.events.map Signal.event) = [] := by
  rw [ofBytes] at h
  split at h
  · obtain rfl := Except.ok.inj h
    have hwarning : Event.warningPriority ≠ Event.errorPriority := by decide
    exact errors_event_of_ne hwarning []
  · cases h
  · split at h
    · obtain rfl := Except.ok.inj h
      rfl
    · obtain rfl := Except.ok.inj h
      exact errors_event_of_ne (by decide) []

end Loading

namespace Describer

variable {d : Describer} {ws : Workspace} {includeSource : Bool} {previous : Previous}
  {files : List Path}

theorem errors_load {fingerprint : Text} {loading : Loading}
    (h : d.load ws fingerprint = .ok loading) :
    errors (loading.events.map Signal.event) = [] := by
  rw [load] at h
  split at h
  · obtain ⟨isFile, -, h⟩ := bind_eq_ok.mp h
    split at h
    · obtain ⟨bytes, -, h⟩ := bind_eq_ok.mp h
      exact Loading.errors_ofBytes h
    · obtain rfl := Except.ok.inj h
      rfl
  · obtain rfl := Except.ok.inj h
    rfl

/-- The error that validation reports of a file, if its bytes are not valid. -/
def complaint? (d : Describer) (ws : Workspace) (file : Path) : Option Event :=
  (Utf8.firstMalformed (ws.contentOf file)).map fun m =>
    ⟨d.shownPath file ++ " is not valid UTF-8: ".toList ++ m.message, Event.errorPriority⟩

theorem complaint?_eq_none_iff {file : Path} :
    d.complaint? ws file = none ↔ Utf8.Valid (ws.contentOf file) := by
  rw [complaint?, Option.map_eq_none_iff, Utf8.firstMalformed_eq_none_iff]

/-- The element of the file is taken over from the earlier document. -/
def isTakenOver (d : Describer) (ws : Workspace) (previous : Previous) (file : Path) : Bool :=
  (previous.unchanged? (d.shownPath file) (Md5.hexDigest (ws.contentOf file))).isSome

/-- What is told of a file that is described anew is what validation reports of it. -/
theorem errors_fileElement (hvalidate : d.description.validate = true) (includeSource : Bool)
    (file : Path) :
    errors ((d.description.fileElement includeSource (d.shownPath file)
      (ws.contentOf file)).2.map Signal.event) = (d.complaint? ws file).toList := by
  simp only [Description.fileElement, decodeSource, hvalidate, complaint?]
  cases Utf8.firstMalformed (ws.contentOf file) with
  | none => rfl
  | some m => rfl

theorem errors_itemOf (hvalidate : d.description.validate = true) (file : Path) :
    errors ((d.itemOf includeSource previous file (ws.contentOf file)).2.map Signal.event) =
      if d.isTakenOver ws previous file then [] else (d.complaint? ws file).toList := by
  cases h : previous.unchanged? (d.shownPath file) (Md5.hexDigest (ws.contentOf file)) with
  | some entry =>
      rw [if_pos (by rw [isTakenOver, h, Option.isSome_some])]
      simp only [itemOf, h]
      exact errors_event_of_ne (by simp only; decide) []
  | none =>
      rw [if_neg (by rw [isTakenOver, h, Option.isSome_none]; exact Bool.false_ne_true),
        ← errors_fileElement hvalidate includeSource]
      simp only [itemOf, h]
      exact errors_event_of_ne (by simp only; decide) _

/-- One file after the other, the errors are those of the files that are described anew. -/
theorem errors_itemsOf (hvalidate : d.description.validate = true)
    (hread : ∀ file ∈ files, ws.read file.text = .ok (ws.contentOf file)) :
    errors (d.itemsOf ws includeSource previous files).signals =
      (files.filter fun file => !d.isTakenOver ws previous file).filterMap (d.complaint? ws) := by
  induction files with
  | nil => rfl
  | cons file files ih =>
      rw [itemsOf, hread file List.mem_cons_self]
      simp only
      rw [List.cons_append, errors_processed, errors_append, errors_itemOf hvalidate,
        ih fun other hother => hread other (List.mem_cons_of_mem file hother)]
      cases htaken : d.isTakenOver ws previous file with
      | true => simp [htaken]
      | false => cases hcomplaint : d.complaint? ws file <;> simp [htaken, hcomplaint]

/-- Of a whole description, what is told of its files alone can be an error. -/
theorem errors_describe {loading : Loading} (hfiles : files ≠ [])
    (hload : d.load ws (d.description.fingerprint includeSource) = .ok loading) :
    errors (d.describe ws includeSource files).signals =
      errors (d.itemsOf ws includeSource loading.previous files).signals := by
  rw [describe, if_neg (by rwa [List.isEmpty_iff])]
  simp only [hload]
  rw [errors_append, errors_load hload, List.nil_append]

theorem readable_of_describe {content : Text}
    (h : (d.describe ws includeSource files).outcome = .ok content) :
    files ≠ [] ∧ (∀ file ∈ files, ws.read file.text = .ok (ws.contentOf file)) ∧
      ∃ loading, d.load ws (d.description.fingerprint includeSource) = .ok loading := by
  obtain ⟨e, hproject, -⟩ := describe_eq_ok h
  obtain ⟨loading, items, hload, hitems, -⟩ := project_eq_ok.mp hproject
  refine ⟨?_, ?_, loading, hload⟩
  · rintro rfl
    cases h
  · obtain ⟨-, hread⟩ | ⟨fault, -, herror⟩ := readable_or_error ws files
    · exact hread
    · exact absurd ((herror d includeSource loading.previous).symm.trans hitems) (by simp)

/-- With validation, the errors of a description are the complaints of the files that are described
anew, in their order: a file is complained of if its bytes are not valid.  So they are the
complaints of all files exactly if every file that is taken over from the earlier document is
valid. -/
theorem errors_are_of_files_described_anew {content : Text}
    (hvalidate : d.description.validate = true)
    (h : (d.describe ws includeSource files).outcome = .ok content) :
    (∀ file ∈ files, ws.read file.text = .ok (ws.contentOf file) ∧
        ((d.complaint? ws file).isSome ↔ ¬ Utf8.Valid (ws.contentOf file))) ∧
      ∃ loading, d.load ws (d.description.fingerprint includeSource) = .ok loading ∧
        errors (d.describe ws includeSource files).signals =
          (files.filter fun file => !d.isTakenOver ws loading.previous file).filterMap
            (d.complaint? ws) ∧
        (errors (d.describe ws includeSource files).signals =
            files.filterMap (d.complaint? ws) ↔
          ∀ file ∈ files, d.isTakenOver ws loading.previous file = true →
            Utf8.Valid (ws.contentOf file)) := by
  obtain ⟨hfiles, hread, loading, hload⟩ := readable_of_describe h
  have herrors := errors_describe hfiles hload
  rw [errors_itemsOf hvalidate hread] at herrors
  refine ⟨fun file hfile => ⟨hread file hfile, ?_⟩, loading, hload, herrors, ?_⟩
  · rw [← complaint?_eq_none_iff (d := d), ← ne_eq, Option.isSome_iff_ne_none]
  · rw [herrors, filterMap_filter_eq_iff]
    simp only [Bool.not_eq_false', complaint?_eq_none_iff]

/-- A workspace with a source file that is not valid UTF-8. -/
def invalidFile : Workspace :=
  { oneFile with
    files := ⟨[(["w".toList], .directory), (["w".toList, "a.php".toList], .file [0x23, 0xFF])]⟩ }

/-- A describer that validates. -/
def validatingDescriber : Describer :=
  { overDocument with description := { validate := true } }

theorem invalid_file_is_complained_of :
    errors (validatingDescriber.describe invalidFile false [.ofText "/w/a.php".toList]).signals =
      [⟨("a.php is not valid UTF-8: 'utf-8' codec can't decode byte 0xff in position 1: " ++
        "invalid start byte").toList, Event.errorPriority⟩] := by
  have hok : (validatingDescriber.describe invalidFile false [.ofText "/w/a.php".toList]).outcome.isOk = true := by
    decide +kernel
  obtain ⟨content, hcontent⟩ := exists_eq_ok_of_isOk hok
  obtain ⟨-, loading, hload, herrors, -⟩ := errors_are_of_files_described_anew rfl hcontent
  obtain rfl : {} = loading := Except.ok.inj hload
  rw [herrors]
  decide +kernel

/-- The workspace with an earlier document. -/
def withDocument (ws : Workspace) (document : Text) : Workspace :=
  { ws with
    files := ⟨ws.files.entries ++
      [(["w".toList, "structure.xml".toList], .file (Utf8.encode document))]⟩ }

/-- A file that is not valid is not reported when it was described before: the second of two
descriptions that both validate succeeds without an error. -/
theorem invalid_file_is_not_complained_of_again :
    ∃ content, (validatingDescriber.describe invalidFile false [.ofText "/w/a.php".toList]).outcome =
        .ok content ∧
      (validatingDescriber.describe (withDocument invalidFile content) false
        [.ofText "/w/a.php".toList]).outcome.isOk = true ∧
      errors (validatingDescriber.describe (withDocument invalidFile content) false
        [.ofText "/w/a.php".toList]).signals = [] ∧
      ¬ Utf8.Valid ((withDocument invalidFile content).contentOf (.ofText "/w/a.php".toList)) := by
  have hagain : ((validatingDescriber.describe invalidFile false
      [.ofText "/w/a.php".toList]).outcome.map fun content =>
        let ws := withDocument invalidFile content
        let again := validatingDescriber.describe ws false [.ofText "/w/a.php".toList]
        (again.outcome.isOk, errors again.signals,
          (Utf8.firstMalformed (ws.contentOf (.ofText "/w/a.php".toList))).isSome)) =
      .ok (true, [], true) := by
    decide +kernel
  obtain ⟨content, hcontent, hagain⟩ := map_eq_ok.mp hagain
  obtain ⟨hok, herrors, hinvalid⟩ := Prod.mk.inj hagain |>.imp_right Prod.mk.inj
  refine ⟨content, hcontent, hok, herrors, ?_⟩
  rw [← Utf8.firstMalformed_eq_none_iff]
  exact Option.isSome_iff_ne_none.mp hinvalid

end Describer

end SourceAtlas
