import SourceAtlas.Proofs.Document.Fresh
import SourceAtlas.Proofs.Xml.Reading

/-!
# Documents that can be read again

A document is well-formed exactly if all its elements can be written.  For an element that is made
anew, all depends on the notes of markers, whose characters are those of the file.  An element that is
taken over was read before, so its characters are legal; only an attribute that a document type gave
by default may have a local name that is none.
-/

namespace SourceAtlas

open Text Xml

namespace Describer

variable {d : Describer} {ws : Workspace} {includeSource : Bool} {files : List Path}

/-- Whatever earlier document is loaded, its elements are as they were read. -/
theorem lawful_of_load {fingerprint : Text} {loading : Loading}
    (h : d.load ws fingerprint = .ok loading) :
    ∀ entry ∈ loading.previous.entries, ∀ x ∈ entry.2.elements, x.Lawful := by
  rcases previous_of_load h with hnone | ⟨bytes, root, hread, hroot⟩
  · rw [hnone]
    simp
  · rw [hroot]
    intro entry hentry x hx
    have hmem : entry.2 ∈ root.elements := List.mem_map_of_mem (List.mem_filter.mp hentry).1
    exact lawful_of_read hread x (Element.mem_elements_trans hx hmem)

/-- The element of a file can be written: its markers have legal notes if it is made anew, and its
attributes have names if it is taken over. -/
def CanWrite (d : Describer) (previous : Previous) (file : Path) (bytes : Bytes) : Prop :=
  match previous.unchanged? (d.shownPath file) (Md5.hexDigest bytes) with
  | some (_, e) => ∀ x ∈ e.elements, ∀ a ∈ x.attributes, isName a.1.localName = true
  | none => ∀ m ∈ d.description.markersIn bytes, Legal m.note

section Items

variable {p : Previous} (hp : ∀ entry ∈ p.entries, ∀ x ∈ entry.2.elements, x.Lawful)

include hp

theorem lawful_unchanged {path digest : Text} {place : Address} {e : Element}
    (h : p.unchanged? path digest = some (place, e)) : ∀ x ∈ e.elements, x.Lawful :=
  hp _ (of_unchanged? h).1

theorem named_itemOf (file : Path) (bytes : Bytes) :
    ∀ x ∈ (d.itemOf includeSource p file bytes).1.element.elements, x.Named := by
  cases h : p.unchanged? (d.shownPath file) (Md5.hexDigest bytes) with
  | none =>
      rw [itemOf_of_none h]
      exact named_fileElement d.description includeSource _ bytes
  | some entry =>
      rw [itemOf_of_some h]
      exact fun x hx => (lawful_unchanged hp h x hx).toNamed

variable (hstrings : d.description.LegalStrings)

include hstrings

theorem tagged_itemOf {file : Path} (hpath : Legal file.text) {bytes : Bytes}
    (hkeeps : d.CanWrite p file bytes) :
    ∀ x ∈ (d.itemOf includeSource p file bytes).1.element.elements, x.Tagged := by
  unfold CanWrite at hkeeps
  cases h : p.unchanged? (d.shownPath file) (Md5.hexDigest bytes) with
  | none =>
      rw [itemOf_of_none h]
      exact tagged_fileElement includeSource bytes (legal_shownPath hpath) hstrings.packageName
        hstrings.markers
  | some entry =>
      rw [itemOf_of_some h]
      rw [h] at hkeeps
      intro x hx
      have hlawful := lawful_unchanged hp h x hx
      exact ⟨hlawful.toNamed, hkeeps x hx, hlawful.values⟩

omit hstrings in
theorem legal_itemOf {file : Path} {bytes : Bytes} (hkeeps : d.CanWrite p file bytes) :
    (d.itemOf includeSource p file bytes).1.element.AllTexts Legal := by
  unfold CanWrite at hkeeps
  cases h : p.unchanged? (d.shownPath file) (Md5.hexDigest bytes) with
  | none =>
      rw [itemOf_of_none h]
      rw [h] at hkeeps
      exact (allTexts_fileElement_iff includeSource bytes legal_nil
        fun _ hc => (plain_of_mem_encode hc).1).mpr hkeeps
  | some entry =>
      rw [itemOf_of_some h]
      exact fun x hx => ⟨(lawful_unchanged hp h x hx).text, (lawful_unchanged hp h x hx).tail⟩

/-- All elements of a document can be written exactly if those of the files can. -/
theorem writable_indentItems_iff (hpaths : ∀ file ∈ files, Legal file.text)
    (bytesOf : Path → Bytes) :
    (∀ x ∈ (indentItems (rootElement d.description (d.description.fingerprint includeSource))
        (files.map fun file => (d.itemOf includeSource p file (bytesOf file)).1)).elements,
      x.Writable) ↔ ∀ file ∈ files, d.CanWrite p file (bytesOf file) := by
  rw [Element.forall_writable_iff, forall_tagged_indentItems_iff]
  constructor
  · rintro ⟨⟨-, htags⟩, htexts⟩ file hfile
    have hitem : (d.itemOf includeSource p file (bytesOf file)).1 ∈
        files.map fun file => (d.itemOf includeSource p file (bytesOf file)).1 :=
      List.mem_map.mpr ⟨file, hfile, rfl⟩
    unfold CanWrite
    cases h : p.unchanged? (d.shownPath file) (Md5.hexDigest (bytesOf file)) with
    | some entry =>
        have htagged := htags _ hitem
        rw [itemOf_of_some h] at htagged
        exact fun x hx => (htagged x hx).attributeNames
    | none =>
        intro m hm
        have hfresh : (d.itemOf includeSource p file (bytesOf file)).1 = ⟨none, _⟩ :=
          itemOf_of_none h
        obtain ⟨c, hc, hlaid⟩ := exists_laidOut
          (rootElement d.description (d.description.fingerprint includeSource)) hitem
          (by rw [hfresh])
        rw [hfresh] at hlaid
        -- The note of a marker is the text of an element without children, so it stays.
        have hinside := (forall_mem_elements_fileElement d.description includeSource
          (d.shownPath file) (bytesOf file)).mp fun x hx => hx
        obtain ⟨y, hy, htext⟩ := hlaid.exists_text (hinside.2.2.1 m hm) rfl
        have hlegal := (htexts y (Element.mem_elements_of_child hc hy)).1
        rw [htext] at hlegal
        exact hlegal
  · intro h
    refine ⟨⟨tagged_rootElement hstrings _, ?_⟩, allTexts_indentItems legal_lineAt
      (by simp [rootElement]) (by simp [rootElement]) ?_⟩
    · intro item hitem
      obtain ⟨file, hfile, rfl⟩ := List.mem_map.mp hitem
      exact tagged_itemOf hp hstrings (hpaths file hfile) (h file hfile)
    · intro item hitem
      obtain ⟨file, hfile, rfl⟩ := List.mem_map.mp hitem
      exact legal_itemOf hp (h file hfile)

end Items

/-- A document that was described over whatever earlier document can be read exactly if the element of
every file can be written; otherwise it is malformed. -/
theorem document_can_be_read_iff {content : Text}
    (h : (d.describe ws includeSource files).outcome = .ok content)
    (hstrings : d.description.LegalStrings) (hpaths : ∀ file ∈ files, Legal file.text) :
    ∃ loading, d.load ws (d.description.fingerprint includeSource) = .ok loading ∧
      ((∃ root, Xml.read (Utf8.encode content) = .ok root) ↔
        ∀ file ∈ files, d.CanWrite loading.previous file (ws.contentOf file)) ∧
      ∀ fault, Xml.read (Utf8.encode content) = .error fault →
        ∃ message, fault = .malformed message := by
  obtain ⟨e, hproject, rfl⟩ := describe_eq_ok h
  obtain ⟨loading, items, hload, hitems, rfl⟩ := project_eq_ok.mp hproject
  have hlawful := lawful_of_load hload
  have hread : ∀ file ∈ files, ws.read file.text = .ok (ws.contentOf file) := by
    rcases readable_or_error ws files with ⟨-, hread⟩ | ⟨fault, -, herror⟩
    · exact hread
    · exact absurd ((herror d includeSource loading.previous).symm.trans hitems) (by simp)
  obtain rfl := Except.ok.inj ((itemsOf_readable hread).symm.trans hitems)
  have hnamed : ∀ x ∈ (indentItems (rootElement d.description
      (d.description.fingerprint includeSource)) (files.map fun file =>
        (d.itemOf includeSource loading.previous file (ws.contentOf file)).1)).elements,
      x.Named := by
    apply forall_named_indentItems_iff.mpr
    constructor
    · exact (plainTag_rootElement _ _).named
    · intro item hitem
      obtain ⟨file, -, rfl⟩ := List.mem_map.mp hitem
      exact named_itemOf hlawful file _
  refine ⟨loading, hload, ?_⟩
  rw [← writable_indentItems_iff hlawful hstrings hpaths]
  rcases read_write_cases hnamed (indentItems_tail _ _) with
    ⟨hwritable, hok⟩ | ⟨hwritable, message, herror⟩
  · rw [hok]
    exact ⟨iff_of_true ⟨_, rfl⟩ hwritable, by simp⟩
  · rw [herror]
    refine ⟨iff_of_false (by simp) hwritable, fun fault hfault => ⟨message, ?_⟩⟩
    exact (Except.error.inj hfault).symm

theorem one_file_can_be_read :
    ∃ content, (describe { root := ⟨.root, ["w".toList]⟩ } oneFile false
        [.ofText "/w/a.php".toList]).outcome = .ok content ∧
      ∃ root, Xml.read (Utf8.encode content) = .ok root := by
  have hok : (describe { root := ⟨.root, ["w".toList]⟩ } oneFile false
      [.ofText "/w/a.php".toList]).outcome.isOk = true := by decide +kernel
  obtain ⟨content, hcontent⟩ := exists_eq_ok_of_isOk hok
  obtain ⟨loading, hload, hiff, -⟩ := document_can_be_read_iff hcontent
    ⟨by decide, by decide, by decide, by decide⟩ (by decide)
  obtain rfl : {} = loading := Except.ok.inj hload
  refine ⟨content, hcontent, hiff.mpr ?_⟩
  have hnotes : ∀ m ∈ Description.markersIn {} (oneFile.contentOf (.ofText "/w/a.php".toList)),
      Legal m.note := by
    decide +kernel
  simpa [CanWrite, Previous.unchanged?, Previous.find?] using hnotes

/-- A workspace with a file whose marker has a note with a control character. -/
def controlFile : Workspace :=
  { oneFile with
    files := ⟨[(["w".toList], .directory),
      (["w".toList, "a.php".toList], .file (Utf8.encode
        ("<?php\n# TODO ".toList ++ [Char.ofNat 1, 'x', '\n'])))]⟩ }

/-- The document of a file with a control character in the note of a marker is malformed. -/
theorem control_character_cannot_be_read :
    ∃ content, (describe { root := ⟨.root, ["w".toList]⟩ } controlFile false
        [.ofText "/w/a.php".toList]).outcome = .ok content ∧
      Description.LegalStrings {} ∧ Legal (Path.ofText "/w/a.php".toList).text ∧
      ∀ root, Xml.read (Utf8.encode content) ≠ .ok root := by
  have hunread : ((describe { root := ⟨.root, ["w".toList]⟩ } controlFile false
      [.ofText "/w/a.php".toList]).outcome.map fun content =>
        (Xml.read (Utf8.encode content)).isOk) = .ok false := by
    decide +kernel
  obtain ⟨content, hcontent, hread⟩ := map_eq_ok.mp hunread
  refine ⟨content, hcontent, ⟨by decide, by decide, by decide, by decide⟩, by decide, ?_⟩
  intro root hroot
  rw [hroot] at hread
  exact absurd hread (by simp [Except.isOk, Except.toBool])

end Describer

end SourceAtlas
