import SourceAtlas.Proofs.Document.Characters
import SourceAtlas.Proofs.Document.Sharing
import SourceAtlas.Proofs.Xml.Acceptance

/-!
# Documents made anew

Without an earlier document every element is made anew, and there is nothing to share: the document
is the root element with the elements of the files, indented.
-/

namespace SourceAtlas

open Text Xml

namespace Describer

variable {d : Describer} {ws : Workspace} {includeSource : Bool} {bytesOf : Path → Bytes}
  {files : List Path}

/-- No earlier document is used: everything is to be described anew, or there is none. -/
def StartsAnew (d : Describer) (ws : Workspace) : Prop :=
  d.description.force = true ∨
    ∀ earlier, d.earlier = some earlier → ws.isKind Entry.isFile earlier.text = .ok false

theorem StartsAnew.load (h : d.StartsAnew ws) (fingerprint : Text) :
    d.load ws fingerprint = .ok {} := by
  unfold Describer.load
  split
  · next earlier hearlier hforce =>
      rcases h with h | h
      · rw [h] at hforce
        exact absurd hforce (by decide)
      · rw [Loading.ofPath, h earlier hearlier]
        rfl
  · rfl

/-- The element of a file that is described anew. -/
def freshElement (d : Describer) (includeSource : Bool) (bytesOf : Path → Bytes) (file : Path) :
    Element :=
  (d.description.fileElement includeSource (d.shownPath file) (bytesOf file)).1

/-- The items of files that are described anew. -/
def freshItems (d : Describer) (includeSource : Bool) (bytesOf : Path → Bytes) (files : List Path) :
    List Item :=
  files.map fun file => ⟨none, d.freshElement includeSource bytesOf file⟩

/-- The element of a document that is made anew. -/
def freshProject (d : Describer) (includeSource : Bool) (bytesOf : Path → Bytes)
    (files : List Path) : Element :=
  indentItems (rootElement d.description (d.description.fingerprint includeSource))
    (d.freshItems includeSource bytesOf files)

theorem apart_freshItems : Apart ((d.freshItems includeSource bytesOf files).map (·.origin)) := by
  rw [freshItems, List.map_map]
  constructor
  · simp
  · rw [List.pairwise_map]
    exact List.pairwise_of_forall fun _ _ => by simp

theorem freshProject_eq :
    d.freshProject includeSource bytesOf files =
      ({ rootElement d.description (d.description.fingerprint includeSource) with
        children := files.map (d.freshElement includeSource bytesOf) } : Element).indent := by
  rw [freshProject, indentItems_of_apart _ apart_freshItems, freshItems, List.map_map]
  rfl

theorem itemsOf_readable {previous : Previous}
    (hread : ∀ file ∈ files, ws.read file.text = .ok (bytesOf file)) :
    (d.itemsOf ws includeSource previous files).outcome =
      .ok (files.map fun file => (d.itemOf includeSource previous file (bytesOf file)).1) := by
  induction files with
  | nil => rfl
  | cons file files ih =>
      rw [itemsOf, hread file List.mem_cons_self]
      simp only
      rw [ih fun other hother => hread other (List.mem_cons_of_mem file hother)]
      rfl

theorem project_anew (h : d.StartsAnew ws)
    (hread : ∀ file ∈ files, ws.read file.text = .ok (bytesOf file)) :
    d.project ws includeSource files = .ok (d.freshProject includeSource bytesOf files) :=
  project_eq_ok.mpr ⟨{}, _, h.load _, itemsOf_readable hread, rfl⟩

/-! ## Reading it -/

theorem legal_lineAt (level : Nat) : Legal (lineAt level) := by
  intro c hc
  rcases Element.isBlank_of_mem_lineAt hc with rfl | rfl <;> decide

theorem return_not_mem_lineAt (level : Nat) : '\r' ∉ lineAt level := by
  intro hc
  rcases Element.isBlank_of_mem_lineAt hc with h | h <;> exact absurd h (by decide)

variable (d includeSource bytesOf files)

theorem named_freshProject :
    ∀ x ∈ (d.freshProject includeSource bytesOf files).elements, x.Named := by
  apply forall_named_indentItems_iff.mpr
  refine ⟨(plainTag_rootElement _ _).named, ?_⟩
  intro item hitem
  obtain ⟨file, -, rfl⟩ := List.mem_map.mp hitem
  exact named_fileElement d.description includeSource _ _

omit d includeSource bytesOf files in
/-- No text in a new element of a file holds a carriage return. -/
theorem return_not_mem_fileElement (s : Description) (includeSource : Bool) (path : Text)
    (bytes : Bytes) : (s.fileElement includeSource path bytes).1.AllTexts fun t => '\r' ∉ t := by
  refine (allTexts_fileElement_iff includeSource bytes (by simp) ?_).mpr ?_
  · exact fun hc => (plain_of_mem_encode hc).2 rfl
  · intro m hm hc
    exact absurd ((Marker.foundIn_of_mem_find hm).note _ hc).2 (by decide)

/-- No text of a document that is made anew holds a carriage return. -/
theorem return_not_mem_freshProject :
    (d.freshProject includeSource bytesOf files).AllTexts fun t => '\r' ∉ t := by
  refine allTexts_indentItems return_not_mem_lineAt (by simp [rootElement])
    (by simp [rootElement]) ?_
  intro item hitem
  obtain ⟨file, -, rfl⟩ := List.mem_map.mp hitem
  exact return_not_mem_fileElement d.description includeSource _ _

/-- A document that is made anew is read as it was, unless it holds what no document may hold. -/
theorem read_freshProject_cases :
    ((∀ x ∈ (d.freshProject includeSource bytesOf files).elements, x.Writable) ∧
      Xml.read (Utf8.encode ((d.freshProject includeSource bytesOf files).write ++ ['\n'])) =
        .ok (d.freshProject includeSource bytesOf files)) ∨
    ((¬ ∀ x ∈ (d.freshProject includeSource bytesOf files).elements, x.Writable) ∧ ∃ message,
      Xml.read (Utf8.encode ((d.freshProject includeSource bytesOf files).write ++ ['\n'])) =
        .error (.malformed message)) := by
  have htail : (d.freshProject includeSource bytesOf files).tail = [] := indentItems_tail _ _
  rcases read_write_cases (named_freshProject d includeSource bytesOf files) htail with
    ⟨hwritable, h⟩ | h
  · have hself := Element.seen_eq_self hwritable
      (return_not_mem_freshProject d includeSource bytesOf files)
    rw [hself] at h
    exact .inl ⟨hwritable, h⟩
  · exact .inr h

end Describer

end SourceAtlas
