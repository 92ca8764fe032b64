import SourceAtlas.Proofs.Document.Fresh

/-!
# Taking over what is the same

An element of a document that was made anew, with the same settings and for a file with the same path
and bytes, differs from a new one by its indentation only.  Indenting again removes the difference:
so a document with elements that were taken over is the document that is made anew.
-/

namespace SourceAtlas

open Text Xml

theorem Description.fileElement_congr {s s' : Description} (hpackage : s.packageName = s'.packageName)
    (hmarkers : s.activeMarkers = s'.activeMarkers) (includeSource : Bool) (path : Text)
    (bytes : Bytes) :
    (s.fileElement includeSource path bytes).1 = (s'.fileElement includeSource path bytes).1 := by
  simp only [fileElement, decodeSource, hpackage, hmarkers]

/-! ## The files of a document that was made anew -/

namespace Describer

variable {d : Describer} {includeSource : Bool} {bytesOf : Path → Bytes} {files : List Path}

/-- No element in a new one of a file is that of a file. -/
theorem name_ne_of_mem_fileElement (s : Description) (includeSource : Bool) (path : Text)
    (bytes : Bytes) : ∀ c ∈ (s.fileElement includeSource path bytes).1.children,
      ∀ x ∈ c.elements, x.name ≠ fileName := by
  refine (forall_mem_inside_fileElement s includeSource path bytes).mpr ⟨?_, ?_, ?_⟩
  · intro _
    simp only [markersElement]
    decide
  · intro m _
    simp only [Marker.element]
    decide
  · intro _
    simp only [sourceElement]
    decide

/-- No element in that of a file is that of a file. -/
theorem name_ne_of_mem_inside {file : Path} {c : Element}
    (hc : (d.freshElement includeSource bytesOf file).LaidOut c) :
    ∀ g ∈ c.children, ∀ x ∈ g.elements, x.name ≠ fileName := by
  have hfresh : ∀ g ∈ (d.freshElement includeSource bytesOf file).children, ∀ x ∈ g.elements,
      x.name ≠ fileName := name_ne_of_mem_fileElement d.description includeSource _ _
  intro g hg
  obtain ⟨g', hg', hlaid⟩ := hc.exists_of_mem_children hg
  exact Element.forall_mem_elements_of_outline_eq hlaid.outline.symm
    (P := fun name _ => name ≠ fileName) (hfresh g' hg')

/-- The entries of a document that was made anew are its files, each at its number. -/
theorem of_mem_ofDocument {entry : Address × Element}
    (h : entry ∈ (Previous.ofDocument (d.freshProject includeSource bytesOf files)).entries) :
    ∃ i file l, entry.1 = [i] ∧ files[i]? = some file ∧
      entry.2 = { Element.indentInside 1 (d.freshElement includeSource bytesOf file) with
        tail := lineAt l } := by
  obtain ⟨hmem, hname⟩ := List.mem_filter.mp h
  rw [Element.places_eq, List.mem_cons] at hmem
  rcases hmem with rfl | hmem
  · have hroot : (d.freshProject includeSource bytesOf files).name ≠ fileName := by
      rw [freshProject, indentItems_name]
      simp only [rootElement]
      decide
    exact absurd (by simpa using hname) hroot
  · obtain ⟨i, c, hc, hentry⟩ := Element.of_mem_placesFrom hmem
    rw [freshProject_eq, Element.indent, Element.indentInside_children] at hc
    obtain ⟨e, l, he, rfl⟩ := Element.getElem?_indentChildren hc
    rw [List.getElem?_map] at he
    obtain ⟨file, hfile, rfl⟩ := Option.map_eq_some_iff.mp he
    rcases hentry with rfl | ⟨g, hg, hx⟩
    · exact ⟨i, file, l, by simp, hfile, rfl⟩
    · exact absurd (by simpa using hname) (name_ne_of_mem_inside ⟨1, _, rfl⟩ g hg _ hx)

/-- What is taken over from a document that was made anew is the element of a file with the same path
and the same digest. -/
theorem of_unchanged?_ofDocument {path digest : Text} {place : Address} {e : Element}
    (h : (Previous.ofDocument (d.freshProject includeSource bytesOf files)).unchanged? path digest =
      some (place, e)) :
    ∃ i file l, place = [i] ∧ files[i]? = some file ∧ d.shownPath file = path ∧
      Md5.hexDigest (bytesOf file) = digest ∧
      e = { Element.indentInside 1 (d.freshElement includeSource bytesOf file) with
        tail := lineAt l } := by
  unfold Previous.unchanged? at h
  split at h
  · next place' e' hfind =>
      split at h
      · next hdigest =>
          obtain ⟨rfl, rfl⟩ := Prod.mk.inj (Option.some.inj h)
          have hmem := List.mem_reverse.mp (List.mem_of_find?_eq_some hfind)
          have hkey : Previous.pathOf e' = path := by simpa using List.find?_some hfind
          obtain ⟨i, file, l, hplace, hfile, heq⟩ := of_mem_ofDocument hmem
          have hlaid : (d.freshElement includeSource bytesOf file).LaidOut e' := ⟨1, _, heq⟩
          refine ⟨i, file, l, hplace, hfile, ?_, ?_, heq⟩
          · rw [← hkey, Previous.pathOf, hlaid.attribute?]
            rfl
          · rw [hlaid.attribute?] at hdigest
            exact Option.some.inj hdigest
      · exact absurd h (by simp)
  · exact absurd h (by simp)

end Describer

/-! ## Items that renew elements -/

/-- An item that stands for a new element: it is the element itself, or the element as it stands in a
document that is laid out. -/
inductive Item.Renews (e : Element) : Item → Prop
  | anew : Renews e ⟨none, e⟩
  | taken (i level : Nat) :
    Renews e ⟨some [i], { Element.indentInside 1 e with tail := lineAt level }⟩

/-- Indenting makes an element that was taken over the new one. -/
theorem indentChildren_renewed {es : List Element} {items : List Item}
    (h : List.Forall₂ (fun e item => e.tail = [] ∧ Item.Renews e item) es items) :
    Element.indentChildren 0 (items.map (·.element)) = Element.indentChildren 0 es := by
  induction h with
  | nil => rfl
  | @cons e item es items hfirst hrest ih =>
      obtain ⟨htail, hrenews⟩ := hfirst
      have hempty : (items.map (·.element)).isEmpty = es.isEmpty := by
        rw [Bool.eq_iff_iff, List.isEmpty_iff, List.isEmpty_iff, List.map_eq_nil_iff]
        exact ⟨fun hnil => List.forall₂_nil_right_iff.mp (hnil ▸ hrest),
          fun hnil => List.forall₂_nil_left_iff.mp (hnil ▸ hrest)⟩
      rw [List.map_cons, Element.indentChildren, Element.indentChildren, hempty, ih]
      cases hrenews with
      | anew => rfl
      | taken i level =>
          have hsettle : ∀ space : Text, settle space (lineAt level) = settle space [] := by
            intro space
            rw [settle, settle, Element.allBlank_lineAt]
            rfl
          rw [Element.indentInside_withTail, Element.indentInside_indentInside,
            Element.indentInside_tail, htail]
          simp only [hsettle]

namespace Describer

variable {d d' : Describer} {includeSource : Bool} {bytesOf bytesOf' : Path → Bytes}
  {files files' : List Path}

/-- The items of files, some of them taken over from a document that was made anew with the same
settings. -/
def renewedItems (d d' : Describer) (includeSource : Bool) (bytesOf bytesOf' : Path → Bytes)
    (files files' : List Path) : List Item :=
  files.map fun file => (d.itemOf includeSource
    (.ofDocument (d'.freshProject includeSource bytesOf' files')) file (bytesOf file)).1

section Renewing

variable (hpackage : d'.description.packageName = d.description.packageName)
  (hmarkers : d'.description.activeMarkers = d.description.activeMarkers)
  (hdigest : ∀ file ∈ files, ∀ file' ∈ files',
    Md5.hexDigest (bytesOf' file') = Md5.hexDigest (bytesOf file) → bytesOf' file' = bytesOf file)

include hpackage hmarkers hdigest

theorem renews_itemOf {file : Path} (hfile : file ∈ files) :
    Item.Renews (d.freshElement includeSource bytesOf file)
      (d.itemOf includeSource (.ofDocument (d'.freshProject includeSource bytesOf' files')) file
        (bytesOf file)).1 := by
  cases h : (Previous.ofDocument (d'.freshProject includeSource bytesOf' files')).unchanged?
      (d.shownPath file) (Md5.hexDigest (bytesOf file)) with
  | none =>
      rw [itemOf_of_none h]
      exact .anew
  | some entry =>
      obtain ⟨place, e⟩ := entry
      rw [itemOf_of_some h]
      obtain ⟨i, file', level, rfl, hfile', hpath, hsame, rfl⟩ := of_unchanged?_ofDocument h
      have hbytes := hdigest file hfile file' (List.mem_of_getElem? hfile') hsame
      have helement : d'.freshElement includeSource bytesOf' file' =
          d.freshElement includeSource bytesOf file := by
        rw [freshElement, freshElement, hpath, hbytes,
          Description.fileElement_congr hpackage hmarkers]
      rw [helement]
      exact .taken i level

theorem indentChildren_renewedItems :
    Element.indentChildren 0
      ((renewedItems d d' includeSource bytesOf bytesOf' files files').map (·.element)) =
      Element.indentChildren 0 (files.map (d.freshElement includeSource bytesOf)) := by
  apply indentChildren_renewed
  rw [renewedItems, List.forall₂_map_left_iff, List.forall₂_map_right_iff, List.forall₂_same]
  exact fun file hfile => ⟨rfl, renews_itemOf hpackage hmarkers hdigest hfile⟩

end Renewing

/-- Files with different paths are taken over from different places. -/
theorem apart_renewedItems (hdistinct : (files.map d.shownPath).Nodup) :
    Apart ((renewedItems d d' includeSource bytesOf bytesOf' files files').map (·.origin)) := by
  have horigin : ∀ file place, (d.itemOf includeSource
      (.ofDocument (d'.freshProject includeSource bytesOf' files')) file (bytesOf file)).1.origin =
        some place → ∃ i file', place = [i] ∧ files'[i]? = some file' ∧
          d'.shownPath file' = d.shownPath file := by
    intro file place hplace
    cases h : (Previous.ofDocument (d'.freshProject includeSource bytesOf' files')).unchanged?
        (d.shownPath file) (Md5.hexDigest (bytesOf file)) with
    | none =>
        rw [itemOf_of_none h] at hplace
        exact absurd hplace (by simp)
    | some entry =>
        obtain ⟨place', e⟩ := entry
        rw [itemOf_of_some h] at hplace
        obtain rfl := Option.some.inj hplace
        obtain ⟨i, file', level, hi, hfile', hpath, -, -⟩ := of_unchanged?_ofDocument h
        exact ⟨i, file', hi, hfile', hpath⟩
  rw [renewedItems, List.map_map]
  constructor
  · intro place hplace
    obtain ⟨file, -, hfile⟩ := List.mem_map.mp hplace
    obtain ⟨i, file', hi, -⟩ := horigin file place hfile
    exact ⟨i, hi⟩
  · rw [List.pairwise_map]
    rw [List.Nodup, List.pairwise_map] at hdistinct
    refine hdistinct.imp fun hne place hplace hother => hne ?_
    obtain ⟨i, file', rfl, hfile', hpath⟩ := horigin _ place hplace
    obtain ⟨j, file'', hj, hfile'', hpath'⟩ := horigin _ [i] hother
    obtain rfl := (List.cons.inj hj).1
    rw [hfile'] at hfile''
    obtain rfl := Option.some.inj hfile''
    exact hpath.symm.trans hpath'

/-- A document with elements that were taken over is the document that is made anew. -/
theorem indentItems_renewedItems (hpackage : d'.description.packageName = d.description.packageName)
    (hmarkers : d'.description.activeMarkers = d.description.activeMarkers)
    (hdigest : ∀ file ∈ files, ∀ file' ∈ files',
      Md5.hexDigest (bytesOf' file') = Md5.hexDigest (bytesOf file) → bytesOf' file' = bytesOf file)
    (hdistinct : (files.map d.shownPath).Nodup) :
    indentItems (rootElement d.description (d.description.fingerprint includeSource))
        (renewedItems d d' includeSource bytesOf bytesOf' files files') =
      d.freshProject includeSource bytesOf files := by
  have hchildren : Element.indentChildren 0
      ((renewedItems d d' includeSource bytesOf bytesOf' files files').map (·.element)) =
      Element.indentChildren 0 (files.map (d.freshElement includeSource bytesOf)) :=
    indentChildren_renewedItems hpackage hmarkers hdigest
  rw [indentItems_of_apart _ (apart_renewedItems hdistinct), freshProject_eq, Element.indent,
    Element.indent, ← Element.mk_fields (Element.indentInside 0 _),
    ← Element.mk_fields (Element.indentInside 0 { rootElement _ _ with
      children := files.map (d.freshElement includeSource bytesOf) })]
  simp only [Element.indentInside_name, Element.indentInside_attributes, Element.indentInside_text,
    Element.indentInside_children, Element.indentInside_tail, hchildren]
  simp [renewedItems]

end Describer

end SourceAtlas
