import SourceAtlas.Proofs.Document.Fresh

/-!
# What a document gives back

A document that is made anew is read as the element that was written.  Its root element tells the
settings, and each child tells of its file the path, the digest, the package, the markers in their
order, and the bytes if sources are included.
-/

namespace SourceAtlas

open Text Xml

namespace Xml.Element

/-- The children of an element with a name. -/
def childrenNamed (e : Element) (n : Name) : List Element := e.children.filter (·.name = n)

theorem LaidOut.childrenNamed {e c : Element} (h : e.LaidOut c) (n : Name) :
    List.Forall₂ LaidOut (e.childrenNamed n) (c.childrenNamed n) := by
  refine List.rel_filter (fun x y hxy => ?_) h.children
  simp [hxy.name]

end Xml.Element

/-! ## Markers -/

/-- The element tells a marker. -/
structure Marker.ToldBy (m : Marker) (e : Element) : Prop where
  name : e.name = .plain "marker"
  type : e.attribute? "type".toList = some m.type
  line : e.attribute? "line".toList = some (ofNat m.line)
  note : e.text = m.note

theorem Marker.toldBy_of_laidOut {m : Marker} {e : Element} (h : m.element.LaidOut e) :
    m.ToldBy e :=
  ⟨h.name, h.attribute? _, h.attribute? _, h.text rfl⟩

theorem flatMap_children_markerElements (markers : List Marker) :
    (markerElements markers).flatMap (·.children) = markers.map Marker.element := by
  cases markers with
  | nil => rfl
  | cons m ms => simp [markerElements]

theorem length_markerElements (markers : List Marker) :
    (markerElements markers).length = if markers = [] then 0 else 1 := by
  cases markers with
  | nil => rfl
  | cons m ms => simp [markerElements]

/-! ## Files -/

/-- What a reader learns of a file from its element: everything that was written.  Compressed bytes
are read with `inflate`. -/
structure Describer.Tells (d : Describer) (includeSource : Bool) (inflate : Bytes → Option Bytes)
    (file : Path) (bytes : Bytes) (e : Element) : Prop where
  name : e.name = fileName
  path : e.attribute? pathKey = some (d.shownPath file)
  digest : e.attribute? hashKey = some (Md5.hexDigest bytes)
  packageName : e.attribute? "package".toList = some d.description.packageName
  markers : List.Forall₂ Marker.ToldBy
    (Marker.find d.description.activeMarkers (Utf8.decode bytes))
    ((e.childrenNamed (.plain "markers")).flatMap (·.children))
  listed : (e.childrenNamed (.plain "markers")).length =
    if Marker.find d.description.activeMarkers (Utf8.decode bytes) = [] then 0 else 1
  source : if includeSource then ∃ s z, e.childrenNamed (.plain "source") = [s] ∧
      Base64.decode? s.text = some z ∧ inflate z = some bytes
    else e.childrenNamed (.plain "source") = []

section FileElement

variable (s : Description) (includeSource : Bool) (path : Text) (bytes : Bytes)

theorem children_fileElement :
    (s.fileElement includeSource path bytes).1.children =
      markerElements (Marker.find s.activeMarkers (Utf8.decode bytes)) ++
        if includeSource then [sourceElement bytes] else [] := rfl

theorem childrenNamed_markers_fileElement :
    (s.fileElement includeSource path bytes).1.childrenNamed (.plain "markers") =
      markerElements (Marker.find s.activeMarkers (Utf8.decode bytes)) := by
  rw [Element.childrenNamed, children_fileElement]
  unfold markerElements
  split <;> cases includeSource <;> simp [sourceElement, Name.plain]

theorem childrenNamed_source_fileElement :
    (s.fileElement includeSource path bytes).1.childrenNamed (.plain "source") =
      if includeSource then [sourceElement bytes] else [] := by
  rw [Element.childrenNamed, children_fileElement]
  unfold markerElements
  split <;> cases includeSource <;> simp [sourceElement, Name.plain]

end FileElement

theorem Describer.tells_of_laidOut {d : Describer} {includeSource : Bool}
    {inflate : Bytes → Option Bytes} {file : Path} {bytes : Bytes} {e : Element}
    (hinflate : inflate (Deflate.compress bytes) = some bytes)
    (h : (d.description.fileElement includeSource (d.shownPath file) bytes).1.LaidOut e) :
    d.Tells includeSource inflate file bytes e := by
  have hmarkers := h.childrenNamed (.plain "markers")
  have hsource := h.childrenNamed (.plain "source")
  rw [childrenNamed_markers_fileElement] at hmarkers
  rw [childrenNamed_source_fileElement] at hsource
  refine ⟨h.name, h.attribute? _, h.attribute? _, h.attribute? _, ?_, ?_, ?_⟩
  · have hall : List.Forall₂ Element.LaidOut
        ((markerElements (Marker.find d.description.activeMarkers (Utf8.decode bytes))).flatMap
          (·.children)) ((e.childrenNamed (.plain "markers")).flatMap (·.children)) :=
      List.rel_flatMap hmarkers fun x y hxy => hxy.children
    rw [flatMap_children_markerElements, List.forall₂_map_left_iff] at hall
    exact hall.imp fun m c hc => Marker.toldBy_of_laidOut hc
  · rw [← hmarkers.length_eq, length_markerElements]
  · cases includeSource with
    | false => exact List.forall₂_nil_left_iff.mp hsource
    | true =>
        obtain ⟨c, cs, hc, hcs, heq⟩ := List.forall₂_cons_left_iff.mp hsource
        obtain rfl := List.forall₂_nil_left_iff.mp hcs
        refine ⟨c, _, heq, ?_, hinflate⟩
        rw [hc.text rfl]
        exact Base64.decode?_encode _

/-! ## The root element -/

/-- What a reader learns of the settings from the root element. -/
structure Description.ToldBy (s : Description) (fingerprint : Text) (e : Element) : Prop where
  name : e.name = .plain "project"
  version : e.attribute? "version".toList = some Describer.formVersion
  settings : e.attribute? "settings".toList = some fingerprint
  title : e.attribute? "title".toList = if s.title = [] then none else some s.title
  visibility : e.attribute? "visibility".toList =
    if s.visibility = [] then none else some (join [','] s.visibility)

theorem Description.toldBy_rootElement (s : Description) (fingerprint : Text) :
    s.ToldBy fingerprint (Describer.rootElement s fingerprint) := by
  refine ⟨rfl, ?_, ?_, ?_, ?_⟩ <;>
    by_cases htitle : s.title = [] <;> by_cases hnone : s.visibility = [] <;>
    simp only [Element.attribute?, Describer.rootElement, htitle, hnone, if_true, if_false] <;> rfl

theorem Description.ToldBy.congr {s : Description} {fingerprint : Text} {e e' : Element}
    (h : s.ToldBy fingerprint e) (hname : e'.name = e.name)
    (hattributes : e'.attributes = e.attributes) : s.ToldBy fingerprint e' := by
  have hattribute : ∀ key, e'.attribute? key = e.attribute? key := fun key => by
    rw [Element.attribute?, Element.attribute?, hattributes]
  exact
    { name := hname.trans h.name
      version := (hattribute _).trans h.version
      settings := (hattribute _).trans h.settings
      title := (hattribute _).trans h.title
      visibility := (hattribute _).trans h.visibility }

/-! ## Documents -/

namespace Describer

variable {d : Describer} {ws : Workspace} {includeSource : Bool} {bytesOf : Path → Bytes}
  {files : List Path}

theorem tagged_freshProject (hstrings : d.description.LegalStrings)
    (hpaths : ∀ file ∈ files, Legal file.text) :
    ∀ x ∈ (d.freshProject includeSource bytesOf files).elements, x.Tagged := by
  apply forall_tagged_indentItems_iff.mpr
  refine ⟨tagged_rootElement hstrings _, ?_⟩
  intro item hitem
  obtain ⟨file, hfile, rfl⟩ := List.mem_map.mp hitem
  exact tagged_fileElement includeSource _ (legal_shownPath (hpaths file hfile))
    hstrings.packageName hstrings.markers

/-- The texts of a document that is made anew are legal if those of the files are. -/
theorem legal_freshProject (htexts : ∀ file ∈ files, Legal (Utf8.decode (bytesOf file))) :
    (d.freshProject includeSource bytesOf files).AllTexts Legal := by
  apply allTexts_indentItems legal_lineAt legal_nil legal_nil
  intro item hitem
  obtain ⟨file, hfile, rfl⟩ := List.mem_map.mp hitem
  refine (allTexts_fileElement_iff includeSource _ legal_nil ?_).mpr ?_
  · exact fun c hc => (plain_of_mem_encode hc).1
  · intro m hm c hc
    exact htexts file hfile c ((Marker.foundIn_of_mem_find hm).note c hc).1

/-- A document that is made anew is read as it was. -/
theorem read_freshProject (hstrings : d.description.LegalStrings)
    (hpaths : ∀ file ∈ files, Legal file.text)
    (htexts : ∀ file ∈ files, Legal (Utf8.decode (bytesOf file))) :
    Xml.read (Utf8.encode ((d.freshProject includeSource bytesOf files).write ++ ['\n'])) =
      .ok (d.freshProject includeSource bytesOf files) := by
  have hwritable : ∀ x ∈ (d.freshProject includeSource bytesOf files).elements, x.Writable :=
    Element.forall_writable_iff.mpr
      ⟨tagged_freshProject hstrings hpaths, legal_freshProject htexts⟩
  rcases read_freshProject_cases d includeSource bytesOf files with ⟨-, h⟩ | ⟨h, -⟩
  · exact h
  · exact absurd hwritable h

end Describer

end SourceAtlas
