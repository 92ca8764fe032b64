import SourceAtlas.Proofs.Bytes.Base64
import SourceAtlas.Proofs.Document.Describing
import SourceAtlas.Proofs.Document.Spaces
import SourceAtlas.Proofs.Markers
import SourceAtlas.Proofs.Xml.RoundTrip

/-!
# Characters of a description

All names of a description are names without name space.  Its numbers, digests and encoded bytes
are legal as they are, its paths when the path of the file is, and of what it holds of the text of a
file only the notes of the markers may not be.
-/

namespace SourceAtlas

open Text Xml

/-! ## Parts of texts -/

theorem Xml.Legal.of_subset {s t : Text} (ht : Legal t) (h : s ⊆ t) : Legal s :=
  fun c hc => ht c (h hc)

theorem Text.legal_join {sep : Text} {ts : List Text} (hsep : Legal sep) (h : ∀ t ∈ ts, Legal t) :
    Legal (join sep ts) := by
  induction ts with
  | nil => exact legal_nil
  | cons t ts ih =>
      have hothers := ih fun u hu => h u (List.mem_cons_of_mem t hu)
      cases ts with
      | nil => exact h t List.mem_cons_self
      | cons u us =>
          rw [join]
          · exact legal_append.mpr
              ⟨legal_append.mpr ⟨h t List.mem_cons_self, hsep⟩, hothers⟩
          · simp

/-! ## Paths -/

theorem Path.legal_text {p : Path} (h : ∀ n ∈ p.names, Legal n) : Legal p.text := by
  obtain ⟨anchor, names⟩ := p
  have hjoin : Legal (join ['/'] names) := Text.legal_join (by decide) h
  have hanchor : Legal anchor.text := by cases anchor <;> decide
  unfold Path.text
  split
  · decide
  · apply legal_append.mpr
    exact ⟨hanchor, hjoin⟩

theorem Path.legal_of_mem {p : Path} (h : Legal p.text) {n : Text} (hn : n ∈ p.names) : Legal n := by
  obtain ⟨anchor, names⟩ := p
  unfold Path.text at h
  split at h
  · next hnames => exact absurd hn (by simp_all)
  · next hnames => exact (legal_append.mp h).2.of_subset (Text.mem_join_of_mem hn)

/-- The path that the document gives is legal if that of the file is. -/
theorem Describer.legal_shownPath {d : Describer} {file : Path} (h : Legal file.text) :
    Legal (d.shownPath file) := by
  unfold shownPath
  cases hrelative : file.relativeTo? d.root with
  | none => exact h
  | some q =>
      refine Path.legal_text fun n hn => Path.legal_of_mem h ?_
      rw [(Path.relativeTo?_eq_some hrelative).2]
      exact List.mem_append_right _ hn

/-! ## Digits and letters -/

theorem legal_hex : ∀ n < 256, Legal (Text.hex 2 n) := by
  decide +kernel

theorem legal_hexDigest (bytes : Bytes) : Legal (Md5.hexDigest bytes) := by
  intro c hc
  obtain ⟨b, -, hb⟩ := List.mem_flatMap.mp hc
  exact legal_hex b.toNat b.toNat_lt c hb

theorem legal_ofNat (n : Nat) : Legal (ofNat n) := by
  intro c hc
  have hdigit : c.isDigit = true := Nat.isDigit_of_mem_toDigits (by omega) (by omega) hc
  exact isXmlChar_of_isAlphanum (by simp [Char.isAlphanum, hdigit])

theorem letter_plain : ∀ n < 64, isXmlChar (Base64.letter n) = true ∧ Base64.letter n ≠ '\r' := by
  decide

theorem plain_of_mem_encode {bytes : Bytes} {c : Char} (h : c ∈ Base64.encode bytes) :
    isXmlChar c = true ∧ c ≠ '\r' := by
  rcases Base64.of_mem_encode h with ⟨n, hn, rfl⟩ | rfl
  · exact letter_plain n hn
  · decide

/-! ## Tags -/

/-- An element with a tag that can be written, whatever its texts are. -/
structure Xml.Element.Tagged (e : Element) : Prop extends e.Named where
  attributeNames : ∀ a ∈ e.attributes, isName a.1.localName = true
  values : ∀ a ∈ e.attributes, Legal a.2

theorem Xml.Element.forall_writable_iff {e : Element} :
    (∀ x ∈ e.elements, x.Writable) ↔ (∀ x ∈ e.elements, x.Tagged) ∧ e.AllTexts Legal := by
  constructor
  · intro h
    exact ⟨fun x hx => ⟨(h x hx).toNamed, (h x hx).attributeNames, (h x hx).values⟩,
      fun x hx => ⟨(h x hx).text, (h x hx).tail⟩⟩
  · rintro ⟨htags, htexts⟩ x hx
    exact ⟨(htags x hx).toNamed, (htags x hx).attributeNames, (htags x hx).values,
      (htexts x hx).1, (htexts x hx).2⟩

theorem Xml.Element.named_iff {e : Element} :
    e.Named ↔ ({ name := e.name, attributes := e.attributes } : Element).Named :=
  ⟨fun h => h.congr rfl rfl, fun h => h.congr rfl rfl⟩

theorem Xml.Element.tagged_iff {e : Element} :
    e.Tagged ↔ ({ name := e.name, attributes := e.attributes } : Element).Tagged :=
  ⟨fun h => ⟨h.toNamed.congr rfl rfl, h.attributeNames, h.values⟩,
    fun h => ⟨h.toNamed.congr rfl rfl, h.attributeNames, h.values⟩⟩

theorem forall_named_indentItems_iff {root : Element} {items : List Item} :
    (∀ x ∈ (indentItems root items).elements, x.Named) ↔
      root.Named ∧ ∀ item ∈ items, ∀ x ∈ item.element.elements, x.Named := by
  simp only [Element.named_iff]
  exact forall_tags_indentItems_iff root items
    (P := fun name attributes => ({ name, attributes } : Element).Named)

theorem forall_tagged_indentItems_iff {root : Element} {items : List Item} :
    (∀ x ∈ (indentItems root items).elements, x.Tagged) ↔
      root.Tagged ∧ ∀ item ∈ items, ∀ x ∈ item.element.elements, x.Tagged := by
  simp only [Element.tagged_iff]
  exact forall_tags_indentItems_iff root items
    (P := fun name attributes => ({ name, attributes } : Element).Tagged)

/-! ## Tags of our elements -/

/-- Different names outside any name space, none of which binds a prefix. -/
structure Xml.Element.PlainTag (e : Element) : Prop where
  names : ∀ n ∈ e.ownNames, n.space = [] ∧ isName n.localName = true ∧ n.localName ≠ xmlnsName
  distinct : (e.attributes.map (·.1)).Nodup

theorem Xml.Element.PlainTag.attribute {e : Element} (h : e.PlainTag) {a : Attribute}
    (ha : a ∈ e.attributes) : isName a.1.localName = true ∧ a.1.localName ≠ xmlnsName :=
  (h.names a.1 (List.mem_cons_of_mem _ (List.mem_map.mpr ⟨a, ha, rfl⟩))).2

theorem Xml.Element.PlainTag.named {e : Element} (h : e.PlainTag) : e.Named where
  name := (h.names e.name List.mem_cons_self).2.1
  plain := fun _ ha _ => h.attribute ha
  characters := fun _ ha => isClosingNameChar_of_isName (h.attribute ha).1
  distinct := h.distinct
  spaces := by
    intro n hn
    rw [(h.names n hn).1]
    exact bindable_nil

theorem Xml.Element.PlainTag.tagged {e : Element} (h : e.PlainTag)
    (hvalues : ∀ a ∈ e.attributes, Legal a.2) : e.Tagged :=
  ⟨h.named, fun _ ha => (h.attribute ha).1, hvalues⟩

theorem Marker.plainTag_element (m : Marker) : m.element.PlainTag := by
  constructor <;>
    simp only [Marker.element, Element.ownNames, List.map_cons, List.map_nil] <;> decide

/-- The element that holds those of markers. -/
def markersElement (markers : List Marker) : Element :=
  { name := .plain "markers", children := markers.map Marker.element }

theorem plainTag_markersElement (markers : List Marker) : (markersElement markers).PlainTag := by
  constructor <;> simp only [markersElement, Element.ownNames, List.map_nil] <;> decide

theorem plainTag_sourceElement (bytes : Bytes) : (sourceElement bytes).PlainTag := by
  constructor <;> simp only [sourceElement, Element.ownNames, List.map_nil] <;> decide

theorem Description.plainTag_fileElement (s : Description) (includeSource : Bool) (path : Text)
    (bytes : Bytes) : (s.fileElement includeSource path bytes).1.PlainTag := by
  constructor <;>
    simp only [fileElement, Element.ownNames, List.map_cons, List.map_nil] <;> decide

theorem Describer.plainTag_rootElement (s : Description) (fingerprint : Text) :
    (rootElement s fingerprint).PlainTag := by
  constructor <;> by_cases htitle : s.title = [] <;> by_cases hnone : s.visibility = [] <;>
    simp only [rootElement, Element.ownNames, htitle, hnone, if_true, if_false, List.cons_append,
      List.nil_append, List.append_nil, List.map_cons, List.map_nil] <;> decide

/-! ## The element of a file -/

section FileElement

variable (s : Description) (includeSource : Bool) (path : Text) (bytes : Bytes)

/-- The markers in the text of a file. -/
def Description.markersIn : List Marker := Marker.find s.activeMarkers (Utf8.decode bytes)

/-- The elements inside that of a file are those of its markers and that of its bytes. -/
theorem forall_mem_inside_fileElement {p : Element → Prop} :
    (∀ c ∈ (s.fileElement includeSource path bytes).1.children, ∀ x ∈ c.elements, p x) ↔
      (s.markersIn bytes ≠ [] → p (markersElement (s.markersIn bytes))) ∧
        (∀ m ∈ s.markersIn bytes, p m.element) ∧ (includeSource = true → p (sourceElement bytes)) := by
  have hmarker : ∀ m : Marker, (∀ x ∈ m.element.elements, p x) ↔ p m.element := by
    intro m
    rw [Element.forall_mem_elements_iff]
    simp [Marker.element]
  have hsource : (∀ x ∈ (sourceElement bytes).elements, p x) ↔ p (sourceElement bytes) := by
    rw [Element.forall_mem_elements_iff]
    simp [sourceElement]
  have hmarkers : (∀ c ∈ markerElements (s.markersIn bytes), ∀ x ∈ c.elements, p x) ↔
      (s.markersIn bytes ≠ [] → p (markersElement (s.markersIn bytes))) ∧
        ∀ m ∈ s.markersIn bytes, p m.element := by
    unfold markerElements
    cases hfound : s.markersIn bytes with
    | nil => simp
    | cons m ms =>
        have hone : ∀ e : Element, (∀ c ∈ [e], ∀ x ∈ c.elements, p x) ↔ ∀ x ∈ e.elements, p x := by
          simp
        rw [List.isEmpty_cons, if_neg (by decide), hone, Element.forall_mem_elements_iff]
        simp only [List.forall_mem_map, hmarker]
        simp [markersElement]
  have hchildren : (s.fileElement includeSource path bytes).1.children =
      markerElements (s.markersIn bytes) ++ if includeSource then [sourceElement bytes] else [] := rfl
  rw [hchildren, List.forall_mem_append, hmarkers, and_assoc]
  cases includeSource with
  | true => simpa using fun _ _ => hsource
  | false => simp

theorem forall_mem_elements_fileElement {p : Element → Prop} :
    (∀ x ∈ (s.fileElement includeSource path bytes).1.elements, p x) ↔
      p (s.fileElement includeSource path bytes).1 ∧
        (s.markersIn bytes ≠ [] → p (markersElement (s.markersIn bytes))) ∧
        (∀ m ∈ s.markersIn bytes, p m.element) ∧
        (includeSource = true → p (sourceElement bytes)) := by
  rw [Element.forall_mem_elements_iff, forall_mem_inside_fileElement]

theorem named_fileElement : ∀ x ∈ (s.fileElement includeSource path bytes).1.elements, x.Named :=
  (forall_mem_elements_fileElement s includeSource path bytes).mpr
    ⟨(s.plainTag_fileElement includeSource path bytes).named,
      fun _ => (plainTag_markersElement _).named, fun m _ => m.plainTag_element.named,
      fun _ => (plainTag_sourceElement bytes).named⟩

variable {s} {path}

theorem tagged_fileElement (hpath : Legal path) (hpackage : Legal s.packageName)
    (hmarkers : ∀ m ∈ s.markers, Legal m) :
    ∀ x ∈ (s.fileElement includeSource path bytes).1.elements, x.Tagged := by
  refine (forall_mem_elements_fileElement s includeSource path bytes).mpr ⟨?_, ?_, ?_, ?_⟩
  · apply (s.plainTag_fileElement includeSource path bytes).tagged
    simp only [Description.fileElement, List.forall_mem_cons]
    exact ⟨hpath, legal_hexDigest bytes, hpackage, by simp⟩
  · intro _
    exact (plainTag_markersElement _).tagged (by simp [markersElement])
  · intro m hm
    have htype : Legal m.type :=
      hmarkers _ (Marker.active_subset _ _ (Marker.foundIn_of_mem_find hm).type)
    apply m.plainTag_element.tagged
    simp only [Marker.element, List.forall_mem_cons]
    exact ⟨htype, legal_ofNat m.line, by simp⟩
  · intro _
    exact (plainTag_sourceElement bytes).tagged (by simp [sourceElement])

/-- The texts of the element of a file are the notes of its markers and its encoded bytes. -/
theorem allTexts_fileElement_iff {P : Text → Prop} (hnil : P [])
    (hencoded : P (Base64.encode (Deflate.compress bytes))) :
    (s.fileElement includeSource path bytes).1.AllTexts P ↔ ∀ m ∈ s.markersIn bytes, P m.note := by
  rw [Element.AllTexts, forall_mem_elements_fileElement]
  simp [Description.fileElement, Marker.element, markersElement, sourceElement, hnil, hencoded]

end FileElement

/-! ## The root element -/

/-- The strings of a description are legal. -/
structure Description.LegalStrings (s : Description) : Prop where
  title : Legal s.title
  visibility : ∀ v ∈ s.visibility, Legal v
  packageName : Legal s.packageName
  markers : ∀ m ∈ s.markers, Legal m

theorem Describer.tagged_rootElement {s : Description} (h : s.LegalStrings) (line : Bytes) :
    (rootElement s (Md5.hexDigest line)).Tagged := by
  have hvisibility : Legal (join [','] s.visibility) := Text.legal_join (by decide) h.visibility
  have hversion : Legal formVersion := by decide
  apply (plainTag_rootElement s _).tagged
  intro a ha
  simp only [rootElement, List.mem_append, List.mem_cons, List.not_mem_nil, or_false] at ha
  rcases ha with ((rfl | rfl) | ha) | ha
  · exact hversion
  · exact legal_hexDigest line
  · split at ha
    · simp at ha
    · obtain rfl := List.mem_singleton.mp ha
      exact h.title
  · split at ha
    · simp at ha
    · obtain rfl := List.mem_singleton.mp ha
      exact hvisibility

end SourceAtlas
