import SourceAtlas.Proofs.Document.Reuse
import SourceAtlas.Proofs.Document.Unreadable
import SourceAtlas.Proofs.Document.WellFormed

/-!
# Describing over the document of the last description

When files are described once more and nothing but the document has changed, every element is taken
over from the document and stays where it is, and laying it out again changes nothing.  If the first
description took something over from an earlier document, its own document has to give it back: it can
be read, it holds no carriage return, and no element of a file stands inside another one.
-/

namespace SourceAtlas

open Text Xml

/-! ## Places in a document -/

namespace Xml.Element

theorem at?_append (e : Element) (place inner : Address) :
    e.at? (place ++ inner) = (e.at? place).bind fun x => x.at? inner := by
  induction place generalizing e with
  | nil => rfl
  | cons i is ih =>
      rw [List.cons_append, at?, at?]
      cases e.children[i]? with
      | none => rfl
      | some c => exact ih c

theorem exists_of_mem_placesFrom {here : Address} {n : Nat} {children : List Element}
    {entry : Address × Element}
    (hinner : ∀ c ∈ children, ∀ here, entry ∈ c.places here →
      ∃ inner, entry.1 = here ++ inner ∧ c.at? inner = some entry.2)
    (h : entry ∈ placesFrom here n children) :
    ∃ i c inner, children[i]? = some c ∧ entry.1 = here ++ (n + i) :: inner ∧
      c.at? inner = some entry.2 := by
  induction children generalizing n with
  | nil => cases h
  | cons c cs ih =>
      rw [placesFrom, List.mem_append] at h
      obtain h | h := h
      · obtain ⟨inner, hplace, hat⟩ := hinner c List.mem_cons_self _ h
        refine ⟨0, c, inner, rfl, ?_, hat⟩
        rw [hplace, List.append_assoc]
        rfl
      · obtain ⟨i, c', inner, hc', hplace, hat⟩ :=
          ih (fun c' hc' => hinner c' (List.mem_cons_of_mem c hc')) h
        refine ⟨i + 1, c', inner, hc', ?_, hat⟩
        rw [hplace, show n + 1 + i = n + (i + 1) by omega]

/-- Every element stands at its place. -/
theorem at?_of_mem_places {e : Element} {here : Address} {entry : Address × Element}
    (h : entry ∈ e.places here) : ∃ inner, entry.1 = here ++ inner ∧ e.at? inner = some entry.2 := by
  induction e using Element.induction generalizing here with
  | step e ih =>
      rw [places_eq, List.mem_cons] at h
      obtain rfl | h := h
      · exact ⟨[], (List.append_nil here).symm, rfl⟩
      · obtain ⟨i, c, inner, hc, hplace, hat⟩ :=
          exists_of_mem_placesFrom (fun c hc here hmem => ih c hc hmem) h
        refine ⟨i :: inner, ?_, ?_⟩
        · rw [hplace, Nat.zero_add]
        · rw [at?, hc]
          exact hat

theorem mem_placesFrom {here : Address} {n i : Nat} {children : List Element} {c : Element}
    (h : children[i]? = some c) : (here ++ [n + i], c) ∈ placesFrom here n children := by
  induction children generalizing n i with
  | nil => cases h
  | cons first rest ih =>
      rw [placesFrom, List.mem_append]
      cases i with
      | zero =>
          obtain rfl := Option.some.inj h
          left
          rw [places_eq]
          exact List.mem_cons_self
      | succ i =>
          right
          have hrest := ih (n := n + 1) (List.getElem?_cons_succ ▸ h)
          rwa [show n + 1 + i = n + (i + 1) by omega] at hrest

/-- What is in a child of an element is in a child of every element with the same outline. -/
theorem forall_mem_inside_of_outline_eq {e e' : Element} (h : e.outline = e'.outline)
    {P : Name → List Attribute → Prop}
    (he : ∀ c ∈ e.children, ∀ x ∈ c.elements, P x.name x.attributes) :
    ∀ c ∈ e'.children, ∀ x ∈ c.elements, P x.name x.attributes := by
  intro c hc
  have hchildren := congrArg children h
  rw [outline_children, outline_children] at hchildren
  have hmem : c.outline ∈ e.children.map outline := by
    rw [hchildren]
    exact List.mem_map_of_mem hc
  obtain ⟨c', hc', heq⟩ := List.mem_map.mp hmem
  exact forall_mem_elements_of_outline_eq heq (he c' hc')

/-- Indenting an indented document changes nothing. -/
theorem indent_again (root : Element) (es : List Element) :
    ({ root with children := ({ root with children := es } : Element).indent.children } :
      Element).indent = ({ root with children := es } : Element).indent := by
  have hagain : indentChildren 0 (indentChildren 0 es) = indentChildren 0 es :=
    indentChildren_indentChildren (fun e _ level => indentInside_indentInside level e) 0
  rw [indent, indent, ← mk_fields (indentInside 0 { root with children := es }),
    ← mk_fields (indentInside 0 { root with children := (_ : List Element) })]
  simp only [indentInside_name, indentInside_attributes, indentInside_text, indentInside_children,
    indentInside_tail, indentChildren_isEmpty, hagain]

/-- No element of a file inside one of the children has the path of a child. -/
def Flat (root : Element) : Prop :=
  ∀ c ∈ root.children, ∀ g ∈ c.children, ∀ x ∈ g.elements, x.name = fileName →
    ∀ file ∈ root.children, Previous.pathOf x ≠ Previous.pathOf file

/-- A document that holds a carriage return in a text is written with it. -/
theorem allTexts_of_not_mem_write {e : Element} (h : '\r' ∉ e.write) :
    e.AllTexts fun t => '\r' ∉ t := by
  have hwritten : ∀ x ∈ e.elements, '\r' ∈ x.text ∨ '\r' ∈ x.tail → '\r' ∈ e.write := by
    intro x hx hmem
    exact List.mem_append_right _ (mem_writeElement rfl hx hmem)
  intro x hx
  exact ⟨fun hmem => h (hwritten x hx (.inl hmem)), fun hmem => h (hwritten x hx (.inr hmem))⟩

end Xml.Element

/-- A document that gives back what was written in it: it holds no carriage return, it can be read, and
every one of its files has one element in it. -/
structure Lasting (content : Text) : Prop where
  lines : '\r' ∉ content
  flat : ∃ root, Xml.read (Utf8.encode content) = .ok root ∧ root.Flat

/-! ## What is taken over -/

/-- The entries of an earlier document are elements of files, each at its place. -/
def Previous.Places (p : Previous) (root : Element) : Prop :=
  ∀ entry ∈ p.entries, root.at? entry.1 = some entry.2 ∧ entry.2.name = fileName

namespace Describer

variable {d : Describer} {ws ws' : Workspace} {includeSource : Bool} {files : List Path}
  {bytesOf : Path → Bytes} {p : Previous} {root : Element}

/-- Describing files takes an element over from the earlier document. -/
def TakesOver (d : Describer) (ws : Workspace) (includeSource : Bool) (files : List Path) : Prop :=
  ∃ loading, d.load ws (d.description.fingerprint includeSource) = .ok loading ∧
    ∃ file ∈ files, ∃ bytes, ws.read file.text = .ok bytes ∧
      loading.previous.unchanged? (d.shownPath file) (Md5.hexDigest bytes) ≠ none

theorem places_ofDocument (root : Element) : (Previous.ofDocument root).Places root := by
  intro entry hentry
  obtain ⟨hmem, hname⟩ := List.mem_filter.mp hentry
  obtain ⟨inner, hplace, hat⟩ := Element.at?_of_mem_places hmem
  rw [List.nil_append] at hplace
  rw [hplace]
  exact ⟨hat, by simpa using hname⟩

theorem exists_places_of_load {fingerprint : Text} {loading : Loading}
    (h : d.load ws fingerprint = .ok loading) : ∃ root, loading.previous.Places root := by
  obtain hnone | ⟨_, root, -, hroot⟩ := previous_of_load h
  · refine ⟨rootElement d.description fingerprint, ?_⟩
    rw [hnone]
    simp [Previous.Places]
  · rw [hroot]
    exact ⟨root, places_ofDocument root⟩

theorem unchanged?_of_origin {file : Path} {bytes : Bytes} {place : Address}
    (h : (d.itemOf includeSource p file bytes).1.origin = some place) :
    ∃ e, p.unchanged? (d.shownPath file) (Md5.hexDigest bytes) = some (place, e) := by
  cases hfound : p.unchanged? (d.shownPath file) (Md5.hexDigest bytes) with
  | none =>
      rw [itemOf_of_none hfound] at h
      cases h
  | some entry =>
      obtain ⟨place', e⟩ := entry
      rw [itemOf_of_some hfound] at h
      obtain rfl := Option.some.inj h
      exact ⟨e, rfl⟩

/-! ## The document as the earlier one -/

section Again

variable {e : Element}
  (hstands : ∀ (i : Nat) file c, files[i]? = some file → e.children[i]? = some c →
    StandsFor c (d.shownPath file) (Md5.hexDigest (bytesOf file)))
  (hlength : e.children.length = files.length)
  (hdistinct : (files.map d.shownPath).Nodup) (hname : e.name ≠ fileName) (hflat : e.Flat)

include hname hflat in
/-- The only element with the path of a child is the child. -/
theorem of_mem_ofDocument_children {entry : Address × Element}
    (h : entry ∈ (Previous.ofDocument e).entries)
    (hpath : ∃ file ∈ e.children, Previous.pathOf entry.2 = Previous.pathOf file) :
    ∃ i c, e.children[i]? = some c ∧ entry = ([i], c) := by
  obtain ⟨hmem, hentry⟩ := List.mem_filter.mp h
  rw [Element.places_eq, List.mem_cons] at hmem
  obtain rfl | hmem := hmem
  · exact absurd (by simpa using hentry) hname
  · obtain ⟨i, c, hc, rfl | ⟨g, hg, hx⟩⟩ := Element.of_mem_placesFrom hmem
    · exact ⟨i, c, hc, by simp⟩
    · obtain ⟨file, hfile, heq⟩ := hpath
      exact absurd heq
        (hflat c (List.mem_of_getElem? hc) g hg _ hx (by simpa using hentry) file hfile)

include hstands hlength hdistinct hname hflat

/-- Every file is found in the document of the files, where its element stands. -/
theorem unchanged?_ofDocument {i : Nat} {file : Path} {c : Element} (hfile : files[i]? = some file)
    (hc : e.children[i]? = some c) :
    (Previous.ofDocument e).unchanged? (d.shownPath file) (Md5.hexDigest (bytesOf file)) =
      some ([i], c) := by
  have hc' := hstands i file c hfile hc
  have hmem : ([i], c) ∈ (Previous.ofDocument e).entries := by
    apply List.mem_filter.mpr
    refine ⟨?_, by simpa using hc'.name⟩
    rw [Element.places_eq, List.mem_cons]
    right
    have hplace : (([] : Address) ++ [0 + i], c) ∈ Element.placesFrom [] 0 e.children :=
      Element.mem_placesFrom hc
    rwa [List.nil_append, Nat.zero_add] at hplace
  have hfind : (Previous.ofDocument e).find? (d.shownPath file) = some ([i], c) := by
    cases hfound : (Previous.ofDocument e).find? (d.shownPath file) with
    | none =>
        have hnot := List.find?_eq_none.mp hfound _ (List.mem_reverse.mpr hmem)
        simp [hc'.pathOf] at hnot
    | some entry =>
        have hpath : Previous.pathOf entry.2 = d.shownPath file := by
          simpa using List.find?_some hfound
        obtain ⟨j, c'', hj, rfl⟩ := of_mem_ofDocument_children hname hflat
          (List.mem_reverse.mp (List.mem_of_find?_eq_some hfound))
          ⟨c, List.mem_of_getElem? hc, by rw [hpath, hc'.pathOf]⟩
        have hlt : j < files.length := by
          rw [← hlength]
          exact (List.getElem?_eq_some_iff.mp hj).1
        have hother := hstands j _ c'' (List.getElem?_eq_getElem hlt) hj
        rw [hother.pathOf] at hpath
        have hsame : (files.map d.shownPath)[j]? = (files.map d.shownPath)[i]? := by
          rw [List.getElem?_map, List.getElem?_map, hfile, List.getElem?_eq_getElem hlt]
          exact congrArg some hpath
        obtain rfl := (List.getElem?_inj (by rwa [List.length_map]) hdistinct).mp hsame
        rw [hj] at hc
        rw [Option.some.inj hc]
  rw [Previous.unchanged?, hfind]
  exact if_pos hc'.digest

/-- Every file is taken over from where its element stands. -/
theorem getElem?_itemOf (i : Nat) :
    (files.map fun file =>
      (d.itemOf includeSource (.ofDocument e) file (bytesOf file)).1)[i]? =
        e.children[i]?.map fun c => ⟨some [i], c⟩ := by
  rw [List.getElem?_map]
  by_cases hi : i < files.length
  · have hchild : i < e.children.length := by rwa [hlength]
    have hfile : files[i]? = some files[i] := List.getElem?_eq_getElem hi
    have hc : e.children[i]? = some e.children[i] := List.getElem?_eq_getElem hchild
    rw [hfile, hc, Option.map_some, Option.map_some, itemOf_of_some
      (unchanged?_ofDocument hstands hlength hdistinct hname hflat hfile hc)]
  · have hchild : ¬ i < e.children.length := by rwa [hlength]
    rw [List.getElem?_eq_none (Nat.le_of_not_lt hi), List.getElem?_eq_none (Nat.le_of_not_lt hchild)]
    rfl

theorem elements_again : (files.map fun file =>
    (d.itemOf includeSource (.ofDocument e) file (bytesOf file)).1).map (·.element) =
      e.children := by
  apply List.ext_getElem?
  intro i
  rw [List.getElem?_map, getElem?_itemOf hstands hlength hdistinct hname hflat, Option.map_map]
  exact Option.map_id'

theorem apart_again : Apart ((files.map fun file =>
    (d.itemOf includeSource (.ofDocument e) file (bytesOf file)).1).map (·.origin)) := by
  have horigin : ∀ (i : Nat) (origin : Option Address), ((files.map fun file =>
      (d.itemOf includeSource (.ofDocument e) file (bytesOf file)).1).map (·.origin))[i]? =
        some origin → origin = some [i] := by
    intro i origin h
    rw [List.getElem?_map, getElem?_itemOf hstands hlength hdistinct hname hflat,
      Option.map_map] at h
    obtain ⟨c, -, rfl⟩ := Option.map_eq_some_iff.mp h
    rfl
  constructor
  · intro place hplace
    obtain ⟨i, hi⟩ := List.getElem?_of_mem hplace
    exact ⟨i, Option.some.inj (horigin i _ hi)⟩
  · rw [List.pairwise_iff_getElem]
    intro i j hi hj hlt place hplace hplace'
    have hfirst := horigin i _ (List.getElem?_eq_getElem hi)
    have hsecond := horigin j _ (List.getElem?_eq_getElem hj)
    have heq := hfirst.symm.trans (hplace.trans (hplace'.symm.trans hsecond))
    have hij : i = j := (List.cons.inj (Option.some.inj heq)).1
    omega

end Again

/-! ## Describing again -/

/-- The items of files for an earlier document. -/
def itemsFor (d : Describer) (includeSource : Bool) (bytesOf : Path → Bytes) (files : List Path)
    (p : Previous) : List Item :=
  files.map fun file => (d.itemOf includeSource p file (bytesOf file)).1

/-- The element of the document of files for an earlier document. -/
def projectFor (d : Describer) (includeSource : Bool) (bytesOf : Path → Bytes) (files : List Path)
    (p : Previous) : Element :=
  indentItems (rootElement d.description (d.description.fingerprint includeSource))
    (d.itemsFor includeSource bytesOf files p)

section Project

theorem exists_outline_of_mem {c : Element}
    (hc : c ∈ (d.projectFor includeSource bytesOf files p).children) :
    ∃ file ∈ files, c.outline = (d.itemOf includeSource p file (bytesOf file)).1.element.outline := by
  have houtlines := outline_indentItems
    (rootElement d.description (d.description.fingerprint includeSource))
    (d.itemsFor includeSource bytesOf files p)
  have hmem := List.mem_map_of_mem (f := Element.outline) hc
  rw [projectFor, houtlines] at hmem
  obtain ⟨item, hitem, heq⟩ := List.mem_map.mp hmem
  obtain ⟨file, hfile, rfl⟩ := List.mem_map.mp hitem
  exact ⟨file, hfile, heq.symm⟩

/-- The document carries the fingerprint of its settings. -/
theorem attribute?_projectFor : (d.projectFor includeSource bytesOf files p).attribute?
    "settings".toList = some (d.description.fingerprint includeSource) := by
  rw [Element.attribute?, projectFor, indentItems_attributes]
  rfl

theorem length_projectFor :
    (d.projectFor includeSource bytesOf files p).children.length = files.length := by
  have hlength := congrArg List.length (outline_indentItems
    (rootElement d.description (d.description.fingerprint includeSource))
    (d.itemsFor includeSource bytesOf files p))
  rwa [List.length_map, List.length_map, itemsFor, List.length_map] at hlength

/-- Every child of the document stands for its file. -/
theorem standsFor_projectFor (hholds : HoldsFiles p)
    (hnames : ∀ file ∈ files, ∀ n ∈ file.names, n ≠ []) {i : Nat} {file : Path} {c : Element}
    (hfile : files[i]? = some file)
    (hc : (d.projectFor includeSource bytesOf files p).children[i]? = some c) :
    StandsFor c (d.shownPath file) (Md5.hexDigest (bytesOf file)) := by
  have houtlines := congrArg (fun es : List Element => es[i]?) (outline_indentItems
    (rootElement d.description (d.description.fingerprint includeSource))
    (d.itemsFor includeSource bytesOf files p))
  rw [List.getElem?_map, List.getElem?_map, itemsFor, List.getElem?_map, hfile] at houtlines
  rw [projectFor, itemsFor] at hc
  rw [hc] at houtlines
  have hstands := standsFor_itemOf (d := d) hholds includeSource
    (hnames file (List.mem_of_getElem? hfile)) (bytesOf file)
  exact hstands.of_outline_eq (Option.some.inj houtlines)

/-- Every file has a child of the document. -/
theorem exists_child_of_mem {file : Path} (hfile : file ∈ files) :
    ∃ c ∈ (d.projectFor includeSource bytesOf files p).children,
      c.outline = (d.itemOf includeSource p file (bytesOf file)).1.element.outline := by
  have houtlines := outline_indentItems
    (rootElement d.description (d.description.fingerprint includeSource))
    (d.itemsFor includeSource bytesOf files p)
  have hmem : (d.itemOf includeSource p file (bytesOf file)).1.element.outline ∈
      (d.projectFor includeSource bytesOf files p).children.map Element.outline := by
    rw [projectFor, houtlines, itemsFor, List.map_map]
    exact List.mem_map.mpr ⟨file, hfile, rfl⟩
  exact List.mem_map.mp hmem

variable (hp : p.Places root) (hholds : HoldsFiles p) (hdistinct : (files.map d.shownPath).Nodup)
  (hnames : ∀ file ∈ files, ∀ n ∈ file.names, n ≠ [])
  (hflat : (d.projectFor includeSource bytesOf files p).Flat)

include hp hholds hnames hflat in
/-- Of two files, the element of one does not hold that of the other. -/
theorem not_prefix_of_flat {file other : Path} (hfile : file ∈ files) (hother : other ∈ files)
    (hne : d.shownPath file ≠ d.shownPath other) {place place' : Address}
    (hplace : (d.itemOf includeSource p file (bytesOf file)).1.origin = some place)
    (hplace' : (d.itemOf includeSource p other (bytesOf other)).1.origin = some place') :
    ¬ place <+: place' := by
  rintro ⟨inner, rfl⟩
  obtain ⟨e, he⟩ := unchanged?_of_origin hplace
  obtain ⟨e', he'⟩ := unchanged?_of_origin hplace'
  obtain ⟨hmem, hpath, -⟩ := of_unchanged? he
  obtain ⟨hmem', hpath', -⟩ := of_unchanged? he'
  obtain ⟨hat, -⟩ := hp _ hmem
  obtain ⟨hat', hname⟩ := hp _ hmem'
  rw [Element.at?_append, hat, Option.bind_some] at hat'
  cases inner with
  | nil =>
      obtain rfl := Option.some.inj hat'
      exact hne (hpath.symm.trans hpath')
  | cons i is =>
      obtain ⟨g, hg, hat'⟩ := Option.bind_eq_some_iff.mp hat'
      obtain ⟨c, hc, houtline⟩ := exists_child_of_mem (d := d) (p := p) hfile
      obtain ⟨c', hc', houtline'⟩ := exists_child_of_mem (d := d) (p := p) hother
      rw [itemOf_of_some he] at houtline
      have hinside := Element.forall_mem_inside_of_outline_eq houtline
        (P := fun name attributes => name = fileName →
          ∀ file ∈ (d.projectFor includeSource bytesOf files p).children,
            Previous.pathOf { name, attributes } ≠ Previous.pathOf file) (hflat c hc)
      have hstands := (standsFor_itemOf hholds includeSource (hnames other hother)
        (bytesOf other)).of_outline_eq houtline'
      apply hinside g (List.mem_of_getElem? hg) e' (Element.mem_elements_of_at? hat') hname c' hc'
      rw [hstands.pathOf]
      exact hpath'

include hp hholds hdistinct hnames hflat in
/-- The elements that are taken over stand apart. -/
theorem separate_items :
    Separate ((d.itemsFor includeSource bytesOf files p).map (·.origin)) := by
  rw [itemsFor, List.map_map, Separate, List.pairwise_map]
  rw [List.Nodup, List.pairwise_map] at hdistinct
  apply hdistinct.imp_of_mem
  intro file other hfile hother hne place place' hplace hplace'
  constructor
  · exact not_prefix_of_flat hp hholds hnames hflat hfile hother hne hplace hplace'
  · exact not_prefix_of_flat hp hholds hnames hflat hother hfile hne.symm hplace' hplace

include hp hholds hdistinct hnames hflat in
/-- The document of files for their own document is the same. -/
theorem projectFor_again : d.projectFor includeSource bytesOf files
    (.ofDocument (d.projectFor includeSource bytesOf files p)) =
      d.projectFor includeSource bytesOf files p := by
  have hlaid : d.projectFor includeSource bytesOf files p =
      ({ rootElement d.description (d.description.fingerprint includeSource) with
        children := (d.itemsFor includeSource bytesOf files p).map (·.element) } : Element).indent :=
    indentItems_of_separate _ (separate_items hp hholds hdistinct hnames hflat)
  have hname : (d.projectFor includeSource bytesOf files p).name ≠ fileName := by
    rw [projectFor, indentItems_name]
    simp only [rootElement]
    decide
  have hstands : ∀ (i : Nat) file c, files[i]? = some file →
      (d.projectFor includeSource bytesOf files p).children[i]? = some c →
        StandsFor c (d.shownPath file) (Md5.hexDigest (bytesOf file)) :=
    fun i file c hfile hc => standsFor_projectFor hholds hnames hfile hc
  have happart : Apart ((d.itemsFor includeSource bytesOf files
      (.ofDocument (d.projectFor includeSource bytesOf files p))).map (·.origin)) :=
    apart_again hstands length_projectFor hdistinct hname hflat
  have helements : (d.itemsFor includeSource bytesOf files
      (.ofDocument (d.projectFor includeSource bytesOf files p))).map (·.element) =
        (d.projectFor includeSource bytesOf files p).children :=
    elements_again hstands length_projectFor hdistinct hname hflat
  calc d.projectFor includeSource bytesOf files
        (.ofDocument (d.projectFor includeSource bytesOf files p))
      = ({ rootElement d.description (d.description.fingerprint includeSource) with
          children := (d.projectFor includeSource bytesOf files p).children } : Element).indent := by
        rw [projectFor, indentItems_of_apart _ happart, helements]
    _ = d.projectFor includeSource bytesOf files p := by
        rw [hlaid]
        exact Element.indent_again _ _

variable (hlawful : ∀ entry ∈ p.entries, ∀ x ∈ entry.2.elements, x.Lawful)

include hlawful in
/-- The document of files is read with uniform line ends, or it is malformed. -/
theorem read_projectFor :
    ((∀ x ∈ (d.projectFor includeSource bytesOf files p).elements, x.Writable) ∧
      Xml.read (Utf8.encode ((d.projectFor includeSource bytesOf files p).write ++ ['\n'])) =
        .ok (d.projectFor includeSource bytesOf files p).seen) ∨
    ((¬ ∀ x ∈ (d.projectFor includeSource bytesOf files p).elements, x.Writable) ∧ ∃ message,
      Xml.read (Utf8.encode ((d.projectFor includeSource bytesOf files p).write ++ ['\n'])) =
        .error (.malformed message)) := by
  apply read_write_cases _ (indentItems_tail _ _)
  apply forall_named_indentItems_iff.mpr
  refine ⟨(plainTag_rootElement _ _).named, ?_⟩
  intro item hitem
  obtain ⟨file, -, rfl⟩ := List.mem_map.mp hitem
  exact named_itemOf hlawful file _

end Project

/-- Without anything to take over, everything is made anew. -/
theorem itemsFor_of_none (h : ∀ file ∈ files,
    p.unchanged? (d.shownPath file) (Md5.hexDigest (bytesOf file)) = none) :
    d.itemsFor includeSource bytesOf files p = d.freshItems includeSource bytesOf files := by
  apply List.map_congr_left
  intro file hfile
  exact itemOf_of_none (h file hfile)

theorem itemsFor_nothing :
    d.itemsFor includeSource bytesOf files {} = d.freshItems includeSource bytesOf files :=
  itemsFor_of_none fun _ _ => rfl

theorem projectFor_of_none (h : ∀ file ∈ files,
    p.unchanged? (d.shownPath file) (Md5.hexDigest (bytesOf file)) = none) :
    d.projectFor includeSource bytesOf files p = d.projectFor includeSource bytesOf files {} := by
  rw [projectFor, projectFor, itemsFor_of_none h, itemsFor_nothing]

/-- In a document that is made anew, no element of a file stands inside another one. -/
theorem flat_projectFor_nothing : (d.projectFor includeSource bytesOf files {}).Flat := by
  intro c hc g hg x hx hname
  obtain ⟨file, -, houtline⟩ := exists_outline_of_mem hc
  exact absurd hname (Element.forall_mem_inside_of_outline_eq houtline.symm
    (P := fun name _ => name ≠ fileName)
    (name_ne_of_mem_fileElement d.description includeSource _ _) g hg x hx)

/-- A document that gives back what was written in it, or one that is made anew, is read as it was,
unless it is malformed; its files have one element each. -/
theorem read_projectFor_of_lasting
    (hlawful : ∀ entry ∈ p.entries, ∀ x ∈ entry.2.elements, x.Lawful)
    (h : (∀ file ∈ files, p.unchanged? (d.shownPath file) (Md5.hexDigest (bytesOf file)) = none) ∨
      Lasting ((d.projectFor includeSource bytesOf files p).write ++ ['\n'])) :
    (Xml.read (Utf8.encode ((d.projectFor includeSource bytesOf files p).write ++ ['\n'])) =
        .ok (d.projectFor includeSource bytesOf files p) ∧
      (d.projectFor includeSource bytesOf files p).Flat) ∨
    ((∀ file ∈ files, p.unchanged? (d.shownPath file) (Md5.hexDigest (bytesOf file)) = none) ∧
      ∃ message, Xml.read (Utf8.encode ((d.projectFor includeSource bytesOf files p).write ++
        ['\n'])) = .error (.malformed message)) := by
  have hlines : (d.projectFor includeSource bytesOf files p).AllTexts fun t => '\r' ∉ t := by
    obtain hnone | hlasting := h
    · rw [projectFor, itemsFor_of_none hnone]
      exact return_not_mem_freshProject d includeSource bytesOf files
    · apply Element.allTexts_of_not_mem_write
      exact fun hmem => hlasting.lines (List.mem_append_left _ hmem)
  obtain ⟨hwritable, hread⟩ | ⟨-, message, hmalformed⟩ :=
    @read_projectFor d includeSource files bytesOf p hlawful
  · rw [Element.seen_eq_self hwritable hlines] at hread
    left
    refine ⟨hread, ?_⟩
    obtain hnone | ⟨-, root, hroot, hflat⟩ := h
    · rw [projectFor_of_none hnone]
      exact flat_projectFor_nothing
    · obtain rfl := Except.ok.inj (hread.symm.trans hroot)
      exact hflat
  · right
    obtain hnone | ⟨-, root, hroot, -⟩ := h
    · exact ⟨hnone, message, hmalformed⟩
    · exact absurd (hmalformed.symm.trans hroot) (by simp)

/-- Nothing is ever loaded, or the earlier document is. -/
theorem load_cases (d : Describer) (fingerprint : Text) :
    (∀ ws, d.load ws fingerprint = .ok {}) ∨
      ∃ path, d.earlier = some path ∧ d.description.force = false := by
  cases hearlier : d.earlier with
  | none =>
      left
      intro ws
      rw [load, hearlier]
  | some path =>
      cases hforce : d.description.force with
      | true =>
          left
          intro ws
          rw [load, hearlier, hforce]
      | false => exact .inr ⟨path, rfl, rfl⟩

/-- Of a document with the right settings, its elements of files are loaded. -/
theorem exists_loading_of_read {path : Path} {bytes : Bytes} {fingerprint : Text}
    (hearlier : d.earlier = some path) (hforce : d.description.force = false)
    (hbytes : ws.read path.text = .ok bytes) (hroot : Xml.read bytes = .ok root)
    (hsettings : root.attribute? "settings".toList = some fingerprint) :
    ∃ loading, d.load ws fingerprint = .ok loading ∧ loading.previous = .ofDocument root := by
  rw [load_of_read hearlier hbytes hforce, Loading.ofBytes, hroot]
  simp only [hsettings, if_true]
  exact ⟨_, rfl, rfl⟩

/-- The document of readable files, for what was loaded. -/
theorem describe_projectFor (hfiles : files ≠ [])
    (hread : ∀ file ∈ files, ws.read file.text = .ok (bytesOf file)) {loading : Loading}
    (hload : d.load ws (d.description.fingerprint includeSource) = .ok loading) :
    (d.describe ws includeSource files).outcome =
      .ok ((d.projectFor includeSource bytesOf files loading.previous).write ++ ['\n']) := by
  have hproject : d.project ws includeSource files =
      .ok (d.projectFor includeSource bytesOf files loading.previous) :=
    project_eq_ok.mpr ⟨loading, _, hload, itemsOf_readable hread, rfl⟩
  rw [describe_outcome, if_neg (by simpa using hfiles), hproject]
  rfl

section Outcome

variable {content : Text} (hnames : ∀ file ∈ files, ∀ n ∈ file.names, n ≠ [])
  (hdistinct : (files.map d.shownPath).Nodup)
  (hlasting : d.TakesOver ws includeSource files → Lasting content)

include hnames hdistinct hlasting in
/-- Whatever was loaded before, loading the document and describing the files for it gives the
document. -/
theorem exists_load_again {loading : Loading}
    (hload : d.load ws (d.description.fingerprint includeSource) = .ok loading)
    (hread : ∀ file ∈ files, ws.read file.text = .ok (ws.contentOf file))
    (hcontent : content = (d.projectFor includeSource ws.contentOf files loading.previous).write ++
      ['\n'])
    (hearlier : ∀ path, d.earlier = some path → ws'.read path.text = .ok (Utf8.encode content)) :
    ∃ loading', d.load ws' (d.description.fingerprint includeSource) = .ok loading' ∧
      d.projectFor includeSource ws.contentOf files loading'.previous =
        d.projectFor includeSource ws.contentOf files loading.previous := by
  subst hcontent
  have hkept : (∀ file ∈ files, loading.previous.unchanged? (d.shownPath file)
        (Md5.hexDigest (ws.contentOf file)) = none) ∨
      Lasting ((d.projectFor includeSource ws.contentOf files loading.previous).write ++
        ['\n']) := by
    by_cases hnone : ∀ file ∈ files, loading.previous.unchanged? (d.shownPath file)
        (Md5.hexDigest (ws.contentOf file)) = none
    · exact .inl hnone
    · simp only [not_forall] at hnone
      obtain ⟨file, hfile, hfound⟩ := hnone
      exact .inr (hlasting ⟨loading, hload, file, hfile, _, hread file hfile, hfound⟩)
  obtain hnothing | ⟨path, hpath, hforce⟩ :=
    load_cases d (d.description.fingerprint includeSource)
  · obtain rfl := Except.ok.inj ((hnothing ws).symm.trans hload)
    exact ⟨{}, hnothing ws', rfl⟩
  · have hbytes := hearlier path hpath
    obtain ⟨hsame, hflat⟩ | ⟨hnone, message, hmalformed⟩ :=
      read_projectFor_of_lasting (lawful_of_load hload) hkept
    · obtain ⟨root, hplaces⟩ := exists_places_of_load hload
      obtain ⟨loading', hload', hprevious⟩ := exists_loading_of_read hpath hforce hbytes hsame
        attribute?_projectFor
      refine ⟨loading', hload', ?_⟩
      rw [hprevious]
      exact projectFor_again hplaces (holdsFiles_load hload) hdistinct hnames hflat
    · -- A document that cannot be read was made without taking anything over.
      refine ⟨_, load_of_malformed hpath hbytes hforce _ hmalformed, ?_⟩
      exact (projectFor_of_none hnone).symm

include hnames hdistinct hlasting in
/-- Files that are described once more over their document get the same document. -/
theorem describe_again (hok : (d.describe ws includeSource files).outcome = .ok content)
    (hreads : ∀ file ∈ files, ∀ bytes, ws.read file.text = .ok bytes →
      ws'.read file.text = .ok bytes)
    (hearlier : ∀ path, d.earlier = some path → ws'.read path.text = .ok (Utf8.encode content)) :
    (d.describe ws' includeSource files).outcome = .ok content := by
  obtain ⟨e, hproject, hcontent⟩ := describe_eq_ok hok
  obtain ⟨loading, items, hload, hitems, rfl⟩ := project_eq_ok.mp hproject
  have hread : ∀ file ∈ files, ws.read file.text = .ok (ws.contentOf file) := by
    obtain ⟨-, hread⟩ | ⟨fault, -, herror⟩ := readable_or_error ws files
    · exact hread
    · exact absurd ((herror d includeSource loading.previous).symm.trans hitems) (by simp)
  obtain rfl := Except.ok.inj ((itemsOf_readable hread).symm.trans hitems)
  obtain ⟨loading', hload', hsame⟩ :=
    exists_load_again hnames hdistinct hlasting hload hread hcontent hearlier
  have hfiles : files ≠ [] := by
    rintro rfl
    rw [describe_outcome] at hok
    cases hok
  have hread' : ∀ file ∈ files, ws'.read file.text = .ok (ws.contentOf file) :=
    fun file hfile => hreads file hfile _ (hread file hfile)
  rw [describe_projectFor hfiles hread' hload', hsame, hcontent]
  rfl

end Outcome

end Describer

end SourceAtlas
