import Mathlib.Data.List.Forall2
import SourceAtlas.Document.Describe
import SourceAtlas.Proofs.Document.Layout
import SourceAtlas.Proofs.Joining
import SourceAtlas.Proofs.Outcomes
import SourceAtlas.Proofs.Paths

/-!
# What a description tells of its files

The document that is written is that of one element, and the children of this element stand for the
files in their order.  Whether a child is made anew or taken over from an earlier document, it is
named as a file and carries the path and the digest of the file as they are now.
-/

namespace SourceAtlas

open Text Xml

/-! ## Paths -/

/-- The names of a path that is read from a text are not idle. -/
theorem Path.ne_nil_of_mem_ofText {t n : Text} (h : n ∈ (Path.ofText t).names) : n ≠ [] := by
  rintro rfl
  have hidle := (List.mem_filter.mp h).2
  exact absurd hidle (by decide)

theorem Path.relativeTo?_eq_some {p base q : Path} (h : p.relativeTo? base = some q) :
    q.anchor = .relative ∧ p.names = base.names ++ q.names := by
  unfold Path.relativeTo? at h
  split at h
  · next hlead =>
      obtain rfl := (Option.some.inj h).symm
      simp only [Bool.and_eq_true, List.isPrefixOf_iff_prefix] at hlead
      exact ⟨rfl, (List.prefix_iff_eq_append.mp hlead.2).symm⟩
  · exact absurd h (by simp)

namespace Describer

variable {d : Describer} {ws : Workspace}

/-- The path that the document gives is not empty. -/
theorem shownPath_ne_nil {file : Path} (h : ∀ n ∈ file.names, n ≠ []) : d.shownPath file ≠ [] := by
  unfold shownPath
  cases hrelative : file.relativeTo? d.root with
  | none => exact Path.text_ne_nil h
  | some q =>
      refine Path.text_ne_nil fun n hn => h n ?_
      rw [(Path.relativeTo?_eq_some hrelative).2]
      exact List.mem_append_right _ hn

/-! ## Elements of files -/

/-- The element stands for a file with a path and a digest. -/
structure StandsFor (e : Element) (path digest : Text) : Prop where
  name : e.name = fileName
  path : e.attribute? pathKey = some path
  digest : e.attribute? hashKey = some digest

theorem standsFor_fileElement (s : Description) (includeSource : Bool) (path : Text)
    (bytes : Bytes) :
    StandsFor (s.fileElement includeSource path bytes).1 path (Md5.hexDigest bytes) :=
  ⟨rfl, rfl, rfl⟩

theorem StandsFor.pathOf {e : Element} {path digest : Text} (h : StandsFor e path digest) :
    Previous.pathOf e = path := by
  rw [Previous.pathOf, h.path]
  rfl

theorem StandsFor.of_outline_eq {e e' : Element} {path digest : Text}
    (h : StandsFor e path digest) (heq : e'.outline = e.outline) : StandsFor e' path digest := by
  have hname := congrArg Element.name heq
  have hattributes := congrArg Element.attributes heq
  simp only [Element.outline_name, Element.outline_attributes] at hname hattributes
  refine ⟨hname.trans h.name, ?_, ?_⟩
  · rw [Element.attribute?, hattributes]
    exact h.path
  · rw [Element.attribute?, hattributes]
    exact h.digest

/-- The entries of an earlier document are elements of files. -/
def HoldsFiles (p : Previous) : Prop := ∀ entry ∈ p.entries, entry.2.name = fileName

theorem holdsFiles_ofDocument (root : Element) : HoldsFiles (Previous.ofDocument root) := by
  intro entry hentry
  simpa using (List.mem_filter.mp hentry).2

theorem of_unchanged? {p : Previous} {path digest : Text} {entry : Address × Element}
    (h : p.unchanged? path digest = some entry) :
    entry ∈ p.entries ∧ Previous.pathOf entry.2 = path ∧
      entry.2.attribute? hashKey = some digest := by
  unfold Previous.unchanged? at h
  split at h
  · next hfind =>
      split at h
      · next hdigest =>
          obtain rfl := Option.some.inj h
          exact ⟨List.mem_reverse.mp (List.mem_of_find?_eq_some hfind),
            by simpa using List.find?_some hfind, hdigest⟩
      · exact absurd h (by simp)
  · exact absurd h (by simp)

/-- What is taken over stands for the file, whatever the earlier document is. -/
theorem standsFor_unchanged {p : Previous} (hp : HoldsFiles p) {path digest : Text}
    (hpath : path ≠ []) {place : Address} {e : Element}
    (h : p.unchanged? path digest = some (place, e)) : StandsFor e path digest := by
  obtain ⟨hmem, hkey, hdigest⟩ := of_unchanged? h
  refine ⟨hp _ hmem, ?_, hdigest⟩
  unfold Previous.pathOf at hkey
  cases hattribute : e.attribute? pathKey with
  | none =>
      rw [hattribute] at hkey
      exact absurd hkey.symm hpath
  | some value =>
      rw [hattribute] at hkey
      rw [← hkey]
      rfl

theorem itemOf_of_none {includeSource : Bool} {p : Previous} {file : Path} {bytes : Bytes}
    (h : p.unchanged? (d.shownPath file) (Md5.hexDigest bytes) = none) :
    (d.itemOf includeSource p file bytes).1 =
      ⟨none, (d.description.fileElement includeSource (d.shownPath file) bytes).1⟩ := by
  simp only [itemOf, h]

theorem itemOf_of_some {includeSource : Bool} {p : Previous} {file : Path} {bytes : Bytes}
    {place : Address} {e : Element}
    (h : p.unchanged? (d.shownPath file) (Md5.hexDigest bytes) = some (place, e)) :
    (d.itemOf includeSource p file bytes).1 = ⟨some place, e⟩ := by
  simp only [itemOf, h]

theorem standsFor_itemOf {p : Previous} (hp : HoldsFiles p) (includeSource : Bool) {file : Path}
    (hfile : ∀ n ∈ file.names, n ≠ []) (bytes : Bytes) :
    StandsFor (d.itemOf includeSource p file bytes).1.element (d.shownPath file)
      (Md5.hexDigest bytes) := by
  cases h : p.unchanged? (d.shownPath file) (Md5.hexDigest bytes) with
  | none =>
      rw [itemOf_of_none h]
      exact standsFor_fileElement d.description includeSource _ bytes
  | some entry =>
      rw [itemOf_of_some h]
      exact standsFor_unchanged hp (shownPath_ne_nil hfile) h

end Describer

/-! ## Reading files -/

/-- The content of a file that can be read. -/
def Workspace.contentOf (ws : Workspace) (file : Path) : Bytes :=
  match ws.read file.text with
  | .ok bytes => bytes
  | .error _ => []

theorem Workspace.read_eq_contentOf {ws : Workspace} {file : Path} {bytes : Bytes}
    (h : ws.read file.text = .ok bytes) : ws.read file.text = .ok (ws.contentOf file) := by
  rw [contentOf, h]

/-- The failure of the first file that cannot be read. -/
def Workspace.firstFailure (ws : Workspace) (files : List Path) : Option FileError :=
  files.findSome? fun file =>
    match ws.read file.text with
    | .ok _ => none
    | .error e => some e

namespace Describer

/-- All files can be read, or the first that cannot decides what becomes of describing them. -/
theorem readable_or_error (ws : Workspace) (files : List Path) :
    (ws.firstFailure files = none ∧ ∀ file ∈ files, ws.read file.text = .ok (ws.contentOf file)) ∨
      ∃ e, ws.firstFailure files = some e ∧
        ∀ (d : Describer) includeSource previous,
          (d.itemsOf ws includeSource previous files).outcome = .error (.ofFile e) := by
  induction files with
  | nil => exact .inl ⟨rfl, by simp⟩
  | cons file files ih =>
      cases hread : ws.read file.text with
      | error e =>
          right
          refine ⟨e, by simp [Workspace.firstFailure, hread], ?_⟩
          intro d includeSource previous
          rw [itemsOf, hread]
      | ok bytes =>
          have hfirst : ws.firstFailure (file :: files) = ws.firstFailure files := by
            simp [Workspace.firstFailure, hread]
          rw [hfirst]
          rcases ih with ⟨hnone, ih⟩ | ⟨e, he, houtcome⟩
          · left
            constructor
            · exact hnone
            · intro other hother
              rcases List.mem_cons.mp hother with rfl | hother
              · exact Workspace.read_eq_contentOf hread
              · exact ih other hother
          · right
            refine ⟨e, he, ?_⟩
            intro d includeSource previous
            rw [itemsOf, hread]
            simp only [houtcome]
            rfl

variable {d : Describer} {ws : Workspace}

/-! ## Items of files -/

/-- The item of a file that could be read. -/
def IsItemOf (d : Describer) (ws : Workspace) (includeSource : Bool) (p : Previous) (file : Path)
    (item : Item) : Prop :=
  ∃ bytes, ws.read file.text = .ok bytes ∧ item = (d.itemOf includeSource p file bytes).1

theorem itemsOf_eq_ok {includeSource : Bool} {p : Previous} {files : List Path} {items : List Item}
    (h : (d.itemsOf ws includeSource p files).outcome = .ok items) :
    List.Forall₂ (d.IsItemOf ws includeSource p) files items ∧
      (d.itemsOf ws includeSource p files).signals.count .processed = files.length := by
  induction files generalizing items with
  | nil =>
      obtain rfl := (Except.ok.inj h).symm
      exact ⟨.nil, rfl⟩
  | cons file files ih =>
      unfold itemsOf at h ⊢
      cases hread : ws.read file.text with
      | error e =>
          rw [hread] at h
          exact absurd h (by simp)
      | ok bytes =>
          rw [hread] at h
          simp only at h ⊢
          obtain ⟨rest, hrest, rfl⟩ := map_eq_ok.mp h
          obtain ⟨hitems, hcount⟩ := ih hrest
          refine ⟨.cons ⟨bytes, hread, rfl⟩ hitems, ?_⟩
          have hevents : ((d.itemOf includeSource p file bytes).2.map Signal.event).count
              Signal.processed = 0 := by
            rw [List.count_eq_zero]
            simp
          rw [List.count_append, List.count_cons_self, hevents, hcount, List.length_cons]
          omega

/-! ## The element of a document -/

/-- The element of the document of the given files. -/
def project (d : Describer) (ws : Workspace) (includeSource : Bool) (files : List Path) :
    Except Fault Element :=
  let fingerprint := d.description.fingerprint includeSource
  match d.load ws fingerprint with
  | .error f => .error f
  | .ok loading =>
    (d.itemsOf ws includeSource loading.previous files).outcome.map
      (indentItems (rootElement d.description fingerprint))

/-- The document of files is that of its element, on a line of its own. -/
theorem describe_outcome (d : Describer) (ws : Workspace) (includeSource : Bool)
    (files : List Path) :
    (d.describe ws includeSource files).outcome =
      if files.isEmpty then .error noFiles
      else (d.project ws includeSource files).map fun e => e.write ++ ['\n'] := by
  unfold describe project
  split
  · rfl
  · simp only
    cases d.load ws (d.description.fingerprint includeSource) with
    | error f => rfl
    | ok loading =>
        cases h : (d.itemsOf ws includeSource loading.previous files).outcome with
        | error f => simp [h, Except.map]
        | ok items => simp [h, Except.map]

/-- What is loaded is nothing, or the files of a document that was read. -/
theorem previous_of_load {fingerprint : Text} {loading : Loading}
    (h : d.load ws fingerprint = .ok loading) :
    loading.previous = {} ∨
      ∃ bytes root, Xml.read bytes = .ok root ∧ loading.previous = .ofDocument root := by
  unfold load at h
  split at h
  · obtain ⟨isFile, -, h⟩ := bind_eq_ok.mp h
    split at h
    · obtain ⟨bytes, -, h⟩ := bind_eq_ok.mp h
      unfold Loading.ofBytes at h
      split at h
      · exact .inl (congrArg Loading.previous (Except.ok.inj h)).symm
      · exact absurd h (by simp)
      · next root hroot =>
          split at h
          · exact .inr ⟨bytes, root, hroot, (congrArg Loading.previous (Except.ok.inj h)).symm⟩
          · exact .inl (congrArg Loading.previous (Except.ok.inj h)).symm
    · exact .inl (congrArg Loading.previous (Except.ok.inj h)).symm
  · exact .inl (congrArg Loading.previous (Except.ok.inj h)).symm

theorem holdsFiles_load {fingerprint : Text} {loading : Loading}
    (h : d.load ws fingerprint = .ok loading) : HoldsFiles loading.previous := by
  rcases previous_of_load h with hnone | ⟨bytes, root, -, hroot⟩
  · rw [hnone]
    simp [HoldsFiles]
  · rw [hroot]
    exact holdsFiles_ofDocument root

theorem project_eq_ok {includeSource : Bool} {files : List Path} {e : Element} :
    d.project ws includeSource files = .ok e ↔
      ∃ loading items, d.load ws (d.description.fingerprint includeSource) = .ok loading ∧
        (d.itemsOf ws includeSource loading.previous files).outcome = .ok items ∧
        indentItems (rootElement d.description (d.description.fingerprint includeSource)) items = e := by
  unfold project
  cases hload : d.load ws (d.description.fingerprint includeSource) with
  | error f => simp [hload]
  | ok loading => simp [hload, map_eq_ok]

/-- The element has one child for each file. -/
theorem length_children_project {includeSource : Bool} {files : List Path} {e : Element}
    (h : d.project ws includeSource files = .ok e) : e.children.length = files.length := by
  obtain ⟨loading, items, -, hitems, rfl⟩ := project_eq_ok.mp h
  have hlength := congrArg List.length (outline_indentItems
    (rootElement d.description (d.description.fingerprint includeSource)) items)
  rw [List.length_map, List.length_map] at hlength
  rw [hlength, (itemsOf_eq_ok hitems).1.length_eq]

/-- The children of the element stand for the files. -/
theorem standsFor_project {includeSource : Bool} {files : List Path} {e : Element}
    (hfiles : ∀ file ∈ files, ∀ n ∈ file.names, n ≠ [])
    (h : d.project ws includeSource files = .ok e) :
    List.Forall₂ (fun file child => ∃ bytes, ws.read file.text = .ok bytes ∧
      StandsFor child (d.shownPath file) (Md5.hexDigest bytes)) files e.children := by
  obtain ⟨loading, items, hload, hitems, rfl⟩ := project_eq_ok.mp h
  have hholds := holdsFiles_load hload
  have houtlines : List.Forall₂ (fun (item : Item) (child : Element) =>
      child.outline = item.element.outline) items
      (indentItems (rootElement d.description (d.description.fingerprint includeSource))
        items).children := by
    have heq := outline_indentItems
      (rootElement d.description (d.description.fingerprint includeSource)) items
    rw [← List.forall₂_eq_eq_eq, List.forall₂_map_left_iff, List.forall₂_map_right_iff] at heq
    exact heq.flip
  have hof := (itemsOf_eq_ok hitems).1
  rw [List.forall₂_iff_get] at hof houtlines ⊢
  constructor
  · exact hof.1.trans houtlines.1
  · intro i hi hi'
    have hitem : i < items.length := hof.1 ▸ hi
    obtain ⟨bytes, hread, heq⟩ := hof.2 i hi hitem
    have hstands := standsFor_itemOf (d := d) hholds includeSource
      (hfiles _ (List.get_mem files ⟨i, hi⟩)) bytes
    rw [← heq] at hstands
    exact ⟨bytes, hread, hstands.of_outline_eq (houtlines.2 i hitem hi')⟩

/-- A document that is described is that of its element. -/
theorem describe_eq_ok {includeSource : Bool} {files : List Path} {content : Text}
    (h : (d.describe ws includeSource files).outcome = .ok content) :
    ∃ e, d.project ws includeSource files = .ok e ∧ content = e.write ++ ['\n'] := by
  rw [describe_outcome] at h
  split at h
  · exact absurd h (by simp)
  · obtain ⟨e, he, rfl⟩ := map_eq_ok.mp h
    exact ⟨e, he, rfl⟩

/-- Every file is signalled once. -/
theorem count_processed_describe {includeSource : Bool} {files : List Path} {content : Text}
    (h : (d.describe ws includeSource files).outcome = .ok content) :
    (d.describe ws includeSource files).signals.count .processed = files.length := by
  unfold describe at h ⊢
  split
  · next hempty =>
      rw [if_pos hempty] at h
      exact absurd h (by simp)
  · next hempty =>
      rw [if_neg hempty] at h
      simp only at h ⊢
      cases hload : d.load ws (d.description.fingerprint includeSource) with
      | error f =>
          rw [hload] at h
          exact absurd h (by simp)
      | ok loading =>
          rw [hload] at h
          obtain ⟨items, hitems, -⟩ := map_eq_ok.mp h
          have hevents : (loading.events.map Signal.event).count Signal.processed = 0 := by
            rw [List.count_eq_zero]
            simp
          rw [List.count_append, hevents, (itemsOf_eq_ok hitems).2, Nat.zero_add]

end Describer

/-- A workspace with one source file. -/
def oneFile : Workspace :=
  { files := ⟨[(["w".toList], .directory),
      (["w".toList, "a.php".toList], .file (Utf8.encode "# TODO tidy".toList))]⟩
    workingDirectory := ["w".toList]
    homes := [] }

end SourceAtlas
