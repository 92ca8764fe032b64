import SourceAtlas.Proofs.Xml.Tokens

/-!
# Names of any document

A prefix is bound to no name space that is reserved or that a tag could not hold.  So whatever tag is
resolved, with whatever declarations, its element can be given a tag again: only the local name of
an attribute may be no name, where it is that of a declared default value.
-/

namespace SourceAtlas.Xml

open Text

/-! ## Raw names -/

/-- A raw name is a name, or has a prefix that is not empty. -/
theorem Worded.cases {raw : Text} (h : Worded raw) :
    (isName raw = true ∧ splitPrefix raw = ([], raw)) ∨
      ∃ c label n, splitPrefix raw = (c :: label, n) ∧ ∀ d ∈ n, isClosingNameChar d = true := by
  obtain ⟨c, cs, rfl, hc⟩ := h.start
  by_cases hcolon : ':' ∈ c :: cs
  · obtain ⟨label, n, heq, hlabel⟩ := List.eq_append_cons_of_mem hcolon
    cases label with
    | nil =>
        obtain rfl := (List.cons.inj heq).1
        exact absurd hc (by decide)
    | cons d label =>
        right
        refine ⟨d, label, n, ?_, fun e he => h.characters e ?_⟩
        · rw [heq]
          exact splitPrefix_joined hlabel n
        · rw [heq]
          exact List.mem_append_right _ (List.mem_cons_of_mem _ he)
  · left
    refine ⟨isName_cons.mpr ⟨hc, fun d hd => ?_⟩, splitPrefix_plain hcolon⟩
    have hd' := h.characters d (List.mem_cons_of_mem c hd)
    simp only [isClosingNameChar, Bool.or_eq_true, beq_iff_eq] at hd'
    rcases hd' with hd' | rfl
    · exact hd'
    · exact absurd (List.mem_cons_of_mem c hd) hcolon

/-! ## Scopes -/

/-- Prefixes are bound to what a tag can bind them to; only the empty one may be bound to nothing. -/
def Scope.Lawful (s : Scope) : Prop := ∀ p ∈ s, Bindable p.2 ∧ (p.2 = [] → p.1 = [])

theorem Scope.lawful_outermost : Scope.outermost.Lawful := by
  intro p hp
  obtain rfl := List.mem_singleton.mp hp
  exact ⟨⟨by decide, by decide, by decide⟩, by decide⟩

theorem Scope.Lawful.of_spaceOf? {s : Scope} (h : s.Lawful) {label space : Text}
    (heq : s.spaceOf? label = some space) : Bindable space ∧ (space = [] → label = []) := by
  obtain ⟨p, hfind, rfl⟩ := Option.map_eq_some_iff.mp heq
  have hlabel : p.1 = label := by simpa using List.find?_some hfind
  rw [← hlabel]
  exact h p (List.mem_of_find?_eq_some hfind)

theorem bindable_of_bindingFault? {label space : Text} (h : bindingFault? label space = none)
    (hspace : Legal space) : Bindable space ∧ (space = [] → label = []) := by
  unfold bindingFault? at h
  split at h
  · exact absurd h (by simp)
  · next hempty =>
      split at h
      · exact absurd h (by simp)
      · split at h
        · exact absurd h (by simp)
        · next hbrace =>
            have hreserved : space ≠ xmlnsSpace := by
              rintro rfl
              split at h
              · exact absurd h (by decide)
              · exact absurd h (by simp)
            constructor
            · exact ⟨hspace, by simpa using hbrace, hreserved⟩
            · intro hnil
              by_cases hlabel : label = []
              · exact hlabel
              · exact absurd ⟨hnil, hlabel⟩ hempty

/-! ## Gathered attributes -/

/-- The raw names of attributes so far. -/
def Gathered.names (g : Gathered) : List Text := g.attributes.map (·.1)

/-- The attributes of a tag so far have different raw names and legal values, and the prefixes that
it binds may be bound. -/
structure Gathered.Lawful (g : Gathered) : Prop where
  attributes : ∀ a ∈ g.attributes, Worded a.1 ∧ a.1 ≠ xmlnsName ∧ Legal a.2
  distinct : g.names.Nodup
  scope : g.scope.Lawful

namespace Gathered

variable {g : Gathered}

theorem gives_add (h : g.Lawful) {name value : Text} (hname : Worded name) (hvalue : Legal value)
    (hnew : name ∉ g.names) :
    Gives (g.add name value) fun g' => g'.Lawful ∧ g'.names ⊆ name :: g.names := by
  unfold add
  split
  · split
    · exact gives_error _
    · next label _ _ hfault =>
        have hbound := bindable_of_bindingFault? hfault hvalue
        exact gives_ok ⟨⟨h.attributes, h.distinct, List.forall_mem_cons.mpr ⟨hbound, h.scope⟩⟩,
          List.subset_cons_self _ _⟩
  · next hnone =>
      have hxmlns : name ≠ xmlnsName := by
        rintro rfl
        exact absurd hnone (by decide)
      have hnames : names { g with attributes := g.attributes ++ [(name, value)] } =
          g.names ++ [name] := by
        simp [names]
      refine gives_ok ⟨⟨?_, ?_, h.scope⟩, ?_⟩
      · intro a ha
        rcases List.mem_append.mp ha with ha | ha
        · exact h.attributes a ha
        · obtain rfl := List.mem_singleton.mp ha
          exact ⟨hname, hxmlns, hvalue⟩
      · rw [hnames]
        apply List.nodup_append.mpr
        refine ⟨h.distinct, by simp, fun n hn m hm heq => hnew ?_⟩
        rw [← List.mem_singleton.mp hm, ← heq]
        exact hn
      · rw [hnames]
        apply List.append_subset.mpr
        exact ⟨List.subset_cons_self _ _, by simp⟩

theorem gives_addGiven {d : Dtd} (hd : d.Lawful) (element start : Text) {attributes : List RawAttribute}
    (has : ∀ a ∈ attributes, Worded a.name ∧ Legal a.value) (seen : List Text) (h : g.Lawful)
    (hseen : g.names ⊆ seen) :
    Gives (addGiven d element start seen g attributes) fun g' =>
      g'.Lawful ∧ g'.names ⊆ attributes.map (·.name) ++ seen := by
  induction attributes generalizing seen g with
  | nil => exact gives_ok ⟨h, hseen⟩
  | cons a as ih =>
      obtain ⟨⟨hname, hvalue⟩, hothers⟩ := List.forall_mem_cons.mp has
      unfold addGiven
      dsimp only
      split
      · exact gives_error _
      · next hnew =>
          refine ((gives_normalize hd _ hvalue).mapError _).bind fun value hv => ?_
          have hfresh : a.name ∉ g.names := fun hmem => hnew (by simpa using hseen hmem)
          refine ((gives_add h hname hv hfresh).mapError _).bind fun g' hg' => ?_
          have hseen' : g'.names ⊆ a.name :: seen :=
            List.Subset.trans hg'.2 (List.cons_subset_cons _ hseen)
          refine (ih hothers (a.name :: seen) hg'.1 hseen').imp fun g'' hg'' => ⟨hg''.1, ?_⟩
          intro n hn
          rcases List.mem_append.mp (hg''.2 hn) with hn | hn
          · exact List.mem_append_left _ (List.mem_cons_of_mem _ hn)
          · rcases List.mem_cons.mp hn with rfl | hn
            · exact List.mem_append_left _ List.mem_cons_self
            · exact List.mem_append_right _ hn

theorem gives_addDefaults (start : Text) (given : List Text) {declared : List AttributeDeclaration}
    (hdeclared : ∀ a ∈ declared, Worded a.name ∧ ∀ v ∈ a.default, Legal v)
    (hdistinct : (declared.map (·.name)).Nodup) (h : g.Lawful)
    (hnew : ∀ a ∈ declared, a.name ∉ given → a.name ∉ g.names) :
    Gives (addDefaults start given g declared) Lawful := by
  induction declared generalizing g with
  | nil => exact gives_ok h
  | cons a as ih =>
      obtain ⟨⟨hname, hdefault⟩, hothers⟩ := List.forall_mem_cons.mp hdeclared
      obtain ⟨hfirst, hrest⟩ := List.nodup_cons.mp hdistinct
      obtain ⟨hfresh, hnew'⟩ := List.forall_mem_cons.mp hnew
      unfold addDefaults
      split
      · next value hvalue =>
          split
          · exact ih hothers hrest h hnew'
          · next hgiven =>
              have hfresh' := hfresh (by simpa using hgiven)
              refine ((gives_add h hname (hdefault value hvalue) hfresh').mapError _).bind
                fun g' hg' => ih hothers hrest hg'.1 fun b hb hb' hmem => ?_
              rcases List.mem_cons.mp (hg'.2 hmem) with heq | hmem
              · exact hfirst (List.mem_map.mpr ⟨b, hb, heq⟩)
              · exact hnew' b hb hb' hmem
      · exact ih hothers hrest h hnew'

end Gathered

/-! ## Names -/

/-- What the raw name of an attribute stands for: a name outside any name space, or one in a name
space, which is then made of characters of names at least. -/
inductive Stands : Text → Name → Prop
  | plain {n : Text} (hn : isName n = true) : Stands n ⟨[], n⟩
  | joined {raw space n : Text} (hn : ∀ c ∈ n, isClosingNameChar c = true) (hspace : Bindable space)
      (hne : space ≠ []) : Stands raw ⟨space, n⟩

namespace Stands

variable {raw : Text} {n : Name} (h : Stands raw n)
include h

theorem bindable : Bindable n.space := by
  cases h with
  | plain _ => exact bindable_nil
  | joined _ hspace _ => exact hspace

theorem isClosingNameChar : ∀ c ∈ n.localName, isClosingNameChar c = true := by
  cases h with
  | plain hn => exact isClosingNameChar_of_isName hn
  | joined hn _ _ => exact hn

/-- A name outside any name space is as it was written. -/
theorem eq_of_space (hspace : n.space = []) : isName n.localName = true ∧ raw = n.localName := by
  cases h with
  | plain hn => exact ⟨hn, rfl⟩
  | joined _ _ hne => exact absurd hspace hne

end Stands

/-- What attributes with raw names are expanded to, behind names that were seen: each stands for one of
them and has its value, no two have one name, and those in name spaces have names that were not seen. -/
structure Expands (seen : List Name) (pairs : List (Text × Text)) (attributes : List Attribute) :
    Prop where
  stands : ∀ b ∈ attributes, ∃ a ∈ pairs, Stands a.1 b.1 ∧ b.2 = a.2
  distinct : (attributes.map (·.1)).Nodup
  unseen : ∀ b ∈ attributes, b.1.space ≠ [] → b.1 ∉ seen

namespace Expands

variable {seen : List Name} {pairs : List (Text × Text)} {attributes : List Attribute}
  {raw value : Text}

theorem stands_cons {n : Name} (h : Expands seen pairs attributes) (hn : Stands raw n) :
    ∀ b ∈ (n, value) :: attributes, ∃ a ∈ (raw, value) :: pairs, Stands a.1 b.1 ∧ b.2 = a.2 := by
  refine List.forall_mem_cons.mpr ⟨⟨(raw, value), List.mem_cons_self, hn, rfl⟩, fun b hb => ?_⟩
  obtain ⟨a, ha, hstands⟩ := h.stands b hb
  exact ⟨a, List.mem_cons_of_mem _ ha, hstands⟩

/-- Another attribute of a name without prefix has another raw name, as no prefix is bound to nothing. -/
theorem plain (h : Expands seen pairs attributes) (hraw : isName raw = true)
    (hnew : raw ∉ pairs.map (·.1)) :
    Expands seen ((raw, value) :: pairs) ((⟨[], raw⟩, value) :: attributes) := by
  refine ⟨h.stands_cons (.plain hraw), List.nodup_cons.mpr ⟨fun hmem => ?_, h.distinct⟩,
    List.forall_mem_cons.mpr ⟨fun hspace => absurd rfl hspace, h.unseen⟩⟩
  obtain ⟨b, hb, hname⟩ := List.mem_map.mp hmem
  obtain ⟨⟨raw', value'⟩, ha, hstands, -⟩ := h.stands b hb
  rw [hname] at hstands
  cases hstands with
  | plain _ => exact hnew (List.mem_map.mpr ⟨(raw', value'), ha, rfl⟩)
  | joined _ _ hne => exact hne rfl

theorem joined {n : Name} (h : Expands (n :: seen) pairs attributes) (hn : Stands raw n)
    (hspace : n.space ≠ []) (hnew : n ∉ seen) :
    Expands seen ((raw, value) :: pairs) ((n, value) :: attributes) := by
  refine ⟨h.stands_cons hn, List.nodup_cons.mpr ⟨fun hmem => ?_, h.distinct⟩,
    List.forall_mem_cons.mpr ⟨fun _ => hnew, fun b hb hb' hmem => ?_⟩⟩
  · obtain ⟨b, hb, rfl⟩ := List.mem_map.mp hmem
    exact h.unseen b hb hspace List.mem_cons_self
  · exact h.unseen b hb hb' (List.mem_cons_of_mem _ hmem)

end Expands

section Expanding

variable {s : Scope} (hs : s.Lawful)

include hs

/-- Attributes with different raw names stand for attributes with different names. -/
theorem gives_expandAttributes {pairs : List (Text × Text)} (hpairs : ∀ a ∈ pairs, Worded a.1)
    (hdistinct : (pairs.map (·.1)).Nodup) (seen : List Name) :
    Gives (expandAttributes s seen pairs) (Expands seen pairs) := by
  induction pairs generalizing seen with
  | nil => exact gives_ok ⟨by simp, by simp, by simp⟩
  | cons a as ih =>
      obtain ⟨raw, value⟩ := a
      obtain ⟨hraw, hothers⟩ := List.forall_mem_cons.mp hpairs
      obtain ⟨hfirst, hrest⟩ := List.nodup_cons.mp hdistinct
      unfold expandAttributes
      obtain ⟨hname, hsplit⟩ | ⟨c, label, n, hsplit, hn⟩ := hraw.cases
      · rw [hsplit]
        exact (ih hothers hrest seen).map fun _ hattributes => hattributes.plain hname hfirst
      · rw [hsplit]
        dsimp only
        split
        · exact gives_error _
        · next space hspace =>
            obtain ⟨hbindable, hempty⟩ := hs.of_spaceOf? hspace
            have hne : space ≠ [] := fun h => absurd (hempty h) (by simp)
            split
            · exact gives_error _
            · next hnew =>
                exact (ih hothers hrest _).map fun _ hattributes =>
                  hattributes.joined (.joined hn hbindable hne) hne (by simpa using hnew)

theorem gives_expandElement {raw : Text} (hraw : Qualified raw) :
    Gives (expandElement s raw) fun n => isName n.localName = true ∧ Bindable n.space := by
  unfold expandElement
  cases hraw with
  | plain hn =>
      rw [splitPrefix_plain (not_mem_colon hn)]
      refine gives_ok ⟨hn, ?_⟩
      cases hspace : s.spaceOf? [] with
      | none => exact bindable_nil
      | some space => exact (hs.of_spaceOf? hspace).1
  | @joined label n hl hn =>
      rw [splitPrefix_joined (not_mem_colon hl)]
      cases label with
      | nil => exact absurd hl (by decide)
      | cons c label =>
          dsimp only
          split
          · exact gives_error _
          · next hspace => exact gives_ok ⟨hn, (hs.of_spaceOf? hspace).1⟩

end Expanding

/-! ## Resolved tags -/

/-- An element as it is read: it can be given a tag, and what it holds is legal. -/
structure Element.Lawful (e : Element) : Prop extends e.Named where
  values : ∀ a ∈ e.attributes, Legal a.2
  text : Legal e.text
  tail : Legal e.tail

/-- The element of a tag can be given a tag again. -/
theorem gives_resolveTag {d : Dtd} (hd : d.Lawful) {s : Scope} (hs : s.Lawful) (start : Text)
    {tag : Tag} (htag : tag.Lawful) :
    Gives (resolveTag d s start tag) fun r => r.1.Lawful ∧ r.1.children = [] ∧ r.2.Lawful := by
  have hstart : Gathered.Lawful ⟨[], s⟩ := ⟨by simp, by simp [Gathered.names], hs⟩
  have hdeclared : ∀ a ∈ d.attributesOf tag.name, Worded a.name ∧ ∀ v ∈ a.default, Legal v :=
    fun a ha => ⟨hd.names a (List.mem_filter.mp ha).1, hd.defaults a (List.mem_filter.mp ha).1⟩
  unfold resolveTag
  refine (Gathered.gives_addGiven hd _ start htag.attributes [] hstart (by simp [Gathered.names])).bind
    fun g hg => ?_
  have hnew : ∀ a ∈ d.attributesOf tag.name, a.name ∉ tag.attributes.map (·.name) →
      a.name ∉ g.names := fun a _ hgiven hmem => hgiven (by simpa using hg.2 hmem)
  refine (Gathered.gives_addDefaults start _ hdeclared (hd.distinct _) hg.1 hnew).bind fun g' hg' => ?_
  refine ((gives_expandAttributes hg'.scope (fun a ha => (hg'.attributes a ha).1) hg'.distinct
    []).mapError _).bind fun attributes hattributes => ?_
  obtain ⟨hstands, hdistinct, -⟩ := hattributes
  refine ((gives_expandElement hg'.scope htag.name).mapError _).bind fun name hname => ?_
  refine gives_ok ⟨⟨⟨hname.1, ?_, ?_, hdistinct, ?_⟩, ?_, legal_nil, legal_nil⟩, rfl, hg'.scope⟩
  · intro b hb hspace
    obtain ⟨a, ha, hraw, -⟩ := hstands b hb
    obtain ⟨hlocal, heq⟩ := hraw.eq_of_space hspace
    rw [← heq] at hlocal ⊢
    exact ⟨hlocal, (hg'.attributes a ha).2.1⟩
  · intro b hb
    obtain ⟨a, ha, hraw, -⟩ := hstands b hb
    exact hraw.isClosingNameChar
  · intro n hn
    obtain rfl | hn := List.mem_cons.mp hn
    · exact hname.2
    · obtain ⟨b, hb, rfl⟩ := List.mem_map.mp hn
      obtain ⟨a, ha, hraw, -⟩ := hstands b hb
      exact hraw.bindable
  · intro b hb
    obtain ⟨a, ha, -, hvalue⟩ := hstands b hb
    rw [hvalue]
    exact (hg'.attributes a ha).2.2

end SourceAtlas.Xml
