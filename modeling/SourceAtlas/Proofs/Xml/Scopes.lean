import SourceAtlas.Proofs.Outcomes
import SourceAtlas.Proofs.Xml.Tags

/-!
# Resolving written tags

In a scope a raw name stands for at most one name, so attributes with different names have
different raw names.  A tag whose raw names stand for the names of an element resolves to that
element, and the prefixes that it declares are added to the scope.
-/

namespace SourceAtlas.Xml

open Text

/-- The raw name stands for the name in a scope. -/
inductive Resolves (s : Scope) : Name → Text → Prop
  | plain {n : Text} (hn : isName n = true) : Resolves s ⟨[], n⟩ n
  | joined {label space n : Text} (hl : isName label = true) (hn : isName n = true)
      (hlabel : label ≠ xmlnsName) (hspace : s.spaceOf? label = some space) (hne : space ≠ []) :
      Resolves s ⟨space, n⟩ (label ++ ':' :: n)

variable {s : Scope}

theorem Resolves.qualified {n : Name} {raw : Text} (h : Resolves s n raw) : Qualified raw := by
  cases h with
  | plain hn => exact .plain hn
  | joined hl hn => exact .joined hl hn

theorem Resolves.eq_of_eq {m n : Name} {raw : Text} (hm : Resolves s m raw)
    (hn : Resolves s n raw) : m = n := by
  cases hm with
  | plain ha =>
      cases hn with
      | plain hb => rfl
      | joined hl hb => exact absurd (by simp) (not_mem_colon ha)
  | @joined label space a hl ha hlabel hspace hne =>
      generalize hraw : label ++ ':' :: a = raw at hn
      cases hn with
      | plain hb => exact absurd (by simp [← hraw]) (not_mem_colon hb)
      | @joined label' space' b hl' hb hlabel' hspace' hne' =>
          have hsplit := congrArg splitPrefix hraw
          rw [splitPrefix_joined (not_mem_colon hl), splitPrefix_joined (not_mem_colon hl')] at hsplit
          obtain ⟨rfl, rfl⟩ := Prod.mk.inj hsplit
          rw [hspace] at hspace'
          rw [Option.some.inj hspace']

theorem Resolves.expandElement {n : Name} {raw : Text} (h : Resolves s n raw)
    (hs : s.spaceOf? [] = none) : expandElement s raw = .ok n := by
  cases h with
  | plain hn => simp [Xml.expandElement, splitPrefix_plain (not_mem_colon hn), hs]
  | @joined label space a hl hn hlabel hspace hne =>
      rw [Xml.expandElement, splitPrefix_joined (not_mem_colon hl)]
      cases label with
      | nil => simp [isName] at hl
      | cons c cs => simp [hspace]

/-- The raw name of an attribute binds no prefix. -/
theorem Resolves.boundPrefix?_eq_none {n : Name} {raw : Text} (h : Resolves s n raw)
    (hn : n ≠ ⟨[], xmlnsName⟩) : boundPrefix? raw = none := by
  cases h with
  | plain ha =>
      have hne : raw ≠ xmlnsName := fun h => hn (by rw [h])
      rw [boundPrefix?, if_neg hne, splitPrefix_plain (not_mem_colon ha)]
      exact if_neg (by decide)
  | @joined label space a hl ha hlabel hspace hne =>
      have hraw : label ++ ':' :: a ≠ xmlnsName := by
        intro h
        have hmem : ':' ∈ label ++ ':' :: a := List.mem_append_right _ List.mem_cons_self
        rw [h] at hmem
        exact absurd hmem (by decide)
      rw [boundPrefix?, if_neg hraw, splitPrefix_joined (not_mem_colon hl)]
      exact if_neg hlabel

/-- Attributes are expanded to what their raw names stand for. -/
theorem expandAttributes_eq {attributes : List Attribute} {w : Name → Text}
    (hw : ∀ a ∈ attributes, Resolves s a.1 (w a.1)) (hnodup : (attributes.map (·.1)).Nodup)
    (seen : List Name) (hseen : ∀ a ∈ attributes, a.1 ∉ seen) :
    expandAttributes s seen (attributes.map fun a => (w a.1, a.2)) = .ok attributes := by
  induction attributes generalizing seen with
  | nil => rfl
  | cons a as ih =>
      obtain ⟨name, value⟩ := a
      rw [List.map_cons, List.nodup_cons] at hnodup
      have has : ∀ b ∈ as, Resolves s b.1 (w b.1) := fun b hb => hw b (List.mem_cons_of_mem _ hb)
      have hfirst : Resolves s name (w name) := hw (name, value) List.mem_cons_self
      have hold : ∀ b ∈ as, b.1 ∉ seen := fun b hb => hseen b (List.mem_cons_of_mem _ hb)
      have hnew : ∀ b ∈ as, b.1 ∉ name :: seen := by
        intro b hb hmem
        rcases List.mem_cons.mp hmem with heq | hmem
        · exact hnodup.1 (List.mem_map.mpr ⟨b, hb, heq⟩)
        · exact hold b hb hmem
      rw [List.map_cons, expandAttributes]
      generalize hraw : w name = raw at hfirst
      cases hfirst with
      | plain hn =>
          rw [splitPrefix_plain (not_mem_colon hn)]
          simp only [ih has hnodup.2 _ hold]
          rfl
      | @joined label space local' hl hn hlabel hspace hne =>
          have hnot : (⟨space, local'⟩ : Name) ∉ seen := hseen (⟨space, local'⟩, value) List.mem_cons_self
          rw [splitPrefix_joined (not_mem_colon hl)]
          cases label with
          | nil => simp [isName] at hl
          | cons c cs =>
              simp only [hspace, List.contains_iff_mem, hnot, if_false, ih has hnodup.2 _ hnew]
              rfl

/-! ## Gathering -/

/-- Adds an attribute that binds no forbidden prefix. -/
def Gathered.include (g : Gathered) (a : Text × Text) : Gathered :=
  match boundPrefix? a.1 with
  | some label => { g with scope := (label, a.2) :: g.scope }
  | none => { g with attributes := g.attributes ++ [a] }

/-- The attribute binds no prefix that may not be bound. -/
def BindsWell (a : Text × Text) : Prop :=
  ∀ label, boundPrefix? a.1 = some label → bindingFault? label a.2 = none

theorem Gathered.add_eq_include {a : Text × Text} (h : BindsWell a) (g : Gathered) :
    g.add a.1 a.2 = .ok (g.include a) := by
  unfold Gathered.add Gathered.include
  cases hb : boundPrefix? a.1 with
  | none => rfl
  | some label => simp [h label hb]

/-- Without declared attributes all attributes are taken as they are given. -/
theorem Gathered.addGiven_eq {d : Dtd} (hd : d.attributes = []) (element start : Text)
    {attributes : List RawAttribute} {pairs : List (Text × Text)}
    (hraw : rawPairs attributes = escapedPairs pairs) (hwell : ∀ a ∈ pairs, BindsWell a)
    (hnodup : (pairs.map (·.1)).Nodup) (seen : List Text)
    (hseen : ∀ a ∈ pairs, a.1 ∉ seen) (g : Gathered) :
    Gathered.addGiven d element start seen g attributes = .ok (pairs.foldl Gathered.include g) := by
  induction pairs generalizing attributes seen g with
  | nil =>
      have : attributes = [] := by simpa [rawPairs, escapedPairs] using hraw
      rw [this]
      rfl
  | cons p ps ih =>
      obtain ⟨a, as, rfl, ha, has⟩ : ∃ a as, attributes = a :: as ∧
          (a.name, a.value) = (p.1, escapeValue p.2) ∧ rawPairs as = escapedPairs ps := by
        cases attributes with
        | nil => simp [rawPairs, escapedPairs] at hraw
        | cons a as =>
            obtain ⟨ha, has⟩ := List.cons.inj hraw
            exact ⟨a, as, rfl, ha, has⟩
      obtain ⟨hname, hvalue⟩ := Prod.mk.inj ha
      rw [List.map_cons, List.nodup_cons] at hnodup
      have hnot : ¬ seen.contains p.1 = true := by
        simpa using hseen p List.mem_cons_self
      have hplain : d.isPlain element p.1 = true := by
        simp [Dtd.isPlain, Dtd.attributesOf, hd]
      have hnew : ∀ b ∈ ps, b.1 ∉ p.1 :: seen := by
        intro b hb hmem
        rcases List.mem_cons.mp hmem with heq | hmem
        · exact hnodup.1 (List.mem_map.mpr ⟨b, hb, heq⟩)
        · exact hseen b (List.mem_cons_of_mem _ hb) hmem
      rw [Gathered.addGiven, hname, hvalue, if_neg hnot, hplain, normalize_escapeValue]
      simp only [mapError_ok, bind, Except.bind,
        Gathered.add_eq_include (hwell p List.mem_cons_self)]
      exact ih has (fun b hb => hwell b (List.mem_cons_of_mem p hb)) hnodup.2 _ hnew _

/-- Attributes that bind no prefix are kept. -/
theorem foldl_include_kept {pairs : List (Text × Text)}
    (h : ∀ a ∈ pairs, boundPrefix? a.1 = none) (g : Gathered) :
    pairs.foldl Gathered.include g = { g with attributes := g.attributes ++ pairs } := by
  induction pairs generalizing g with
  | nil => simp
  | cons a as ih =>
      rw [List.foldl_cons, ih fun b hb => h b (List.mem_cons_of_mem a hb)]
      simp [Gathered.include, h a List.mem_cons_self]

/-- The raw name of the attribute that binds a prefix. -/
def bindingName (label : Text) : Text := "xmlns:".toList ++ label

theorem boundPrefix?_bindingName (label : Text) : boundPrefix? (bindingName label) = some label := by
  have hne : bindingName label ≠ xmlnsName := by
    intro h
    have hmem : ':' ∈ bindingName label := List.mem_append_left _ (by decide)
    rw [h] at hmem
    exact absurd hmem (by decide)
  have hsplit : splitPrefix (bindingName label) = (xmlnsName, label) :=
    splitPrefix_joined (show ':' ∉ xmlnsName by decide) label
  rw [boundPrefix?, if_neg hne, hsplit]
  rfl

/-- Attributes that bind prefixes extend the scope. -/
theorem foldl_include_bound (bindings : Prefixes) (g : Gathered) :
    (bindings.map fun p => (bindingName p.2, p.1)).foldl Gathered.include g =
      { g with scope := (bindings.map fun p => (p.2, p.1)).reverse ++ g.scope } := by
  induction bindings generalizing g with
  | nil => rfl
  | cons p ps ih =>
      rw [List.map_cons, List.foldl_cons, ih]
      simp [Gathered.include, boundPrefix?_bindingName]

/-! ## Written tags -/

section Written

variable {bindings : Prefixes} {attributes : List Attribute} {w : Name → Text}

/-- What stands for an attribute binds no prefix. -/
theorem boundPrefix?_of_resolves
    (hw : ∀ a ∈ attributes, Resolves s a.1 (w a.1) ∧ a.1 ≠ ⟨[], xmlnsName⟩) :
    ∀ a ∈ attributes.map fun a => (w a.1, a.2), boundPrefix? a.1 = none := by
  intro a ha
  obtain ⟨b, hb, rfl⟩ := List.mem_map.mp ha
  exact (hw b hb).1.boundPrefix?_eq_none (hw b hb).2

theorem bindsWell_written (hbindings : ∀ p ∈ bindings, bindingFault? p.2 p.1 = none)
    (hw : ∀ a ∈ attributes, Resolves s a.1 (w a.1) ∧ a.1 ≠ ⟨[], xmlnsName⟩) :
    ∀ a ∈ (bindings.map fun p => (bindingName p.2, p.1)) ++ attributes.map fun a => (w a.1, a.2),
      BindsWell a := by
  intro a ha label hlabel
  obtain ha | ha := List.mem_append.mp ha
  · obtain ⟨p, hp, rfl⟩ := List.mem_map.mp ha
    rw [boundPrefix?_bindingName] at hlabel
    rw [← Option.some.inj hlabel]
    exact hbindings p hp
  · rw [boundPrefix?_of_resolves hw a ha] at hlabel
    exact absurd hlabel (by simp)

/-- Different prefixes are bound by different raw names, and different names have different ones. -/
theorem nodup_written (hlabels : (bindings.map (·.2)).Nodup)
    (hw : ∀ a ∈ attributes, Resolves s a.1 (w a.1) ∧ a.1 ≠ ⟨[], xmlnsName⟩)
    (hnodup : (attributes.map (·.1)).Nodup) :
    (((bindings.map fun p => (bindingName p.2, p.1)) ++
      attributes.map fun a => (w a.1, a.2)).map (·.1)).Nodup := by
  rw [List.map_append, List.map_map, List.map_map, List.nodup_append]
  refine ⟨?_, ?_, ?_⟩
  · have hnames := List.Pairwise.map (S := (· ≠ ·)) bindingName
      (fun a b h heq => h (List.append_cancel_left heq)) hlabels
    rwa [List.map_map] at hnames
  · change (attributes.map fun a => w a.1).Pairwise (· ≠ ·)
    rw [List.pairwise_map]
    rw [List.Nodup, List.pairwise_map] at hnodup
    refine hnodup.imp_of_mem fun {a b} ha hb hne heq => hne ?_
    exact (hw a ha).1.eq_of_eq (heq ▸ (hw b hb).1)
  · rintro x hx y hy rfl
    obtain ⟨p, -, hp⟩ := List.mem_map.mp hx
    obtain ⟨a, ha, hraw⟩ := List.mem_map.mp hy
    have hnot := (hw a ha).1.boundPrefix?_eq_none (hw a ha).2
    rw [show w a.1 = bindingName p.2 from hraw.trans hp.symm, boundPrefix?_bindingName] at hnot
    exact absurd hnot (by simp)

end Written

/-- A tag that binds prefixes and whose raw names stand for names in the scope with these. -/
theorem resolveTag_eq {d : Dtd} (hd : d.attributes = []) (outer : Scope) (start : Text)
    {n : Name} {raw : Text} {bindings : Prefixes} {attributes : List Attribute} {w : Name → Text}
    {given : List RawAttribute} (closed : Bool)
    (hs : s = (bindings.map fun p => (p.2, p.1)).reverse ++ outer)
    (hgiven : rawPairs given = escapedPairs ((bindings.map fun p => (bindingName p.2, p.1)) ++
      attributes.map fun a => (w a.1, a.2)))
    (hbindings : ∀ p ∈ bindings, bindingFault? p.2 p.1 = none)
    (hlabels : (bindings.map (·.2)).Nodup)
    (hnone : s.spaceOf? [] = none) (hn : Resolves s n raw)
    (hw : ∀ a ∈ attributes, Resolves s a.1 (w a.1) ∧ a.1 ≠ ⟨[], xmlnsName⟩)
    (hnodup : (attributes.map (·.1)).Nodup) :
    resolveTag d outer start ⟨raw, given, closed⟩ = .ok ({ name := n, attributes }, s) := by
  have hgather := Gathered.addGiven_eq hd raw start hgiven (bindsWell_written hbindings hw)
    (nodup_written hlabels hw hnodup) [] (by simp) ⟨[], outer⟩
  rw [List.foldl_append, foldl_include_bound, foldl_include_kept (boundPrefix?_of_resolves hw),
    ← hs] at hgather
  have hdefaults : d.attributesOf raw = [] := by simp [Dtd.attributesOf, hd]
  have hexpand := expandAttributes_eq (fun a ha => (hw a ha).1) hnodup [] (by simp)
  simp only [resolveTag, hgather, hdefaults, bind, Except.bind, Gathered.addDefaults, List.nil_append,
    hexpand, mapError_ok, hn.expandElement hnone]
  rfl

end SourceAtlas.Xml
