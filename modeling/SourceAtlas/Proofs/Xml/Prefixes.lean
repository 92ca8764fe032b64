import SourceAtlas.Proofs.Xml.Content

/-!
# Prefixes of a document

Every name space of a document that needs a prefix gets one where its first name is met.  The prefix
depends on the name space and on the number of name spaces before it, so no two name spaces share
one, and in the scope of the root element every written name stands for the name itself.
-/

namespace SourceAtlas.Xml

open Text

/-- A key that occurs once finds what stands beside it. -/
theorem find?_key_of_mem {α β : Type} [DecidableEq α] {l : List (α × β)}
    (hn : (l.map (·.1)).Nodup) {a : α} {b : β} (h : (a, b) ∈ l) :
    (l.find? (·.1 = a)).map (·.2) = some b := by
  induction l with
  | nil => simp at h
  | cons q l ih =>
      rw [List.map_cons, List.nodup_cons] at hn
      rcases List.mem_cons.mp h with rfl | hmem
      · simp
      · have hne : q.1 ≠ a := by
          rintro rfl
          exact hn.1 (List.mem_map.mpr ⟨(q.1, b), hmem, rfl⟩)
        rw [List.find?_cons_of_neg (by simpa using hne)]
        exact ih hn.2 hmem

theorem mem_of_find?_key {α β : Type} [DecidableEq α] {l : List (α × β)} {a : α} {b : β}
    (h : (l.find? (·.1 = a)).map (·.2) = some b) : (a, b) ∈ l := by
  obtain ⟨q, hq, rfl⟩ := Option.map_eq_some_iff.mp h
  have hkey : q.1 = a := by simpa using List.find?_some hq
  rw [← hkey]
  exact List.mem_of_find?_eq_some hq

/-! ## Labels -/

/-- The label of a name space that is met after a number of others. -/
def labelFor (space : Text) (index : Nat) : Text :=
  (Prefixes.prefixOf? establishedPrefixes space).getD ("ns".toList ++ ofNat index)

theorem ofNat_injective {m n : Nat} (h : ofNat m = ofNat n) : m = n := by
  have hdigits := congrArg (Nat.ofDigitChars 10 · 0) h
  simpa only [ofNat, Nat.ofDigitChars_ten_toDigits] using hdigits

theorem established_of_eq_some {space label : Text}
    (h : Prefixes.prefixOf? establishedPrefixes space = some label) :
    (space, label) ∈ establishedPrefixes :=
  mem_of_find?_key h

theorem established_label {q : Text × Text} (h : q ∈ establishedPrefixes) :
    isName q.2 = true ∧ q.2 ≠ xmlnsName ∧ (q.2 = "xml".toList → q.1 = xmlSpace) ∧
      ¬ "ns".toList <+: q.2 := by
  revert q
  decide

theorem established_injective :
    ∀ q ∈ establishedPrefixes, ∀ r ∈ establishedPrefixes, q.2 = r.2 → q.1 = r.1 := by
  decide

/-- The label of a name space is an established one, or a fresh one with its number. -/
theorem labelFor_cases (space : Text) (index : Nat) :
    (space, labelFor space index) ∈ establishedPrefixes ∨
      labelFor space index = "ns".toList ++ ofNat index := by
  unfold labelFor
  cases h : Prefixes.prefixOf? establishedPrefixes space with
  | none => exact .inr rfl
  | some label => exact .inl (established_of_eq_some h)

theorem isName_fresh (index : Nat) : isName ("ns".toList ++ ofNat index) = true := by
  apply isName_cons.mpr
  constructor
  · exact by decide
  · intro c hc
    rcases List.mem_cons.mp hc with rfl | hc
    · decide
    · have hdigit : c.isDigit = true := Nat.isDigit_of_mem_toDigits (by omega) (by omega) hc
      simp [isNameChar, Char.isAlphanum, hdigit]

theorem labelFor_valid {space : Text} (hspace : space ≠ xmlSpace) (index : Nat) :
    isName (labelFor space index) = true ∧ labelFor space index ≠ xmlnsName ∧
      labelFor space index ≠ "xml".toList := by
  rcases labelFor_cases space index with h | h
  · obtain ⟨hname, hxmlns, hxml, -⟩ := established_label h
    exact ⟨hname, hxmlns, fun heq => hspace (hxml heq)⟩
  · rw [h]
    refine ⟨isName_fresh index, ?_, ?_⟩ <;> exact fun heq => absurd (List.cons.inj heq).1 (by decide)

theorem labelFor_injective {space space' : Text} {m n : Nat}
    (h : labelFor space m = labelFor space' n) : space = space' ∨ m = n := by
  rcases labelFor_cases space m with hm | hm <;> rcases labelFor_cases space' n with hn | hn
  · exact .inl (established_injective _ hm _ hn h)
  · refine absurd ?_ (established_label hm).2.2.2
    rw [h, hn]
    exact List.prefix_append _ _
  · refine absurd ?_ (established_label hn).2.2.2
    rw [← h, hm]
    exact List.prefix_append _ _
  · rw [hm, hn] at h
    exact .inr (ofNat_injective (List.append_cancel_left h))

/-! ## Assigning prefixes -/

/-- Name spaces that need a prefix, each once, with the labels that their numbers give them. -/
structure Prefixes.Assigned (p : Prefixes) : Prop where
  spaces : (p.map (·.1)).Nodup
  needed : ∀ q ∈ p, q.1 ≠ [] ∧ q.1 ≠ xmlSpace
  labels : ∀ i (h : i < p.length), p[i].2 = labelFor p[i].1 i

theorem Prefixes.assigned_nil : Prefixes.Assigned [] :=
  ⟨List.nodup_nil, by simp, fun i h => absurd h (Nat.not_lt_zero i)⟩

namespace Prefixes.Assigned

variable {p : Prefixes}

theorem prefixOf?_of_mem (hp : p.Assigned) {space label : Text} (h : (space, label) ∈ p) :
    p.prefixOf? space = some label :=
  find?_key_of_mem hp.spaces h

theorem valid (hp : p.Assigned) {q : Text × Text} (hq : q ∈ p) :
    isName q.2 = true ∧ q.2 ≠ xmlnsName ∧ q.2 ≠ "xml".toList := by
  obtain ⟨i, hi, rfl⟩ := List.mem_iff_getElem.mp hq
  rw [hp.labels i hi]
  exact labelFor_valid (hp.needed _ hq).2 i

/-- No two name spaces share a label. -/
theorem nodup_labels (hp : p.Assigned) : (p.map (·.2)).Nodup := by
  rw [List.Nodup, List.pairwise_iff_getElem]
  intro i j hi hj hij heq
  simp only [List.length_map] at hi hj
  simp only [List.getElem_map] at heq
  rw [hp.labels i hi, hp.labels j hj] at heq
  rcases labelFor_injective heq with hspace | hindex
  · have hdistinct := hp.spaces
    rw [List.Nodup, List.pairwise_iff_getElem] at hdistinct
    have := hdistinct i j (by simpa using hi) (by simpa using hj) hij
    simp only [List.getElem_map] at this
    exact this hspace
  · omega

/-- A name adds at most its own name space, with the label of the next number. -/
theorem add_cases (p : Prefixes) (n : Name) :
    (p.add n = p ∧ (n.space = [] ∨ n.space = xmlSpace ∨ (p.prefixOf? n.space).isSome)) ∨
      (p.add n = p ++ [(n.space, labelFor n.space p.length)] ∧ n.space ≠ [] ∧
        n.space ≠ xmlSpace ∧ p.prefixOf? n.space = none) := by
  unfold Prefixes.add
  split
  · next h => exact .inl ⟨rfl, h⟩
  · next h =>
      simp only [not_or, Bool.not_eq_true, Option.isSome_eq_false_iff, Option.isNone_iff_eq_none] at h
      exact .inr ⟨rfl, h⟩

theorem add (hp : p.Assigned) (n : Name) : (p.add n).Assigned := by
  rcases add_cases p n with ⟨heq, -⟩ | ⟨heq, hne, hxml, hnone⟩
  · rwa [heq]
  · have hnew : n.space ∉ p.map (·.1) := by
      intro hmem
      obtain ⟨q, hq, hspace⟩ := List.mem_map.mp hmem
      have hfound : p.prefixOf? q.1 = some q.2 := hp.prefixOf?_of_mem hq
      rw [← hspace, hfound] at hnone
      exact absurd hnone (by simp)
    rw [heq]
    refine ⟨?_, ?_, ?_⟩
    · rw [List.map_append, List.nodup_append]
      refine ⟨hp.spaces, by simp, ?_⟩
      rintro a ha b hb rfl
      simp only [List.map_cons, List.map_nil, List.mem_singleton] at hb
      exact hnew (hb ▸ ha)
    · intro q hq
      rcases List.mem_append.mp hq with hq | hq
      · exact hp.needed q hq
      · rw [List.mem_singleton.mp hq]
        exact ⟨hne, hxml⟩
    · intro i hi
      rw [List.getElem_append]
      split
      · next hlt => exact hp.labels i hlt
      · next hge =>
          simp only [List.length_append, List.length_singleton] at hi
          have hlast : i = p.length := by omega
          simp [hlast]

end Prefixes.Assigned

/-- The name has a prefix, or needs none. -/
def Prefixes.Covers (p : Prefixes) (n : Name) : Prop :=
  n.space = [] ∨ n.space = xmlSpace ∨ (p.prefixOf? n.space).isSome

theorem Prefixes.Covers.append {p : Prefixes} {n : Name} (h : p.Covers n) (more : Prefixes) :
    Covers (p ++ more) n := by
  rcases h with h | h | h
  · exact .inl h
  · exact .inr (.inl h)
  · refine .inr (.inr ?_)
    rw [prefixOf?, Option.isSome_map] at h ⊢
    rw [List.find?_append, Option.isSome_or, h, Bool.true_or]

theorem Prefixes.covers_add (p : Prefixes) (n : Name) : (p.add n).Covers n := by
  rcases Assigned.add_cases p n with ⟨heq, h⟩ | ⟨heq, -, -, hnone⟩
  · rw [heq]
    exact h
  · rw [heq]
    refine .inr (.inr ?_)
    simp [prefixOf?, List.find?_append]

theorem Prefixes.Covers.add {p : Prefixes} {n : Name} (h : p.Covers n) (m : Name) :
    (p.add m).Covers n := by
  rcases Assigned.add_cases p m with ⟨heq, -⟩ | ⟨heq, -⟩
  · rwa [heq]
  · rw [heq]
    exact h.append _

/-- What names get: a prefix for each of them, and none for a name space that no name is in. -/
theorem Prefixes.foldl_add (names : List Name) {p : Prefixes} (hp : p.Assigned) :
    (names.foldl Prefixes.add p).Assigned ∧
      (∀ n, p.Covers n ∨ n ∈ names → (names.foldl Prefixes.add p).Covers n) ∧
      ∀ q ∈ names.foldl Prefixes.add p, q ∈ p ∨ ∃ n ∈ names, n.space = q.1 := by
  induction names generalizing p with
  | nil => exact ⟨hp, fun n h => h.resolve_right (by simp), fun q hq => .inl hq⟩
  | cons m ms ih =>
      obtain ⟨hassigned, hcovers, hfrom⟩ := ih (hp.add m)
      refine ⟨hassigned, ?_, ?_⟩
      · rintro n (h | h)
        · exact hcovers n (.inl (h.add m))
        · rcases List.mem_cons.mp h with rfl | h
          · exact hcovers n (.inl (covers_add p n))
          · exact hcovers n (.inr h)
      · intro q hq
        rcases hfrom q hq with h | ⟨n, hn, hspace⟩
        · rcases Assigned.add_cases p m with ⟨heq, -⟩ | ⟨heq, -⟩
          · exact .inl (heq ▸ h)
          · rw [heq] at h
            rcases List.mem_append.mp h with h | h
            · exact .inl h
            · rw [List.mem_singleton.mp h]
              exact .inr ⟨m, List.mem_cons_self, rfl⟩
        · exact .inr ⟨n, List.mem_cons_of_mem m hn, hspace⟩

/-- The names that an element is written with. -/
def Element.ownNames (e : Element) : List Name := e.name :: e.attributes.map (·.1)

theorem Prefixes.ofDocument_eq (root : Element) :
    ofDocument root = (root.elements.flatMap Element.ownNames).foldl Prefixes.add [] := by
  rw [List.foldl_flatMap]
  rfl

/-! ## The scope of the root element -/

/-- A name space that a prefix may be bound to. -/
structure Bindable (space : Text) : Prop where
  legal : Legal space
  unbraced : '}' ∉ space
  unreserved : space ≠ xmlnsSpace

theorem bindable_nil : Bindable [] := ⟨legal_nil, List.not_mem_nil, by decide⟩

/-- The prefixes in the order in which the root element declares them. -/
def Prefixes.sorted (p : Prefixes) : Prefixes := p.mergeSort fun a b => Text.le a.2 b.2

/-- The declarations of prefixes, as attributes. -/
def Prefixes.declarations (p : Prefixes) : List (Text × Text) :=
  p.sorted.map fun q => (bindingName q.2, q.1)

theorem writePrefixes_eq (p : Prefixes) : writePrefixes p = writeAttributes p.declarations := by
  rw [writeAttributes, Prefixes.declarations, List.flatMap_map]
  rfl

/-- The scope inside the root element. -/
def rootScope (p : Prefixes) : Scope :=
  (p.sorted.map fun q => (q.2, q.1)).reverse ++ Scope.outermost

namespace Prefixes.Assigned

variable {p : Prefixes}

theorem nodup_sorted_labels (hp : p.Assigned) : (p.sorted.map (·.2)).Nodup :=
  ((List.mergeSort_perm p _).map (·.2)).nodup_iff.mpr hp.nodup_labels

theorem not_mem_labels (hp : p.Assigned) {label : Text}
    (h : isName label = false ∨ label = "xml".toList) :
    ∀ q ∈ (p.sorted.map fun q => (q.2, q.1)).reverse, q.1 ≠ label := by
  rintro q hq rfl
  rw [List.mem_reverse] at hq
  obtain ⟨r, hr, rfl⟩ := List.mem_map.mp hq
  obtain ⟨hname, -, hxml⟩ := hp.valid (List.mem_mergeSort.mp hr)
  rcases h with h | h
  · rw [hname] at h
    exact Bool.noConfusion h
  · exact hxml h

theorem spaceOf?_reserved (hp : p.Assigned) {label : Text}
    (h : isName label = false ∨ label = "xml".toList) :
    (rootScope p).spaceOf? label = Scope.outermost.spaceOf? label := by
  have hnone : (p.sorted.map fun q => (q.2, q.1)).reverse.find? (·.1 = label) = none := by
    rw [List.find?_eq_none]
    intro q hq
    simpa using hp.not_mem_labels h q hq
  rw [Scope.spaceOf?, rootScope, List.find?_append, hnone]
  rfl

theorem spaceOf?_nil (hp : p.Assigned) : (rootScope p).spaceOf? [] = none :=
  hp.spaceOf?_reserved (.inl rfl)

theorem spaceOf?_label (hp : p.Assigned) {space label : Text} (h : (space, label) ∈ p) :
    (rootScope p).spaceOf? label = some space := by
  have hdistinct : ((p.sorted.map fun q => (q.2, q.1)).reverse.map (·.1)).Nodup := by
    rw [List.map_reverse, List.map_map]
    exact (List.reverse_perm _).nodup_iff.mpr hp.nodup_sorted_labels
  have hmem : (label, space) ∈ (p.sorted.map fun q => (q.2, q.1)).reverse := by
    rw [List.mem_reverse]
    apply List.mem_map.mpr
    exact ⟨(space, label), List.mem_mergeSort.mpr h, rfl⟩
  obtain ⟨q, hq, rfl⟩ := Option.map_eq_some_iff.mp (find?_key_of_mem hdistinct hmem)
  rw [Scope.spaceOf?, rootScope, List.find?_append, hq]
  rfl

/-- A written name is the local name, perhaps after a label that is bound to its name space. -/
theorem written_cases (hp : p.Assigned) {n : Name} (hc : p.Covers n) :
    (n.space = [] ∧ p.written n = n.localName) ∨
      ∃ label, isName label = true ∧ label ≠ xmlnsName ∧
        (rootScope p).spaceOf? label = some n.space ∧ n.space ≠ [] ∧
        p.written n = label ++ ':' :: n.localName := by
  by_cases hspace : n.space = []
  · exact .inl ⟨hspace, by rw [written, if_pos hspace]⟩
  by_cases hxml : n.space = xmlSpace
  · right
    refine ⟨"xml".toList, by decide, by decide, ?_, hspace, ?_⟩
    · rw [hxml]
      exact hp.spaceOf?_reserved (.inr rfl)
    · rw [written, if_neg hspace, if_pos hxml]
      rfl
  · obtain ⟨label, hlabel⟩ : ∃ label, p.prefixOf? n.space = some label := by
      rcases hc with h | h | h
      · exact absurd h hspace
      · exact absurd h hxml
      · exact Option.isSome_iff_exists.mp h
    have hmem : (n.space, label) ∈ p := mem_of_find?_key hlabel
    obtain ⟨hname, hxmlns, -⟩ := hp.valid hmem
    right
    refine ⟨label, hname, hxmlns, hp.spaceOf?_label hmem, hspace, ?_⟩
    rw [written, if_neg hspace, if_neg hxml, hlabel]
    rfl

/-- A written name stands for the name in the scope of the root element. -/
theorem resolves_written (hp : p.Assigned) {n : Name} (hn : isName n.localName = true)
    (hc : p.Covers n) : Resolves (rootScope p) n (p.written n) := by
  obtain ⟨space, localName⟩ := n
  rcases hp.written_cases hc with ⟨rfl, hwritten⟩ | ⟨label, hname, hxmlns, hbound, hspace, hwritten⟩
  · rw [hwritten]
    exact .plain hn
  · rw [hwritten]
    exact .joined hname hn hxmlns hbound hspace

/-- A written name consists of characters of names if the local name does. -/
theorem isClosingNameChar_written (hp : p.Assigned) {n : Name} (hc : p.Covers n)
    (hn : ∀ c ∈ n.localName, isClosingNameChar c = true) :
    ∀ c ∈ p.written n, isClosingNameChar c = true := by
  rcases hp.written_cases hc with ⟨-, hwritten⟩ | ⟨label, hname, -, -, -, hwritten⟩
  · rw [hwritten]
    exact hn
  · rw [hwritten]
    intro c hmem
    simp only [List.mem_append, List.mem_cons] at hmem
    rcases hmem with hmem | rfl | hmem
    · exact isClosingNameChar_of_isName hname c hmem
    · rfl
    · exact hn c hmem

/-- All prefixes may be bound to their name spaces. -/
theorem binds (hp : p.Assigned) (hb : ∀ q ∈ p, Bindable q.1) {q : Text × Text} (hq : q ∈ p.sorted) :
    bindingFault? q.2 q.1 = none ∧ Qualified (bindingName q.2) ∧ Legal q.1 := by
  have hmem : q ∈ p := List.mem_mergeSort.mp hq
  obtain ⟨hname, hxmlns, hxml⟩ := hp.valid hmem
  obtain ⟨hne, hspace⟩ := hp.needed q hmem
  obtain ⟨hlegal, hbrace, hreserved⟩ := hb q hmem
  refine ⟨?_, .joined (show isName xmlnsName = true by decide) hname, hlegal⟩
  rw [bindingFault?, if_neg (fun h => hne h.1), if_neg hxmlns, if_neg (by simpa using hbrace),
    if_neg hxml, if_neg (by simp [hspace, hreserved])]

end Prefixes.Assigned

end SourceAtlas.Xml
