import SourceAtlas.Marker
import SourceAtlas.Proofs.Trimming

/-!
# What a marker is made of

A marker that is found is one of those that are looked for, and its note is a part of a line of the
text: it holds no other characters than the text, and no line end.
-/

namespace SourceAtlas

open Text

namespace Text

theorem mem_of_mem_firstLine {t line : Text} {rest : Option Text} (h : firstLine t = (line, rest)) :
    (∀ c ∈ line, c ∈ t ∧ isLineEnd c = false) ∧ ∀ r, rest = some r → ∀ c ∈ r, c ∈ t := by
  induction t generalizing line with
  | nil =>
      obtain ⟨rfl, rfl⟩ := Prod.mk.inj h
      simp
  | cons c cs ih =>
      unfold firstLine at h
      split at h
      · split at h <;> obtain ⟨rfl, rfl⟩ := Prod.mk.inj h <;> simp_all
      · next hend =>
          obtain ⟨rfl, hrest⟩ := Prod.mk.inj h
          obtain ⟨hline, hmore⟩ := ih (Prod.ext rfl hrest)
          constructor
          · intro d hd
            rcases List.mem_cons.mp hd with rfl | hd
            · exact ⟨List.mem_cons_self, by simpa using hend⟩
            · exact ⟨List.mem_cons_of_mem c (hline d hd).1, (hline d hd).2⟩
          · intro r hr d hd
            exact List.mem_cons_of_mem c (hmore r hr d hd)

/-- A line holds characters of the text, and no line end. -/
theorem mem_of_mem_lines {t line : Text} (h : line ∈ lines t) :
    ∀ c ∈ line, c ∈ t ∧ isLineEnd c = false := by
  fun_induction lines t with
  | case1 => simp at h
  | case2 t hne l hfirst =>
      obtain rfl := List.mem_singleton.mp h
      exact (mem_of_mem_firstLine hfirst).1
  | case3 t hne l rest hfirst hlength ih =>
      obtain ⟨hline, hrest⟩ := mem_of_mem_firstLine hfirst
      rcases List.mem_cons.mp h with rfl | h
      · exact hline
      · intro c hc
        exact ⟨hrest rest rfl c (ih h c hc).1, (ih h c hc).2⟩

theorem subset_of_dropLead? {lead t rest : Text} (h : dropLead? lead t = some rest) : rest ⊆ t := by
  rw [dropLead?_eq_some_iff.mp h]
  exact List.subset_append_right lead rest

end Text

namespace Marker

variable {markers : List Text}

theorem of_markerAt? {before : Option Char} {t type rest : Text}
    (h : markerAt? markers before t = some (type, rest)) : type ∈ markers ∧ rest ⊆ t := by
  obtain ⟨m, hm, hfound⟩ := List.exists_of_findSome?_eq_some h
  obtain ⟨after, hafter, hpick⟩ := Option.bind_eq_some_iff.mp hfound
  simp only [Option.ite_none_right_eq_some, Option.some.injEq, Prod.mk.injEq] at hpick
  obtain ⟨-, rfl, rfl⟩ := hpick
  exact ⟨hm, subset_of_dropLead? hafter⟩

theorem of_markerAfterBlanks? {before : Option Char} {t type rest : Text}
    (h : markerAfterBlanks? markers before t = some (type, rest)) : type ∈ markers ∧ rest ⊆ t := by
  induction t generalizing before with
  | nil => exact of_markerAt? h
  | cons c cs ih =>
      rw [markerAfterBlanks?, Option.or_eq_some_iff] at h
      rcases h with h | ⟨-, h⟩
      · split at h
        · exact ⟨(ih h).1, List.subset_cons_of_subset c (ih h).2⟩
        · exact absurd h (by simp)
      · exact of_markerAt? h

theorem of_markerHere? {t type rest : Text} (h : markerHere? markers t = some (type, rest)) :
    type ∈ markers ∧ rest ⊆ t := by
  obtain ⟨after, hafter, hfound⟩ := Option.bind_eq_some_iff.mp h
  obtain ⟨o, -, hopener⟩ := List.exists_of_findSome?_eq_some hafter
  obtain ⟨htype, hrest⟩ := of_markerAfterBlanks? hfound
  exact ⟨htype, List.Subset.trans hrest (subset_of_dropLead? hopener)⟩

theorem of_inLine? {t type rest : Text} (h : inLine? markers t = some (type, rest)) :
    type ∈ markers ∧ rest ⊆ t := by
  induction t with
  | nil => exact absurd h (by simp [inLine?])
  | cons c cs ih =>
      rw [inLine?, Option.or_eq_some_iff] at h
      rcases h with h | ⟨-, h⟩
      · exact of_markerHere? h
      · exact ⟨(ih h).1, List.subset_cons_of_subset c (ih h).2⟩

theorem noteOf_subset (rest : Text) : noteOf rest ⊆ rest := by
  have hcolon : (dropLead? [':'] rest).getD rest ⊆ rest := by
    cases h : dropLead? [':'] rest with
    | none => exact List.Subset.refl rest
    | some after => exact subset_of_dropLead? h
  have hcloser : ∀ body : Text, (dropTail? "*/".toList body).getD body ⊆ body := by
    intro body
    unfold dropTail?
    cases h : dropLead? "*/".toList.reverse body.reverse with
    | none => exact List.Subset.refl body
    | some before =>
        intro c hc
        have hmem := subset_of_dropLead? h (List.mem_reverse.mp hc)
        exact List.mem_reverse.mp hmem
  exact List.Subset.trans (trimEnd_subset _) (List.Subset.trans (hcloser _)
    (List.Subset.trans (trimStart_subset _) hcolon))

/-- A marker is one of those that are looked for, and its note is a part of one line. -/
structure FoundIn (markers : List Text) (t : Text) (m : Marker) : Prop where
  type : m.type ∈ markers
  note : ∀ c ∈ m.note, c ∈ t ∧ isLineEnd c = false

theorem of_mem_ofLines {n : Nat} {ls : List Text} {m : Marker} (h : m ∈ ofLines markers n ls) :
    m.type ∈ markers ∧ ∃ line ∈ ls, m.note ⊆ line := by
  induction ls generalizing n with
  | nil => exact absurd h (by simp [ofLines])
  | cons l ls ih =>
      have hlater : m ∈ ofLines markers (n + 1) ls →
          m.type ∈ markers ∧ ∃ line ∈ l :: ls, m.note ⊆ line := by
        intro hm
        obtain ⟨htype, line, hline, hnote⟩ := ih hm
        exact ⟨htype, line, List.mem_cons_of_mem l hline, hnote⟩
      unfold ofLines at h
      split at h
      · next type rest hfound =>
          rcases List.mem_cons.mp h with rfl | h
          · obtain ⟨htype, hrest⟩ := of_inLine? hfound
            exact ⟨htype, l, List.mem_cons_self, List.Subset.trans (noteOf_subset rest) hrest⟩
          · exact hlater h
      · exact hlater h

theorem foundIn_of_mem_find {t : Text} {m : Marker} (h : m ∈ find markers t) :
    FoundIn markers t m := by
  obtain ⟨htype, line, hline, hnote⟩ := of_mem_ofLines h
  exact ⟨htype, fun c hc => mem_of_mem_lines hline c (hnote hc)⟩

theorem active_subset (markers ignoredTags : List Text) : active markers ignoredTags ⊆ markers :=
  fun _ hm => (List.mem_filter.mp hm).1

end Marker

end SourceAtlas
