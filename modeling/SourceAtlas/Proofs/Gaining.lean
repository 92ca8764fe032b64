import SourceAtlas.Proofs.Outcomes

/-!
# Lists with further elements

A list may have all elements of another one in their order, and between them elements of a certain
kind.  What is made of the lists element by element, filtered or appended is related in the same way.
The same is said of outcomes: the second one may fail for certain reasons only, if the first does not.
-/

namespace SourceAtlas

variable {ε α β : Type}

/-- A list that has the elements of another one and between them others that are extra. -/
inductive Gains (extra : α → Prop) : List α → List α → Prop
  | nil : Gains extra [] []
  | kept (a : α) {as bs : List α} (rest : Gains extra as bs) : Gains extra (a :: as) (a :: bs)
  | gained {b : α} (hb : extra b) {as bs : List α} (rest : Gains extra as bs) :
      Gains extra as (b :: bs)

namespace Gains

variable {extra : α → Prop} {extra' : β → Prop} {as bs cs ds : List α}

theorem refl (as : List α) : Gains extra as as := by
  induction as with
  | nil => exact .nil
  | cons a as ih => exact .kept a ih

theorem append (h : Gains extra as bs) (h' : Gains extra cs ds) :
    Gains extra (as ++ cs) (bs ++ ds) := by
  induction h with
  | nil => exact h'
  | kept a _ ih => exact .kept a ih
  | gained hb _ ih => exact .gained hb ih

/-- A list of extra elements. -/
theorem of_extra (h : ∀ b ∈ bs, extra b) : Gains extra [] bs := by
  induction bs with
  | nil => exact .nil
  | cons b bs ih =>
      exact .gained (h b List.mem_cons_self) (ih fun c hc => h c (List.mem_cons_of_mem b hc))

/-- One extra element at the end. -/
theorem concat {b : α} (hb : extra b) (as : List α) : Gains extra as (as ++ [b]) := by
  have hlast : Gains extra [] [b] := .of_extra (by simpa using hb)
  have h := (Gains.refl as).append hlast
  rwa [List.append_nil] at h

theorem map (f : α → β) (hf : ∀ a, extra a → extra' (f a)) (h : Gains extra as bs) :
    Gains extra' (as.map f) (bs.map f) := by
  induction h with
  | nil => exact .nil
  | kept a _ ih => exact .kept (f a) ih
  | gained hb _ ih => exact .gained (hf _ hb) ih

theorem filter (p : α → Bool) (h : Gains extra as bs) : Gains extra (as.filter p) (bs.filter p) := by
  induction h with
  | nil => exact .nil
  | kept a _ ih =>
      rw [List.filter_cons, List.filter_cons]
      split
      · exact .kept a ih
      · exact ih
  | gained hb _ ih =>
      rw [List.filter_cons]
      split
      · exact .gained hb ih
      · exact ih

theorem flatMap {f g : α → List β} (as : List α) (h : ∀ a ∈ as, Gains extra' (f a) (g a)) :
    Gains extra' (as.flatMap f) (as.flatMap g) := by
  induction as with
  | nil => exact .nil
  | cons a as ih =>
      rw [List.flatMap_cons, List.flatMap_cons]
      exact (h a List.mem_cons_self).append (ih fun b hb => h b (List.mem_cons_of_mem a hb))

/-- Without extra elements it is the same list. -/
theorem eq_of_none (h : Gains extra as bs) (hnone : ∀ b ∈ bs, ¬ extra b) : bs = as := by
  induction h with
  | nil => rfl
  | kept a _ ih => rw [ih fun b hb => hnone b (List.mem_cons_of_mem a hb)]
  | gained hb _ _ => exact absurd hb (hnone _ List.mem_cons_self)

end Gains

/-- What an operation gives has all that another one gives and between that extra elements, or it fails
for an excused reason. -/
inductive Regains (excused : ε → Prop) (extra : α → Prop) :
    Except ε (List α) → Except ε (List α) → Prop
  | failed (e : ε) (y : Except ε (List α)) : Regains excused extra (.error e) y
  | excused {e : ε} (he : excused e) (as : List α) : Regains excused extra (.ok as) (.error e)
  | gains {as bs : List α} (h : Gains extra as bs) : Regains excused extra (.ok as) (.ok bs)

namespace Regains

variable {excused : ε → Prop} {extra : α → Prop} {extra' : β → Prop} {as bs : List α}

theorem refl (x : Except ε (List α)) : Regains excused extra x x := by
  cases x with
  | error e => exact .failed e _
  | ok as => exact .gains (.refl as)

theorem bind {x y : Except ε (List α)} {f g : List α → Except ε (List β)}
    (h : Regains excused extra x y)
    (hf : ∀ as bs, Gains extra as bs → Regains excused extra' (f as) (g bs)) :
    Regains excused extra' (x >>= f) (y >>= g) := by
  cases h with
  | failed e => exact .failed e _
  | gains h => exact hf _ _ h
  | @excused e he as =>
      change Regains excused extra' (f as) (.error e)
      cases f as with
      | error e' => exact .failed e' _
      | ok cs => exact .excused he cs

theorem mapError {ε' : Type} {excused' : ε' → Prop} {x y : Except ε (List α)}
    (h : Regains excused extra x y) {f : ε → ε'} (hf : ∀ e, excused e → excused' (f e)) :
    Regains excused' extra (x.mapError f) (y.mapError f) := by
  cases h with
  | failed e => exact .failed (f e) _
  | excused he as => exact .excused (hf _ he) as
  | gains h => exact .gains h

theorem append {x y x' y' : Except ε (List α)} (h : Regains excused extra x y)
    (h' : Regains excused extra x' y') :
    Regains excused extra (x >>= fun as => x' >>= fun bs => pure (as ++ bs))
      (y >>= fun as => y' >>= fun bs => pure (as ++ bs)) := by
  apply h.bind
  intro as bs hfirst
  apply h'.bind
  intro as' bs' hsecond
  exact .gains (hfirst.append hsecond)

theorem concatM {f g : β → Except ε (List α)} (h : ∀ b, Regains excused extra (f b) (g b))
    (bs : List β) : Regains excused extra (SourceAtlas.concatM f bs) (SourceAtlas.concatM g bs) := by
  induction bs with
  | nil => exact .refl _
  | cons b bs ih => exact (h b).append ih

/-- What is done to the second list may give it further elements. -/
theorem gain {x y : Except ε (List α)} {g : List α → List α} (h : Regains excused extra x y)
    (hg : ∀ as bs, Gains extra as bs → Gains extra as (g bs)) :
    Regains excused extra x (y >>= fun bs => pure (g bs)) := by
  cases h with
  | failed e => exact .failed e _
  | excused he => exact .excused he _
  | gains h => exact .gains (hg _ _ h)

/-- The extra elements come to extra results. -/
theorem mapM {f : α → Except ε β} (h : Gains extra as bs)
    (hextra : ∀ b, extra b → ∃ c, f b = .ok c ∧ extra' c) :
    Regains excused extra' (as.mapM f) (bs.mapM f) := by
  induction h with
  | nil => exact .refl _
  | kept a _ ih =>
      rw [List.mapM_cons, List.mapM_cons]
      cases f a with
      | error e => exact .failed e _
      | ok c =>
          apply ih.bind
          intro cs ds hrest
          exact .gains (.kept c hrest)
  | @gained b hb as bs _ ih =>
      obtain ⟨c, hc, hextra⟩ := hextra b hb
      rw [List.mapM_cons, hc]
      exact ih.gain fun _ _ hrest => .gained hextra hrest

/-- Elements may come to be picked if they are extra then. -/
theorem filterM {extra' : α → Prop} {p p' : α → Except ε Bool} (h : Gains extra as bs)
    (hkept : ∀ a, p' a = p a ∨ p a = .ok false ∧ ∃ b, p' a = .ok b ∧ extra' a)
    (hextra : ∀ b, extra b →
      (∃ e, p' b = .error e ∧ excused e) ∨ ∃ c, p' b = .ok c ∧ (c = true → extra' b)) :
    Regains excused extra' (as.filterM p) (bs.filterM p') := by
  induction h with
  | nil => exact .refl _
  | kept a _ ih =>
      rw [filterM_cons, filterM_cons]
      obtain hsame | ⟨hfalse, b, hpicked, ha⟩ := hkept a
      · rw [hsame]
        cases p a with
        | error e => exact .failed e _
        | ok b =>
            apply ih.bind
            intro cs ds hrest
            cases b with
            | true => exact .gains (.kept a hrest)
            | false => exact .gains hrest
      · rw [hfalse, hpicked]
        apply ih.bind
        intro cs ds hrest
        cases b with
        | true => exact .gains (.gained ha hrest)
        | false => exact .gains hrest
  | @gained b hb as bs _ ih =>
      rw [filterM_cons]
      obtain ⟨e, herror, he⟩ | ⟨c, hpicked, hc⟩ := hextra b hb
      · rw [herror]
        cases as.filterM p with
        | error e' => exact .failed e' _
        | ok cs => exact .excused he cs
      · rw [hpicked]
        apply ih.gain
        intro cs ds hrest
        cases c with
        | true => exact .gained (hc rfl) hrest
        | false => exact hrest

end Regains

end SourceAtlas
