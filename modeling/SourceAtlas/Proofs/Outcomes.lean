/-!
# Outcomes that succeed

A composed operation succeeds exactly when its parts do.
-/

namespace SourceAtlas

variable {ε ε' α β : Type}

theorem bind_eq_ok {x : Except ε α} {f : α → Except ε β} {b : β} :
    (x >>= f) = .ok b ↔ ∃ a, x = .ok a ∧ f a = .ok b := by
  cases x with
  | error e => simp [bind, Except.bind]
  | ok a => simp [bind, Except.bind]

theorem bind_eq_error {x : Except ε α} {f : α → Except ε β} {e : ε} :
    (x >>= f) = .error e ↔ x = .error e ∨ ∃ a, x = .ok a ∧ f a = .error e := by
  cases x with
  | error e => simp [bind, Except.bind]
  | ok a => simp [bind, Except.bind]

theorem bind_congr_ok {x : Except ε α} {f g : α → Except ε β} (h : ∀ a, x = .ok a → f a = g a) :
    (x >>= f) = (x >>= g) := by
  cases x with
  | error e => rfl
  | ok a => exact h a rfl

theorem map_eq_ok {x : Except ε α} {f : α → β} {b : β} :
    x.map f = .ok b ↔ ∃ a, x = .ok a ∧ f a = b := by
  cases x with
  | error e => simp [Except.map]
  | ok a => simp [Except.map]

theorem mapError_ok {f : ε → ε'} {a : α} : (Except.ok a).mapError f = .ok a := rfl

theorem mapError_error {f : ε → ε'} {e : ε} :
    (Except.error e : Except ε α).mapError f = .error (f e) := rfl

theorem mapError_eq_ok {x : Except ε α} {f : ε → ε'} {a : α} :
    x.mapError f = .ok a ↔ x = .ok a := by
  cases x with
  | error e => simp [mapError_error]
  | ok a => simp [mapError_ok]

theorem mapError_eq_error {x : Except ε α} {f : ε → ε'} {e' : ε'} :
    x.mapError f = .error e' ↔ ∃ e, x = .error e ∧ f e = e' := by
  cases x with
  | error e => simp [mapError_error]
  | ok a => simp [mapError_ok]

theorem pure_eq_ok {a b : α} : (pure a : Except ε α) = .ok b ↔ a = b := by
  simp [pure, Except.pure]

theorem toOption_eq_some {x : Except ε α} {a : α} : x.toOption = some a ↔ x = .ok a := by
  cases x with
  | error e => simp [Except.toOption]
  | ok b => simp [Except.toOption]

theorem exists_eq_ok_of_isOk {x : Except ε α} (h : x.isOk = true) : ∃ a, x = .ok a := by
  cases x with
  | error e => simp [Except.isOk, Except.toBool] at h
  | ok a => exact ⟨a, rfl⟩

theorem filterM_cons (p : α → Except ε Bool) (a : α) (as : List α) :
    (a :: as).filterM p = p a >>= fun b => as.filterM p >>= fun bs =>
      pure (if b then a :: bs else bs) := by
  have haux : ∀ (as acc : List α), as.filterAuxM p acc =
      as.filterAuxM p [] >>= fun bs => pure (bs ++ acc) := by
    intro as
    induction as with
    | nil => intro acc; rfl
    | cons a as ih =>
        intro acc
        rw [List.filterAuxM, List.filterAuxM]
        cases p a with
        | error e => rfl
        | ok b =>
            change as.filterAuxM p (cond b (a :: acc) acc) =
              (as.filterAuxM p (cond b [a] [])) >>= fun bs => pure (bs ++ acc)
            rw [ih (cond b (a :: acc) acc), ih (cond b [a] [])]
            cases as.filterAuxM p [] with
            | error e => rfl
            | ok bs => cases b <;> simp [Bind.bind, Except.bind, pure, Except.pure]
  rw [List.filterM, List.filterM, List.filterAuxM]
  cases p a with
  | error e => rfl
  | ok b =>
      change (as.filterAuxM p (cond b [a] []) >>= fun bs => pure bs.reverse) = _
      rw [haux]
      cases as.filterAuxM p [] with
      | error e => rfl
      | ok bs => cases b <;> simp [Bind.bind, Except.bind, pure, Except.pure]

/-! ## What lists of outcomes hold -/

theorem mem_filterM {p : α → Except ε Bool} {as bs : List α} (h : as.filterM p = .ok bs) {a : α} :
    a ∈ bs ↔ a ∈ as ∧ p a = .ok true := by
  induction as generalizing bs with
  | nil =>
      obtain rfl := Except.ok.inj h
      simp
  | cons c cs ih =>
      rw [filterM_cons] at h
      obtain ⟨kept, hc, h⟩ := bind_eq_ok.mp h
      obtain ⟨ds, hds, h⟩ := bind_eq_ok.mp h
      obtain rfl := pure_eq_ok.mp h
      have hpc : p c = .ok true ↔ kept = true := by simp [hc]
      cases kept with
      | true =>
          rw [if_pos rfl, List.mem_cons, List.mem_cons, ih hds]
          constructor
          · rintro (rfl | ⟨ha, hkept⟩)
            · exact ⟨.inl rfl, hpc.mpr rfl⟩
            · exact ⟨.inr ha, hkept⟩
          · rintro ⟨rfl | ha, hkept⟩
            · exact .inl rfl
            · exact .inr ⟨ha, hkept⟩
      | false =>
          rw [if_neg (by simp), List.mem_cons, ih hds]
          constructor
          · exact fun ⟨ha, hkept⟩ => ⟨.inr ha, hkept⟩
          · rintro ⟨rfl | ha, hkept⟩
            · cases hpc.mp hkept
            · exact ⟨ha, hkept⟩

theorem exists_of_filterM {p : α → Except ε Bool} {as bs : List α} (h : as.filterM p = .ok bs) {a : α}
    (ha : a ∈ as) : ∃ b, p a = .ok b := by
  induction as generalizing bs with
  | nil => cases ha
  | cons c cs ih =>
      rw [filterM_cons] at h
      obtain ⟨kept, hc, h⟩ := bind_eq_ok.mp h
      obtain ⟨ds, hds, -⟩ := bind_eq_ok.mp h
      obtain rfl | ha := List.mem_cons.mp ha
      · exact ⟨kept, hc⟩
      · exact ih hds ha

theorem exists_filterM {p : α → Except ε Bool} {as : List α} (h : ∀ a ∈ as, ∃ b, p a = .ok b) :
    ∃ bs, as.filterM p = .ok bs := by
  induction as with
  | nil => exact ⟨[], rfl⟩
  | cons a as ih =>
      obtain ⟨b, hb⟩ := h a List.mem_cons_self
      obtain ⟨bs, hbs⟩ := ih fun c hc => h c (List.mem_cons_of_mem a hc)
      rw [filterM_cons, hb, hbs]
      exact ⟨_, rfl⟩

theorem exists_mapM {f : α → Except ε β} {as : List α} (h : ∀ a ∈ as, ∃ b, f a = .ok b) :
    ∃ bs, as.mapM f = .ok bs := by
  induction as with
  | nil => exact ⟨[], rfl⟩
  | cons a as ih =>
      obtain ⟨b, hb⟩ := h a List.mem_cons_self
      obtain ⟨bs, hbs⟩ := ih fun c hc => h c (List.mem_cons_of_mem a hc)
      rw [List.mapM_cons, hb, hbs]
      exact ⟨b :: bs, rfl⟩

/-- A list that holds what a function makes of each selected element, and nothing else. -/
structure Lists (f : α → Except ε β) (selected : α → Prop) (bs : List β) : Prop where
  only : ∀ b ∈ bs, ∃ a, selected a ∧ f a = .ok b
  all : ∀ a, selected a → ∃ b ∈ bs, f a = .ok b

section Lists

variable {f : α → Except ε β} {selected selected' : α → Prop} {bs cs : List β}

theorem lists_nil (h : ∀ a, ¬ selected a) : Lists f selected [] :=
  ⟨by simp, fun a ha => absurd ha (h a)⟩

theorem Lists.congr (h : Lists f selected bs) (hiff : ∀ a, selected' a ↔ selected a) :
    Lists f selected' bs := by
  constructor
  · intro b hb
    obtain ⟨a, ha, heq⟩ := h.only b hb
    exact ⟨a, (hiff a).mpr ha, heq⟩
  · exact fun a ha => h.all a ((hiff a).mp ha)

theorem Lists.mem_iff (h : Lists f selected bs) (h' : Lists f selected cs) {b : β} :
    b ∈ bs ↔ b ∈ cs := by
  have hmem : ∀ {ds es}, Lists f selected ds → Lists f selected es → ∀ b ∈ ds, b ∈ es := by
    intro ds es hds hes b hb
    obtain ⟨a, ha, hfa⟩ := hds.only b hb
    obtain ⟨c, hc, hfa'⟩ := hes.all a ha
    rwa [Except.ok.inj (hfa.symm.trans hfa')]
  exact ⟨hmem h h' b, hmem h' h b⟩

theorem Lists.append (h : Lists f selected bs) (h' : Lists f selected' cs) :
    Lists f (fun a => selected a ∨ selected' a) (bs ++ cs) := by
  constructor
  · intro b hb
    obtain hb | hb := List.mem_append.mp hb
    · obtain ⟨a, ha, heq⟩ := h.only b hb
      exact ⟨a, .inl ha, heq⟩
    · obtain ⟨a, ha, heq⟩ := h'.only b hb
      exact ⟨a, .inr ha, heq⟩
  · rintro a (ha | ha)
    · obtain ⟨b, hb, heq⟩ := h.all a ha
      exact ⟨b, List.mem_append_left cs hb, heq⟩
    · obtain ⟨b, hb, heq⟩ := h'.all a ha
      exact ⟨b, List.mem_append_right bs hb, heq⟩

theorem lists_mapM {as : List α} (h : as.mapM f = .ok bs) : Lists f (· ∈ as) bs := by
  induction as generalizing bs with
  | nil =>
      obtain rfl := pure_eq_ok.mp h
      exact lists_nil fun _ => List.not_mem_nil
  | cons a as ih =>
      rw [List.mapM_cons] at h
      obtain ⟨b, hb, h⟩ := bind_eq_ok.mp h
      obtain ⟨rest, hrest, h⟩ := bind_eq_ok.mp h
      obtain rfl := pure_eq_ok.mp h
      have hfirst : Lists f (· = a) [b] := by
        constructor
        · intro c hc
          obtain rfl := List.mem_singleton.mp hc
          exact ⟨a, rfl, hb⟩
        · rintro _ rfl
          exact ⟨b, List.mem_cons_self, hb⟩
      exact (hfirst.append (ih hrest)).congr fun _ => List.mem_cons

end Lists

/-! ## Lists of lists of outcomes -/

/-- What a function makes of each element, one after another. -/
def concatM (f : α → Except ε (List β)) : List α → Except ε (List β)
  | [] => .ok []
  | a :: as => f a >>= fun found => concatM f as >>= fun rest => pure (found ++ rest)

section Concat

variable {f : α → Except ε (List β)} {as : List α}

theorem exists_concatM_iff :
    (∃ bs, concatM f as = .ok bs) ↔ ∀ a ∈ as, ∃ found, f a = .ok found := by
  induction as with
  | nil => exact iff_of_true ⟨[], rfl⟩ (by simp)
  | cons a as ih =>
      rw [List.forall_mem_cons, ← ih]
      constructor
      · rintro ⟨bs, hbs⟩
        obtain ⟨found, hfound, hbs⟩ := bind_eq_ok.mp hbs
        obtain ⟨rest, hrest, -⟩ := bind_eq_ok.mp hbs
        exact ⟨⟨found, hfound⟩, rest, hrest⟩
      · rintro ⟨⟨found, hfound⟩, rest, hrest⟩
        refine ⟨found ++ rest, ?_⟩
        rw [concatM, hfound, hrest]
        rfl

theorem mem_concatM {bs : List β} (h : concatM f as = .ok bs) {b : β} :
    b ∈ bs ↔ ∃ a ∈ as, ∃ found, f a = .ok found ∧ b ∈ found := by
  induction as generalizing bs with
  | nil =>
      obtain rfl := Except.ok.inj h
      simp
  | cons a as ih =>
      obtain ⟨found, hfound, h⟩ := bind_eq_ok.mp h
      obtain ⟨rest, hrest, h⟩ := bind_eq_ok.mp h
      obtain rfl := pure_eq_ok.mp h
      rw [List.mem_append, ih hrest]
      simp only [List.mem_cons, exists_eq_or_imp]
      refine or_congr ⟨fun hb => ⟨found, hfound, hb⟩, ?_⟩ .rfl
      rintro ⟨found', hfound', hb⟩
      obtain rfl := Except.ok.inj (hfound.symm.trans hfound')
      exact hb

/-- If each list holds what a function makes of what its element selects, so do all of them. -/
theorem lists_concatM {γ : Type} {g : γ → Except ε β} {selected : α → γ → Prop}
    (hf : ∀ a found, f a = .ok found → Lists g (selected a) found) {bs : List β}
    (h : concatM f as = .ok bs) : Lists g (fun c => ∃ a ∈ as, selected a c) bs := by
  have hfound := exists_concatM_iff.mp ⟨bs, h⟩
  constructor
  · intro b hb
    obtain ⟨a, ha, found, hok, hb⟩ := (mem_concatM h).mp hb
    obtain ⟨c, hc, heq⟩ := (hf a found hok).only b hb
    exact ⟨c, ⟨a, ha, hc⟩, heq⟩
  · rintro c ⟨a, ha, hc⟩
    obtain ⟨found, hok⟩ := hfound a ha
    obtain ⟨b, hb, heq⟩ := (hf a found hok).all c hc
    exact ⟨b, (mem_concatM h).mpr ⟨a, ha, found, hok, hb⟩, heq⟩

end Concat

/-! ## What outcomes give -/

/-- What an operation gives, if it succeeds, has a property. -/
def Gives (x : Except ε α) (p : α → Prop) : Prop := ∀ a, x = .ok a → p a

section Gives

variable {p : α → Prop} {q : β → Prop}

theorem gives_true (x : Except ε α) : Gives x fun _ => True := fun _ _ => trivial

theorem gives_error (e : ε) : Gives (.error e) p := fun _ h => absurd h (by simp)

theorem gives_ok {a : α} (h : p a) : Gives (.ok a : Except ε α) p := fun _ heq =>
  Except.ok.inj heq ▸ h

theorem Gives.imp {p' : α → Prop} {x : Except ε α} (h : Gives x p) (himp : ∀ a, p a → p' a) :
    Gives x p' :=
  fun a heq => himp a (h a heq)

/-- An operation after another may rely on what that gives. -/
theorem Gives.bind {x : Except ε α} {f : α → Except ε β} (hx : Gives x p)
    (hf : ∀ a, p a → Gives (f a) q) : Gives (x >>= f) q := by
  intro b hb
  obtain ⟨a, ha, hb⟩ := bind_eq_ok.mp hb
  exact hf a (hx a ha) b hb

theorem Gives.map {x : Except ε α} {f : α → β} (hx : Gives x p) (hf : ∀ a, p a → q (f a)) :
    Gives (x.map f) q := by
  intro b hb
  obtain ⟨a, ha, rfl⟩ := map_eq_ok.mp hb
  exact hf a (hx a ha)

theorem Gives.mapError {x : Except ε α} (h : Gives x p) (f : ε → ε') : Gives (x.mapError f) p :=
  fun a ha => h a (mapError_eq_ok.mp ha)

end Gives

/-! ## What outcomes fail with -/

/-- What an operation fails with, if it fails, has a property. -/
def Blames (x : Except ε α) (p : ε → Prop) : Prop := ∀ e, x = .error e → p e

section Blames

variable {p : ε → Prop}

theorem blames_ok (a : α) : Blames (.ok a) p := fun _ h => absurd h (by simp)

theorem blames_error {e : ε} (h : p e) : Blames (.error e : Except ε α) p := fun _ heq =>
  Except.error.inj heq ▸ h

theorem Blames.imp {q : ε → Prop} {x : Except ε α} (h : Blames x p) (himp : ∀ e, p e → q e) :
    Blames x q :=
  fun e heq => himp e (h e heq)

theorem Blames.bind {x : Except ε α} {f : α → Except ε β} (hx : Blames x p)
    (hf : ∀ a, Blames (f a) p) : Blames (x >>= f) p := by
  intro e he
  obtain he | ⟨a, -, he⟩ := bind_eq_error.mp he
  · exact hx e he
  · exact hf a e he

theorem Blames.map {x : Except ε α} (hx : Blames x p) (f : α → β) : Blames (x.map f) p := by
  cases x with
  | error e => exact blames_error (hx e rfl)
  | ok a => exact blames_ok (f a)

theorem blames_mapError {x : Except ε' α} {f : ε' → ε} (hf : ∀ e, x = .error e → p (f e)) :
    Blames (x.mapError f) p := by
  cases x with
  | error e => exact blames_error (hf e rfl)
  | ok a => exact blames_ok a

theorem Blames.filterM {f : α → Except ε Bool} (hf : ∀ a, Blames (f a) p) (as : List α) :
    Blames (as.filterM f) p := by
  induction as with
  | nil => exact blames_ok []
  | cons a as ih =>
      rw [filterM_cons]
      exact (hf a).bind fun b => ih.bind fun bs => blames_ok _

theorem Blames.concatM {f : α → Except ε (List β)} {as : List α} (hf : ∀ a ∈ as, Blames (f a) p) :
    Blames (concatM f as) p := by
  induction as with
  | nil => exact blames_ok []
  | cons a as ih =>
      obtain ⟨hfirst, hrest⟩ := List.forall_mem_cons.mp hf
      exact hfirst.bind fun found => (ih hrest).bind fun rest => blames_ok (found ++ rest)

theorem Blames.mapM {f : α → Except ε β} (hf : ∀ a, Blames (f a) p) (as : List α) :
    Blames (as.mapM f) p := by
  induction as with
  | nil => exact blames_ok []
  | cons a as ih =>
      rw [List.mapM_cons]
      exact (hf a).bind fun b => ih.bind fun bs => blames_ok (b :: bs)

end Blames

end SourceAtlas
