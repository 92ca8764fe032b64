import SourceAtlas.Proofs.Joining
import SourceAtlas.Text.Blank
import SourceAtlas.Text.Lower

/-!
# Texts in lower case

No capital letter is mapped to another one, so lower-casing a text once is enough, and none is mapped to
white space, a comma or a dot.  A text of which only ASCII letters are capitals is lower-cased letter by
letter.
-/

namespace SourceAtlas.Text

/-! ## The runs of capital letters -/

/-- The code point of a capital letter of a run. -/
structure InRun (r : Nat × Nat × Nat × Int) (code : Nat) : Prop where
  first : r.1 ≤ code
  last : code ≤ r.2.1
  step : (code - r.1) % r.2.2.1 = 0

/-- The code points to which the first and the last letter of a run are mapped. -/
def images (r : Nat × Nat × Nat × Int) : Nat × Nat :=
  (((r.1 : Int) + r.2.2.2).toNat, ((r.2.1 : Int) + r.2.2.2).toNat)

/-- Whether the letters of a run are mapped to none of another run: to letters beside it, or to those
between its own. -/
def avoids (r r' : Nat × Nat × Nat × Int) : Bool :=
  Nat.blt r'.2.1 (images r).1 || Nat.blt (images r).2 r'.1 ||
    ((r.1 == r.2.1 || r.2.2.1 == 2) && r'.2.2.1 == 2 && (images r).1 % 2 != r'.1 % 2)

/-- The letters of all runs are mapped to letters of none, and neither to the capital I with a dot nor to
white space; what they are mapped to comes after the full stop. -/
theorem avoids_lowerRuns : ∀ r ∈ lowerRuns, (∀ r' ∈ lowerRuns, avoids r r' = true) ∧
    avoids r (304, 304, 1, 0) = true ∧ 46 < (images r).1 ∧
    ∀ b ∈ blankRanges, (images r).2 < b.1 ∨ b.2 < (images r).1 := by
  have hall : lowerRuns.all (fun r => lowerRuns.all (avoids r) &&
      (avoids r (304, 304, 1, 0) && (Nat.blt 46 (images r).1 &&
        blankRanges.all fun b => Nat.blt (images r).2 b.1 || Nat.blt b.2 (images r).1))) = true := by
    decide +kernel
  simpa only [List.all_eq_true, Bool.and_eq_true, Bool.or_eq_true, Nat.blt_eq] using hall

theorem InRun.not_inRun_image {r r' : Nat × Nat × Nat × Int} {code : Nat} (h : InRun r code)
    (himage : 0 < (images r).1) (havoids : avoids r r' = true) :
    ¬ InRun r' ((code : Int) + r.2.2.2).toNat := by
  obtain ⟨first, last, step, shift⟩ := r
  obtain ⟨first', last', step', shift'⟩ := r'
  obtain ⟨hfirst, hlast, hstep⟩ := h
  rintro ⟨hfirst', hlast', hstep'⟩
  simp only [avoids, images, Bool.or_eq_true, Bool.and_eq_true, Nat.blt_eq, beq_iff_eq,
    bne_iff_ne] at himage havoids
  dsimp only at hfirst hlast hstep hfirst' hlast' hstep'
  obtain (hbelow | habove) | ⟨⟨hone | rfl, rfl⟩, hparity⟩ := havoids
  · omega
  · omega
  · obtain rfl : code = first := by omega
    omega
  · omega

theorem InRun.image_mem {r : Nat × Nat × Nat × Int} {code : Nat} (h : InRun r code) :
    (images r).1 ≤ ((code : Int) + r.2.2.2).toNat ∧ ((code : Int) + r.2.2.2).toNat ≤ (images r).2 := by
  have hfirst := h.first
  have hlast := h.last
  simp only [images]
  omega

/-! ## Letters -/

/-- A mark: white space, a comma or a dot. -/
def isMark (c : Char) : Bool := isBlank c || c == ',' || c == '.'

/-- A character that lower-casing leaves as it is. -/
def IsLower (c : Char) : Prop := lowerChar c = [c]

instance (c : Char) : Decidable (IsLower c) := inferInstanceAs (Decidable (_ = _))

/-- The lower-case letters of a character: two for the capital I with a dot, one for a letter of a run, and
otherwise the character itself. -/
theorem lowerChar_cases (c : Char) : c.toNat = 304 ∨ IsLower c ∨ ∃ r ∈ lowerRuns, InRun r c.toNat ∧
    lowerChar c = [Char.ofNat ((c.toNat : Int) + r.2.2.2).toNat] := by
  by_cases hdotted : c.toNat = 304
  · exact .inl hdotted
  · right
    rw [IsLower, lowerChar, if_neg hdotted]
    split
    · next first last step shift hfind =>
        obtain ⟨hfirst, hlast⟩ : first ≤ c.toNat ∧ c.toNat ≤ last := by
          simpa using List.find?_some hfind
        split
        · next hstep => exact .inr ⟨_, List.mem_of_find?_eq_some hfind, ⟨hfirst, hlast, hstep⟩, rfl⟩
        · exact .inl rfl
    · exact .inl rfl

theorem isLower_of_not_inRun {c : Char} (hdotted : c.toNat ≠ 304)
    (h : ∀ r ∈ lowerRuns, ¬ InRun r c.toNat) : IsLower c := by
  obtain hdotted' | hlower | ⟨r, hr, hrun, -⟩ := lowerChar_cases c
  · exact absurd hdotted' hdotted
  · exact hlower
  · exact absurd hrun (h r hr)

/-- The character of a number, which is the null character if the number stands for none. -/
theorem toNat_ofNat_cases (n : Nat) : (Char.ofNat n).toNat = n ∨ Char.ofNat n = '\x00' := by
  by_cases h : n.isValidChar
  · exact .inl (by rw [Char.ofNat, dif_pos h]; rfl)
  · exact .inr (by rw [Char.ofNat, dif_neg h]; rfl)

/-- A character whose code point is beyond the full stop and not that of white space is no mark. -/
theorem isMark_eq_false {c : Char} (hcode : 46 < c.toNat)
    (hblank : ∀ b ∈ blankRanges, c.toNat < b.1 ∨ b.2 < c.toNat) : isMark c = false := by
  have hnotBlank : isBlank c = false := by
    rw [Bool.eq_false_iff, isBlank, Ne, inRanges_iff]
    rintro ⟨b, hb, hfirst, hlast⟩
    obtain h | h := hblank b hb <;> omega
  have hcomma : c ≠ ',' := by
    rintro rfl
    exact absurd hcode (by decide)
  have hdot : c ≠ '.' := by
    rintro rfl
    exact absurd hcode (by decide)
  simp [isMark, hnotBlank, hcomma, hdot]

/-- What a letter of a run is mapped to is no capital letter, and no mark. -/
theorem isLower_image {r : Nat × Nat × Nat × Int} (hr : r ∈ lowerRuns) {code : Nat}
    (h : InRun r code) : IsLower (Char.ofNat ((code : Int) + r.2.2.2).toNat) ∧
      isMark (Char.ofNat ((code : Int) + r.2.2.2).toNat) = false := by
  obtain ⟨havoids, hdotted, himage, hblank⟩ := avoids_lowerRuns r hr
  have hpositive : 0 < (images r).1 := by omega
  obtain ⟨hfirst, hlast⟩ := h.image_mem
  obtain hcode | hnull := toNat_ofNat_cases ((code : Int) + r.2.2.2).toNat
  · refine ⟨isLower_of_not_inRun (fun heq => ?_) fun r' hr' => ?_,
      isMark_eq_false (by rw [hcode]; omega) fun b hb => ?_⟩
    · rw [hcode] at heq
      refine h.not_inRun_image hpositive hdotted ⟨?_, ?_, ?_⟩ <;> simp [heq]
    · rw [hcode]
      exact h.not_inRun_image hpositive (havoids r' hr')
    · rw [hcode]
      obtain hbefore | hbehind := hblank b hb <;> omega
  · rw [hnull]
    decide

theorem isLower_of_mem_lowerChar {c d : Char} (h : d ∈ lowerChar c) :
    IsLower d ∧ (isMark d = true → d = c) := by
  obtain hdotted | hlower | ⟨r, hr, hrun, hletter⟩ := lowerChar_cases c
  · have hletter : IsLower (Char.ofNat 105) := by decide +kernel
    have hdot : IsLower (Char.ofNat 775) := by decide +kernel
    rw [lowerChar, if_pos hdotted, List.mem_cons, List.mem_singleton] at h
    obtain rfl | rfl := h
    · exact ⟨hletter, fun hmark => absurd hmark (by decide)⟩
    · exact ⟨hdot, fun hmark => absurd hmark (by decide)⟩
  · rw [hlower] at h
    obtain rfl := List.mem_singleton.mp h
    exact ⟨hlower, fun _ => rfl⟩
  · rw [hletter] at h
    obtain rfl := List.mem_singleton.mp h
    obtain ⟨hlower, hmark⟩ := isLower_image hr hrun
    exact ⟨hlower, fun hmark' => absurd hmark' (by simp [hmark])⟩

/-! ## Texts -/

theorem lowerChar_ne_nil (c : Char) : lowerChar c ≠ [] := by
  obtain hdotted | hlower | ⟨r, -, -, hletter⟩ := lowerChar_cases c
  · rw [lowerChar, if_pos hdotted]
    simp
  · rw [hlower]
    simp
  · rw [hletter]
    simp

/-- A character of a text becomes some letters, none of which is a capital.  Only a mark becomes a mark, and
it stays the same. -/
theorem exists_letters (before : Text) (c : Char) (cs : Text) :
    ∃ letters ≠ [], lowerFrom before (c :: cs) = letters ++ lowerFrom (c :: before) cs ∧
      ∀ d ∈ letters, IsLower d ∧ (isMark d = true → d = c) := by
  refine ⟨_, ?_, rfl, ?_⟩
  · split
    · split <;> simp
    · exact lowerChar_ne_nil c
  · have hfinal : IsLower (Char.ofNat 962) := by decide +kernel
    have hsigma : IsLower (Char.ofNat 963) := by decide +kernel
    intro d hd
    split at hd
    · split at hd
      · obtain rfl := List.mem_singleton.mp hd
        exact ⟨hfinal, fun hmark => absurd hmark (by decide)⟩
      · obtain rfl := List.mem_singleton.mp hd
        exact ⟨hsigma, fun hmark => absurd hmark (by decide)⟩
    · exact isLower_of_mem_lowerChar hd

theorem lowerFrom_ne_nil (before : Text) (c : Char) (cs : Text) : lowerFrom before (c :: cs) ≠ [] := by
  obtain ⟨letters, hne, hlower, -⟩ := exists_letters before c cs
  rw [hlower]
  exact fun h => hne (List.append_eq_nil_iff.mp h).1

theorem isLower_of_mem_lowerFrom {before t : Text} {d : Char} (h : d ∈ lowerFrom before t) :
    IsLower d := by
  induction t generalizing before with
  | nil => cases h
  | cons c cs ih =>
      obtain ⟨letters, -, hlower, hletters⟩ := exists_letters before c cs
      rw [hlower, List.mem_append] at h
      obtain h | h := h
      · exact (hletters d h).1
      · exact ih h

/-- A lower-cased text holds no capital letters. -/
theorem isLower_of_mem_lower {t : Text} {d : Char} (h : d ∈ lower t) : IsLower d :=
  isLower_of_mem_lowerFrom h

theorem lower_eq_nil_iff {t : Text} : lower t = [] ↔ t = [] := by
  cases t with
  | nil => exact iff_of_true rfl rfl
  | cons c cs => exact iff_of_false (lowerFrom_ne_nil [] c cs) (by simp)

/-- A mark in a lower-cased text was there before. -/
theorem mem_of_mem_lower {t : Text} {d : Char} (h : d ∈ lower t) (hmark : isMark d = true) : d ∈ t := by
  rw [lower] at h
  generalize [] = before at h
  induction t generalizing before with
  | nil => cases h
  | cons c cs ih =>
      obtain ⟨letters, -, hlower, hletters⟩ := exists_letters before c cs
      rw [hlower, List.mem_append] at h
      obtain h | h := h
      · exact (hletters d h).2 hmark ▸ List.mem_cons_self
      · exact List.mem_cons_of_mem c (ih _ h)

theorem head?_lower {t : Text} {d : Char} (h : (lower t).head? = some d) (hmark : isMark d = true) :
    t.head? = some d := by
  cases t with
  | nil => cases h
  | cons c cs =>
      obtain ⟨letters, hne, hlower, hletters⟩ := exists_letters [] c cs
      obtain ⟨e, es, rfl⟩ := List.exists_cons_of_ne_nil hne
      rw [lower, hlower] at h
      obtain rfl : e = d := Option.some.inj h
      rw [List.head?_cons, (hletters e List.mem_cons_self).2 hmark]

theorem getLast?_lower {t : Text} {d : Char} (h : (lower t).getLast? = some d) (hmark : isMark d = true) :
    t.getLast? = some d := by
  rw [lower] at h
  generalize [] = before at h
  induction t generalizing before with
  | nil => cases h
  | cons c cs ih =>
      obtain ⟨letters, -, hlower, hletters⟩ := exists_letters before c cs
      rw [hlower] at h
      cases cs with
      | nil =>
          rw [lowerFrom, List.append_nil] at h
          rw [List.getLast?_singleton, (hletters d (List.mem_of_getLast? h)).2 hmark]
      | cons c' cs =>
          have hlast := List.getLast?_eq_some_getLast (lowerFrom_ne_nil (c :: before) c' cs)
          rw [List.getLast?_append, hlast, Option.some_or, ← hlast] at h
          rw [List.getLast?_cons_cons]
          exact ih _ h

/-! ## ASCII letters -/

/-- The ASCII capitals are lower-cased in the same way. -/
theorem lowerChar_ascii : ∀ n ∈ List.range' 65 26,
    lowerChar (Char.ofNat n) = [(Char.ofNat n).toLower] ∧ ¬ IsLower (Char.ofNat n) := by
  decide

theorem toLower_cases (c : Char) : c.toLower = c ∨ lowerChar c = [c.toLower] ∧ ¬ IsLower c := by
  by_cases hcapital : c.val ≥ 'A'.val ∧ c.val ≤ 'Z'.val
  · have hcode : 65 ≤ c.toNat ∧ c.toNat ≤ 90 := hcapital
    have hc := lowerChar_ascii c.toNat (List.mem_range'_1.mpr (by omega))
    rw [Char.ofNat_toNat] at hc
    exact .inr hc
  · exact .inl (dif_neg hcapital)

/-- The other ASCII characters stay as they are. -/
theorem isLower_ascii {c : Char} (hascii : c.toNat < 128) (hlower : c.toLower = c) : IsLower c := by
  have hruns : ∀ r ∈ lowerRuns, r.1 = 65 ∧ r.2.1 = 90 ∨ 128 ≤ r.1 := by decide +kernel
  refine isLower_of_not_inRun (by omega) fun r hr hrun => ?_
  have hfirst := hrun.first
  have hlast := hrun.last
  obtain ⟨hfirst', hlast'⟩ | hbeyond := hruns r hr
  · have hcapital := lowerChar_ascii c.toNat (List.mem_range'_1.mpr (by omega))
    rw [Char.ofNat_toNat, hlower] at hcapital
    exact hcapital.2 hcapital.1
  · omega

theorem toLower_eq_self {c : Char} (h : IsLower c) : c.toLower = c :=
  (toLower_cases c).resolve_right fun hcapital => hcapital.2 h

theorem lowerAscii_eq_self {t : Text} (h : ∀ c ∈ t, IsLower c) : lowerAscii t = t := by
  rw [lowerAscii, List.map_congr_left fun c hc => toLower_eq_self (h c hc), List.map_id']

theorem lowerFrom_eq_lowerAscii {before t : Text} (h : ∀ c ∈ lowerAscii t, IsLower c) :
    lowerFrom before t = lowerAscii t := by
  induction t generalizing before with
  | nil => rfl
  | cons c cs ih =>
      have hc : IsLower c.toLower := h _ List.mem_cons_self
      have hsigma : c.toNat ≠ 931 := by
        intro heq
        rw [← Char.ofNat_toNat c, heq] at hc
        exact absurd hc (by decide)
      have hletter : lowerChar c = [c.toLower] := by
        obtain hsame | ⟨hletter, -⟩ := toLower_cases c
        · rw [hsame] at hc ⊢
          exact hc
        · exact hletter
      rw [lowerFrom, if_neg hsigma, hletter, ih fun d hd => h d (List.mem_cons_of_mem _ hd)]
      rfl

/-- A text of which only ASCII letters are capitals is lower-cased letter by letter. -/
theorem lower_eq_lowerAscii {t : Text} (h : ∀ c ∈ lowerAscii t, IsLower c) :
    lower t = lowerAscii t :=
  lowerFrom_eq_lowerAscii h

theorem lower_eq_self {t : Text} (h : ∀ c ∈ t, IsLower c) : lower t = t := by
  have hsame := lowerAscii_eq_self h
  rw [lower_eq_lowerAscii (by rwa [hsame]), hsame]

theorem lower_lower (t : Text) : lower (lower t) = lower t :=
  lower_eq_self fun _ => isLower_of_mem_lower

theorem toLower_eq_dot_iff {c : Char} : c.toLower = '.' ↔ c = '.' := by
  constructor
  · intro hdot
    obtain hsame | ⟨hletter, -⟩ := toLower_cases c
    · exact hsame.symm.trans hdot
    · have hmem : c.toLower ∈ lowerChar c := by simp [hletter]
      rw [← (isLower_of_mem_lowerChar hmem).2 (by rw [hdot]; decide), hdot]
  · rintro rfl
    rfl

theorem splitOn_lowerAscii (t : Text) : splitOn '.' (lowerAscii t) = (splitOn '.' t).map lowerAscii := by
  induction t with
  | nil => rfl
  | cons c cs ih =>
      rw [lowerAscii] at ih
      rw [lowerAscii, List.map_cons, splitOn, splitOn, ih]
      simp only [toLower_eq_dot_iff]
      split
      · rfl
      · cases splitOn '.' cs <;> rfl

end SourceAtlas.Text
