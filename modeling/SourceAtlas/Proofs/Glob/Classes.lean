import SourceAtlas.Glob.Pattern

/-!
# What a bracket class lists

Read from left to right, the content of a class is a list of members: two characters with a hyphen
between them are a range, and any other character stands for itself.  Cutting the content at its ranges
and taking the empty ones out comes to these members, but it may uncover an exclamation mark at the
beginning, which then negates the class.
-/

namespace SourceAtlas.Glob

open Text

/-- The members of a class, from left to right. -/
def listed : Text → List Item
  | first :: '-' :: last :: rest => .range first last :: listed rest
  | c :: rest => .one c :: listed rest
  | [] => []

namespace Item

/-- A range whose last character precedes its first. -/
def isVoid : Item → Bool
  | .one _ => false
  | .range first last => last < first

/-- The character with which a member begins. -/
def first : Item → Char
  | .one c => c
  | .range first _ => first

/-- A member in the row of a class. -/
def signs : Item → List Sign
  | .one c => [.char c]
  | .range first last => [.char first, .to, .char last]

theorem has_of_isVoid {i : Item} (h : i.isVoid = true) (c : Char) : i.has c = false := by
  cases i with
  | one d => cases h
  | range first last =>
      rw [isVoid, decide_eq_true_eq] at h
      rw [has, ← Bool.not_eq_true, Bool.and_eq_true, decide_eq_true_eq, decide_eq_true_eq]
      exact fun ⟨hfirst, hlast⟩ => absurd (Char.le_trans hfirst hlast) (Char.not_le.mpr h)

end Item

/-- The members that are no void ranges. -/
def inhabited (is : List Item) : List Item := is.filter fun i => !i.isVoid

theorem any_has_inhabited (is : List Item) (c : Char) :
    (inhabited is).any (·.has c) = is.any (·.has c) := by
  rw [inhabited, List.any_filter]
  congr 1
  funext i
  cases hvoid : i.isVoid with
  | true => simp [Item.has_of_isVoid hvoid]
  | false => simp

/-- Members are read back from their row. -/
theorem items_signs (is : List Item) : items (is.flatMap Item.signs) = is := by
  induction is with
  | nil => rfl
  | cons i is ih =>
      rw [List.flatMap_cons]
      cases i with
      | range first last =>
          change .range first last :: items (is.flatMap Item.signs) = _
          rw [ih]
      | one c =>
          -- no hyphen of a range follows: a row begins with a character
          have hrow : items (.char c :: is.flatMap Item.signs) =
              .one c :: items (is.flatMap Item.signs) := by
            cases is with
            | nil => rfl
            | cons j js => cases j <;> rfl
          rw [Item.signs, List.singleton_append, hrow, ih]

/-! ## Cutting a class -/

open cutRanges (extend)

/-- The parts of a class, where a hyphen at the end stands for itself. -/
def closed (cut : List Text) : List Text :=
  (match cut.reverse with
    | [] :: last :: before => (last ++ ['-']) :: before
    | other => other).reverse

/-- The parts of a class without a negation. -/
def cutParts (t : Text) : List Text := closed (cutRanges 1 t)

section Closed

variable {a : Char} {p : Text} {ps : List Text}

theorem closed_singleton (p : Text) : closed [p] = [p] := by
  cases p <;> rfl

theorem closed_cons (hne : ps ≠ []) (hlast : ps ≠ [[]]) : closed (p :: ps) = p :: closed ps := by
  rw [closed, closed, List.reverse_cons]
  cases hrev : ps.reverse with
  | nil => exact absurd (List.reverse_eq_nil_iff.mp hrev) hne
  | cons last before =>
      cases last with
      | cons c cs => simp
      | nil =>
          cases before with
          | nil => exact absurd (List.reverse_eq_iff.mp hrev) hlast
          | cons next before => simp

theorem closed_extend (hne : ps ≠ []) : closed (extend a ps) = extend a (closed ps) := by
  obtain ⟨q, qs, rfl⟩ := List.exists_cons_of_ne_nil hne
  by_cases hqs : qs = []
  · rw [hqs, closed_singleton]
    exact closed_singleton (a :: q)
  · by_cases hlast : qs = [[]]
    · rw [hlast]
      rfl
    · rw [extend, closed_cons hqs hlast, closed_cons hqs hlast, extend]

theorem extend_ne_nil (a : Char) (ps : List Text) : extend a ps ≠ [] := by
  cases ps <;> simp [extend]

theorem cutRanges_ne_nil (skip : Nat) (t : Text) : cutRanges skip t ≠ [] := by
  fun_cases cutRanges skip t <;> simp [extend_ne_nil]

theorem cutParts_ne_nil (t : Text) : cutParts t ≠ [] := by
  have hcut := cutRanges_ne_nil 1 t
  rw [cutParts, closed]
  split
  · simp
  · simpa using hcut

end Closed

section Cut

variable {a b : Char} {rest : Text}

/-- A range ends one part and begins the next. -/
theorem cutParts_range (a b : Char) (rest : Text) :
    cutParts (a :: '-' :: b :: rest) = [a] :: extend b (cutParts rest) := by
  have hcut : cutRanges 1 (a :: '-' :: b :: rest) = [a] :: extend b (cutRanges 1 rest) := rfl
  have hne := extend_ne_nil b (cutRanges 1 rest)
  have hlast : extend b (cutRanges 1 rest) ≠ [[]] := by
    cases cutRanges 1 rest <;> simp [extend]
  rw [cutParts, hcut, closed_cons hne hlast, closed_extend (cutRanges_ne_nil 1 rest), cutParts]

/-- Any other character belongs to the part that it precedes. -/
theorem cutParts_one (h : ∀ b rest', rest ≠ '-' :: b :: rest') :
    cutParts (a :: rest) = extend a (cutParts rest) := by
  have hcut : ∀ (c : Char) (cs : Text), c ≠ '-' →
      cutRanges 1 (a :: c :: cs) = extend a (cutRanges 1 (c :: cs)) := by
    intro c cs hc
    rw [cutRanges, cutRanges, if_neg hc, cutRanges]
  match rest, h with
  | [], _ => rfl
  | ['-'], _ => rfl
  | c :: d :: cs, h =>
      have hc : c ≠ '-' := fun heq => h d cs (by rw [heq])
      rw [cutParts, hcut c _ hc, closed_extend (cutRanges_ne_nil 1 _), cutParts]
  | [c], _ =>
      by_cases hc : c = '-'
      · rw [hc]
        rfl
      · rw [cutParts, hcut c _ hc, closed_extend (cutRanges_ne_nil 1 _), cutParts]

/-- Only of an empty class is the first part empty. -/
theorem cutParts_cases (t : Text) :
    t = [] ∧ cutParts t = [[]] ∨ ∃ c p ps, cutParts t = (c :: p) :: ps := by
  fun_cases listed t with
  | case1 a b rest => exact .inr ⟨a, [], _, cutParts_range a b rest⟩
  | case2 a rest h =>
      right
      rw [cutParts_one fun b rest' heq => h b rest' heq]
      obtain ⟨p, ps, hparts⟩ := List.exists_cons_of_ne_nil (cutParts_ne_nil rest)
      exact ⟨a, p, ps, by rw [hparts]; rfl⟩
  | case3 => exact .inl ⟨rfl, rfl⟩

end Cut

/-! ## Taking the empty ranges out -/

theorem mergeEmpty_ne_nil (p : Text) (ps : List Text) : mergeEmpty p ps ≠ [] := by
  unfold mergeEmpty
  split
  · simp
  · split
    · split <;> simp
    · simp

theorem mergeEmpty_extend (a c : Char) (p : Text) (ps : List Text) :
    mergeEmpty (a :: c :: p) ps = extend a (mergeEmpty (c :: p) ps) := by
  have hlast : (a :: c :: p).getLast? = (c :: p).getLast? := rfl
  unfold mergeEmpty
  cases ps with
  | nil => rfl
  | cons next ps =>
      dsimp only
      rw [hlast]
      split
      · split <;> rfl
      · rfl

theorem dropEmptyRanges_ne_nil {ps : List Text} (h : ps ≠ []) : dropEmptyRanges ps ≠ [] := by
  cases ps with
  | nil => exact absurd rfl h
  | cons p ps => exact mergeEmpty_ne_nil p _

theorem dropEmptyRanges_extend (a : Char) (t : Text) :
    dropEmptyRanges (extend a (cutParts t)) = extend a (dropEmptyRanges (cutParts t)) := by
  obtain ⟨-, hparts⟩ | ⟨c, p, ps, hparts⟩ := cutParts_cases t
  · rw [hparts]
    rfl
  · rw [hparts]
    exact mergeEmpty_extend a c p (dropEmptyRanges ps)

theorem signs_extend (a : Char) {ps : List Text} (h : ps ≠ []) :
    signs (extend a ps) = .char a :: signs ps := by
  obtain ⟨p, ps, rfl⟩ := List.exists_cons_of_ne_nil h
  cases ps <;> rfl

theorem signs_cons (a : Char) {ps : List Text} (h : ps ≠ []) :
    signs ([a] :: ps) = .char a :: .to :: signs ps := by
  obtain ⟨p, ps, rfl⟩ := List.exists_cons_of_ne_nil h
  rfl

/-- The row of a class without a negation is that of its members, the void ranges apart. -/
theorem signs_cutParts (t : Text) :
    signs (dropEmptyRanges (cutParts t)) = (inhabited (listed t)).flatMap Item.signs := by
  fun_induction listed t with
  | case1 a b rest ih =>
      have hne := dropEmptyRanges_ne_nil (cutParts_ne_nil rest)
      obtain ⟨p, ps, hparts⟩ := List.exists_cons_of_ne_nil hne
      have hmerge : dropEmptyRanges (cutParts (a :: '-' :: b :: rest)) =
          if b < a then dropEmptyRanges (cutParts rest)
          else [a] :: extend b (dropEmptyRanges (cutParts rest)) := by
        rw [cutParts_range, dropEmptyRanges, dropEmptyRanges_extend, hparts]
        rfl
      rw [hmerge, inhabited, List.filter_cons]
      split
      · next hvoid =>
          rw [if_neg (by simp [Item.isVoid, hvoid]), ih]
          rfl
      · next hvoid =>
          rw [if_pos (by simp [Item.isVoid, hvoid]), List.flatMap_cons,
            signs_cons a (extend_ne_nil b _), signs_extend b hne, ih]
          rfl
  | case2 a rest h ih =>
      rw [cutParts_one fun b rest' heq => h b rest' heq, dropEmptyRanges_extend,
        signs_extend a (dropEmptyRanges_ne_nil (cutParts_ne_nil rest)), ih]
      rfl
  | case3 => rfl

/-! ## What a class stands for -/

theorem signs_parts_of_ne {body : Text} (h : body.head? ≠ some '!') :
    signs (parts body) = (inhabited (listed body)).flatMap Item.signs := by
  rw [← signs_cutParts, parts, if_neg h]
  rfl

/-- An exclamation mark in front of a class stays apart from its members. -/
theorem signs_parts_negated (t : Text) :
    signs (parts ('!' :: t)) = .char '!' :: (inhabited (listed t)).flatMap Item.signs := by
  have hparts : parts ('!' :: t) = dropEmptyRanges (extend '!' (cutParts t)) := by
    rw [cutParts, ← closed_extend (cutRanges_ne_nil 1 t)]
    rfl
  rw [hparts, dropEmptyRanges_extend,
    signs_extend '!' (dropEmptyRanges_ne_nil (cutParts_ne_nil t)), signs_cutParts]

theorem has_unlisted (is : List Item) (c : Char) :
    (Piece.oneOf true is).has c = !is.any (·.has c) := by
  rw [Piece.has, Bool.bne_true]

theorem has_listed (is : List Item) (c : Char) :
    (Piece.oneOf false is).has c = is.any (·.has c) := by
  rw [Piece.has, Bool.bne_false]

/-- A row that begins with an exclamation mark is negated. -/
theorem ofClass_has_of_mark {body : Text} {row : List Sign}
    (h : signs (parts body) = .char '!' :: row) (c : Char) :
    (ofClass body).has c = !(items row).any (·.has c) := by
  rw [ofClass, h]
  cases row with
  | nil => rfl
  | cons sign row => exact has_unlisted _ c

theorem ofClass_has_of_ne {body : Text} (h : (signs (parts body)).head? ≠ some (.char '!'))
    (c : Char) : (ofClass body).has c = (items (signs (parts body))).any (·.has c) := by
  rw [ofClass]
  generalize signs (parts body) = row at h ⊢
  split
  · rfl
  · exact absurd rfl h
  · exact absurd rfl h
  · exact has_listed _ c

/-- A class with an exclamation mark in front stands for the characters that it does not list. -/
theorem ofClass_has_negated (t : Text) (c : Char) :
    (ofClass ('!' :: t)).has c = (Piece.oneOf true (listed t)).has c := by
  rw [ofClass_has_of_mark (signs_parts_negated t), items_signs, any_has_inhabited, has_unlisted]

/-- Whether the first member of a class that is no void range begins with an exclamation mark. -/
def hidesNegation (is : List Item) : Bool := (inhabited is).head?.any fun i => i.first == '!'

theorem head?_flatMap_signs (is : List Item) :
    (is.flatMap Item.signs).head? = is.head?.map fun i => .char i.first := by
  cases is with
  | nil => rfl
  | cons i is => cases i <;> rfl

section Listed

variable {body : Text} (h : body.head? ≠ some '!')
include h

/-- Any other class stands for the characters that it lists, unless taking out void ranges uncovers an
exclamation mark. -/
theorem ofClass_has_listed (hplain : hidesNegation (listed body) = false) (c : Char) :
    (ofClass body).has c = (Piece.oneOf false (listed body)).has c := by
  have hrow := signs_parts_of_ne h
  have hfirst : (signs (parts body)).head? ≠ some (.char '!') := by
    rw [hrow, head?_flatMap_signs]
    rw [hidesNegation] at hplain
    intro heq
    obtain ⟨i, hi, hmark⟩ := Option.map_eq_some_iff.mp heq
    rw [hi, Option.any_some, Sign.char.inj hmark] at hplain
    cases hplain
  rw [ofClass_has_of_ne hfirst, hrow, items_signs, any_has_inhabited, has_listed]

/-- A class whose negation is uncovered stands for other characters than those that it lists. -/
theorem exists_ofClass_has_ne (hhides : hidesNegation (listed body) = true) :
    ∃ c, (ofClass body).has c ≠ (Piece.oneOf false (listed body)).has c := by
  have hrow := signs_parts_of_ne h
  have hlisted := any_has_inhabited (listed body)
  rw [hidesNegation] at hhides
  simp only [has_listed, ← hlisted]
  cases hin : inhabited (listed body) with
  | nil =>
      rw [hin] at hhides
      cases hhides
  | cons i is =>
      rw [hin] at hrow hhides
      cases i with
      | one d =>
          -- every other character is now told the other way
          obtain rfl : d = '!' := by simpa [Item.first] using hhides
          have hrest : signs (parts body) = .char '!' :: is.flatMap Item.signs := hrow
          have hmark : (Item.one '!').has 'a' = false := rfl
          refine ⟨'a', ?_⟩
          rw [ofClass_has_of_mark hrest, items_signs, List.any_cons, hmark, Bool.false_or]
          cases is.any (·.has 'a') <;> decide
      | range first last =>
          -- the last character of the range is now left out
          obtain rfl : first = '!' := by simpa [Item.first] using hhides
          have hrest : signs (parts body) =
              .char '!' :: .to :: .char last :: is.flatMap Item.signs := hrow
          have hmem : Item.range '!' last ∈ inhabited (listed body) := by
            rw [hin]
            exact List.mem_cons_self
          have hvoid := (List.mem_filter.mp hmem).2
          have hlast : (Item.range '!' last).has last = true := by
            simpa [Item.isVoid, Item.has] using hvoid
          have hitems : items (.to :: .char last :: is.flatMap Item.signs) =
              .one '-' :: .one last :: is := congrArg _ (items_signs (.one last :: is))
          have hself : (Item.one last).has last = true := beq_self_eq_true last
          refine ⟨last, ?_⟩
          rw [ofClass_has_of_mark hrest, hitems]
          simp [hlast, hself]

end Listed

end SourceAtlas.Glob
