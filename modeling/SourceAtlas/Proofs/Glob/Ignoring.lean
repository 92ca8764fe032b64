import SourceAtlas.Glob.Ignore
import SourceAtlas.Proofs.Glob.Covering

/-!
# What an ignore pattern means

A pattern reads as pieces in exactly one way, and a path is ignored if the pieces of a pattern cover one
of its names.  The one exception is a class that lists characters and begins with void ranges: what
follows these may be taken for its negation.
-/

namespace SourceAtlas.Glob

open Text

/-! ## Reading a pattern -/

/-- The content of a class apart from the mark that negates it: it is not empty, and a closing bracket
can only be its first character. -/
inductive IsContent : Text → Prop
  | intro (first : Char) {rest : Text} (h : ']' ∉ rest) : IsContent (first :: rest)

/-- A class after its opening bracket, as a piece, and what follows the closing one. -/
inductive ClassAt : Text → Piece → Text → Prop
  | listed {body after : Text} (h : IsContent body) (hmark : body.head? ≠ some '!') :
      ClassAt (body ++ ']' :: after) (.oneOf false (listed body)) after
  | unlisted {body after : Text} (h : IsContent body) :
      ClassAt ('!' :: (body ++ ']' :: after)) (.oneOf true (listed body)) after

/-- A pattern reads as pieces.  A bracket that opens no class stands for itself. -/
inductive ReadsAs : Text → List Piece → Prop
  | nil : ReadsAs [] []
  | star {t : Text} {ps : List Piece} (h : ReadsAs t ps) : ReadsAs ('*' :: t) (.star :: ps)
  | any {t : Text} {ps : List Piece} (h : ReadsAs t ps) : ReadsAs ('?' :: t) (.any :: ps)
  | cls {t after : Text} {p : Piece} {ps : List Piece} (hclass : ClassAt t p after)
      (h : ReadsAs after ps) : ReadsAs ('[' :: t) (p :: ps)
  | bracket {t : Text} {ps : List Piece} (hopen : ∀ p after, ¬ ClassAt t p after)
      (h : ReadsAs t ps) : ReadsAs ('[' :: t) (.literal '[' :: ps)
  | literal {c : Char} {t : Text} {ps : List Piece} (hc : c ∉ ['*', '?', '['])
      (h : ReadsAs t ps) : ReadsAs (c :: t) (.literal c :: ps)

/-- A text cut at its first closing bracket; `lead` precedes it. -/
def cutAt (lead t : Text) : Option (Text × Text) :=
  match t.dropWhile (· != ']') with
  | [] => none
  | _ :: after => some (lead ++ t.takeWhile (· != ']'), after)

theorem cutAt_eq_some_iff {lead t body after : Text} : cutAt lead t = some (body, after) ↔
    ∃ m, ']' ∉ m ∧ body = lead ++ m ∧ t = m ++ ']' :: after := by
  rw [cutAt]
  constructor
  · intro h
    split at h
    · cases h
    · next c cs hdrop =>
        obtain ⟨rfl, rfl⟩ := Prod.mk.inj (Option.some.inj h)
        have hc : c = ']' := by
          have hnot := List.head_dropWhile_not (p := (· != ']')) (l := t) (by simp [hdrop])
          simpa [hdrop] using hnot
        subst hc
        refine ⟨t.takeWhile (· != ']'), fun hmem => ?_, rfl, ?_⟩
        · have hne := List.all_eq_true.mp List.all_takeWhile _ hmem
          exact absurd rfl (bne_iff_ne.mp hne)
        · rw [← hdrop, List.takeWhile_append_dropWhile]
  · rintro ⟨m, hm, rfl, rfl⟩
    have hall : ∀ c ∈ m, (c != ']') = true := fun c hc => by
      rw [bne_iff_ne]
      rintro rfl
      exact hm hc
    have hdrop : (m ++ ']' :: after).dropWhile (· != ']') = ']' :: after := by
      rw [List.dropWhile_append_of_pos hall]
      rfl
    have htake : (m ++ ']' :: after).takeWhile (· != ']') = m := by
      rw [List.takeWhile_append_of_pos hall]
      simp
    rw [hdrop, htake]

theorem classBody?_of_ne {t : Text} (hmark : t.head? ≠ some '!') (hbracket : t.head? ≠ some ']') :
    classBody? t = cutAt [] t := by
  unfold classBody?
  split
  next lead rest hsplit =>
    split at hsplit
    · exact absurd rfl hmark
    · exact absurd rfl hmark
    · exact absurd rfl hbracket
    · obtain ⟨rfl, rfl⟩ := Prod.mk.inj hsplit
      rfl

theorem classBody?_mark_of_ne {t : Text} (hbracket : t.head? ≠ some ']') :
    classBody? ('!' :: t) = cutAt ['!'] t := by
  cases t with
  | nil => rfl
  | cons c cs =>
      have hc : c ≠ ']' := fun heq => hbracket (congrArg some heq)
      unfold classBody?
      split
      next lead rest hsplit =>
        split at hsplit
        · next heq => exact absurd (List.cons.inj (List.cons.inj heq).2).1 hc
        · next heq =>
            obtain ⟨rfl, rfl⟩ := Prod.mk.inj hsplit
            rw [← (List.cons.inj heq).2]
            rfl
        · next heq => exact absurd (List.cons.inj heq).1 (by decide)
        · next hmark _ => exact absurd rfl (hmark (c :: cs))

/-- The members of a class with the given content, read from left to right, as a piece. -/
def ofListed : Text → Piece
  | '!' :: t => .oneOf true (listed t)
  | t => .oneOf false (listed t)

theorem ofListed_of_ne {body : Text} (h : body.head? ≠ some '!') :
    ofListed body = .oneOf false (listed body) := by
  unfold ofListed
  split
  · exact absurd rfl h
  · rfl

theorem isContent_of_cut {m after : Text} (hm : ']' ∉ m)
    (hbracket : (m ++ ']' :: after).head? ≠ some ']') : IsContent m := by
  cases m with
  | nil => exact absurd rfl hbracket
  | cons first m => exact .intro first fun hmem => hm (List.mem_cons_of_mem first hmem)

theorem classAt_iff {t after : Text} {p : Piece} :
    ClassAt t p after ↔ ∃ body, classBody? t = some (body, after) ∧ p = ofListed body := by
  constructor
  · intro h
    cases h with
    | @listed body _ hbody hmark =>
        refine ⟨body, ?_, (ofListed_of_ne hmark).symm⟩
        obtain @⟨first, rest, hrest⟩ := hbody
        by_cases hfirst : first = ']'
        · rw [hfirst]
          exact cutAt_eq_some_iff.mpr ⟨_, hrest, rfl, rfl⟩
        · have hmark' : (first :: rest ++ ']' :: after).head? ≠ some '!' := hmark
          rw [classBody?_of_ne hmark' (by simpa using hfirst), cutAt_eq_some_iff]
          exact ⟨_, by simp [hrest, Ne.symm hfirst], rfl, rfl⟩
    | @unlisted body _ hbody =>
        refine ⟨'!' :: body, ?_, rfl⟩
        obtain ⟨first, hrest⟩ := hbody
        by_cases hfirst : first = ']'
        · rw [hfirst]
          exact cutAt_eq_some_iff.mpr ⟨_, hrest, rfl, rfl⟩
        · rw [classBody?_mark_of_ne (by simpa using hfirst), cutAt_eq_some_iff]
          exact ⟨_, by simp [hrest, Ne.symm hfirst], rfl, rfl⟩
  · rintro ⟨body, hbody, rfl⟩
    by_cases hmark : t.head? = some '!'
    · obtain ⟨u, rfl⟩ := List.head?_eq_some_iff.mp hmark
      by_cases hbracket : u.head? = some ']'
      · obtain ⟨v, rfl⟩ := List.head?_eq_some_iff.mp hbracket
        obtain ⟨m, hm, rfl, rfl⟩ := cutAt_eq_some_iff.mp hbody
        exact .unlisted (.intro ']' hm)
      · rw [classBody?_mark_of_ne hbracket] at hbody
        obtain ⟨m, hm, rfl, rfl⟩ := cutAt_eq_some_iff.mp hbody
        exact .unlisted (isContent_of_cut hm hbracket)
    · by_cases hbracket : t.head? = some ']'
      · obtain ⟨v, rfl⟩ := List.head?_eq_some_iff.mp hbracket
        obtain ⟨m, hm, rfl, rfl⟩ := cutAt_eq_some_iff.mp hbody
        exact .listed (.intro ']' hm) (by simp)
      · rw [classBody?_of_ne hmark hbracket] at hbody
        obtain ⟨m, hm, hlead, rfl⟩ := cutAt_eq_some_iff.mp hbody
        obtain rfl : body = m := hlead
        have hcontent := isContent_of_cut hm hbracket
        have hmark' : body.head? ≠ some '!' := by
          obtain ⟨first, -⟩ := hcontent
          exact hmark
        rw [ofListed_of_ne hmark']
        exact .listed hcontent hmark'

/-! ## Patterns have one reading -/

theorem ClassAt.unique {t after after' : Text} {p q : Piece} (h : ClassAt t p after)
    (h' : ClassAt t q after') : p = q ∧ after = after' := by
  obtain ⟨body, hbody, rfl⟩ := classAt_iff.mp h
  obtain ⟨body', hbody', rfl⟩ := classAt_iff.mp h'
  obtain ⟨rfl, rfl⟩ := Prod.mk.inj (Option.some.inj (hbody.symm.trans hbody'))
  exact ⟨rfl, rfl⟩

theorem ReadsAs.unique {t : Text} {ps qs : List Piece} (h : ReadsAs t ps) (h' : ReadsAs t qs) :
    ps = qs := by
  induction h generalizing qs with
  | nil =>
      cases h'
      rfl
  | star h ih =>
      cases h' with
      | star h' => rw [ih h']
      | literal hc => exact absurd hc (by decide)
  | any h ih =>
      cases h' with
      | any h' => rw [ih h']
      | literal hc => exact absurd hc (by decide)
  | cls hclass h ih =>
      cases h' with
      | cls hclass' h' =>
          obtain ⟨rfl, rfl⟩ := hclass.unique hclass'
          rw [ih h']
      | bracket hopen => exact absurd hclass (hopen _ _)
      | literal hc => exact absurd hc (by decide)
  | bracket hopen h ih =>
      cases h' with
      | cls hclass => exact absurd hclass (hopen _ _)
      | bracket _ h' => rw [ih h']
      | literal hc => exact absurd hc (by decide)
  | literal hc h ih =>
      cases h' with
      | star => exact absurd hc (by decide)
      | any => exact absurd hc (by decide)
      | cls => exact absurd hc (by decide)
      | bracket => exact absurd hc (by decide)
      | literal _ h' => rw [ih h']

/-- Every pattern has a reading, and its pieces are those that are matched, but for the classes: of these
the members are read from left to right. -/
theorem exists_readsAs (t : Text) : ∃ ps, ReadsAs t ps ∧
    List.Forall₂ (fun p q => p = q ∨ ∃ body, p = ofClass body ∧ q = ofListed body) (parse t) ps := by
  fun_induction parse t with
  | case1 => exact ⟨[], .nil, .nil⟩
  | case2 cs ih =>
      obtain ⟨ps, hps, hsame⟩ := ih
      exact ⟨_, .star hps, .cons (.inl rfl) hsame⟩
  | case3 cs _ ih =>
      obtain ⟨ps, hps, hsame⟩ := ih
      exact ⟨_, .any hps, .cons (.inl rfl) hsame⟩
  | case4 cs body after hbody _ _ _ ih =>
      obtain ⟨ps, hps, hsame⟩ := ih
      have hclass := classAt_iff.mpr ⟨body, hbody, rfl⟩
      exact ⟨_, .cls hclass hps, .cons (.inr ⟨body, rfl, rfl⟩) hsame⟩
  | case5 cs hbody _ _ ih =>
      obtain ⟨ps, hps, hsame⟩ := ih
      refine ⟨_, .bracket (fun p after hclass => ?_) hps, .cons (.inl rfl) hsame⟩
      obtain ⟨body, hbody', -⟩ := classAt_iff.mp hclass
      cases hbody.symm.trans hbody'
  | case6 c cs hstar hany hbracket ih =>
      obtain ⟨ps, hps, hsame⟩ := ih
      exact ⟨_, .literal (by simp [hstar, hany, hbracket]) hps, .cons (.inl rfl) hsame⟩

/-! ## Matching a pattern -/

/-- Whether a piece is a class that lists characters, and of which void ranges hide a negation. -/
def Piece.isMisread : Piece → Bool
  | .oneOf false is => hidesNegation is
  | _ => false

theorem standsFor_ofClass_iff {body : Text} (h : (ofListed body).isMisread = false) (s : Text) :
    (ofClass body).StandsFor s ↔ (ofListed body).StandsFor s := by
  have hhas : ∀ c, (ofClass body).has c = (ofListed body).has c := by
    by_cases hmark : body.head? = some '!'
    · obtain ⟨t, rfl⟩ := List.head?_eq_some_iff.mp hmark
      exact ofClass_has_negated t
    · rw [ofListed_of_ne hmark] at h ⊢
      exact ofClass_has_listed hmark h
  have hlisted : ofListed body ≠ .star := by
    unfold ofListed
    split <;> simp
  simp only [standsFor_iff (ofClass_ne_star body), standsFor_iff hlisted, hhas]

theorem forall₂_standsFor {ps qs : List Piece}
    (h : List.Forall₂ (fun p q => p = q ∨ ∃ body, p = ofClass body ∧ q = ofListed body) ps qs)
    (hplain : ∀ q ∈ qs, q.isMisread = false) :
    List.Forall₂ (fun p q => ∀ s, p.StandsFor s ↔ q.StandsFor s) ps qs := by
  induction h with
  | nil => exact .nil
  | cons hp _ ih =>
      obtain ⟨hq, hqs⟩ := List.forall_mem_cons.mp hplain
      refine .cons ?_ (ih hqs)
      obtain rfl | ⟨body, rfl, rfl⟩ := hp
      · exact fun s => .rfl
      · exact standsFor_ofClass_iff hq

/-- A pattern matches exactly the texts that its reading covers, unless a class is misread. -/
theorem matchesText_iff_covers {pattern t : Text} {ps : List Piece} (h : ReadsAs pattern ps)
    (hplain : ∀ p ∈ ps, p.isMisread = false) : matchesText pattern t = true ↔ Covers ps t := by
  obtain ⟨qs, hqs, hsame⟩ := exists_readsAs pattern
  obtain rfl := h.unique hqs
  rw [matchesText, fits_iff_covers]
  exact covers_congr (forall₂_standsFor hsame hplain)

/-- A class that is misread does not match what it lists. -/
theorem exists_misread {t : Text} {p : Piece} (h : ClassAt t p []) (hmisread : p.isMisread = true) :
    ∃ c, ¬ (matchesText ('[' :: t) [c] = true ↔ Covers [p] [c]) := by
  obtain ⟨body, hbody, rfl⟩ := classAt_iff.mp h
  have hmark : body.head? ≠ some '!' := by
    intro hmark
    obtain ⟨u, rfl⟩ := List.head?_eq_some_iff.mp hmark
    cases hmisread
  have hparse : parse ('[' :: t) = [ofClass body] := by
    rw [parse, if_neg (by decide), if_neg (by decide), if_pos rfl]
    split
    · next body' after hfound =>
        obtain ⟨rfl, rfl⟩ := Prod.mk.inj (Option.some.inj (hbody.symm.trans hfound))
        rw [parse]
    · next hnone => cases hbody.symm.trans hnone
  have hone : ∀ {q : Piece} {c : Char}, q ≠ .star → fits [q] [c] = q.has c := by
    intro q c hq
    rw [fits_cons_cons hq, fits_nil_iff.mpr rfl, Bool.and_true]
  rw [ofListed_of_ne hmark] at hmisread ⊢
  obtain ⟨c, hc⟩ := exists_ofClass_has_ne hmark hmisread
  refine ⟨c, fun hiff => hc (Bool.eq_iff_iff.mpr ?_)⟩
  rwa [matchesText, hparse, ← fits_iff_covers, hone (ofClass_ne_star body), hone (by simp)] at hiff

/-! ## Ignored paths -/

/-- The names under which a path may be ignored in a directory: its text, its last name, and what is left
of it if it begins with the directory. -/
inductive IsNamed (path base : Path) : Text → Prop
  | whole : IsNamed path base path.text
  | last : IsNamed path base path.name
  | rest {ns : List Text} (h : base.append ⟨.relative, ns⟩ = path) :
      IsNamed path base (Path.text ⟨.relative, ns⟩)

theorem relativeTo?_eq_some_iff {path base below : Path} : path.relativeTo? base = some below ↔
    ∃ ns, base.append ⟨.relative, ns⟩ = path ∧ below = ⟨.relative, ns⟩ := by
  rw [Path.relativeTo?]
  constructor
  · intro h
    split at h
    · next hlead =>
        simp only [Bool.and_eq_true, decide_eq_true_eq, List.isPrefixOf_iff_prefix] at hlead
        obtain ⟨hanchor, hprefix⟩ := hlead
        refine ⟨_, ?_, (Option.some.inj h).symm⟩
        obtain ⟨anchor, names⟩ := path
        rw [Path.append, ← hanchor, List.prefix_iff_eq_append.mp hprefix]
    · cases h
  · rintro ⟨ns, rfl, rfl⟩
    rw [if_pos (by simp [Path.append])]
    simp [Path.append]

theorem mem_candidates_iff {path base : Path} {t : Text} :
    t ∈ candidates path base ↔ IsNamed path base t := by
  rw [candidates, List.mem_append, List.mem_cons, List.mem_singleton, Option.mem_toList,
    Option.map_eq_some_iff]
  constructor
  · rintro ((rfl | rfl) | ⟨below, hbelow, rfl⟩)
    · exact .whole
    · exact .last
    · obtain ⟨ns, hns, rfl⟩ := relativeTo?_eq_some_iff.mp hbelow
      exact .rest hns
  · rintro (_ | _ | hns)
    · exact .inl (.inl rfl)
    · exact .inl (.inr rfl)
    · exact .inr ⟨_, relativeTo?_eq_some_iff.mpr ⟨_, hns, rfl⟩, rfl⟩

/-- Every pattern reads as pieces in exactly one way.  A path is ignored exactly if the reading of a
pattern covers its text, its last name, or what is left of it below the directory, where no class of
the patterns is misread; and every class that can be misread is. -/
theorem ignored_paths_are_covered (patterns : List Text) (path base : Text) :
    (∀ pattern ∈ patterns, ∃! ps, ReadsAs pattern ps) ∧
    ((∀ pattern ∈ patterns, ∀ ps, ReadsAs pattern ps → ∀ p ∈ ps, p.isMisread = false) →
      (ignores patterns (.ofText path) (.ofText base) = true ↔
        ∃ pattern ∈ patterns, ∃ ps t, ReadsAs pattern ps ∧
          IsNamed (.ofText path) (.ofText base) t ∧ Covers ps t)) ∧
    ∀ t p, ClassAt t p [] → p.isMisread = true →
      ∃ c, ¬ (matchesText ('[' :: t) [c] = true ↔ Covers [p] [c]) := by
  refine ⟨fun pattern _ => ?_, fun hplain => ?_, fun t p => exists_misread⟩
  · obtain ⟨ps, hps, -⟩ := exists_readsAs pattern
    exact ⟨ps, hps, fun qs hqs => hqs.unique hps⟩
  · simp only [ignores, List.any_eq_true, mem_candidates_iff]
    constructor
    · rintro ⟨pattern, hpattern, t, hnamed, hmatches⟩
      obtain ⟨ps, hps, -⟩ := exists_readsAs pattern
      exact ⟨pattern, hpattern, ps, t, hps, hnamed,
        (matchesText_iff_covers hps (hplain pattern hpattern ps hps)).mp hmatches⟩
    · rintro ⟨pattern, hpattern, ps, t, hps, hnamed, hcovers⟩
      exact ⟨pattern, hpattern, t, hnamed,
        (matchesText_iff_covers hps (hplain pattern hpattern ps hps)).mpr hcovers⟩

/-- A path is ignored by its last name, which a class, a star and a question mark cover. -/
theorem path_is_ignored_by_last_name :
    (∀ pattern ∈ ["[b-d]*.ph?".toList], ∀ ps, ReadsAs pattern ps → ∀ p ∈ ps, p.isMisread = false) ∧
      ∃ pattern ∈ ["[b-d]*.ph?".toList], ∃ ps t, ReadsAs pattern ps ∧
        IsNamed (.ofText "src/./lib/c1.php".toList) (.ofText "src".toList) t ∧ Covers ps t := by
  have hclass : ClassAt (['b', '-', 'd'] ++ ']' :: ['*', '.', 'p', 'h', '?']) _ _ :=
    .listed (.intro 'b' (by decide)) (by decide)
  have hrest : ReadsAs ['*', '.', 'p', 'h', '?'] _ :=
    .star (.literal (by decide) (.literal (by decide) (.literal (by decide) (.any .nil))))
  have hplain : ∀ pattern ∈ ["[b-d]*.ph?".toList], ∀ ps, ReadsAs pattern ps →
      ∀ p ∈ ps, p.isMisread = false := by
    intro pattern hpattern ps hps
    obtain rfl := List.mem_singleton.mp hpattern
    rw [show "[b-d]*.ph?".toList = '[' :: (['b', '-', 'd'] ++ ']' :: ['*', '.', 'p', 'h', '?']) by
      decide] at hps
    obtain rfl := hps.unique (.cls hclass hrest)
    decide
  exact ⟨hplain, ((ignored_paths_are_covered _ _ _).2.1 hplain).mp (by decide +kernel)⟩

/-- A class that lists an exclamation mark behind a void range is taken for the negation of what follows,
so that a path is ignored that no pattern covers. -/
theorem mark_behind_void_range_negates :
    ignores ["[b-a!c]".toList] (.ofText "x".toList) (.ofText "src".toList) = true ∧
      ¬ ∃ pattern ∈ ["[b-a!c]".toList], ∃ ps t, ReadsAs pattern ps ∧
        IsNamed (.ofText "x".toList) (.ofText "src".toList) t ∧ Covers ps t := by
  refine ⟨by decide +kernel, ?_⟩
  rintro ⟨pattern, hpattern, ps, t, hps, hnamed, hcovers⟩
  obtain rfl := List.mem_singleton.mp hpattern
  have hclass : ClassAt (['b', '-', 'a', '!', 'c'] ++ ']' :: []) _ _ :=
    .listed (.intro 'b' (by decide)) (by decide)
  rw [show "[b-a!c]".toList = '[' :: (['b', '-', 'a', '!', 'c'] ++ ']' :: []) by decide] at hps
  obtain rfl := hps.unique (.cls hclass .nil)
  rw [← fits_iff_covers] at hcovers
  have hname : t = ['x'] := by
    rw [← mem_candidates_iff] at hnamed
    have hall : candidates (.ofText "x".toList) (.ofText "src".toList) = [['x'], ['x']] := by decide
    rw [hall] at hnamed
    simpa using hnamed
  rw [hname] at hcovers
  exact absurd hcovers (by decide)

end SourceAtlas.Glob
