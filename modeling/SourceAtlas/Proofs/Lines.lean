import Mathlib.Data.List.Basic
import SourceAtlas.Text.Line

/-!
# Where lines begin and end

A text that holds no line end is a line of its own.  Any other text is its first line, the end of that
line and the rest, where a carriage return takes the line feed behind it along.  A text can therefore
be cut behind every line end that is whole, and its lines are those in front of the cut and those
behind it.
-/

namespace SourceAtlas.Text

/-- A text that no line end breaks. -/
def Unbroken (t : Text) : Prop := ∀ c ∈ t, isLineEnd c = false

variable {line rest e x y t : Text}

theorem no_end_of_all (h : t.all (fun c => !isLineEnd c) = true) : Unbroken t :=
  fun c hc => (Bool.not_eq_true' _).mp (List.all_eq_true.mp h c hc)

theorem unbroken_cons_iff {c : Char} {cs : Text} :
    Unbroken (c :: cs) ↔ isLineEnd c = false ∧ Unbroken cs := List.forall_mem_cons

theorem unbroken_append_iff : Unbroken (x ++ y) ↔ Unbroken x ∧ Unbroken y := List.forall_mem_append

/-! ## The first line -/

/-- A whole line end, in front of the rest of a text. -/
inductive LineEnd : Text → Text → Prop
  | pair (rest : Text) : LineEnd ['\r', '\n'] rest
  | single {c : Char} {rest : Text} (hc : isLineEnd c = true)
      (hwhole : c = '\r' → rest.head? ≠ some '\n') : LineEnd [c] rest

theorem firstLine_of_no_end (h : Unbroken t) : firstLine t = (t, none) := by
  induction t with
  | nil => rfl
  | cons c cs ih =>
      obtain ⟨hc, hcs⟩ := unbroken_cons_iff.mp h
      unfold firstLine
      rw [if_neg (by simp [hc]), ih hcs]

theorem LineEnd.firstLine_eq (h : LineEnd e rest) : firstLine (e ++ rest) = ([], some rest) := by
  cases h with
  | pair => rfl
  | @single c _ hc hwhole =>
      rw [List.singleton_append]
      unfold firstLine
      rw [if_pos hc]
      split
      · next rest' => exact absurd rfl (hwhole rfl)
      · rfl

theorem firstLine_append (hline : Unbroken line) (he : LineEnd e rest) :
    firstLine (line ++ (e ++ rest)) = (line, some rest) := by
  induction line with
  | nil => exact he.firstLine_eq
  | cons c cs ih =>
      obtain ⟨hc, hcs⟩ := unbroken_cons_iff.mp hline
      rw [List.cons_append]
      unfold firstLine
      rw [if_neg (by simp [hc]), ih hcs]

/-- A text that begins with a line end is a whole one and the rest. -/
theorem exists_lineEnd {c : Char} {cs : Text} (hc : isLineEnd c = true) :
    ∃ e rest, c :: cs = e ++ rest ∧ LineEnd e rest := by
  by_cases hpair : c = '\r' ∧ cs.head? = some '\n'
  · obtain ⟨rfl, hhead⟩ := hpair
    obtain ⟨rest, rfl⟩ := List.head?_eq_some_iff.mp hhead
    exact ⟨_, rest, rfl, .pair rest⟩
  · exact ⟨[c], cs, rfl, .single hc fun hreturn hhead => hpair ⟨hreturn, hhead⟩⟩

/-- A text is one line, or its first line, the end of it and the rest. -/
theorem line_cases (t : Text) : Unbroken t ∨
    ∃ line e rest, t = line ++ (e ++ rest) ∧ Unbroken line ∧ LineEnd e rest := by
  induction t with
  | nil => exact .inl (by simp [Unbroken])
  | cons c cs ih =>
      cases hc : isLineEnd c with
      | true =>
          obtain ⟨e, rest, ht, he⟩ := @exists_lineEnd c cs hc
          exact .inr ⟨[], e, rest, ht, by simp [Unbroken], he⟩
      | false =>
          obtain hcs | ⟨line, e, rest, rfl, hline, he⟩ := ih
          · exact .inl (unbroken_cons_iff.mpr ⟨hc, hcs⟩)
          · exact .inr ⟨c :: line, e, rest, rfl, unbroken_cons_iff.mpr ⟨hc, hline⟩, he⟩

theorem LineEnd.length_pos (h : LineEnd e rest) : 0 < e.length := by
  cases h with
  | pair => exact Nat.succ_pos 1
  | single => exact Nat.succ_pos 0

/-- What holds of a text without line ends, and of a text with a first line if it holds of the rest,
holds of every text. -/
theorem line_induction {P : Text → Prop} (last : ∀ line, Unbroken line → P line)
    (more : ∀ line e rest, Unbroken line → LineEnd e rest → P rest → P (line ++ (e ++ rest)))
    (t : Text) : P t := by
  obtain ht | ⟨line, e, rest, htext, hline, he⟩ := line_cases t
  · exact last t ht
  · have hshorter : rest.length < t.length := by
      have hpos := he.length_pos
      rw [htext, List.length_append, List.length_append]
      omega
    rw [htext]
    exact more line e rest hline he (line_induction last more rest)
termination_by t.length

/-! ## The lines -/

/-- A text without line ends is one line. -/
theorem lines_of_no_end (hne : t ≠ []) (h : Unbroken t) : lines t = [t] := by
  rw [lines, if_neg hne]
  split
  · next line hfirst =>
      obtain ⟨rfl, -⟩ := Prod.mk.inj ((firstLine_of_no_end h).symm.trans hfirst)
      rfl
  · next line rest hfirst => cases (firstLine_of_no_end h).symm.trans hfirst

theorem lines_nil : lines [] = [] := by
  rw [lines, if_pos rfl]

/-- The first line comes first. -/
theorem lines_cons (hline : Unbroken line) (he : LineEnd e rest) :
    lines (line ++ (e ++ rest)) = line :: lines rest := by
  have hfirst := firstLine_append hline he
  have hne : line ++ (e ++ rest) ≠ [] := by
    intro hnil
    rw [hnil] at hfirst
    cases hfirst
  rw [lines, if_neg hne]
  split
  · next line' hfirst' => cases hfirst.symm.trans hfirst'
  · next line' rest' hfirst' =>
      obtain ⟨hsame, hrest⟩ := Prod.mk.inj (hfirst.symm.trans hfirst')
      dsimp only
      rw [hsame, Option.some.inj hrest]

/-! ## Cuts -/

/-- A text can be cut between two parts: nothing stands in front, or a whole line end. -/
structure Cut (x y : Text) : Prop where
  ends : ∀ c, x.getLast? = some c → isLineEnd c = true
  whole : x.getLast? = some '\r' → y.head? ≠ some '\n'

theorem LineEnd.cut (h : LineEnd e rest) : Cut (line ++ e) rest := by
  cases h with
  | pair =>
      refine ⟨fun c hc => ?_, fun hreturn => ?_⟩
      · simp only [List.getLast?_append, List.getLast?_cons_cons, List.getLast?_singleton,
          Option.some_or, Option.some.injEq] at hc
        rw [← hc]
        decide
      · simp at hreturn
  | @single c _ hc hwhole =>
      refine ⟨fun d hd => ?_, fun hreturn => hwhole ?_⟩
      · rw [List.getLast?_concat] at hd
        rwa [← Option.some.inj hd]
      · rw [List.getLast?_concat] at hreturn
        exact Option.some.inj hreturn

theorem LineEnd.of_append (h : LineEnd e (x ++ y)) : LineEnd e x := by
  cases h with
  | pair => exact .pair x
  | single hc hwhole =>
      refine .single hc fun hreturn hhead => hwhole hreturn ?_
      rw [List.head?_append, hhead, Option.some_or]

/-- Behind a first line a text can be cut where the rest can be cut. -/
theorem Cut.behind (he : LineEnd e (x ++ y)) (h : Cut x y) : Cut (line ++ (e ++ x)) y := by
  cases hx : x with
  | nil =>
      rw [hx, List.nil_append] at he
      rw [List.append_nil]
      exact he.cut
  | cons c cs =>
      have hlast : (line ++ (e ++ c :: cs)).getLast? = x.getLast? := by
        rw [← List.append_assoc, List.getLast?_append_of_ne_nil _ (List.cons_ne_nil c cs), hx]
      exact ⟨hlast ▸ h.ends, hlast ▸ h.whole⟩

/-- A text that is cut behind its first line keeps the end of that line, and the rest is cut there. -/
theorem Cut.of_behind (he : LineEnd e x) (h : Cut (line ++ (e ++ x)) y) :
    LineEnd e (x ++ y) ∧ Cut x y := by
  cases hx : x with
  | nil =>
      rw [hx, List.append_nil] at h
      refine ⟨?_, by simp, by simp⟩
      cases he with
      | pair => exact .pair _
      | single hc _ =>
          refine .single hc ?_
          rintro rfl
          exact h.whole (List.getLast?_concat ..)
  | cons c cs =>
      have hlast : (line ++ (e ++ x)).getLast? = x.getLast? := by
        rw [← List.append_assoc, List.getLast?_append_of_ne_nil _ (hx ▸ List.cons_ne_nil c cs)]
      rw [← hx]
      refine ⟨?_, hlast ▸ h.ends, hlast ▸ h.whole⟩
      cases he with
      | pair => exact .pair _
      | single hc hwhole =>
          refine .single hc fun hreturn => ?_
          rw [hx] at hwhole ⊢
          exact hwhole hreturn

theorem Cut.eq_nil (h : Cut line y) (hline : Unbroken line) : line = [] := by
  obtain hnil | ⟨s, c, rfl⟩ := List.eq_nil_or_concat line
  · exact hnil
  · have hend := h.ends c (by simp)
    rw [hline c (by simp)] at hend
    cases hend

/-- The lines of a text that is cut behind a line end are those of its parts. -/
theorem lines_append (h : Cut x y) : lines (x ++ y) = lines x ++ lines y := by
  induction x using line_induction with
  | last line hline =>
      obtain rfl := h.eq_nil hline
      rw [lines_nil, List.nil_append, List.nil_append]
  | more line e rest hline he ih =>
      obtain ⟨he', hcut⟩ := Cut.of_behind he h
      rw [List.append_assoc, List.append_assoc, lines_cons hline he', ih hcut, lines_cons hline he,
        List.cons_append]

/-! ## Lines in their places -/

/-- A line of a text, with what stands in front of it and behind it. -/
structure Holds (t before line after : Text) : Prop where
  text : t = before ++ (line ++ after)
  cut : Cut before (line ++ after)
  unbroken : Unbroken line
  stops : ∀ c, after.head? = some c → isLineEnd c = true

/-- As many lines precede a line as the text in front of it has. -/
theorem Holds.getElem?_lines {before after : Text} (h : Holds t before line after)
    (hne : line ≠ []) : (lines t)[(lines before).length]? = some line := by
  have hlines : lines t = lines before ++ lines (line ++ after) := by
    rw [h.text, lines_append h.cut]
  rw [hlines, List.getElem?_append_right (Nat.le_refl _), Nat.sub_self]
  cases hafter : after with
  | nil => rw [List.append_nil, lines_of_no_end hne h.unbroken, List.getElem?_cons_zero]
  | cons c cs =>
      obtain ⟨e, rest, hrest, he⟩ := @exists_lineEnd c cs (h.stops c (by rw [hafter]; rfl))
      rw [hrest, lines_cons h.unbroken he, List.getElem?_cons_zero]

/-- Every line stands somewhere in the text, behind the lines in front of it. -/
theorem exists_holds {n : Nat} (h : (lines t)[n]? = some line) :
    ∃ before after, Holds t before line after ∧ (lines before).length = n := by
  induction t using line_induction generalizing n with
  | last u hu =>
      by_cases hne : u = []
      · rw [hne, lines_nil] at h
        cases h
      · rw [lines_of_no_end hne hu] at h
        obtain ⟨rfl, rfl⟩ : n = 0 ∧ u = line := by
          cases n with
          | zero => exact ⟨rfl, Option.some.inj h⟩
          | succ k => cases h
        refine ⟨[], [], ⟨by simp, ⟨by simp, by simp⟩, hu, by simp⟩, by rw [lines_nil]; rfl⟩
  | more u e rest hu he ih =>
      rw [lines_cons hu he] at h
      cases n with
      | zero =>
          obtain rfl : u = line := Option.some.inj h
          refine ⟨[], e ++ rest, ⟨rfl, ⟨by simp, by simp⟩, hu, fun c hc => ?_⟩, by rw [lines_nil]; rfl⟩
          cases he with
          | pair =>
              obtain rfl : '\r' = c := Option.some.inj hc
              decide
          | single hend _ =>
              obtain rfl := Option.some.inj hc
              exact hend
      | succ k =>
          obtain ⟨before, after, hholds, hcount⟩ := ih h
          have he' : LineEnd e (before ++ (line ++ after)) := hholds.text ▸ he
          refine ⟨u ++ (e ++ before), after, ⟨?_, hholds.cut.behind he', hholds.unbroken,
            hholds.stops⟩, ?_⟩
          · rw [hholds.text, List.append_assoc, List.append_assoc]
          · rw [lines_cons hu he'.of_append, List.length_cons, hcount]

/-! ## Line ends, counted -/

/-- How many carriage returns and line feeds a text holds, a line feed behind a carriage return not
counted.  These are the line ends of source files. -/
def sourceEnds : Text → Nat
  | [] => 0
  | '\r' :: '\n' :: cs => sourceEnds cs + 1
  | c :: cs => sourceEnds cs + if c = '\r' ∨ c = '\n' then 1 else 0

/-- A character that ends a line here, and in no source file. -/
def isOtherEnd (c : Char) : Bool := isLineEnd c && !(c == '\r' || c == '\n')

/-- How many other characters that end a line a text holds. -/
def otherEnds (t : Text) : Nat := t.countP isOtherEnd

theorem sourceEnds_cons {c : Char} {cs : Text} (h : c = '\r' → cs.head? ≠ some '\n') :
    sourceEnds (c :: cs) = sourceEnds cs + if c = '\r' ∨ c = '\n' then 1 else 0 := by
  rw [sourceEnds]
  rintro ds hc rfl
  exact h hc rfl

theorem ne_of_not_end {c : Char} (h : isLineEnd c = false) : c ≠ '\r' ∧ c ≠ '\n' := by
  constructor <;> rintro rfl <;> revert h <;> decide

theorem sourceEnds_cons_of_not_end {c : Char} {cs : Text} (h : isLineEnd c = false) :
    sourceEnds (c :: cs) = sourceEnds cs := by
  obtain ⟨hreturn, hfeed⟩ := ne_of_not_end h
  rw [sourceEnds_cons fun heq => absurd heq hreturn, if_neg (not_or.mpr ⟨hreturn, hfeed⟩),
    Nat.add_zero]

/-- A text without line ends in front of another one adds none. -/
theorem sourceEnds_unbroken_append (h : Unbroken x) : sourceEnds (x ++ y) = sourceEnds y := by
  induction x with
  | nil => rfl
  | cons c cs ih =>
      obtain ⟨hc, hcs⟩ := unbroken_cons_iff.mp h
      rw [List.cons_append, sourceEnds_cons_of_not_end hc, ih hcs]

/-- A text without line ends behind another one adds none. -/
theorem sourceEnds_append_unbroken (h : Unbroken y) : sourceEnds (x ++ y) = sourceEnds x := by
  fun_induction sourceEnds x with
  | case1 =>
      have hnone := sourceEnds_unbroken_append (y := []) h
      rwa [List.append_nil] at hnone
  | case2 cs ih => rw [List.cons_append, List.cons_append, sourceEnds, ih]
  | case3 c cs hpair ih =>
      rw [List.cons_append, sourceEnds_cons, ih]
      rintro rfl hhead
      cases cs with
      | nil =>
          obtain ⟨ds, rfl⟩ := List.head?_eq_some_iff.mp hhead
          exact (ne_of_not_end (h '\n' List.mem_cons_self)).2 rfl
      | cons d ds => exact hpair ds rfl (congrArg (· :: ds) (Option.some.inj hhead))

theorem isOtherEnd_iff {c : Char} :
    isOtherEnd c = true ↔ isLineEnd c = true ∧ ¬ (c = '\r' ∨ c = '\n') := by
  simp [isOtherEnd]

theorem otherEnds_append : otherEnds (x ++ y) = otherEnds x + otherEnds y := List.countP_append

theorem otherEnds_eq_zero_iff :
    otherEnds t = 0 ↔ ∀ c ∈ t, isLineEnd c = true → c = '\r' ∨ c = '\n' := by
  rw [otherEnds, List.countP_eq_zero]
  simp only [isOtherEnd_iff, not_and, not_not]

theorem otherEnds_unbroken (h : Unbroken t) : otherEnds t = 0 :=
  otherEnds_eq_zero_iff.mpr fun c hc hend => by simp [h c hc] at hend

/-- A whole line end counts once, of the one kind or of the other. -/
theorem LineEnd.counts (h : LineEnd e rest) :
    sourceEnds (e ++ rest) + otherEnds (e ++ rest) = sourceEnds rest + otherEnds rest + 1 := by
  rw [otherEnds_append]
  cases h with
  | pair =>
      have hnone : otherEnds ['\r', '\n'] = 0 := by decide
      have hone : sourceEnds (['\r', '\n'] ++ rest) = sourceEnds rest + 1 := by
        rw [List.cons_append, List.singleton_append, sourceEnds]
      omega
  | @single c _ hc hwhole =>
      rw [List.singleton_append, sourceEnds_cons hwhole, otherEnds, List.countP_singleton]
      by_cases hsource : c = '\r' ∨ c = '\n'
      · rw [if_pos hsource, if_neg fun hother => (isOtherEnd_iff.mp hother).2 hsource]
        omega
      · rw [if_neg hsource, if_pos (isOtherEnd_iff.mpr ⟨hc, hsource⟩)]
        omega

/-- A text that can be cut behind has as many lines as line ends. -/
theorem length_lines (h : Cut x y) : (lines x).length = sourceEnds x + otherEnds x := by
  induction x using line_induction with
  | last line hline =>
      obtain rfl := h.eq_nil hline
      rw [lines_nil]
      rfl
  | more line e rest hline he ih =>
      have hcounts := he.counts
      rw [lines_cons hline he, List.length_cons, ih (Cut.of_behind he h).2, otherEnds_append,
        sourceEnds_unbroken_append hline, otherEnds_unbroken hline]
      omega

end SourceAtlas.Text
