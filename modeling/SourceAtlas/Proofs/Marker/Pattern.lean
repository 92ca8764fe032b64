import SourceAtlas.Proofs.Marker.Notes
import SourceAtlas.Proofs.Marker.Sightings

/-!
# Markers as a pattern with backtracking

A pattern can match the beginning of a text in several ways, which are tried in order: alternatives as
they are listed, a greedy run of characters from the longest on, a lazy one from the shortest on.  A
search takes the first way at the leftmost place where there is one.

The comment pattern is an opener, a greedy run of white space, one of the markers up to a word
boundary, perhaps a colon, white space, a lazy run of characters, white space and perhaps a closer at
the end of the line.  What it captures in a line is the marker that is found there, and its note.
-/

namespace SourceAtlas

open Text

/-- A pattern for the beginning of a text. -/
inductive Pattern
  | oneOf (texts : List Text)
  | many (p : Char → Bool)
  | few (p : Char → Bool)
  | wordBoundary
  | lineEnd
  | group (p : Pattern)
  | andThen (p q : Pattern)

namespace Pattern

/-- A way to match the beginning of a text: what the groups capture, and what is left, with the
character in front of it. -/
structure Way where
  groups : List Text
  before : Option Char
  rest : Text

/-- What is left after a run of characters, with the character in front of it; the longest run
comes first. -/
def runs (p : Char → Bool) (before : Option Char) : Text → List (Option Char × Text)
  | [] => [(before, [])]
  | c :: cs => if p c then runs p (some c) cs ++ [(before, c :: cs)] else [(before, c :: cs)]

/-- The ways to match the beginning of a text, in the order in which they are tried. -/
def ways : Pattern → Option Char → Text → List Way
  | oneOf texts, before, t =>
    texts.filterMap fun o => (dropLead? o t).map fun rest => ⟨[], o.getLast?.or before, rest⟩
  | many p, before, t => (runs p before t).map fun r => ⟨[], r.1, r.2⟩
  | few p, before, t => (runs p before t).reverse.map fun r => ⟨[], r.1, r.2⟩
  | wordBoundary, before, t => if isWordBoundary before t.head? then [⟨[], before, t⟩] else []
  | lineEnd, before, t => if t = [] ∨ t = ['\n'] then [⟨[], before, t⟩] else []
  | group p, before, t =>
    (ways p before t).map fun w =>
      { w with groups := t.take (t.length - w.rest.length) :: w.groups }
  | andThen p q, before, t =>
    (ways p before t).flatMap fun w =>
      (ways q w.before w.rest).map fun v => { v with groups := w.groups ++ v.groups }

/-- What the groups capture in the first way to match the beginning of a text. -/
def first (p : Pattern) (before : Option Char) (t : Text) : Option (List Text) :=
  (p.ways before t).head?.map Way.groups

/-- What the groups capture at the leftmost place of a text where the pattern matches. -/
def search (p : Pattern) (before : Option Char) : Text → Option (List Text)
  | [] => p.first before []
  | c :: cs => (p.first before (c :: cs)).or (search p (some c) cs)

/-! ## The ways of each pattern -/

section

variable (p q : Pattern) (before : Option Char) (t : Text)

theorem ways_oneOf (texts : List Text) : (oneOf texts).ways before t =
    texts.filterMap fun o =>
      (dropLead? o t).map fun rest => ⟨[], o.getLast?.or before, rest⟩ := rfl

theorem ways_many (f : Char → Bool) : (many f).ways before t =
    (runs f before t).map fun r => ⟨[], r.1, r.2⟩ := rfl

theorem ways_few (f : Char → Bool) : (few f).ways before t =
    (runs f before t).reverse.map fun r => ⟨[], r.1, r.2⟩ := rfl

theorem ways_wordBoundary : wordBoundary.ways before t =
    if isWordBoundary before t.head? then [⟨[], before, t⟩] else [] := rfl

theorem ways_lineEnd : lineEnd.ways before t =
    if t = [] ∨ t = ['\n'] then [⟨[], before, t⟩] else [] := rfl

theorem ways_group : (group p).ways before t = (p.ways before t).map fun w =>
    { w with groups := t.take (t.length - w.rest.length) :: w.groups } := rfl

theorem ways_andThen : (andThen p q).ways before t = (p.ways before t).flatMap fun w =>
    (q.ways w.before w.rest).map fun v => { v with groups := w.groups ++ v.groups } := rfl

end

/-! ## The first way -/

theorem findSome?_filterMap {α β γ : Type} (g : α → Option β) (f : β → Option γ) (as : List α) :
    (as.filterMap g).findSome? f = as.findSome? fun a => (g a).bind f := by
  induction as with
  | nil => rfl
  | cons a as ih =>
      rw [List.filterMap_cons, List.findSome?_cons]
      cases g a with
      | none => exact ih
      | some b =>
          rw [List.findSome?_cons, Option.bind_some, ih]

variable {p q : Pattern} {before : Option Char} {t : Text}

theorem first_andThen : (andThen p q).first before t =
    (p.ways before t).findSome? fun w => (q.first w.before w.rest).map (w.groups ++ ·) := by
  rw [first, ways_andThen, List.head?_flatMap, List.map_findSome?]
  congr 1
  funext w
  rw [Function.comp_apply, List.head?_map, first, Option.map_map, Option.map_map]
  rfl

theorem first_oneOf (texts : List Text) : (andThen (oneOf texts) q).first before t =
    texts.findSome? fun o =>
      (dropLead? o t).bind fun rest => q.first (o.getLast?.or before) rest := by
  rw [first_andThen, ways_oneOf, findSome?_filterMap]
  congr 1
  funext o
  cases dropLead? o t with
  | none => rfl
  | some rest => simp

theorem first_group_oneOf (texts : List Text) : (andThen (group (oneOf texts)) q).first before t =
    texts.findSome? fun o =>
      (dropLead? o t).bind fun rest => (q.first (o.getLast?.or before) rest).map (o :: ·) := by
  rw [first_andThen, ways_group, ways_oneOf, List.findSome?_map, findSome?_filterMap]
  congr 1
  funext o
  cases hdrop : dropLead? o t with
  | none => rfl
  | some rest =>
      have htaken : t.take (t.length - rest.length) = o := by
        rw [dropLead?_eq_some_iff.mp hdrop, List.length_append, Nat.add_sub_cancel, List.take_left]
      simp [htaken]

theorem first_many (f : Char → Bool) : (andThen (many f) q).first before t =
    (runs f before t).findSome? fun r => q.first r.1 r.2 := by
  rw [first_andThen, ways_many, List.findSome?_map]
  congr 1
  funext r
  simp

theorem first_many_nil (f : Char → Bool) :
    (andThen (many f) q).first before [] = q.first before [] := by
  rw [first_many, runs, List.findSome?_singleton]

theorem first_many_cons (f : Char → Bool) (c : Char) (cs : Text) :
    (andThen (many f) q).first before (c :: cs) =
      (if f c then (andThen (many f) q).first (some c) cs else none).or
        (q.first before (c :: cs)) := by
  rw [first_many, runs]
  split
  · rw [List.findSome?_append, List.findSome?_singleton, first_many]
  · rw [List.findSome?_singleton, Option.none_or]

theorem first_wordBoundary : (andThen wordBoundary q).first before t =
    if isWordBoundary before t.head? then q.first before t else none := by
  rw [first_andThen, ways_wordBoundary]
  split
  · simp
  · rfl

theorem first_lineEnd : lineEnd.first before t = if t = [] ∨ t = ['\n'] then some [] else none := by
  rw [first, ways_lineEnd]
  split
  · rfl
  · rfl

/-- Of the runs from the shortest on, the first one counts after which the rest matches. -/
theorem findSome?_runs {α : Type} {f : Char → Bool} {g : Option Char → Text → Option α}
    {run rest : Text} {a : α} (hrun : ∀ c ∈ run, f c = true)
    (hrest : g (run.getLast?.or before) rest = some a)
    (hshorter : ∀ run' rest', run ++ rest = run' ++ rest' → run'.length < run.length →
      g (run'.getLast?.or before) rest' = none) :
    (runs f before (run ++ rest)).reverse.findSome? (fun r => g r.1 r.2) = some a := by
  induction run generalizing before with
  | nil =>
      have hfirst : (runs f before rest).reverse.head? = some (before, rest) := by
        rw [List.head?_reverse]
        cases rest with
        | nil => rfl
        | cons c cs =>
            rw [runs]
            split
            · rw [List.getLast?_concat]
            · rfl
      obtain ⟨more, hmore⟩ := List.head?_eq_some_iff.mp hfirst
      have hhere : g before rest = some a := hrest
      rw [List.nil_append, hmore, List.findSome?_cons, hhere]
  | cons c cs ih =>
      have hnone : g before (c :: (cs ++ rest)) = none := hshorter [] _ rfl (Nat.succ_pos _)
      rw [List.cons_append, runs, if_pos (hrun c List.mem_cons_self), List.reverse_append,
        List.reverse_singleton, List.singleton_append, List.findSome?_cons, hnone]
      apply ih fun d hd => hrun d (List.mem_cons_of_mem c hd)
      · rwa [last_cons_or] at hrest
      · intro run' rest' heq hlength
        have hlonger := hshorter (c :: run') rest' (by rw [List.cons_append, heq]; rfl)
          (Nat.succ_lt_succ hlength)
        rwa [last_cons_or] at hlonger

/-- A greedy run does not end before it has to if what comes after it then matches. -/
theorem first_many_append {f : Char → Bool} {run rest : Text} {groups : List Text}
    (hrun : ∀ c ∈ run, f c = true) (hstop : ∀ c, rest.head? = some c → f c = false)
    (hrest : q.first (run.getLast?.or before) rest = some groups) :
    (andThen (many f) q).first before (run ++ rest) = some groups := by
  induction run generalizing before with
  | nil =>
      have hhere : q.first before rest = some groups := hrest
      rw [List.nil_append]
      cases rest with
      | nil => rwa [first_many_nil]
      | cons c cs => rw [first_many_cons, if_neg (by simp [hstop c rfl]), hhere, Option.none_or]
  | cons c cs ih =>
      rw [last_cons_or] at hrest
      rw [List.cons_append, first_many_cons, if_pos (hrun c List.mem_cons_self),
        ih (fun d hd => hrun d (List.mem_cons_of_mem c hd)) hrest, Option.some_or]

/-- A lazy run ends as soon as what comes after it matches. -/
theorem first_group_few {f : Char → Bool} {run rest : Text} {groups : List Text}
    (hrun : ∀ c ∈ run, f c = true) (hrest : q.first (run.getLast?.or before) rest = some groups)
    (hshorter : ∀ run' rest', run ++ rest = run' ++ rest' → run'.length < run.length →
      q.first (run'.getLast?.or before) rest' = none) :
    (andThen (group (few f)) q).first before (run ++ rest) = some (run :: groups) := by
  rw [first_andThen, ways_group, ways_few, List.findSome?_map, List.findSome?_map]
  have htaken : (run ++ rest).take ((run ++ rest).length - rest.length) = run := by
    rw [List.length_append, Nat.add_sub_cancel, List.take_left]
  apply findSome?_runs (g := fun b r => (q.first b r).map fun groups =>
    (run ++ rest).take ((run ++ rest).length - r.length) :: groups) hrun
  · rw [hrest, Option.map_some, htaken]
  · intro run' rest' heq hlength
    rw [hshorter run' rest' heq hlength, Option.map_none]

end Pattern

namespace Marker

open Pattern

/-! ## The end of a comment -/

/-- White space and perhaps a closer, up to the end of the line. -/
def ending : Pattern :=
  .andThen (.many isBlank) (.andThen (.oneOf [closer, []]) .lineEnd)

/-- What the end of a comment matches. -/
inductive Ends : Text → Prop
  | intro {blanks tail : Text} (hblanks : ∀ c ∈ blanks, isBlank c = true)
      (htail : tail = closer ∨ tail = []) : Ends (blanks ++ tail)

/-- The end of a comment is a closer or nothing. -/
theorem first_closer {before : Option Char} {t : Text} (ht : '\n' ∉ t) :
    (andThen (oneOf [closer, []]) lineEnd).first before t =
      if t = closer ∨ t = [] then some [] else none := by
  have hend : ∀ {before : Option Char} {u : Text}, '\n' ∉ u →
      lineEnd.first before u = if u = [] then some [] else none := by
    intro before u hu
    rw [first_lineEnd]
    have hne : u ≠ ['\n'] := by
      rintro rfl
      exact hu (by simp)
    simp only [hne, or_false]
  rw [first_oneOf, List.findSome?_cons, List.findSome?_singleton, dropLead?, Option.bind_some,
    hend ht]
  cases hdrop : dropLead? closer t with
  | none =>
      have hne : t ≠ closer := by
        rintro rfl
        rw [dropLead?_eq_some_iff.mpr (List.append_nil closer).symm] at hdrop
        cases hdrop
      simp only [Option.bind_none, hne, false_or]
  | some rest =>
      have htext := dropLead?_eq_some_iff.mp hdrop
      have hrest : '\n' ∉ rest := fun hmem => ht (htext ▸ List.mem_append_right closer hmem)
      have hne : t ≠ [] := by simp [htext, closer]
      have hclosed : t = closer ↔ rest = [] := by
        rw [htext]
        exact List.append_right_eq_self
      rw [Option.bind_some, hend hrest]
      have hends : t = closer ∨ t = [] ↔ rest = [] := by simp only [hclosed, hne, or_false]
      by_cases hempty : rest = []
      · rw [if_pos hempty, if_pos (hends.mpr hempty)]
      · rw [if_neg hempty, if_neg fun h => hempty (hends.mp h), if_neg hne]

theorem ends_nil : Ends ([] ++ []) := .intro (by simp) (.inr rfl)

theorem ends_cons_iff {c : Char} {cs : Text} :
    Ends (c :: cs) ↔ c :: cs = closer ∨ isBlank c = true ∧ Ends cs := by
  constructor
  · intro h
    generalize ht : c :: cs = t at h
    obtain @⟨blanks, tail, hblanks, htail⟩ := h
    cases blanks with
    | nil =>
        rw [List.nil_append] at ht
        refine .inl (htail.resolve_right fun hempty => ?_)
        rw [hempty] at ht
        cases ht
    | cons d ds =>
        obtain ⟨rfl, rfl⟩ := List.cons.inj ht
        exact .inr ⟨hblanks c List.mem_cons_self,
          .intro (fun e he => hblanks e (List.mem_cons_of_mem c he)) htail⟩
  · rintro (heq | ⟨hc, @⟨blanks, tail, hblanks, htail⟩⟩)
    · have hcloser : Ends ([] ++ closer) := .intro (by simp) (.inl rfl)
      rwa [heq]
    · have hmore : Ends ((c :: blanks) ++ tail) :=
        .intro (List.forall_mem_cons.mpr ⟨hc, hblanks⟩) htail
      exact hmore

/-- The end of a comment captures nothing. -/
theorem first_ending {before : Option Char} {t : Text} (ht : '\n' ∉ t) :
    (Ends t → ending.first before t = some []) ∧ (¬ Ends t → ending.first before t = none) := by
  induction t generalizing before with
  | nil =>
      refine ⟨fun _ => ?_, fun hnot => absurd ends_nil hnot⟩
      rw [ending, first_many_nil, first_closer ht, if_pos (.inr rfl)]
  | cons c cs ih =>
      obtain ⟨hends, hnot⟩ := @ih (some c) fun hmem => ht (List.mem_cons_of_mem c hmem)
      rw [ending, first_many_cons, ← ending, first_closer ht, ends_cons_iff]
      constructor
      · rintro (heq | ⟨hc, hcs⟩)
        · have hc : isBlank c = false := by
            obtain rfl : c = '*' := (List.cons.inj heq).1
            decide
          rw [if_neg (by simp [hc]), if_pos (.inl heq), Option.none_or]
        · rw [if_pos hc, hends hcs, Option.some_or]
      · intro hneither
        rw [not_or, not_and] at hneither
        obtain ⟨hne, hblank⟩ := hneither
        have hlater : (if isBlank c then ending.first (some c) cs else none) = none := by
          split
          · next hc => exact hnot (hblank hc)
          · rfl
        rw [hlater, if_neg (not_or.mpr ⟨hne, by simp⟩), Option.none_or]

/-! ## What comes after a marker -/

/-- A longer end of what follows a marker than that behind its note is no end of a comment. -/
theorem not_ends {front more trail tail : Text} (hne : more ≠ [])
    (hend : ∀ c, (front ++ more).getLast? = some c → isBlank c = false)
    (htail : tail = closer ∨ tail = [] ∧ ¬ closer <:+ front ++ more ++ trail) :
    ¬ Ends (more ++ (trail ++ tail)) := by
  intro h
  generalize ht : more ++ (trail ++ tail) = t at h
  obtain @⟨blanks, tail', hblanks, htail'⟩ := h
  have hlast : more.getLast hne ∉ blanks := by
    intro hmem
    have hvisible := hend (more.getLast hne) (by
      rw [List.getLast?_append, List.getLast?_eq_some_getLast hne, Option.some_or])
    rw [hblanks _ hmem] at hvisible
    cases hvisible
  have hmem : more.getLast hne ∈ more := List.getLast_mem hne
  obtain rfl | rfl := htail'
  · obtain rfl | ⟨rfl, hnot⟩ := htail
    · rw [← List.append_assoc] at ht
      exact hlast (List.append_cancel_right ht ▸ List.mem_append_left trail hmem)
    · apply hnot
      rw [List.append_nil] at ht
      rw [List.append_assoc, ht]
      exact ⟨front ++ blanks, List.append_assoc _ _ _⟩
  · rw [List.append_nil] at ht
    exact hlast (ht ▸ List.mem_append_left _ hmem)

/-- A colon or none, white space, the note and the end of the comment. -/
def afterMarker : Pattern :=
  .andThen (.oneOf [[':'], []]) (.andThen (.many isBlank) (.andThen (.group (.few (· ≠ '\n'))) ending))

/-- What is captured after a marker is its note. -/
theorem first_afterMarker {before : Option Char} {rest : Text} (hrest : '\n' ∉ rest) :
    afterMarker.first before rest = some [noteOf rest] := by
  have hnote : IsNote rest (noteOf rest) := isNote_iff.mpr rfl
  generalize noteOf rest = note at hnote ⊢
  obtain @⟨colon, lead, note, trail, tail, hcolon, hlead, hstart, htail, htrail, hend⟩ := hnote
  have hline : '\n' ∉ note ++ trail ++ tail := fun hmem =>
    hrest (List.mem_append_right _ (List.mem_append_right _ hmem))
  have hbody : ∀ {before : Option Char}, (andThen (group (few (· ≠ '\n'))) ending).first before
      (note ++ trail ++ tail) = some [note] := by
    intro before
    rw [List.append_assoc] at hline ⊢
    apply first_group_few
    · intro c hc
      have hne : c ≠ '\n' := fun heq => hline (List.mem_append_left _ (heq ▸ hc))
      simpa using hne
    · apply (first_ending fun hmem => hline (List.mem_append_right _ hmem)).1
      exact .intro htrail (htail.imp_right And.left)
    · intro run' rest' heq hlength
      have hprefix : run' <+: note :=
        List.prefix_of_prefix_length_le ⟨rest', heq.symm⟩ (List.prefix_append _ _)
          (Nat.le_of_lt hlength)
      obtain ⟨more, rfl⟩ := hprefix
      rw [List.append_assoc] at heq
      obtain rfl := List.append_cancel_left heq
      have hne : more ≠ [] := by
        rintro rfl
        simp at hlength
      refine (first_ending fun hmem => hline ?_).2 (not_ends hne hend htail)
      rw [List.append_assoc]
      exact List.mem_append_right run' hmem
  have hblank : ∀ {before : Option Char},
      (andThen (many isBlank) (andThen (group (few (· ≠ '\n'))) ending)).first before
        (lead ++ (note ++ trail ++ tail)) = some [note] :=
    first_many_append hlead hstart hbody
  rw [afterMarker, first_oneOf, List.findSome?_cons]
  obtain rfl | ⟨rfl, hhead⟩ := hcolon
  · rw [dropLead?_eq_some_iff.mpr rfl, Option.bind_some, hblank]
  · rw [List.nil_append]
    cases hdrop : dropLead? [':'] (lead ++ (note ++ trail ++ tail)) with
    | none => rw [Option.bind_none, List.findSome?_singleton, dropLead?, Option.bind_some, hblank]
    | some after =>
        rw [dropLead?_eq_some_iff.mp hdrop] at hhead
        exact absurd rfl hhead

/-! ## The pattern of a marker comment -/

/-- One of the markers up to a word boundary, and what comes after it. -/
def named (markers : List Text) : Pattern :=
  .andThen (.group (.oneOf markers)) (.andThen .wordBoundary afterMarker)

/-- A comment opener, white space, one of the markers and what comes after it. -/
def comment (markers : List Text) : Pattern :=
  .andThen (.oneOf openers) (.andThen (.many isBlank) (named markers))

/-- What is captured where a marker is found. -/
def captured (found : Text × Text) : List Text := [found.1, noteOf found.2]

variable {markers : List Text}

theorem first_named {before : Option Char} {t : Text} (ht : '\n' ∉ t) :
    (named markers).first before t = (markerAt? markers before t).map captured := by
  rw [named, first_group_oneOf, markerAt?, List.map_findSome?]
  congr 1
  funext m
  cases hdrop : dropLead? m t with
  | none => rw [Function.comp_apply, hdrop]; rfl
  | some rest =>
      have hrest : '\n' ∉ rest := fun hmem =>
        ht (dropLead?_eq_some_iff.mp hdrop ▸ List.mem_append_right m hmem)
      rw [Function.comp_apply, hdrop, Option.bind_some, first_wordBoundary,
        first_afterMarker hrest]
      dsimp only [Option.bind_eq_bind, Option.bind_some]
      rw [last_or]
      split
      · rfl
      · rfl

theorem first_blanks_named {before : Option Char} {t : Text} (ht : '\n' ∉ t) :
    (andThen (many isBlank) (named markers)).first before t =
      (markerAfterBlanks? markers before t).map captured := by
  induction t generalizing before with
  | nil => rw [first_many_nil, first_named ht, markerAfterBlanks?]
  | cons c cs ih =>
      have hcs : '\n' ∉ cs := fun hmem => ht (List.mem_cons_of_mem c hmem)
      rw [first_many_cons, first_named ht, markerAfterBlanks?, Option.map_or, ih hcs]
      congr 1
      split
      · rfl
      · rfl

/-- Where one of several trials alone can succeed, it decides. -/
theorem findSome?_eq_of_unique {α β : Type} {f : α → Option β} {as : List α} {a : α} (ha : a ∈ as)
    (hothers : ∀ b ∈ as, b ≠ a → f b = none) : as.findSome? f = f a := by
  cases hfa : f a with
  | none =>
      rw [List.findSome?_eq_none_iff]
      intro b hb
      by_cases hne : b = a
      · rw [hne, hfa]
      · exact hothers b hb hne
  | some c =>
      have hsome : (as.findSome? f).isSome = true :=
        List.findSome?_isSome_iff.mpr ⟨a, ha, by rw [hfa]; rfl⟩
      obtain ⟨d, hd⟩ := Option.isSome_iff_exists.mp hsome
      obtain ⟨b, hb, hfb⟩ := List.exists_of_findSome?_eq_some hd
      by_cases hne : b = a
      · rw [hd, ← hfb, hne, hfa]
      · rw [hothers b hb hne] at hfb
        cases hfb

theorem first_comment {before : Option Char} {t : Text} (ht : '\n' ∉ t) :
    (comment markers).first before t = (markerHere? markers t).map captured := by
  rw [comment, first_oneOf]
  cases hafter : afterOpener? t with
  | none =>
      have hnone := List.findSome?_eq_none_iff.mp hafter
      rw [markerHere?, hafter, List.findSome?_eq_none_iff.mpr]
      · rfl
      · intro o ho
        rw [hnone o ho, Option.bind_none]
  | some after =>
      obtain ⟨o, ho, rfl⟩ := afterOpener?_eq_some_iff.mp hafter
      obtain ⟨c, hc⟩ : ∃ c, o.getLast? = some c :=
        ⟨_, List.getLast?_eq_some_getLast (ne_nil_of_mem_openers ho)⟩
      rw [findSome?_eq_of_unique ho, dropLead?_eq_some_iff.mpr rfl, Option.bind_some,
        markerHere?_opener ho, first_blanks_named fun hmem => ht (List.mem_append_right o hmem), hc]
      · rfl
      · -- no other opener begins the text
        intro o' ho' hne
        cases hdrop : dropLead? o' (o ++ after) with
        | none => rfl
        | some rest =>
            exact absurd (opener_unique ho ho' (dropLead?_eq_some_iff.mp hdrop)).symm hne

/-- What the pattern captures in a line is the marker that is found there, and its note. -/
theorem search_comment {before : Option Char} {line : Text} (hline : '\n' ∉ line) :
    (comment markers).search before line = (inLine? markers line).map captured := by
  induction line generalizing before with
  | nil =>
      rw [search, first_comment hline]
      rfl
  | cons c cs ih =>
      have hcs : '\n' ∉ cs := fun hmem => hline (List.mem_cons_of_mem c hmem)
      rw [search, first_comment hline, inLine?, Option.map_or, ih hcs]

end Marker

end SourceAtlas
