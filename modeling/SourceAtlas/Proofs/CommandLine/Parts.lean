import SourceAtlas.CommandLine.Scan
import SourceAtlas.Proofs.Outcomes

/-!
# Arguments made of whole flags

A part of a command line is an argument with flags, together with the next argument if that is the value
of the last of them.  Parts are read one after another, each into its own occurrences, whatever stands
behind them; and all arguments that hold flags only are made of parts.
-/

namespace SourceAtlas.CommandLine

/-- An argument whose flags are all whole, or one whose last flag waits for a value with that value. -/
inductive Whole (flags : List Flag) : List Text → List Occurrence → Prop
  | lone {argument : Text} {os : List Occurrence} (dashes : argument ≠ ['-', '-'])
      (flag : isWord argument = false) (read : readFlags flags argument = .ok ⟨os, none⟩) :
      Whole flags [argument] os
  | valued {argument written value : Text} {os : List Occurrence} {f : Flag}
      (dashes : argument ≠ ['-', '-']) (flag : isWord argument = false)
      (read : readFlags flags argument = .ok ⟨os, some (f, written)⟩) :
      Whole flags [argument, value] (os ++ [⟨f, some value⟩])

/-- A part of a command line: arguments, and the occurrences of flags that they hold. -/
structure Part (flags : List Flag) where
  arguments : List Text
  occurrences : List Occurrence
  whole : Whole flags arguments occurrences

variable {flags : List Flag}

/-- The arguments of parts. -/
def argumentsOf (parts : List (Part flags)) : List Text := parts.flatMap (·.arguments)

/-- The occurrences of flags in parts. -/
def occurrencesOf (parts : List (Part flags)) : List Occurrence := parts.flatMap (·.occurrences)

/-! ## Scanning parts -/

theorem scan_part (p : Part flags) (flagsAfterWords : Bool) (rest : List Text) :
    scan flags flagsAfterWords (p.arguments ++ rest) =
      (scan flags flagsAfterWords rest).map fun (more, words) => (p.occurrences ++ more, words) := by
  obtain ⟨arguments, os, whole⟩ := p
  cases whole with
  | lone dashes flag read =>
      rw [List.cons_append, scan, if_neg dashes, if_neg (by simp [flag]), read]
      rfl
  | valued dashes flag read =>
      rw [List.cons_append, List.cons_append, scan, if_neg dashes, if_neg (by simp [flag]), read]
      simp

/-- Parts are read into their own occurrences. -/
theorem scan_parts (parts : List (Part flags)) (flagsAfterWords : Bool) (rest : List Text) :
    scan flags flagsAfterWords (argumentsOf parts ++ rest) =
      (scan flags flagsAfterWords rest).map fun (more, words) =>
        (occurrencesOf parts ++ more, words) := by
  induction parts with
  | nil =>
      cases h : scan flags flagsAfterWords rest <;> simp [argumentsOf, occurrencesOf, h, Except.map]
  | cons p parts ih =>
      have hscan := scan_part p flagsAfterWords (argumentsOf parts ++ rest)
      rw [← List.append_assoc] at hscan
      refine hscan.trans ?_
      rw [ih]
      cases scan flags flagsAfterWords rest <;> simp [occurrencesOf, Except.map]

theorem scan_argumentsOf (parts : List (Part flags)) :
    scan flags true (argumentsOf parts) = .ok (occurrencesOf parts, []) := by
  have hscan := scan_parts parts true []
  rw [List.append_nil] at hscan
  rw [hscan]
  simp [scan, Except.map]

/-- Arguments that are made of parts with the given occurrences; two dashes may end them. -/
def MadeOfParts (flags : List Flag) (arguments : List Text) (os : List Occurrence) : Prop :=
  ∃ parts : List (Part flags), os = occurrencesOf parts ∧
    (arguments = argumentsOf parts ∨ arguments = argumentsOf parts ++ [['-', '-']])

theorem MadeOfParts.cons (p : Part flags) {arguments : List Text} {os : List Occurrence}
    (h : MadeOfParts flags arguments os) :
    MadeOfParts flags (p.arguments ++ arguments) (p.occurrences ++ os) := by
  obtain ⟨parts, rfl, rfl | rfl⟩ := h
  · exact ⟨p :: parts, by simp [occurrencesOf], .inl (by simp [argumentsOf])⟩
  · exact ⟨p :: parts, by simp [occurrencesOf], .inr (by simp [argumentsOf])⟩

/-- Arguments in which no words are found are made of parts. -/
theorem madeOfParts_of_scan {arguments : List Text} {os : List Occurrence}
    (h : scan flags true arguments = .ok (os, [])) : MadeOfParts flags arguments os := by
  fun_induction scan flags true arguments generalizing os with
  | case1 =>
      obtain ⟨rfl, -⟩ := Prod.mk.inj (Except.ok.inj h)
      exact ⟨[], rfl, .inl rfl⟩
  | case2 rest =>
      obtain ⟨rfl, rfl⟩ := Prod.mk.inj (Except.ok.inj h)
      exact ⟨[], rfl, .inr rfl⟩
  | case3 argument rest dashes word after ih =>
      obtain ⟨⟨os', words⟩, -, heq⟩ := map_eq_ok.mp h
      cases heq
  | case4 argument rest dashes word after => exact absurd rfl after
  | case5 => cases h
  | case6 argument rest dashes word os' read ih =>
      obtain ⟨⟨more, words⟩, hscan, heq⟩ := map_eq_ok.mp h
      obtain ⟨rfl, rfl⟩ := Prod.mk.inj heq
      exact (ih hscan).cons ⟨[argument], os', .lone dashes (by simpa using word) read⟩
  | case7 => cases h
  | case8 argument dashes word os' f written read value rest ih =>
      obtain ⟨⟨more, words⟩, hscan, heq⟩ := map_eq_ok.mp h
      obtain ⟨rfl, rfl⟩ := Prod.mk.inj heq
      have hmade := (ih hscan).cons ⟨[argument, value], _, .valued dashes (by simpa using word) read⟩
      rwa [List.append_assoc] at hmade

/-! ## Flags and values of occurrences -/

/-- An occurrence of one of the flags, with a value exactly if the flag takes one. -/
structure Occurrence.Fits (flags : List Flag) (o : Occurrence) : Prop where
  mem : o.flag ∈ flags
  value : o.value.isSome = o.flag.takesValue

/-- A cluster whose occurrences fit, and whose last flag waits only if it takes a value. -/
structure Cluster.Fits (flags : List Flag) (cluster : Cluster) : Prop where
  occurrences : ∀ o ∈ cluster.occurrences, o.Fits flags
  waiting : ∀ f written, cluster.waiting = some (f, written) → f ∈ flags ∧ f.takesValue = true

theorem fits_of_readLetters {letters : Text} {cluster : Cluster}
    (h : readLetters flags letters = .ok cluster) : cluster.Fits flags := by
  fun_induction readLetters flags letters generalizing cluster with
  | case1 =>
      obtain rfl := Except.ok.inj h
      exact ⟨by simp, by simp⟩
  | case2 => cases h
  | case3 c f hfind takes =>
      obtain rfl := Except.ok.inj h
      refine ⟨by simp, fun g written heq => ?_⟩
      obtain ⟨rfl, -⟩ := Prod.mk.inj (Option.some.inj heq)
      exact ⟨List.mem_of_find?_eq_some hfind, takes⟩
  | case4 c rest f hfind takes last =>
      obtain rfl := Except.ok.inj h
      exact ⟨by simpa using ⟨List.mem_of_find?_eq_some hfind, takes.symm⟩, by simp⟩
  | case5 c rest f hfind takes ih =>
      obtain ⟨after, hafter, rfl⟩ := map_eq_ok.mp h
      obtain ⟨hoccurrences, hwaiting⟩ := ih hafter
      refine ⟨List.forall_mem_cons.mpr ⟨⟨List.mem_of_find?_eq_some hfind, ?_⟩, hoccurrences⟩, hwaiting⟩
      simpa using takes

theorem fits_of_readNamed {f : Flag} (hf : f ∈ flags) {written : Text} {value : Option Text}
    {cluster : Cluster} (h : readNamed f written value = .ok cluster) : cluster.Fits flags := by
  unfold readNamed at h
  split at h
  · split at h
    · next takes =>
        obtain rfl := Except.ok.inj h
        exact ⟨by simpa using ⟨hf, takes.symm⟩, by simp⟩
    · cases h
  · split at h
    · next takes =>
        obtain rfl := Except.ok.inj h
        refine ⟨by simp, fun g written heq => ?_⟩
        obtain ⟨rfl, -⟩ := Prod.mk.inj (Option.some.inj heq)
        exact ⟨hf, takes⟩
    · next takes =>
        obtain rfl := Except.ok.inj h
        exact ⟨by simpa using ⟨hf, by simpa using takes⟩, by simp⟩

theorem fits_of_readFlags {argument : Text} {cluster : Cluster}
    (h : readFlags flags argument = .ok cluster) : cluster.Fits flags := by
  unfold readFlags at h
  dsimp only at h
  split at h
  · next f hfind => exact fits_of_readNamed (List.mem_of_find?_eq_some hfind) h
  · split at h
    · cases h
    · exact fits_of_readLetters h

theorem Part.fits (p : Part flags) : ∀ o ∈ p.occurrences, o.Fits flags := by
  obtain ⟨arguments, os, whole⟩ := p
  cases whole with
  | lone dashes flag read => exact (fits_of_readFlags read).occurrences
  | valued dashes flag read =>
      obtain ⟨hoccurrences, hwaiting⟩ := fits_of_readFlags read
      obtain ⟨hf, takes⟩ := hwaiting _ _ rfl
      refine List.forall_mem_append.mpr ⟨hoccurrences, ?_⟩
      simpa using ⟨hf, takes.symm⟩

theorem fits_occurrencesOf (parts : List (Part flags)) :
    ∀ o ∈ occurrencesOf parts, o.Fits flags := by
  intro o ho
  obtain ⟨p, -, hp⟩ := List.mem_flatMap.mp ho
  exact p.fits o hp

/-- A flag that takes values has some exactly if it occurs. -/
theorem valuesOf_eq_nil_iff {os : List Occurrence} (hfits : ∀ o ∈ os, o.Fits flags) {f : Flag}
    (takes : f.takesValue = true) : valuesOf f os = [] ↔ occurs f os = false := by
  rw [valuesOf, List.filterMap_eq_nil_iff, occurs, List.any_eq_false]
  constructor
  · intro h o ho heq
    have hnone := h o (List.mem_filter.mpr ⟨ho, heq⟩)
    have hvalue := (hfits o ho).value
    rw [hnone, of_decide_eq_true heq, takes] at hvalue
    cases hvalue
  · intro h o ho
    obtain ⟨ho, heq⟩ := List.mem_filter.mp ho
    exact absurd heq (h o ho)

/-! ## More flags -/

theorem readLetters_append {letters : Text} {cluster : Cluster}
    (h : readLetters flags letters = .ok cluster) (more : List Flag) :
    readLetters (flags ++ more) letters = .ok cluster := by
  fun_induction readLetters flags letters generalizing cluster with
  | case1 => exact h
  | case2 => cases h
  | case3 c f hfind takes =>
      rw [readLetters, List.find?_append, hfind, Option.some_or]
      simpa [takes] using h
  | case4 c rest f hfind takes last =>
      rw [readLetters, List.find?_append, hfind, Option.some_or]
      simpa [takes, last] using h
  | case5 c rest f hfind takes ih =>
      obtain ⟨after, hafter, rfl⟩ := map_eq_ok.mp h
      rw [readLetters, List.find?_append, hfind, Option.some_or]
      dsimp only
      rw [if_neg takes, ih hafter]
      rfl

theorem dashes_of_written {f : Flag} {argument : Text} (h : f.written = (cutValue argument).1) :
    ∃ rest, argument = '-' :: '-' :: rest := by
  obtain ⟨after, hafter⟩ := List.takeWhile_prefix (l := argument) (· ≠ '=')
  rw [show argument.takeWhile (· ≠ '=') = f.written from h.symm] at hafter
  exact ⟨f.name ++ after, hafter.symm⟩

/-- What can be read by some flags is read alike when there are more behind them. -/
theorem readFlags_append {argument : Text} {cluster : Cluster}
    (h : readFlags flags argument = .ok cluster) (more : List Flag) :
    readFlags (flags ++ more) argument = .ok cluster := by
  unfold readFlags at h ⊢
  dsimp only at h ⊢
  cases hfind : flags.find? (·.written = (cutValue argument).1) with
  | some f => simpa only [List.find?_append, hfind, Option.some_or] using h
  | none =>
      rw [hfind] at h
      dsimp only at h
      split at h
      · cases h
      · next hsingle =>
          have hmore : more.find? (·.written = (cutValue argument).1) = none := by
            rw [List.find?_eq_none]
            intro f _ heq
            obtain ⟨rest, hrest⟩ := dashes_of_written (of_decide_eq_true heq)
            exact hsingle rest hrest
          rw [List.find?_append, hfind, hmore, Option.none_or]
          exact readLetters_append h more

theorem Whole.widen {arguments : List Text} {os : List Occurrence} (h : Whole flags arguments os)
    (more : List Flag) : Whole (flags ++ more) arguments os := by
  cases h with
  | lone dashes flag read => exact .lone dashes flag (readFlags_append read more)
  | valued dashes flag read => exact .valued dashes flag (readFlags_append read more)

/-- A part as one of a command with more flags. -/
def Part.widen (p : Part flags) (more : List Flag) : Part (flags ++ more) where
  arguments := p.arguments
  occurrences := p.occurrences
  whole := p.whole.widen more

theorem argumentsOf_widen (parts : List (Part flags)) (more : List Flag) :
    argumentsOf (parts.map (·.widen more)) = argumentsOf parts := by
  rw [argumentsOf, List.flatMap_map]
  rfl

theorem occurrencesOf_widen (parts : List (Part flags)) (more : List Flag) :
    occurrencesOf (parts.map (·.widen more)) = occurrencesOf parts := by
  rw [occurrencesOf, List.flatMap_map]
  rfl

end SourceAtlas.CommandLine
