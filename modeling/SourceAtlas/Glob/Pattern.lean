import SourceAtlas.Text.Basic

/-!
# Wildcard patterns

A pattern is a list of pieces: `*` stands for any text, `?` for one character, a bracket class for
one character of a set, and every other character for itself.  A class that is never closed is an
ordinary bracket.  Matching always concerns the whole text, and letters are told apart by case.
-/

namespace SourceAtlas.Glob

open Text

/-- A member of a bracket class. -/
inductive Item
  | one (c : Char)
  | range (first last : Char)
  deriving DecidableEq, Repr

/-- Whether a character belongs to a member of a class. -/
def Item.has : Item → Char → Bool
  | .one d, c => c == d
  | .range first last, c => first ≤ c && c ≤ last

/-- A piece of a pattern. -/
inductive Piece
  | star
  | any
  | never
  | literal (c : Char)
  | oneOf (negated : Bool) (items : List Item)
  deriving DecidableEq, Repr

/-- The characters that a piece other than `*` stands for. -/
def Piece.has : Piece → Char → Bool
  | .star, _ => true
  | .any, _ => true
  | .never, _ => false
  | .literal d, c => c == d
  | .oneOf negated items, c => items.any (·.has c) != negated

/-! ## Bracket classes -/

/-- The content of a class and what follows its closing bracket.  An exclamation mark and a closing
bracket at the beginning belong to the content. -/
def classBody? (t : Text) : Option (Text × Text) :=
  let (lead, rest) :=
    match t with
    | '!' :: ']' :: rest => (['!', ']'], rest)
    | '!' :: rest => (['!'], rest)
    | ']' :: rest => ([']'], rest)
    | rest => ([], rest)
  match rest.dropWhile (· != ']') with
  | [] => none
  | _ :: after => some (lead ++ rest.takeWhile (· != ']'), after)

/-- Cuts a class at its range hyphens.  A hyphen counts when at least `skip` characters of its part
precede it; after one, two more characters belong to the next part. -/
def cutRanges (skip : Nat) : Text → List Text
  | [] => [[]]
  | c :: cs =>
    match skip with
    | 0 => if c = '-' then [] :: cutRanges 2 cs else extend c (cutRanges 0 cs)
    | k + 1 => extend c (cutRanges k cs)
where
  extend (c : Char) : List Text → List Text
    | [] => [[c]]
    | part :: parts => (c :: part) :: parts

/-- Two neighbouring parts whose range is empty become one without its ends. -/
def mergeEmpty (part : Text) : List Text → List Text
  | [] => [part]
  | next :: parts =>
    match part.getLast?, next with
    | some first, last :: more => if last < first then (part.dropLast ++ more) :: parts
                                  else part :: next :: parts
    | _, _ => part :: next :: parts

/-- The parts of a class that are left when empty ranges are taken out, from the last on. -/
def dropEmptyRanges : List Text → List Text
  | [] => []
  | part :: parts => mergeEmpty part (dropEmptyRanges parts)

/-- A character of a class, or the hyphen between two parts. -/
inductive Sign
  | char (c : Char)
  | to
  deriving DecidableEq, Repr

/-- The parts of a class in one row. -/
def signs : List Text → List Sign
  | [] => []
  | [part] => part.map .char
  | part :: parts => part.map .char ++ .to :: signs parts

/-- Reads the members of a class: two characters with a hyphen between them are a range. -/
def items : List Sign → List Item
  | .char a :: .to :: .char b :: rest => .range a b :: items rest
  | .char a :: rest => .one a :: items rest
  | .to :: rest => .one '-' :: items rest
  | [] => []

/-- The parts of the content of a class; a hyphen at the end stands for itself. -/
def parts (body : Text) : List Text :=
  let skip := if body.head? = some '!' then 2 else 1
  let cut := cutRanges skip body
  let closed :=
    match cut.reverse with
    | [] :: last :: before => (last ++ ['-']) :: before
    | other => other
  dropEmptyRanges closed.reverse

/-- The piece that a bracket class stands for. -/
def ofClass (body : Text) : Piece :=
  match signs (parts body) with
  | [] => .never
  | [.char '!'] => .any
  | .char '!' :: rest => .oneOf true (items rest)
  | all => .oneOf false (items all)

theorem classBody?_length {t body after : Text} (h : classBody? t = some (body, after)) :
    after.length < t.length := by
  unfold classBody? at h
  have drop (r : Text) : (r.dropWhile (· != ']')).length ≤ r.length :=
    (List.dropWhile_sublist _).length_le
  split at h
  next lead rest hs =>
    have hle : rest.length ≤ t.length := by
      split at hs <;> (simp only [Prod.mk.injEq] at hs; obtain ⟨-, rfl⟩ := hs; grind)
    split at h
    · simp at h
    · next a rs hd =>
        simp only [Option.some.injEq, Prod.mk.injEq] at h
        have := drop rest
        rw [hd] at this
        rw [← h.2]
        simp only [List.length_cons] at this
        omega

/-- Reads a pattern. -/
def parse (t : Text) : List Piece :=
  match t with
  | [] => []
  | c :: cs =>
    if c = '*' then .star :: parse cs
    else if c = '?' then .any :: parse cs
    else if c = '[' then
      match h : classBody? cs with
      | some (body, after) =>
        have := classBody?_length h
        ofClass body :: parse after
      | none => .literal '[' :: parse cs
    else .literal c :: parse cs
termination_by t.length

/-! ## Matching -/

/-- Which ends of `t` a `*` followed by what matches the ends in `row` matches: each end of `t` that
has one of those in it. -/
def starRow : List Bool → List Bool
  | [] => []
  | b :: bs =>
    let rest := starRow bs
    (b || rest.head?.getD false) :: rest

/-- Which ends of `t` one character of `p` followed by what matches the ends in `row` matches. -/
def oneRow (p : Char → Bool) : Text → List Bool → List Bool
  | [], _ => [false]
  | c :: cs, row => (p c && row.tail.head?.getD false) :: oneRow p cs row.tail

/-- For each end of `t`, the longest first, whether the pieces match it as a whole. -/
def rows (t : Text) : List Piece → List Bool
  | [] => t.map (fun _ => false) ++ [true]
  | .star :: ps => starRow (rows t ps)
  | p :: ps => oneRow p.has t (rows t ps)

/-- Whether the pieces match the whole text. -/
def fits (ps : List Piece) (t : Text) : Bool := (rows t ps).head?.getD false

/-- Whether a pattern matches the whole text. -/
def matchesText (pattern t : Text) : Bool := fits (parse pattern) t

/-- Whether a text holds a character that makes it a pattern. -/
def hasWildcard (t : Text) : Bool := t.any fun c => c == '*' || c == '?' || c == '['

end SourceAtlas.Glob
