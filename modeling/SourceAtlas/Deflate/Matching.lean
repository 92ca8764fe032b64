import SourceAtlas.Deflate.Symbol

/-!
# Finding repetitions

At each place the longest earlier occurrence of what follows is looked for among the places that
agree in a hash of three bytes, from the nearest on.  A repetition is put off when the next place
has a longer one; then the byte is taken as it is.
-/

namespace SourceAtlas.Deflate

/-- The shortest length of a copy. -/
def minLength : Nat := 3

/-- The greatest length of a copy. -/
def maxLength : Nat := 258

/-- The greatest distance of a copy. -/
def maxDistance : Nat := 32506

/-- From this length on fewer places are tried. -/
def goodLength : Nat := 8

/-- From this length on a copy is not put off. -/
def lazyLength : Nat := 16

/-- From this length on no longer one is looked for. -/
def niceLength : Nat := 128

/-- How many places are tried. -/
def maxTries : Nat := 128

/-- A copy of the shortest length from farther away than this is not worth it. -/
def farDistance : Nat := 4096

/-- The byte at a place. -/
def byteAt (data : Array UInt8) (i : Nat) : Nat := (data.getD i 0).toNat

/-- The hash of the three bytes at a place. -/
def hashAt (data : Array UInt8) (i : Nat) : Nat :=
  ((byteAt data i <<< 10) ^^^ (byteAt data (i + 1) <<< 5) ^^^ byteAt data (i + 2)) % 32768

/-- For each place that begins three bytes the nearest earlier one with the same hash, or zero; a
repetition of the very beginning is never looked for. -/
def linksOf (data : Array UInt8) : Array Nat :=
  let places := List.range (data.size + 1 - minLength)
  let step : Array Nat × Array Nat → Nat → Array Nat × Array Nat := fun (latest, links) i =>
    let h := hashAt data i
    let before := latest.getD h 0
    (latest.setIfInBounds h i, links.push before)
  (places.foldl step (Array.replicate 32768 0, #[])).2

/-- How far the bytes at two places agree, up to a limit. -/
def agreement (data : Array UInt8) (i j : Nat) : Nat → Nat
  | 0 => 0
  | limit + 1 =>
    if byteAt data i = byteAt data j then agreement data (i + 1) (j + 1) limit + 1 else 0

/-- A repetition: its length and the place that it repeats. -/
structure Match where
  length : Nat
  place : Nat
  deriving DecidableEq, Repr

/-- The longest repetition at `i` that is longer than `best`, among the places that the links lead
to from `place` on; `tries` bounds their number. -/
def longestFrom (data : Array UInt8) (links : Array Nat) (i best : Nat) (found : Option Match) :
    Nat → Nat → Option Match
  | 0, _ => found
  | tries + 1, place =>
    let room := min maxLength (data.size - i)
    let length := agreement data place i room
    let next := links.getD place 0
    let goesOn := i - maxDistance < next && next < place
    if best < length then
      let found := some ⟨length, place⟩
      if min niceLength (data.size - i) ≤ length then found
      else if goesOn then longestFrom data links i length found tries next
      else found
    else if goesOn then longestFrom data links i best found tries next
    else found

/-- The repetition at `i` that is worth more than one of `before` bytes at the place before. -/
def matchAt? (data : Array UInt8) (links : Array Nat) (i before : Nat) : Option Match :=
  let place := links.getD i 0
  if place = 0 ∨ i ≤ place ∨ maxDistance < i - place ∨ lazyLength ≤ before then none
  else
    let tries := if goodLength ≤ before then maxTries / 4 else maxTries
    match longestFrom data links i (max before (minLength - 1)) none tries place with
    | some m => if m.length = minLength ∧ farDistance < i - m.place then none else some m
    | none => none

/-- The symbols of the data from `i` on.  `pending` is the repetition at the place before, and
`isHeld` says that the byte there is not taken yet; `steps` bounds the number of symbols. -/
def symbolsFrom (data : Array UInt8) (links : Array Nat) :
    Nat → Nat → Bool → Option Match → List Symbol
  | 0, _, _, _ => []
  | steps + 1, i, isHeld, pending =>
    let held : List Symbol := if isHeld then [.literal (data.getD (i - 1) 0)] else []
    if data.size ≤ i then held
    else
      match pending, matchAt? data links i ((pending.map (·.length)).getD (minLength - 1)) with
      | some m, none =>
        .copy m.length (i - 1 - m.place) ::
          symbolsFrom data links steps (i - 1 + m.length) false none
      | _, better => held ++ symbolsFrom data links steps (i + 1) true better

/-- The symbols of the data. -/
def symbolsOf (bytes : Bytes) : List Symbol :=
  let data := bytes.toArray
  symbolsFrom data (linksOf data) (data.size + 1) 0 false none

end SourceAtlas.Deflate
