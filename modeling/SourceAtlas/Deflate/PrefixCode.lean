import SourceAtlas.Text.Basic

/-!
# Prefix codes

A prefix code gives each symbol that occurs a word of bits so that no word begins another one.  The
code is determined by the lengths of its words: words of one length are consecutive numbers in the
order of their symbols, and shorter words come first.  The lengths come from joining the two
lightest trees until one is left; when that makes words too long, they are shortened at the cost of
shorter ones.
-/

namespace SourceAtlas.Deflate

/-- A tree of symbols. -/
inductive CodeTree
  | leaf (symbol : Nat)
  | join (left right : CodeTree)
  deriving DecidableEq, Repr, Inhabited

/-- A tree with the weight of its symbols and its height. -/
structure Weighted where
  weight : Nat
  height : Nat
  tree : CodeTree
  deriving DecidableEq, Repr, Inhabited

namespace Weighted

/-- A tree that is joined no later than the other: it is lighter, or as light and no higher. -/
def precedes (a b : Weighted) : Bool :=
  a.weight < b.weight || (a.weight == b.weight && a.height ≤ b.height)

/-- Two trees joined. -/
def join (a b : Weighted) : Weighted :=
  ⟨a.weight + b.weight, max a.height b.height + 1, .join a.tree b.tree⟩

/-- The lesser of two children of a heap, the first one if there is only one. -/
def lesserChild (heap : Array Weighted) (first : Nat) : Nat :=
  match heap[first]?, heap[first + 1]? with
  | some a, some b => if b.precedes a then first + 1 else first
  | _, _ => first

/-- Moves an item down from a place until no child precedes it; `depth` bounds the way. -/
def sink (item : Weighted) : Nat → Nat → Array Weighted → Array Weighted
  | 0, place, heap => heap.setIfInBounds place item
  | depth + 1, place, heap =>
    let child := lesserChild heap (2 * place + 1)
    match heap[child]? with
    | some lesser =>
      if item.precedes lesser then heap.setIfInBounds place item
      else sink item depth child (heap.setIfInBounds place lesser)
    | none => heap.setIfInBounds place item

/-- Puts an item at the top of a heap. -/
def replaceTop (item : Weighted) (heap : Array Weighted) : Array Weighted :=
  sink item heap.size 0 heap

/-- Orders items as a heap. -/
def heapOf (items : List Weighted) : Array Weighted :=
  let places := (List.range (items.length / 2)).reverse
  places.foldl (fun heap place => sink (heap.getD place default) heap.size place heap) items.toArray

/-- Joins the trees of a heap until one is left; also gives all trees that were joined, the first
ones first. -/
def joinAll : Nat → Array Weighted → List CodeTree → CodeTree × List CodeTree
  | 0, heap, joined => ((heap.getD 0 default).tree, joined.reverse)
  | count + 1, heap, joined =>
    if heap.size < 2 then ((heap.getD 0 default).tree, joined.reverse)
    else
      let first := heap.getD 0 default
      let shorter := replaceTop (heap.getD (heap.size - 1) default) heap.pop
      let second := shorter.getD 0 default
      joinAll count (replaceTop (first.join second) shorter)
        (second.tree :: first.tree :: joined)

end Weighted

namespace CodeTree

/-- The symbols of a tree with their depths, from a depth on. -/
def depths : CodeTree → Nat → List (Nat × Nat)
  | leaf s, depth => [(s, depth)]
  | join left right, depth => left.depths (depth + 1) ++ right.depths (depth + 1)

/-- How many nodes of a tree lie deeper than a limit. -/
def tooDeep (limit : Nat) : CodeTree → Nat → Nat
  | leaf _, depth => if limit < depth then 1 else 0
  | join left right, depth =>
    (if limit < depth then 1 else 0) + left.tooDeep limit (depth + 1) +
      right.tooDeep limit (depth + 1)

end CodeTree

/-- How many words there are of each length from zero on. -/
abbrev LengthCounts := List Nat

/-- Changes the number of words of a length. -/
def changeCount (counts : LengthCounts) (length : Nat) (f : Nat → Nat) : LengthCounts :=
  counts.modify length f

/-- The greatest length below a limit that some word has. -/
def longestBelow (counts : LengthCounts) : Nat → Nat
  | 0 => 0
  | length + 1 => if counts.getD length 0 = 0 then longestBelow counts length else length

/-- Makes room for words that were cut off at the limit: a shorter word becomes two longer ones, of
which one replaces a word of the limit. -/
def makeRoom (limit : Nat) : Nat → LengthCounts → LengthCounts
  | 0, counts => counts
  | rounds + 1, counts =>
    let length := longestBelow counts limit
    let counts := changeCount counts length (· - 1)
    let counts := changeCount counts (length + 1) (· + 2)
    makeRoom limit rounds (changeCount counts limit (· - 1))

/-- Gives symbols the lengths that are counted, the greatest ones first. -/
def assignLengths (counts : LengthCounts) : Nat → List Nat → List (Nat × Nat)
  | 0, _ => []
  | length + 1, symbols =>
    let n := counts.getD (length + 1) 0
    (symbols.take n).map (·, length + 1) ++ assignLengths counts length (symbols.drop n)

/-- The depths of the leaves of a tree, none greater than a limit; `joined` lists the trees in it,
the first joined ones first. -/
def limitedDepths (limit : Nat) (tree : CodeTree) (joined : List CodeTree) : List (Nat × Nat) :=
  let natural := tree.depths 0
  let excess := tree.tooDeep limit 0
  if excess = 0 then natural
  else
    let count (length : Nat) : Nat := (natural.filter fun p => min p.2 limit = length).length
    let counts := (List.range (limit + 1)).map count
    let leaves := joined.filterMap fun t =>
      match t with
      | .leaf s => some s
      | .join .. => none
    assignLengths (makeRoom limit ((excess + 1) / 2) counts) limit leaves

/-- The symbols that occur with their weights; with fewer than two, others are added as if they
occurred once. -/
def usedSymbols (weights : List Nat) : List (Nat × Nat) :=
  match weights.zipIdx.filter (·.1 ≠ 0) with
  | [] => [(1, 0), (1, 1)]
  | [(w, s)] => [(w, s), (1, if s < 2 then s + 1 else 0)]
  | used => used

/-- The lengths of the words of a code for symbols of given weights, none greater than a limit; a
symbol without word has length zero. -/
def codeLengths (limit : Nat) (weights : List Nat) : List Nat :=
  let used : List Weighted :=
    (usedSymbols weights).map fun (w, s) => { weight := w, height := 0, tree := .leaf s }
  let (tree, joined) := Weighted.joinAll used.length (Weighted.heapOf used) []
  (limitedDepths limit tree joined).foldl (fun lengths (s, n) => lengths.set s n)
    (weights.map fun _ => 0)

/-! ## Words -/

/-- The number of the first word of a length. -/
def firstWord (lengths : List Nat) : Nat → Nat
  | 0 => 0
  | length + 1 =>
    (firstWord lengths length + if length = 0 then 0 else lengths.count length) * 2

/-- The bits of a number, the highest first. -/
def highFirst (count value : Nat) : List Bool :=
  (List.range count).reverse.map fun i => value.testBit i

/-- The bits of a number, the lowest first. -/
def lowFirst (count value : Nat) : List Bool := (List.range count).map fun i => value.testBit i

/-- The words of symbols from the `s`-th on; `lengths` are all lengths. -/
def wordsFrom (lengths : List Nat) (s : Nat) : List Nat → List (List Bool)
  | [] => []
  | n :: ns =>
    let number := firstWord lengths n + (lengths.take s).count n
    (if n = 0 then [] else highFirst n number) :: wordsFrom lengths (s + 1) ns

/-- The words of a code with given lengths. -/
def wordsOf (lengths : List Nat) : Array (List Bool) := (wordsFrom lengths 0 lengths).toArray

end SourceAtlas.Deflate
