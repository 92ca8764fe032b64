import SourceAtlas.Text.Basic

/-!
# Similar texts

Two texts are as alike as their common parts are long: the longest common part, and in the same way
what lies before it and after it in both.  Texts are similar when their common parts make up at
least three fifths of both.
-/

namespace SourceAtlas.Text

/-- How far two texts agree from their beginnings. -/
def agreement : Text → Text → Nat
  | c :: s, d :: t => if c = d then agreement s t + 1 else 0
  | _, _ => 0

/-- A part that two texts have in common: where it begins in each, and its size. -/
structure CommonPart where
  left : Nat := 0
  right : Nat := 0
  size : Nat := 0
  deriving DecidableEq, Repr

/-- The longest common part; of several, the one that begins first in the left text and then in the
right one. -/
def longestCommonPart (s t : Text) : CommonPart :=
  (List.range s.length).foldl (fun best i =>
    (List.range t.length).foldl (fun best j =>
      let size := agreement (s.drop i) (t.drop j)
      if best.size < size then ⟨i, j, size⟩ else best) best) {}

/-- The size of all common parts; each one takes at least one character off the left text, so that
its length bounds their number. -/
def commonSize (s t : Text) : Nat := within s.length s t
where
  within : Nat → Text → Text → Nat
    | 0, _, _ => 0
    | fuel + 1, s, t =>
      let p := longestCommonPart s t
      if p.size = 0 then 0
      else
        within fuel (s.take p.left) (t.take p.right) + p.size +
          within fuel (s.drop (p.left + p.size)) (t.drop (p.right + p.size))

/-- The candidates that are similar to a text, at most three, the most alike first; of two that are
equally alike the later one in the order of texts comes first. -/
def similarTo (t : Text) (candidates : List Text) : List Text :=
  let scored := candidates.map fun c => (c, commonSize c t)
  let similar := scored.filter fun (c, size) => 3 * (c.length + t.length) ≤ 10 * size
  let before (a b : Text × Nat) : Bool :=
    let left := a.2 * (b.1.length + t.length)
    let right := b.2 * (a.1.length + t.length)
    right < left || (left = right && le b.1 a.1)
  ((similar.mergeSort before).take 3).map (·.1)

end SourceAtlas.Text
