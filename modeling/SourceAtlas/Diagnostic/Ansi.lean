import SourceAtlas.Text.Basic

/-!
# Terminal colours

A styled text stands between an escape sequence that sets the colour and one that resets it.  A
sequence is the escape character, an opening bracket, any number of digits, semicolons and
question marks, and a letter; output without colour has none of them.
-/

namespace SourceAtlas.Ansi

/-- The escape character. -/
def escape : Char := Char.ofNat 27

/-- The colours that are used. -/
inductive Color
  | red
  | yellow
  deriving DecidableEq, Repr

/-- The number of a colour in an escape sequence. -/
def Color.code : Color → Text
  | .red => "31".toList
  | .yellow => "33".toList

/-- The text in a colour. -/
def paint (c : Color) (t : Text) : Text :=
  escape :: '[' :: c.code ++ 'm' :: t ++ escape :: "[0m".toList

/-- A character between the bracket and the letter of a sequence. -/
def isParameter (c : Char) : Bool := c.isDigit || c == ';' || c == '?'

/-- What follows the escape sequence that a text begins with. -/
def afterSequence? : Text → Option Text
  | c :: '[' :: body =>
    if c = escape then
      match body.dropWhile isParameter with
      | d :: rest => if d.isAlpha then some rest else none
      | [] => none
    else none
  | _ => none

theorem afterSequence?_length {t rest : Text} (h : afterSequence? t = some rest) :
    rest.length < t.length := by
  unfold afterSequence? at h
  split at h
  · next c body =>
      have hle : (body.dropWhile isParameter).length ≤ body.length :=
        (List.dropWhile_sublist _).length_le
      split at h
      · split at h
        · next d r hd =>
            split at h
            · simp only [Option.some.injEq] at h
              rw [hd] at hle
              rw [← h]
              simp only [List.length_cons] at hle ⊢
              omega
            · simp at h
        · simp at h
      · simp at h
  · simp at h

/-- The text without its escape sequences. -/
def strip (t : Text) : Text :=
  match h : afterSequence? t with
  | some rest =>
    have := afterSequence?_length h
    strip rest
  | none =>
    match t with
    | [] => []
    | c :: cs => c :: strip cs
termination_by t.length

end SourceAtlas.Ansi
