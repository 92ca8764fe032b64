/-!
# Texts and byte strings

Every string of this library is a list of characters, and every file content a list of bytes.
This module holds the few operations on them that the other modules share: splitting at a
character, joining, cutting off a known beginning or end, and writing numbers.
-/

namespace SourceAtlas

/-- A text is the list of its characters. -/
abbrev Text := List Char

/-- The content of a file. -/
abbrev Bytes := List UInt8

namespace Text

/-- The pieces between the occurrences of `sep`: one more piece than there are occurrences. -/
def splitOn (sep : Char) : Text → List Text
  | [] => [[]]
  | c :: cs =>
    if c = sep then [] :: splitOn sep cs
    else
      match splitOn sep cs with
      | [] => [[c]]
      | piece :: pieces => (c :: piece) :: pieces

theorem splitOn_ne_nil (sep : Char) (t : Text) : splitOn sep t ≠ [] := by
  cases t with
  | nil => simp [splitOn]
  | cons c cs =>
      unfold splitOn
      split
      · simp
      · split <;> simp

/-- The pieces one after the other, with `sep` between neighbours. -/
def join (sep : Text) : List Text → Text
  | [] => []
  | [t] => t
  | t :: ts => t ++ sep ++ join sep ts

/-- Joining with the separator undoes splitting at it. -/
theorem join_splitOn (sep : Char) (t : Text) : join [sep] (splitOn sep t) = t := by
  induction t with
  | nil => simp [splitOn, join]
  | cons c cs ih =>
      unfold splitOn
      split
      · next h =>
          cases hs : splitOn sep cs with
          | nil => exact absurd hs (splitOn_ne_nil sep cs)
          | cons p ps => rw [hs] at ih; simp [join, ih, h]
      · cases hs : splitOn sep cs with
        | nil => exact absurd hs (splitOn_ne_nil sep cs)
        | cons p ps =>
            rw [hs] at ih
            cases ps with
            | nil => simpa [join] using ih
            | cons q qs => simpa [join] using ih

/-- What follows `lead` in a text that begins with it. -/
def dropLead? : Text → Text → Option Text
  | [], t => some t
  | _ :: _, [] => none
  | l :: lead, c :: cs => if l = c then dropLead? lead cs else none

theorem dropLead?_eq_some_iff {lead t rest : Text} :
    dropLead? lead t = some rest ↔ t = lead ++ rest := by
  induction lead generalizing t with
  | nil => simp [dropLead?]
  | cons l lead ih =>
      cases t with
      | nil => simp [dropLead?]
      | cons c cs =>
          by_cases h : l = c
          · simp [dropLead?, h, ih]
          · simp [dropLead?, h, Ne.symm h]

/-- What precedes `tail` in a text that ends with it. -/
def dropTail? (tail t : Text) : Option Text :=
  (dropLead? tail.reverse t.reverse).map List.reverse

/-- A text that ends with the given one. -/
def endsWith (t tail : Text) : Bool := tail.isSuffixOf t

/-- A text that begins with the given one. -/
def startsWith (t lead : Text) : Bool := lead.isPrefixOf t

/-- The decimal digits of a number. -/
def ofNat (n : Nat) : Text := Nat.toDigits 10 n

/-- The decimal digits of an integer, with a minus sign before a negative one. -/
def ofInt : Int → Text
  | .ofNat n => ofNat n
  | .negSucc n => '-' :: ofNat (n + 1)

/-- `n` copies of a text. -/
def replicate (n : Nat) (t : Text) : Text := (List.replicate n t).flatten

/-- The lower-case hexadecimal digit of a number below sixteen. -/
def hexDigit (n : Nat) : Char := Nat.digitChar n

/-- At least `width` hexadecimal digits of a number. -/
def hex (width n : Nat) : Text :=
  let digits := Nat.toDigits 16 n
  List.replicate (width - digits.length) '0' ++ digits

/-- The text lies before the other in the order of the characters' code points. -/
def le (s t : Text) : Bool :=
  match s, t with
  | [], _ => true
  | _ :: _, [] => false
  | c :: s, d :: t => c < d || (c == d && le s t)

/-- The order of texts lifted to lists of texts, piece by piece. -/
def listLe (s t : List Text) : Bool :=
  match s, t with
  | [], _ => true
  | _ :: _, [] => false
  | a :: s, b :: t => if a = b then listLe s t else le a b

end Text

end SourceAtlas
