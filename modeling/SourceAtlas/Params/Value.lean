import SourceAtlas.Text.Blank
import SourceAtlas.Text.Quoted

/-!
# Parameter values

Parameters come from outside with values of any kind.  A value can be written in two ways: as an
item of a list, where a text stands for itself, and as a literal, where a text is quoted.
-/

namespace SourceAtlas

/-- A value of a parameter.  A real number is an integer divided by a power of ten; a tuple is a list of
a fixed length. -/
inductive Value
  | null
  | flag (b : Bool)
  | integer (n : Int)
  | real (digits : Int) (places : Nat)
  | text (t : Text)
  | list (items : List Value)
  | tuple (items : List Value)
  | table (entries : List (Text × Value))
  deriving Repr, Inhabited

namespace Value

open Text

/-- The digits of a natural number without the zeros at its end, and how many zeros those were. -/
def dropZeros (fuel n : Nat) : Nat × Nat :=
  match fuel with
  | 0 => (n, 0)
  | fuel + 1 =>
    if n ≠ 0 ∧ n % 10 = 0 then
      let (m, zeros) := dropZeros fuel (n / 10)
      (m, zeros + 1)
    else (n, 0)

/-- A positive or zero real number in figures: positional unless it has more than sixteen digits
before the point or more than three zeros after it. -/
def realMagnitude (n places : Nat) : Text :=
  let (m, zeros) := dropZeros places n
  let digits := ofNat m
  let point : Int := digits.length + zeros - places
  if n = 0 then "0.0".toList
  else if point > 16 || point < -3 then
    let exponent := point - 1
    let mantissa :=
      match digits with
      | [] => []
      | [d] => [d]
      | d :: more => d :: '.' :: more
    let figures := ofNat exponent.natAbs
    mantissa ++ ['e', if exponent < 0 then '-' else '+'] ++
      List.replicate (2 - figures.length) '0' ++ figures
  else if point ≤ 0 then
    "0.".toList ++ List.replicate (-point).toNat '0' ++ digits
  else
    let whole := point.toNat
    let padded := digits ++ List.replicate (whole - digits.length) '0'
    let fraction := padded.drop whole
    padded.take whole ++ '.' :: (if fraction = [] then ['0'] else fraction)

/-- A real number in figures. -/
def realText (digits : Int) (places : Nat) : Text :=
  (if digits < 0 then ['-'] else []) ++ realMagnitude digits.natAbs places

mutual

/-- The value as a literal. -/
def literal : Value → Text
  | null => "None".toList
  | flag true => "True".toList
  | flag false => "False".toList
  | integer n => ofInt n
  | real digits places => realText digits places
  | text t => quoted t
  | list items => '[' :: join ", ".toList (literals items) ++ [']']
  | tuple items =>
    '(' :: join ", ".toList (literals items) ++ (if items.length = 1 then [',', ')'] else [')'])
  | table entries => '{' :: join ", ".toList (entryLiterals entries) ++ ['}']

/-- The literals of several values. -/
def literals : List Value → List Text
  | [] => []
  | v :: vs => literal v :: literals vs

/-- The literals of keys with their values. -/
def entryLiterals : List (Text × Value) → List Text
  | [] => []
  | (key, v) :: rest => (quoted key ++ ": ".toList ++ literal v) :: entryLiterals rest

end

/-- The value as an item: a text stands for itself. -/
def item : Value → Text
  | text t => t
  | v => literal v

/-- The name of the kind of value. -/
def kindName : Value → Text
  | null => "NoneType".toList
  | flag _ => "bool".toList
  | integer _ => "int".toList
  | real .. => "float".toList
  | text _ => "str".toList
  | list _ => "list".toList
  | tuple _ => "tuple".toList
  | table _ => "dict".toList

/-- The items of a list parameter.  Nothing means no item, a text is a list of one, and every entry
is cut at its commas; white space around an item and empty items are dropped. -/
def items? : Value → Option (List Text)
  | null => some []
  | text t => some (pieces [t])
  | list entries | tuple entries => some (pieces (entries.map item))
  | _ => none
where
  pieces (entries : List Text) : List Text :=
    (entries.flatMap fun e => (splitOn ',' e).map trim).filter (· ≠ [])

/-- A power of ten. -/
def powerOfTen : Nat → Int
  | 0 => 1
  | places + 1 => 10 * powerOfTen places

/-- A value that reads as a yes or a no: a flag, the numbers one and zero, or one of a few words in
any case. -/
def yesNo? : Value → Option Bool
  | flag b => some b
  | integer n => ofNumber n 0
  | real digits places => ofNumber digits places
  | text t =>
    let word := String.ofList (t.map Char.toLower)
    if word ∈ ["1", "on", "t", "true", "y", "yes"] then some true
    else if word ∈ ["0", "off", "f", "false", "n", "no"] then some false
    else none
  | _ => none
where
  ofNumber (digits : Int) (places : Nat) : Option Bool :=
    if digits = 0 then some false
    else if digits = powerOfTen places then some true
    else none

/-- A value that could have been a yes or a no by its kind: a text or a whole number. -/
def isWholeOrText : Value → Bool
  | integer _ => true
  | real digits places => digits % powerOfTen places = 0
  | text _ => true
  | _ => false

end Value

end SourceAtlas
