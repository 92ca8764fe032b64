import SourceAtlas.Xml.Scan

/-!
# Marks of the prolog

Outside the document element a document consists of comments, instructions and declarations, and a
declaration of names, literals and punctuation.  White space between them is skipped before a mark
is taken.
-/

namespace SourceAtlas.Xml

/-- What a name may be followed by in the content of an element type, or a closing bracket there. -/
inductive Repeat
  | once
  | optional
  | any
  | some
  deriving DecidableEq, Repr

/-- A mark of the prolog. -/
inductive Mark
  | comment
  | instruction
  | declaration (body : Text)
  | markup (keyword : Text)
  | elementStart
  | conditionStart
  | conditionEnd
  | literal (body : Text)
  | name (t : Text)
  | qualified (t : Text)
  | token (t : Text)
  | repeated (t : Text) (r : Repeat)
  | percent
  | parameter (name : Text)
  | pound (t : Text)
  | comma
  | bar
  | bracketOpen
  | bracketClose
  | parenOpen
  | parenClose (r : Repeat)
  | close
  deriving DecidableEq, Repr

/-- The kinds of names: without colon, with one, and what may be a token but no name. -/
inductive NameKind
  | plain
  | qualified
  | token
  deriving DecidableEq, Repr

/-- The mark of a name. -/
def NameKind.mark : NameKind → Text → Mark
  | .plain, t => .name t
  | .qualified, t => .qualified t
  | .token, t => .token t

/-- The repetition that a character stands for. -/
def repeat? : Char → Option Repeat
  | '?' => some .optional
  | '*' => some .any
  | '+' => some .some
  | _ => none

/-- A character that may follow a name. -/
def endsName (c : Char) : Bool := isSpace c || ['>', ')', ',', '|', '[', '%'].contains c

/-- A character of a name, a colon included. -/
def isWordChar (c : Char) : Bool := isNameChar c || c == ':'

/-- The kind of a word that begins as a name does: one colon inside makes it qualified, and a word
with more of them, or with one at its end, is only a token. -/
def NameKind.ofWord (word : Text) : NameKind :=
  match word.count ':' with
  | 0 => .plain
  | 1 => if word.getLast? = some ':' then .token else .qualified
  | _ => .token

/-- Takes a word; `kind` is what it can be by its first character. -/
def scanWord (kind : NameKind) (t : Text) : Except Stop (Mark × Text) := do
  let word := t.takeWhile isWordChar
  let rest := t.dropWhile isWordChar
  let isOpenEnded := kind = .plain && word.count ':' = 1 && word.getLast? = some ':'
  let kind := if kind = .token then kind else .ofWord word
  match rest with
  | [] => if isOpenEnded then throw .incomplete else return (kind.mark word, [])
  | c :: cs =>
    if endsName c then return (kind.mark word, rest)
    match repeat? c with
    | some r => if kind = .token then throw (.invalid rest) else return (.repeated word r, cs)
    | none => throw (.unexpected rest)

/-- Takes the part of a literal that follows its opening quote. -/
def scanLiteral (quote : Char) (t : Text) : Except Stop (Mark × Text) := do
  let (body, rest) ← scanQuoted t
  match rest with
  | [] => return (.literal body, [])
  | c :: _ =>
    if isSpace c || ['>', '%', '['].contains c then return (.literal body, rest)
    else throw (.invalid rest)
where
  scanQuoted : Text → Except Stop (Text × Text)
    | [] => .error .incomplete
    | c :: cs => do
      if c = quote then return ([], cs)
      checkChar (c :: cs)
      let (body, rest) ← scanQuoted cs
      return (c :: body, rest)

/-- Takes what follows a percent sign. -/
def scanPercent (t : Text) : Except Stop (Mark × Text) :=
  match t with
  | c :: _ =>
    if isSpace c || c = '%' then .ok (.percent, t)
    else do
      let (name, rest) ← scanName t
      match rest with
      | ';' :: rest => return (.parameter name, rest)
      | _ => throw (.unexpected rest)
  | [] => .error .incomplete

/-- Takes what follows a number sign. -/
def scanPound (t : Text) : Except Stop (Mark × Text) := do
  let (name, rest) ← scanName t
  match rest with
  | [] => return (.pound name, [])
  | c :: _ =>
    if isSpace c || [')', '>', '%', '|'].contains c then return (.pound name, rest)
    else throw (.unexpected rest)

/-- A character of a keyword. -/
def isKeywordChar (c : Char) : Bool := c.isAlpha || c == '_'

/-- Takes what follows the opening of a declaration. -/
def scanDeclaration (t : Text) : Except Stop (Mark × Text) :=
  match t with
  | '-' :: rest => (scanExactly '-' rest >>= scanComment).map (Mark.comment, ·)
  | '[' :: rest => .ok (.conditionStart, rest)
  | c :: _ =>
    if isKeywordChar c then
      let word := t.takeWhile isKeywordChar
      match t.dropWhile isKeywordChar with
      | [] => .error .incomplete
      | '%' :: rest =>
        match rest with
        | [] => .error .incomplete
        | d :: _ =>
          if isSpace d || d = '%' then .error (.invalid ('%' :: rest))
          else .ok (.markup word, '%' :: rest)
      | d :: rest => if isSpace d then .ok (.markup word, d :: rest) else .error (.invalid (d :: rest))
    else .error (.invalid t)
  | [] => .error .incomplete

/-- Takes what follows a closing parenthesis. -/
def scanParenClose (t : Text) : Except Stop (Mark × Text) :=
  match t with
  | [] => .ok (.parenClose .once, [])
  | c :: cs =>
    match repeat? c with
    | some r => .ok (.parenClose r, cs)
    | none =>
      if isSpace c || ['>', ',', '|', ')'].contains c then .ok (.parenClose .once, t)
      else .error (.invalid t)

/-- Takes what follows a closing bracket. -/
def scanBracketClose (t : Text) : Except Stop (Mark × Text) :=
  match t with
  | [']'] => .error .incomplete
  | ']' :: '>' :: rest => .ok (.conditionEnd, rest)
  | _ => .ok (.bracketClose, t)

/-- Takes a mark. -/
def scanMark (t : Text) : Except Stop (Mark × Text) :=
  match t with
  | [] => .error .incomplete
  | '"' :: rest => scanLiteral '"' rest
  | '\'' :: rest => scanLiteral '\'' rest
  | '<' :: '!' :: rest => scanDeclaration rest
  | '<' :: '?' :: rest =>
    (scanInstruction rest).map fun ((target, body), rest) =>
      (if target = declarationTarget then .declaration body else .instruction, rest)
  | ['<'] => .error .incomplete
  | '<' :: c :: rest =>
    if isNameStart c || 0x80 ≤ c.toNat then .ok (.elementStart, t)
    else .error (.invalid (c :: rest))
  | '%' :: rest => scanPercent rest
  | ',' :: rest => .ok (.comma, rest)
  | '[' :: rest => .ok (.bracketOpen, rest)
  | ']' :: rest => scanBracketClose rest
  | '(' :: rest => .ok (.parenOpen, rest)
  | ')' :: rest => scanParenClose rest
  | '|' :: rest => .ok (.bar, rest)
  | '>' :: rest => .ok (.close, rest)
  | '#' :: rest => scanPound rest
  | c :: _ =>
    if isNameStart c then scanWord .plain t
    else if isWordChar c then scanWord .token t
    else .error (.unexpected t)

end SourceAtlas.Xml
