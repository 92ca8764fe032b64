import SourceAtlas.Text.Basic
import SourceAtlas.Text.Printable
import SourceAtlas.Text.Utf8

/-!
# Quoted literals

A text in a message stands between quotes: single quotes, or double quotes when the text holds a
single but no double quote.  The quote itself, the backslash, and every character that is not
printable are written as escapes.
-/

namespace SourceAtlas.Text

/-- The quote that a text is written in. -/
def quoteFor (t : Text) : Char :=
  if t.contains '\'' && !t.contains '"' then '"' else '\''

/-- A character inside a literal with the given quotes. -/
def escapeIn (quote c : Char) : Text :=
  if c == quote || c == '\\' then ['\\', c]
  else if c == '\n' then "\\n".toList
  else if c == '\r' then "\\r".toList
  else if c == '\t' then "\\t".toList
  else if isPrintable c then [c]
  else if c.toNat < 0x100 then "\\x".toList ++ hex 2 c.toNat
  else if c.toNat < 0x10000 then "\\u".toList ++ hex 4 c.toNat
  else "\\U".toList ++ hex 8 c.toNat

/-- The text as a quoted literal. -/
def quoted (t : Text) : Text :=
  let quote := quoteFor t
  quote :: t.flatMap (escapeIn quote) ++ [quote]

/-- The longest beginning of at most `limit` bytes. -/
def takeBytes (limit : Nat) : Text → Text
  | [] => []
  | c :: cs => if c.utf8Size ≤ limit then c :: takeBytes (limit - c.utf8Size) cs else []

/-- The longest end of at most `limit` bytes. -/
def takeLastBytes (limit : Nat) (t : Text) : Text := (takeBytes limit t.reverse).reverse

/-- How many bytes a text takes. -/
def byteCount : Text → Nat
  | [] => 0
  | c :: t => c.utf8Size + byteCount t

/-- A long text is shown by its first 25 and its last 24 bytes, less what would cut a character. -/
def abbreviated (t : Text) : Text :=
  if byteCount t > 50 then takeBytes 25 t ++ "...".toList ++ takeLastBytes 24 t else t

end SourceAtlas.Text
