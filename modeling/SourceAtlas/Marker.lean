import SourceAtlas.Text.Blank
import SourceAtlas.Text.Line
import SourceAtlas.Text.Lower
import SourceAtlas.Text.Word

/-!
# Markers in comments

A marker such as `TODO` counts when it follows a comment opener, perhaps after white space, and
ends where a word ends.  Each line yields at most one marker: the one after the leftmost opener
that has one, after the longest white space that leads to one, and there the first in the order in
which the markers are given.
-/

namespace SourceAtlas

open Text

/-- A marker comment that was found: which marker, on which line, and its note. -/
structure Marker where
  type : Text
  line : Nat
  note : Text
  deriving DecidableEq, Repr

namespace Marker

/-- What opens a comment. -/
def openers : List Text := ["#".toList, "//".toList, "/*".toList, "*".toList]

/-- What follows the opener that a text begins with. -/
def afterOpener? (t : Text) : Option Text := openers.findSome? fun o => dropLead? o t

/-- The first of the markers that begins the text and ends where a word ends; `before` is the
character in front of the text. -/
def markerAt? (markers : List Text) (before : Option Char) (t : Text) : Option (Text × Text) :=
  markers.findSome? fun m => do
    let rest ← dropLead? m t
    let last := if m = [] then before else m.getLast?
    if isWordBoundary last rest.head? then some (m, rest) else none

/-- The marker after the longest white space that one follows. -/
def markerAfterBlanks? (markers : List Text) (before : Option Char) : Text → Option (Text × Text)
  | [] => markerAt? markers before []
  | c :: cs =>
    let later := if isBlank c then markerAfterBlanks? markers (some c) cs else none
    later.or (markerAt? markers before (c :: cs))

/-- The marker that the text opens with, behind a comment opener. -/
def markerHere? (markers : List Text) (t : Text) : Option (Text × Text) := do
  let rest ← afterOpener? t
  let opener := t.take (t.length - rest.length)
  markerAfterBlanks? markers opener.getLast? rest

/-- The leftmost marker of a line, and what follows it. -/
def inLine? (markers : List Text) : Text → Option (Text × Text)
  | [] => none
  | c :: cs => (markerHere? markers (c :: cs)).or (inLine? markers cs)

/-- The note after a marker: one colon, the white space around and one comment closer at the end of
the line do not belong to it. -/
def noteOf (rest : Text) : Text :=
  let body := trimStart ((dropLead? [':'] rest).getD rest)
  trimEnd ((dropTail? "*/".toList body).getD body)

/-- The markers of numbered lines. -/
def ofLines (markers : List Text) : Nat → List Text → List Marker
  | _, [] => []
  | n, l :: ls =>
    match inLine? markers l with
    | some (type, rest) => ⟨type, n, noteOf rest⟩ :: ofLines markers (n + 1) ls
    | none => ofLines markers (n + 1) ls

/-- The markers of a text, line by line, lines counted from one. -/
def find (markers : List Text) (t : Text) : List Marker := ofLines markers 1 (lines t)

/-- The markers that are looked for: an ignored tag silences a marker of the same name in any
case. -/
def active (markers ignoredTags : List Text) : List Text :=
  let ignored := ignoredTags.map lower
  markers.filter fun m => !ignored.contains (lower m)

end Marker

end SourceAtlas
