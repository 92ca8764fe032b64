import SourceAtlas.CommandLine.Flag
import SourceAtlas.CommandLine.Misuse
import SourceAtlas.Text.Similarity

/-!
# Scanning arguments

Arguments are read from left to right.  One that begins with a dash holds flags: one by its name,
with its value after an equals sign, or any number by their letters, where what follows the letter
of a flag that takes a value is that value.  A value that is not there is the next argument,
whatever it looks like.  All other arguments are words; after two dashes there are only words.
-/

namespace SourceAtlas.CommandLine

open Text

/-- What one argument holds: flags, and after them perhaps one whose value is the next argument,
together with how it was written. -/
structure Cluster where
  occurrences : List Occurrence := []
  waiting : Option (Flag × Text) := none
  deriving DecidableEq, Repr

/-- Flags by their letters. -/
def readLetters (flags : List Flag) : Text → Except Misuse Cluster
  | [] => .ok {}
  | c :: rest =>
    match flags.find? (·.letter = some c) with
    | none => .error (.unknownFlag ['-', c] [] [])
    | some f =>
      if f.takesValue then
        if rest = [] then .ok { waiting := some (f, ['-', c]) }
        else .ok { occurrences := [⟨f, some rest⟩] }
      else
        (readLetters flags rest).map fun cluster =>
          { cluster with occurrences := ⟨f, none⟩ :: cluster.occurrences }

/-- A flag by its name as it is written, and the value that came with it. -/
def readNamed (f : Flag) (written : Text) : Option Text → Except Misuse Cluster
  | some value =>
    if f.takesValue then .ok { occurrences := [⟨f, some value⟩] }
    else .error (.unexpectedValue written)
  | none =>
    if f.takesValue then .ok { waiting := some (f, written) }
    else .ok { occurrences := [⟨f, none⟩] }

/-- An argument cut at its first equals sign. -/
def cutValue (argument : Text) : Text × Option Text :=
  (argument.takeWhile (· ≠ '='), (argument.dropWhile (· ≠ '=')).tail?)

/-- The flags in an argument that begins with a dash. -/
def readFlags (flags : List Flag) (argument : Text) : Except Misuse Cluster :=
  let (written, value) := cutValue argument
  match flags.find? (·.written = written) with
  | some f => readNamed f written value
  | none =>
    match argument with
    | '-' :: '-' :: _ =>
      .error (.unknownFlag written (similarTo written (flags.map Flag.written)) [])
    | _ => readLetters flags argument.tail

/-- An argument that holds no flags: one that begins with no dash, or a dash alone. -/
def isWord : Text → Bool
  | '-' :: _ :: _ => false
  | _ => true

/-- The flags and the words in arguments.  Unless flags may come after words, all that follows the
first word is words. -/
def scan (flags : List Flag) (flagsAfterWords : Bool) :
    List Text → Except Misuse (List Occurrence × List Text)
  | [] => .ok ([], [])
  | argument :: rest =>
    if argument = ['-', '-'] then .ok ([], rest)
    else if isWord argument then
      if flagsAfterWords then
        (scan flags flagsAfterWords rest).map fun (os, words) => (os, argument :: words)
      else .ok ([], argument :: rest)
    else
      match readFlags flags argument with
      | .error m => .error m
      | .ok ⟨os, none⟩ =>
        (scan flags flagsAfterWords rest).map fun (more, words) => (os ++ more, words)
      | .ok ⟨os, some (f, written)⟩ =>
        match rest with
        | [] => .error (.missingValue written)
        | value :: rest =>
          (scan flags flagsAfterWords rest).map fun (more, words) =>
            (os ++ ⟨f, some value⟩ :: more, words)

end SourceAtlas.CommandLine
