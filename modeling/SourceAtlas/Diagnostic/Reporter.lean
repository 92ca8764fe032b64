import SourceAtlas.Diagnostic.Event
import SourceAtlas.Diagnostic.Ansi

/-!
# Reporting to the operator

A reporter owns what is written for the operator during one run.  It works in one of two modes:
it shows events as lines, or it shows progress and drops them.  Output never goes to a terminal,
so a progress display is its label, written once when the display opens.
-/

namespace SourceAtlas

/-- What a run shows: event lines, or progress. -/
inductive Mode
  | verbose
  | progress
  deriving DecidableEq, Repr

/-- What a parsing collaborator tells its listener. -/
inductive Signal
  | event (e : Event)
  | processed
  deriving DecidableEq, Repr

/-- The state of the reporting of one run. -/
structure Reporter where
  mode : Mode
  verbosity : Verbosity := .normal
  colored : Bool := false
  displayOpen : Bool := false
  processed : Nat := 0
  written : Text := []
  deriving DecidableEq, Repr

namespace Reporter

/-- What precedes the message in an event line. -/
def indent : Text := "  ".toList

/-- The label of the progress display. -/
def progressLabel : Text := "Parsing files".toList

/-- The colour of a style. -/
def colorOf : Style → Option Ansi.Color
  | .error => some .red
  | .warning => some .yellow
  | .plain => none

/-- Writes a text; without colour, its escape sequences are left out. -/
def write (r : Reporter) (t : Text) : Reporter :=
  { r with written := r.written ++ (if r.colored then t else Ansi.strip t) }

/-- Writes a line. -/
def writeLine (r : Reporter) (t : Text) : Reporter := r.write (t ++ ['\n'])

/-- The line of an event. -/
def eventLine (e : Event) : Text :=
  indent ++ match colorOf e.style with
    | some c => Ansi.paint c e.message
    | none => e.message

/-- Shows an event, if the mode shows events and the verbosity this one. -/
def log (r : Reporter) (e : Event) : Reporter :=
  match r.mode with
  | .progress => r
  | .verbose => if e.isShown r.verbosity then r.writeLine (eventLine e) else r

/-- Counts a processed file, if the mode shows progress. -/
def countProcessed (r : Reporter) : Reporter :=
  match r.mode with
  | .progress => { r with processed := r.processed + 1 }
  | .verbose => r

/-- Passes a signal of the parsing collaborator on. -/
def receive (r : Reporter) : Signal → Reporter
  | .event e => r.log e
  | .processed => r.countProcessed

/-- Opens the progress display, if the mode has one and it is not open. -/
def start (r : Reporter) : Reporter :=
  match r.mode with
  | .progress =>
    if r.displayOpen then r else { r.writeLine progressLabel with displayOpen := true }
  | .verbose => r

/-- Closes the progress display. -/
def finish (r : Reporter) : Reporter :=
  match r.mode with
  | .progress => { r with displayOpen := false }
  | .verbose => r

end Reporter

end SourceAtlas
