import SourceAtlas.Diagnostic.Event
import SourceAtlas.Text.Utf8

/-!
# Decoding source files

A source file is read as UTF-8 with malformed parts replaced.  Validation changes nothing in the
text; it reports a file that is not valid.
-/

namespace SourceAtlas

/-- The text of a source file, and the events that validation makes of its bytes. -/
def decodeSource (validate : Bool) (name : Text) (bytes : Bytes) : Text × List Event :=
  let events :=
    match validate, Utf8.firstMalformed bytes with
    | true, some m =>
      [⟨name ++ " is not valid UTF-8: ".toList ++ m.message, Event.errorPriority⟩]
    | _, _ => []
  (Utf8.decode bytes, events)

end SourceAtlas
