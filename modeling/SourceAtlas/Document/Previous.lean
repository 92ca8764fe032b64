import SourceAtlas.Document.FileElement
import SourceAtlas.Failure
import SourceAtlas.FileSystem.Lookup
import SourceAtlas.Xml.Reader

/-!
# The earlier document

Elements of files that did not change are taken over from the earlier document, if that was made
with the same settings.  A document that cannot be read, or that was made with other settings, is as
good as none; what was wrong is reported.
-/

namespace SourceAtlas

open Text Xml

/-- The elements of files in an earlier document in document order, each with its place. -/
structure Previous where
  entries : List (Address × Element) := []
  deriving Repr

namespace Previous

/-- The path that an element of a file gives. -/
def pathOf (e : Element) : Text := (e.attribute? pathKey).getD []

/-- The elements of files in a document, however deep. -/
def ofDocument (root : Element) : Previous :=
  ⟨(root.places []).filter fun p => p.2.name = fileName⟩

/-- The element of the file with a path, the last one if there are several. -/
def find? (p : Previous) (path : Text) : Option (Address × Element) :=
  p.entries.reverse.find? fun entry => pathOf entry.2 = path

/-- How many files the earlier document describes. -/
def size (p : Previous) : Nat := ((p.entries.map fun entry => pathOf entry.2).eraseDups).length

/-- The element of a file whose path and digest are as they were. -/
def unchanged? (p : Previous) (path digest : Text) : Option (Address × Element) :=
  match p.find? path with
  | some (place, e) => if e.attribute? hashKey = some digest then some (place, e) else none
  | none => none

end Previous

/-- What came of loading the earlier document: what was reported and logged, and the elements. -/
structure Loading where
  events : List Event := []
  log : List Text := []
  previous : Previous := {}

namespace Loading

/-- The event of a document that cannot be read. -/
def unreadable (message : Text) : Event :=
  ⟨"Existing structure could not be read, doing a full build: ".toList ++ message,
    Event.warningPriority⟩

/-- The event of a document that was made with other settings. -/
def settingsChanged : Event :=
  ⟨"Parser settings changed since the last build, doing a full build".toList,
    Event.infoPriority⟩

/-- The fault of an encoding that cannot be used. -/
def encodingFault (u : Encoding.Unusable) (name : Text) : Fault :=
  let failed (why : String) : Text :=
    "decoding with '".toList ++ name ++ "' codec failed (UnicodeError: ".toList ++ why.toList ++ [')']
  match u with
  | .unknown => ⟨.lookup, "unknown encoding: ".toList ++ name, none⟩
  | .ofBytes =>
    ⟨.lookup, "'".toList ++ name ++
      "' is not a text encoding; use codecs.decode() to handle arbitrary codecs".toList, none⟩
  | .multiByte => ⟨.value, "multi-byte encodings are not supported".toList, none⟩
  | .domainName =>
    ⟨.foreign "UnicodeError".toList, failed "Unsupported error handling replace", none⟩
  | .punycode =>
    ⟨.foreign "UnicodeDecodeError".toList,
      "'ascii' codec can't decode byte 0x80 in position 82: ordinal not in range(128)".toList, none⟩
  | .undefined => ⟨.foreign "UnicodeError".toList, failed "undefined encoding", none⟩

/-- Loads a document from its bytes, whose settings must have the given fingerprint. -/
def ofBytes (path fingerprint : Text) (bytes : Bytes) : Except Fault Loading :=
  match Xml.read bytes with
  | .error (.malformed message) => .ok { events := [unreadable message] }
  | .error (.unusableEncoding u name) => .error (encodingFault u name)
  | .ok root =>
    if root.attribute? "settings".toList = some fingerprint then
      let previous := Previous.ofDocument root
      .ok
        { log :=
            ["loaded ".toList ++ ofNat previous.size ++ " entries from ".toList ++ path]
          previous }
    else .ok { events := [settingsChanged] }

/-- Loads the document at a path, if there is a file. -/
def ofPath (ws : Workspace) (path fingerprint : Text) : Except Fault Loading := do
  if ← (ws.isKind Entry.isFile path).mapError .ofFile then
    ofBytes path fingerprint (← (ws.read path).mapError .ofFile)
  else return {}

end Loading

end SourceAtlas
