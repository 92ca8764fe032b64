import SourceAtlas.Diagnostic.Reporter
import SourceAtlas.Document.Previous
import SourceAtlas.Document.Sharing
import SourceAtlas.Path
import SourceAtlas.Xml.Writer

/-!
# Describing files in a document

The document has one element per file, in the order of the files.  Every file is counted and its
bytes are read on every run; its element is taken over from the earlier document when the digest of
the bytes is the same there, and made anew otherwise.
-/

namespace SourceAtlas

open Text Xml

/-- How files are described, where the earlier document is, and the directory that paths in the
document start from. -/
structure Describer where
  description : Description := {}
  earlier : Option Path := none
  root : Path
  deriving DecidableEq, Repr

/-- What came of describing files: what was signalled and logged on the way, and the document. -/
structure Describing (α : Type) where
  signals : List Signal := []
  log : List Text := []
  outcome : Except Fault α

namespace Describer

/-- The path of a file as the document gives it: below the root if it lies there. -/
def shownPath (d : Describer) (file : Path) : Text := ((file.relativeTo? d.root).getD file).text

/-- The element of a file with the given bytes, and the events on the way to it. -/
def itemOf (d : Describer) (includeSource : Bool) (previous : Previous) (file : Path)
    (bytes : Bytes) : Item × List Event :=
  let path := d.shownPath file
  match previous.unchanged? path (Md5.hexDigest bytes) with
  | some (place, e) =>
    (⟨some place, e⟩, [⟨"Reusing previous structure of ".toList ++ path, Event.debugPriority⟩])
  | none =>
    let (e, events) := d.description.fileElement includeSource path bytes
    (⟨none, e⟩, ⟨"Parsing ".toList ++ path, Event.infoPriority⟩ :: events)

/-- The elements of files. -/
def itemsOf (d : Describer) (ws : Workspace) (includeSource : Bool) (previous : Previous) :
    List Path → Describing (List Item)
  | [] => { outcome := .ok [] }
  | file :: files =>
    match ws.read file.text with
    | .error e => { signals := [.processed], outcome := .error (.ofFile e) }
    | .ok bytes =>
      let (item, events) := d.itemOf includeSource previous file bytes
      let rest := d.itemsOf ws includeSource previous files
      { signals := .processed :: events.map Signal.event ++ rest.signals
        outcome := rest.outcome.map (item :: ·) }

/-- The version of the form of documents. -/
def formVersion : Text := ['1']

/-- The root element of a document, still without files. -/
def rootElement (d : Description) (fingerprint : Text) : Element :=
  { name := .plain "project"
    attributes :=
      [(.plain "version", formVersion), (.plain "settings", fingerprint)] ++
        (if d.title = [] then [] else [(.plain "title", d.title)]) ++
        if d.visibility = [] then [] else [(.plain "visibility", join [','] d.visibility)] }

/-- The earlier document, unless everything is to be described anew. -/
def load (d : Describer) (ws : Workspace) (fingerprint : Text) : Except Fault Loading :=
  match d.earlier, d.description.force with
  | some path, false => Loading.ofPath ws path.text fingerprint
  | _, _ => .ok {}

/-- The fault of having nothing to describe. -/
def noFiles : Fault := .failure .noFiles "No parsable files were found.".toList

/-- The document of the given files. -/
def describe (d : Describer) (ws : Workspace) (includeSource : Bool) (files : List Path) :
    Describing Text :=
  if files.isEmpty then { outcome := .error noFiles }
  else
    let fingerprint := d.description.fingerprint includeSource
    match d.load ws fingerprint with
    | .error f => { outcome := .error f }
    | .ok loading =>
      let items := d.itemsOf ws includeSource loading.previous files
      let root := rootElement d.description fingerprint
      { signals := loading.events.map Signal.event ++ items.signals
        log := loading.log
        outcome := items.outcome.map fun items => (indentItems root items).write ++ ['\n'] }

end Describer

end SourceAtlas
