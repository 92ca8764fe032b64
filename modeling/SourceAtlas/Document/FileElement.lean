import SourceAtlas.Bytes.Base64
import SourceAtlas.Bytes.Md5
import SourceAtlas.Deflate.Stream
import SourceAtlas.Document.Decoding
import SourceAtlas.Document.Fingerprint
import SourceAtlas.Xml.Element

/-!
# The element of a file

A file is described by its path, the digest of its bytes, the name of the package, the markers in
its text, and its compressed bytes if sources are included.
-/

namespace SourceAtlas

open Xml

/-- The names in a document. -/
def fileName : Name := .plain "file"

/-- The key under which the path of a file stands. -/
def pathKey : Text := "path".toList

/-- The key under which the digest of a file stands. -/
def hashKey : Text := "hash".toList

/-- The element of a marker. -/
def Marker.element (m : Marker) : Element :=
  { name := .plain "marker"
    attributes := [(.plain "type", m.type), (.plain "line", Text.ofNat m.line)]
    text := m.note }

/-- The elements in that of a file that hold its markers; none without markers. -/
def markerElements (markers : List Marker) : List Element :=
  if markers.isEmpty then []
  else [{ name := .plain "markers", children := markers.map Marker.element }]

/-- The element that holds the compressed bytes of a file. -/
def sourceElement (bytes : Bytes) : Element :=
  { name := .plain "source", text := Base64.encode (Deflate.compress bytes) }

namespace Description

/-- The element of a file with the given path and bytes, and the events of its validation. -/
def fileElement (d : Description) (includeSource : Bool) (path : Text) (bytes : Bytes) :
    Element × List Event :=
  let (text, events) := decodeSource d.validate path bytes
  let element : Element :=
    { name := fileName
      attributes :=
        [(⟨[], pathKey⟩, path), (⟨[], hashKey⟩, Md5.hexDigest bytes),
          (.plain "package", d.packageName)]
      children :=
        markerElements (Marker.find d.activeMarkers text) ++
          if includeSource then [sourceElement bytes] else [] }
  (element, events)

end Description

end SourceAtlas
