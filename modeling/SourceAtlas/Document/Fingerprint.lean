import SourceAtlas.Bytes.Md5
import SourceAtlas.Marker
import SourceAtlas.Options
import SourceAtlas.Text.Utf8

/-!
# Fingerprint of the settings

Descriptions of files can be taken over from an earlier document only when they were made with the
same settings.  The settings that shape a description are whether sources are included, the package
name and the active markers; the document carries the digest of a line that lists them.
-/

namespace SourceAtlas

namespace Description

/-- The markers that are looked for. -/
def activeMarkers (d : Description) : List Text := Marker.active d.markers d.ignoredTags

/-- The line that lists the settings. -/
def settingsLine (d : Description) (includeSource : Bool) : Text :=
  "source=".toList ++ (if includeSource then ['1'] else ['0']) ++
    ";package=".toList ++ d.packageName ++
    ";markers=".toList ++ Text.join [','] d.activeMarkers

/-- The fingerprint of the settings. -/
def fingerprint (d : Description) (includeSource : Bool) : Text :=
  Md5.hexDigest (Utf8.encode (d.settingsLine includeSource))

end Description

end SourceAtlas
