import SourceAtlas.Main
import SourceAtlas.Proofs.Xml.Decoding
import SourceAtlas.Proofs.Xml.Names
import SourceAtlas.Proofs.Xml.Escapes
import SourceAtlas.Proofs.Xml.Tags
import SourceAtlas.Proofs.Xml.Scopes
import SourceAtlas.Proofs.Xml.Content
import SourceAtlas.Proofs.Xml.Prefixes
import SourceAtlas.Proofs.Xml.Transport
import SourceAtlas.Proofs.Xml.Documents
import SourceAtlas.Proofs.Xml.RoundTrip
import SourceAtlas.Proofs.Outcomes
import SourceAtlas.Proofs.Xml.Acceptance
import SourceAtlas.Proofs.Document.Describing
import SourceAtlas.Proofs.Build.FileCount
import SourceAtlas.Proofs.Bytes.Base64
import SourceAtlas.Proofs.Document.Characters
import SourceAtlas.Proofs.Document.Fresh
import SourceAtlas.Proofs.Document.Recovery
import SourceAtlas.Proofs.Collecting
import SourceAtlas.Proofs.Document.Settings
import SourceAtlas.Proofs.Document.Reuse
import SourceAtlas.Proofs.Document.Incremental
import SourceAtlas.Proofs.Build.Incremental
import SourceAtlas.Proofs.Xml.Declared
import SourceAtlas.Proofs.Xml.Doctypes
import SourceAtlas.Proofs.Xml.Tokens
import SourceAtlas.Proofs.Xml.Naming
import SourceAtlas.Proofs.Xml.Reading
import SourceAtlas.Proofs.Document.WellFormed
import SourceAtlas.Proofs.Build.Endings
import SourceAtlas.Proofs.Build.Faults
import SourceAtlas.Proofs.Document.Unreadable
import SourceAtlas.Proofs.Build.Histories
import SourceAtlas.Proofs.Build.NullCharacters
import SourceAtlas.Proofs.Build.Independence
import SourceAtlas.Proofs.Build.Reporting
import SourceAtlas.Proofs.Bytes.Utf8
import SourceAtlas.Proofs.Document.Validation
import SourceAtlas.Proofs.FileSystem.Sound
import SourceAtlas.Proofs.FileSystem.Following
import SourceAtlas.Proofs.FileSystem.Reaching
import SourceAtlas.Proofs.FileSystem.Written
import SourceAtlas.Proofs.Gaining
import SourceAtlas.Proofs.Matching
import SourceAtlas.Proofs.Selecting
import SourceAtlas.Proofs.Document.Repetition
import SourceAtlas.Proofs.Build.Rebuilding
import SourceAtlas.Proofs.Build.Advice
import SourceAtlas.Proofs.FileSystem.Settling
import SourceAtlas.Proofs.Resolving
import SourceAtlas.Proofs.Selected
import SourceAtlas.Proofs.Marker.Sightings
import SourceAtlas.Proofs.Marker.Notes
import SourceAtlas.Proofs.Marker.Pattern
import SourceAtlas.Proofs.Marker.Finding
import SourceAtlas.Proofs.Lines
import SourceAtlas.Proofs.Params.Items
import SourceAtlas.Proofs.Document.Separation
import SourceAtlas.Proofs.Marker.Announcing
import SourceAtlas.Proofs.Ordering
import SourceAtlas.Proofs.Walking
import SourceAtlas.Proofs.Spelling
import SourceAtlas.Proofs.Bytes.Ascii
import SourceAtlas.Proofs.Marker.Positions
import SourceAtlas.Proofs.Marker.Padding
import SourceAtlas.Proofs.Document.Decoding
import SourceAtlas.Proofs.Descending
import SourceAtlas.Proofs.Collected
import SourceAtlas.Proofs.Offered
import SourceAtlas.Proofs.Relisting
import SourceAtlas.Proofs.Uniting
import SourceAtlas.Proofs.Widening
import SourceAtlas.Proofs.Asking
import SourceAtlas.Proofs.CommonDirectory
import SourceAtlas.Proofs.Glob.Parts
import SourceAtlas.Proofs.FileSystem.Beginnings
import SourceAtlas.Proofs.FileSystem.Splitting
import SourceAtlas.Proofs.Glob.Searching
import SourceAtlas.Proofs.Glob.Entries
import SourceAtlas.Proofs.Glob.Classes
import SourceAtlas.Proofs.Glob.Covering
import SourceAtlas.Proofs.Glob.Ignoring
import SourceAtlas.Proofs.Unlinked
import SourceAtlas.Proofs.LowerCase
import SourceAtlas.Proofs.Extensions
import SourceAtlas.Proofs.Xml.Alike
import SourceAtlas.Proofs.Document.Keeping
import SourceAtlas.Proofs.Diagnostic.Channels
import SourceAtlas.Proofs.Params.Grammar
import SourceAtlas.Proofs.Params.Revalidation
import SourceAtlas.Proofs.CommandLine.Agreement
import SourceAtlas.Proofs.RootTargets
import SourceAtlas.Proofs.Build.Requests
