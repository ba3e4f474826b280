import DocSite.Decimal.Shortest
import DocSite.Json.Display
import DocSite.Json.Reader
import DocSite.Json.Value
import DocSite.Json.Writer
import DocSite.Source.Body
import DocSite.Source.Code
import DocSite.Source.Line
import DocSite.Source.Nesting
import DocSite.Text.Basic
import DocSite.Text.Letters
import DocSite.Text.Lines
import DocSite.Text.Quoted
import DocSite.Text.Range
import DocSite.Text.Word
import DocSite.Comment.Extract
import DocSite.Comment.Register
import DocSite.Doc.Basic
import DocSite.Signature.Checks
import DocSite.Signature.Parse
import DocSite.Container.Header
import DocSite.Container.Aggregate
import DocSite.Container.Enumeration
import DocSite.Doc.Extraction
import DocSite.Doc.Record
import DocSite.Index.Saved
import DocSite.Index.Search
import DocSite.Page.Comment
import DocSite.Page.Links
import DocSite.Page.Render
import DocSite.Files.Encoding
import DocSite.Files.Tree
import DocSite.Project.Detection
import DocSite.Project.Sources
import DocSite.Command.Arguments
import DocSite.Command.Run
import DocSite.Main
import DocSite.Doc.Caption
import DocSite.Doc.Shown
import DocSite.Index.Recorded
import DocSite.Proofs.Cursor.Extraction
import DocSite.Proofs.Comment.PrecedingRun
import DocSite.Proofs.Comment.Origin
import DocSite.Proofs.Canonical.Recovery
import DocSite.Proofs.Walk.Isolation
import DocSite.Proofs.Walk.Composition
import DocSite.Proofs.Doc.Growth
import DocSite.Proofs.Walk.Growth
import DocSite.Proofs.Source.Append
import DocSite.Proofs.Walk.OpenComment
import DocSite.Proofs.Walk.Invisible
import DocSite.Proofs.Signature.Names
import DocSite.Proofs.Walk.Spans
import DocSite.Proofs.Cursor.Layout
import DocSite.Proofs.Page.Anchors
import DocSite.Proofs.Layout.EnumBody
import DocSite.Proofs.Layout.AggregateBody
import DocSite.Proofs.Index.RoundTrip
import DocSite.Proofs.Page.Soundness
import DocSite.Proofs.Command.Repeated
import DocSite.Proofs.Source.Extent
import DocSite.Proofs.Walk.Place
import DocSite.Proofs.Walk.Extent
import DocSite.Proofs.Walk.Nested
import DocSite.Proofs.Comment.FieldDepth
import DocSite.Proofs.Comment.Declarations
import DocSite.Proofs.Signature.Printed
import DocSite.Proofs.Signature.Linkage
import DocSite.Proofs.Walk.Signatures
import DocSite.Proofs.Comment.Prose
import DocSite.Proofs.Comment.Wrapping
import DocSite.Proofs.Comment.Nesting
import DocSite.Proofs.Container.Values
import DocSite.Proofs.Container.Constants
import DocSite.Proofs.Comment.Operations
import DocSite.Proofs.Index.WellFormed
import DocSite.Proofs.Signature.Inert
import DocSite.Proofs.Files.Decoding
import DocSite.Proofs.Project.Directives
import DocSite.Proofs.Project.Collected
import DocSite.Proofs.Source.Splitting
import DocSite.Proofs.Source.CodeAlone
import DocSite.Proofs.Page.Linking
