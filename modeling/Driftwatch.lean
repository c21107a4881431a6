import Driftwatch.Command.Args
import Driftwatch.Command.Basic
import Driftwatch.Command.Program
import Driftwatch.Command.Run
import Driftwatch.Command.Switch
import Driftwatch.Config.Basic
import Driftwatch.Config.EnvFile
import Driftwatch.Config.Load
import Driftwatch.Config.Settings
import Driftwatch.Digest.Sha256
import Driftwatch.Error
import Driftwatch.Json.Reader
import Driftwatch.Json.Stored
import Driftwatch.Json.Value
import Driftwatch.Json.Writer
import Driftwatch.Main
import Driftwatch.Path
import Driftwatch.Report.Format
import Driftwatch.Report.Page
import Driftwatch.Report.Render
import Driftwatch.Report.Text
import Driftwatch.Scan.Changes
import Driftwatch.Scan.Cycle
import Driftwatch.Scan.Folder
import Driftwatch.Scan.History
import Driftwatch.Scan.Snapshot
import Driftwatch.Scan.Workspace
import Driftwatch.Source.Body
import Driftwatch.Source.Brace
import Driftwatch.Source.Cursor
import Driftwatch.Source.Declaration
import Driftwatch.Source.Entity
import Driftwatch.Source.Extract
import Driftwatch.Source.Form
import Driftwatch.Source.Kind
import Driftwatch.Source.Parameter
import Driftwatch.Source.Signature
import Driftwatch.Source.Stored
import Driftwatch.Store.Basic
import Driftwatch.Store.Disk
import Driftwatch.Store.Fault
import Driftwatch.Store.Memory
import Driftwatch.Store.PathMap
import Driftwatch.Text.Alphanumeric
import Driftwatch.Text.Blank
import Driftwatch.Text.CodeRanges
import Driftwatch.Text.Lines
import Driftwatch.Text.Literal
import Driftwatch.Text.Markup
import Driftwatch.Text.Number
import Driftwatch.Text.Offset
import Driftwatch.Text.Printable
import Driftwatch.Text.Quoted
import Driftwatch.Text.Raw
import Driftwatch.Text.Rounding
import Driftwatch.Text.Split
import Driftwatch.Text.Utf8
import Driftwatch.Text.Word
import Driftwatch.Time.Date
import Driftwatch.Time.Timestamp
import Driftwatch.Yaml.Decode
import Driftwatch.Yaml.Mark
import Driftwatch.Yaml.Node
import Driftwatch.Yaml.Scalar
import Driftwatch.Yaml.Token
import Driftwatch.Proofs.BraceMatching
import Driftwatch.Proofs.Splitting
import Driftwatch.Proofs.Extraction
import Driftwatch.Proofs.Signature
import Driftwatch.Proofs.Shift
import Driftwatch.Proofs.Comparison
import Driftwatch.Proofs.Decimal
import Driftwatch.Proofs.HistoryFile
import Driftwatch.Proofs.ScanRun
import Driftwatch.Proofs.InertText
import Driftwatch.Proofs.Indentation
import Driftwatch.Proofs.Openings
import Driftwatch.Proofs.WellFormed
import Driftwatch.Proofs.Persistence
import Driftwatch.Proofs.MethodSpans
import Driftwatch.Proofs.CycleEnding
import Driftwatch.Proofs.Decoding
import Driftwatch.Proofs.Listing
import Driftwatch.Proofs.OwnOutput
import Driftwatch.Proofs.Rescan
import Driftwatch.Proofs.Classification
import Driftwatch.Proofs.Fingerprints
import Driftwatch.Proofs.PageTags
import Driftwatch.Proofs.BodyBraces
import Driftwatch.Proofs.Continuation
import Driftwatch.Proofs.Reversal
import Driftwatch.Proofs.HistoryQueue
import Driftwatch.Proofs.Ancestors
import Driftwatch.Proofs.ScanContents
import Driftwatch.Proofs.Members
import Driftwatch.Proofs.AsyncArrows
import Driftwatch.Proofs.LineEndings
import Driftwatch.Proofs.Layers
import Driftwatch.Proofs.Parameters
import Driftwatch.Proofs.VisitOrder
import Driftwatch.Proofs.TextReport
import Driftwatch.Proofs.HistoryListing
import Driftwatch.Proofs.PlainStrings
import Driftwatch.Proofs.Repair
import Driftwatch.Proofs.ShownNames
