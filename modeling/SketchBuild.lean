import SketchBuild.BuildCache
import SketchBuild.Command.Words
import SketchBuild.Database.Artifact
import SketchBuild.Database.Merge
import SketchBuild.Database.Report
import SketchBuild.Decimal.Binary64
import SketchBuild.Decimal.Numeral
import SketchBuild.Decimal.Shortest
import SketchBuild.Diagnostic.Record
import SketchBuild.Diagnostic.Report
import SketchBuild.Diagnostic.Scan
import SketchBuild.Disk.Basic
import SketchBuild.Disk.Change
import SketchBuild.Disk.Snapshot
import SketchBuild.Disk.Walk
import SketchBuild.Entry
import SketchBuild.Failure
import SketchBuild.Flags.Include
import SketchBuild.Flags.Normal
import SketchBuild.Flags.Prefixed
import SketchBuild.Flags.Response
import SketchBuild.Journal
import SketchBuild.Json.Basic
import SketchBuild.Json.Reader
import SketchBuild.Json.Writer
import SketchBuild.Main
import SketchBuild.Options
import SketchBuild.Packages
import SketchBuild.Palette
import SketchBuild.Path.Basic
import SketchBuild.Path.Resolve
import SketchBuild.ProjectIndex
import SketchBuild.Properties
import SketchBuild.Settings
import SketchBuild.Storage
import SketchBuild.Table
import SketchBuild.Text.Basic
import SketchBuild.Text.Digit
import SketchBuild.Text.Lowercase
import SketchBuild.Text.Printable
import SketchBuild.Text.Utf8
import SketchBuild.Tool.Diagnostics
import SketchBuild.Tool.Invocation
import SketchBuild.Tool.Synchronize
import SketchBuild.Tool.Verify
import SketchBuild.Version
import SketchBuild.Proofs.BuildCache.Reconstruction
import SketchBuild.Proofs.BuildCache.SourceToken
import SketchBuild.Proofs.Command.Grammar
import SketchBuild.Proofs.Command.RoundTrip
import SketchBuild.Proofs.Database.Carry
import SketchBuild.Proofs.Database.Confined
import SketchBuild.Proofs.Database.Endings
import SketchBuild.Proofs.Database.Files
import SketchBuild.Proofs.Database.Forms
import SketchBuild.Proofs.Database.Incremental
import SketchBuild.Proofs.Database.Kept
import SketchBuild.Proofs.Database.Origin
import SketchBuild.Proofs.Database.Refusal
import SketchBuild.Proofs.Database.Repeat
import SketchBuild.Proofs.Database.Restore
import SketchBuild.Proofs.Database.RoundTrip
import SketchBuild.Proofs.Database.Stored
import SketchBuild.Proofs.Database.Upsert
import SketchBuild.Proofs.Database.WellFormed
import SketchBuild.Proofs.Database.Writing
import SketchBuild.Proofs.Decimal.Exact
import SketchBuild.Proofs.Decimal.Numeral
import SketchBuild.Proofs.Diagnostic.Leftmost
import SketchBuild.Proofs.Diagnostic.Lines
import SketchBuild.Proofs.Diagnostic.Noise
import SketchBuild.Proofs.Diagnostic.Reread
import SketchBuild.Proofs.Diagnostic.Sections
import SketchBuild.Proofs.Diagnostic.Visibility
import SketchBuild.Proofs.Disk.Change
import SketchBuild.Proofs.Disk.Walk
import SketchBuild.Proofs.Entry
import SketchBuild.Proofs.Flags.Agreement
import SketchBuild.Proofs.Flags.Cleared
import SketchBuild.Proofs.Flags.Ending
import SketchBuild.Proofs.Flags.Include
import SketchBuild.Proofs.Flags.Normal
import SketchBuild.Proofs.Flags.Prefixed
import SketchBuild.Proofs.Flags.Settling
import SketchBuild.Proofs.Flags.Spelling
import SketchBuild.Proofs.Flags.Splices
import SketchBuild.Proofs.Json.Nesting
import SketchBuild.Proofs.Json.Numbers
import SketchBuild.Proofs.Json.Reading
import SketchBuild.Proofs.Json.RoundTrip
import SketchBuild.Proofs.Json.Strings
import SketchBuild.Proofs.Path.Containment
import SketchBuild.Proofs.Path.Join
import SketchBuild.Proofs.Path.Location
import SketchBuild.Proofs.Path.Normal
import SketchBuild.Proofs.Path.Parts
import SketchBuild.Proofs.Path.Resolve
import SketchBuild.Proofs.Path.Tidy
import SketchBuild.Proofs.ProjectIndex
import SketchBuild.Proofs.Properties.Again
import SketchBuild.Proofs.Properties.Frame
import SketchBuild.Proofs.Properties.Includes
import SketchBuild.Proofs.Properties.Settled
import SketchBuild.Proofs.Properties.Target
import SketchBuild.Proofs.Storage.Document
import SketchBuild.Proofs.Storage.Reading
import SketchBuild.Proofs.Storage.Size
import SketchBuild.Proofs.Table
import SketchBuild.Proofs.Text.Ascii
