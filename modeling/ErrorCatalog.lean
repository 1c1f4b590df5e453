import ErrorCatalog.Binding.Basic
import ErrorCatalog.CommandLine.Command
import ErrorCatalog.CommandLine.Flags
import ErrorCatalog.CommandLine.Reach
import ErrorCatalog.CommandLine.Session
import ErrorCatalog.Disk.Basic
import ErrorCatalog.Disk.Fault
import ErrorCatalog.Disk.Path
import ErrorCatalog.Entry.Basic
import ErrorCatalog.Entry.Check
import ErrorCatalog.Failure
import ErrorCatalog.Generated.Errors
import ErrorCatalog.Generated.File
import ErrorCatalog.Generated.Handler
import ErrorCatalog.Generated.Middleware
import ErrorCatalog.Generated.Package
import ErrorCatalog.Generated.Types
import ErrorCatalog.Go.Comment
import ErrorCatalog.Go.Identifier
import ErrorCatalog.Go.Literal
import ErrorCatalog.Go.PackageName
import ErrorCatalog.Listing.Json
import ErrorCatalog.Listing.Table
import ErrorCatalog.Main
import ErrorCatalog.ProjectFile.Basic
import ErrorCatalog.ProjectFile.Document
import ErrorCatalog.ProjectFile.Fault
import ErrorCatalog.ProjectFile.Glyph
import ErrorCatalog.ProjectFile.Scalar
import ErrorCatalog.ProjectFile.Scan
import ErrorCatalog.ProjectFile.Token
import ErrorCatalog.Proofs.Binding.Declared
import ErrorCatalog.Proofs.Entry.Check
import ErrorCatalog.Proofs.Entry.Identifier
import ErrorCatalog.Proofs.Entry.Order
import ErrorCatalog.Proofs.Entry.Sources
import ErrorCatalog.Proofs.Generated.Acceptance
import ErrorCatalog.Proofs.Generated.CleanLines
import ErrorCatalog.Proofs.Generated.Confidential
import ErrorCatalog.Proofs.Generated.ErrorsReadBack
import ErrorCatalog.Proofs.Generated.ErrorsReader
import ErrorCatalog.Proofs.Generated.Outline
import ErrorCatalog.Proofs.Generated.PackageNames
import ErrorCatalog.Proofs.Go.FreeText
import ErrorCatalog.Proofs.Go.Identifier
import ErrorCatalog.Proofs.Go.Token
import ErrorCatalog.Proofs.Run.Stages
import ErrorCatalog.Proofs.Schema.Block
import ErrorCatalog.Proofs.Schema.Declared
import ErrorCatalog.Proofs.Schema.EntryLine
import ErrorCatalog.Proofs.Schema.RoundTrip
import ErrorCatalog.Proofs.SortedTable
import ErrorCatalog.Proofs.Text.Case
import ErrorCatalog.Proofs.Text.Control
import ErrorCatalog.Proofs.Text.Lines
import ErrorCatalog.Proofs.Text.Numeral
import ErrorCatalog.Proofs.Text.Scan
import ErrorCatalog.Proofs.Workspace
import ErrorCatalog.Registry
import ErrorCatalog.Run
import ErrorCatalog.Schema.Basic
import ErrorCatalog.Schema.EntryLine
import ErrorCatalog.SchemaCompiler
import ErrorCatalog.Settings.Basic
import ErrorCatalog.Settings.Options
import ErrorCatalog.SortedTable
import ErrorCatalog.Source
import ErrorCatalog.Starter
import ErrorCatalog.Text.Basic
import ErrorCatalog.Text.Blank
import ErrorCatalog.Text.Case
import ErrorCatalog.Text.Case.Table
import ErrorCatalog.Text.Digit
import ErrorCatalog.Text.Grapheme
import ErrorCatalog.Text.Grapheme.Table
import ErrorCatalog.Text.Ranges
import ErrorCatalog.Text.Utf8
import ErrorCatalog.Text.Words
import ErrorCatalog.Workspace
import ErrorCatalog.Proofs.Binding.LineEntries
import ErrorCatalog.Proofs.Binding.Tables
import ErrorCatalog.Proofs.Settings.Layers
import ErrorCatalog.Proofs.Settings.Options
import ErrorCatalog.Proofs.Generated.Frameworks
import ErrorCatalog.Proofs.Disk.Path
import ErrorCatalog.Proofs.Disk.Walk
import ErrorCatalog.Proofs.Disk.Ending
import ErrorCatalog.Proofs.Disk.Changes
import ErrorCatalog.Proofs.Disk.Directories
import ErrorCatalog.Proofs.Disk.Files
import ErrorCatalog.Proofs.Run.Effect
import ErrorCatalog.Proofs.Registry
import ErrorCatalog.Proofs.Run.Duplicates
import ErrorCatalog.Proofs.Go.LiteralValue
import ErrorCatalog.Proofs.CommandLine.Flags
import ErrorCatalog.Proofs.CommandLine.Command
import ErrorCatalog.Proofs.CommandLine.Printing
import ErrorCatalog.Proofs.CommandLine.OneShot
import ErrorCatalog.Proofs.Schema.UniqueParts
import ErrorCatalog.Proofs.Entry.FirstFault
import ErrorCatalog.Proofs.Entry.NormalForm
import ErrorCatalog.Proofs.Text.AsciiCase
import ErrorCatalog.Proofs.Binding.Scan
import ErrorCatalog.Proofs.Binding.LastMatch
import ErrorCatalog.Proofs.Binding.SignedCodes
import ErrorCatalog.Proofs.Disk.Tree
import ErrorCatalog.Proofs.Starter
import ErrorCatalog.Proofs.Run.Writing
import ErrorCatalog.Proofs.Go.PackageName
import ErrorCatalog.Proofs.Go.PackageWord
import ErrorCatalog.Proofs.Entry.Layout
import ErrorCatalog.Proofs.Run.LineDecoding
import ErrorCatalog.Proofs.Listing.Lossless
import ErrorCatalog.Proofs.Text.Ranges
import ErrorCatalog.Proofs.Run.Removals
