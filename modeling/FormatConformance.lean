import FormatConformance.Check.Basic
import FormatConformance.Check.Deep
import FormatConformance.Check.Failure
import FormatConformance.CommandLine.Arguments
import FormatConformance.CommandLine.Listing
import FormatConformance.CommandLine.Session
import FormatConformance.Decimal.Shortest
import FormatConformance.Diff.Bisect
import FormatConformance.Diff.Edit
import FormatConformance.Diff.Patience
import FormatConformance.Diff.Slide
import FormatConformance.Diff.Unified
import FormatConformance.Engine.Basic
import FormatConformance.Engine.Pass
import FormatConformance.Engine.Program
import FormatConformance.Engine.Response
import FormatConformance.Engine.Ruled
import FormatConformance.Engine.Statements
import FormatConformance.Exceptions
import FormatConformance.FileTree
import FormatConformance.Fixture
import FormatConformance.Grammar
import FormatConformance.Harness.Examine
import FormatConformance.Harness.Render
import FormatConformance.Harness.Run
import FormatConformance.Harness.Setup
import FormatConformance.Json.Basic
import FormatConformance.Json.Fault
import FormatConformance.Json.Printer
import FormatConformance.Json.Reader
import FormatConformance.Json.Shape
import FormatConformance.Json.Skip
import FormatConformance.Main
import FormatConformance.Marker
import FormatConformance.Marker.Insertion
import FormatConformance.Marker.Removal
import FormatConformance.Options
import FormatConformance.Path
import FormatConformance.Plan
import FormatConformance.Settings
import FormatConformance.Shell.Arithmetic
import FormatConformance.Shell.Builtin
import FormatConformance.Shell.Expansion
import FormatConformance.Shell.Launch
import FormatConformance.Shell.Pattern
import FormatConformance.Shell.Print
import FormatConformance.Shell.Reader
import FormatConformance.Shell.Run
import FormatConformance.Shell.State
import FormatConformance.Shell.Syntax
import FormatConformance.Shell.Test
import FormatConformance.Snapshot.Directory
import FormatConformance.Snapshot.File
import FormatConformance.Snapshot.FileName
import FormatConformance.Snapshot.Key
import FormatConformance.Snapshot.Policy
import FormatConformance.Snapshot.Preferences
import FormatConformance.Snapshot.Record
import FormatConformance.Snapshot.Store
import FormatConformance.Specification
import FormatConformance.Text.Attached
import FormatConformance.Text.Basic
import FormatConformance.Text.Blank
import FormatConformance.Text.BreakClass
import FormatConformance.Text.ByteText
import FormatConformance.Text.Fill
import FormatConformance.Text.Hidden
import FormatConformance.Text.Letter
import FormatConformance.Text.LineBreak
import FormatConformance.Text.LineEnding
import FormatConformance.Text.Offset
import FormatConformance.Text.Search
import FormatConformance.Text.Unassigned
import FormatConformance.Text.Utf8
import FormatConformance.Text.Width
import FormatConformance.Tool.Basic
import FormatConformance.Tool.Catalogue
import FormatConformance.Tool.CharSet
import FormatConformance.Tool.Edit
import FormatConformance.Tool.Filter
import FormatConformance.Tool.Regex
import FormatConformance.Tool.Select
import FormatConformance.Workplace
import FormatConformance.Yaml.Basic
import FormatConformance.Yaml.Reader
import FormatConformance.Yaml.Scalar
import FormatConformance.Yaml.Scanner
import FormatConformance.Yaml.Tag
import FormatConformance.Yaml.Token
import FormatConformance.Yaml.Tokens
import FormatConformance.Proofs.Harness.Settlement
import FormatConformance.Proofs.Harness.Schedule
import FormatConformance.Proofs.Check.Passing
import FormatConformance.Proofs.Harness.Verdicts
import FormatConformance.Proofs.Check.Reasons
import FormatConformance.Proofs.Harness.Recording
import FormatConformance.Proofs.Engine.Agreement
import FormatConformance.Proofs.Harness.Interference
import FormatConformance.Proofs.Marker.Stripping
import FormatConformance.Proofs.Marker.Substitution
import FormatConformance.Proofs.Harness.FaithfulEngine
import FormatConformance.Proofs.Harness.SetupFaults
import FormatConformance.Proofs.Harness.Depth
import FormatConformance.Proofs.Snapshot.Numbering
import FormatConformance.Proofs.Snapshot.FileNames
import FormatConformance.Proofs.Plan.Companions
import FormatConformance.Proofs.Plan.Exclusions
import FormatConformance.Proofs.Options.RoundTrips
import FormatConformance.Proofs.Path.Spelling
import FormatConformance.Proofs.Plan.Spelling
import FormatConformance.Proofs.Harness.StrictDeclarations
import FormatConformance.Proofs.Fixture.Loading
import FormatConformance.Proofs.Harness.Consultation
import FormatConformance.Proofs.Harness.Conveyance
import FormatConformance.Proofs.CommandLine.Sessions
import FormatConformance.Proofs.Harness.Rejections
import FormatConformance.Proofs.CommandLine.Switches
import FormatConformance.Proofs.Text.FirstOccurrences
import FormatConformance.Proofs.Marker.Tokens
import FormatConformance.Proofs.Marker.FirstTokens
import FormatConformance.Proofs.Marker.Removal
import FormatConformance.Proofs.Marker.Restoring
import FormatConformance.Proofs.Marker.Insertion
import FormatConformance.Proofs.Marker.RoundTrips
import FormatConformance.Proofs.Text.Pieces
import FormatConformance.Proofs.Text.SpelledOut
import FormatConformance.Proofs.Check.Outputs
import FormatConformance.Proofs.Check.Probes
import FormatConformance.Proofs.Check.Settling
import FormatConformance.Proofs.Plan.Order
import FormatConformance.Proofs.Snapshot.Records
import FormatConformance.Proofs.Plan.Exceptions
import FormatConformance.Proofs.Json.Fields
import FormatConformance.Proofs.Snapshot.FirstTexts
import FormatConformance.Proofs.Steps
import FormatConformance.Proofs.Text.Boundaries
import FormatConformance.Proofs.Engine.AuthoredInput
import FormatConformance.Proofs.Path.LastParts
import FormatConformance.Proofs.Snapshot.CanonicalNames
