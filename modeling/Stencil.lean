import Stencil.Bindings
import Stencil.Build.Basic
import Stencil.Build.Destination
import Stencil.Build.Draft
import Stencil.Build.Error
import Stencil.Build.Flag
import Stencil.Build.Load
import Stencil.CommandLine.Arguments
import Stencil.CommandLine.Error
import Stencil.CommandLine.Run
import Stencil.Decimal.Basic
import Stencil.Decimal.Double
import Stencil.Decimal.Layout
import Stencil.Environment
import Stencil.External
import Stencil.Files
import Stencil.Main
import Stencil.Pattern.CharSet
import Stencil.Pattern.Expr
import Stencil.Pattern.Matching
import Stencil.Pattern.Parser
import Stencil.Pattern.Program
import Stencil.Pattern.Splice
import Stencil.SourcePath
import Stencil.Standalone
import Stencil.Subscript
import Stencil.Template.Basic
import Stencil.Template.Compile
import Stencil.Template.Deferral
import Stencil.Template.Error
import Stencil.Template.Expansion
import Stencil.Template.Occurrence
import Stencil.Template.Reading
import Stencil.Template.Reference
import Stencil.Template.Report
import Stencil.Text.Cursor
import Stencil.Unicode.Age
import Stencil.Unicode.Binary
import Stencil.Unicode.Break
import Stencil.Unicode.CaseFold
import Stencil.Unicode.Category
import Stencil.Unicode.Property
import Stencil.Unicode.PropertyName
import Stencil.Unicode.Ranges
import Stencil.Unicode.Script
import Stencil.Unicode.ScriptExtensions
import Stencil.Unicode.Width
import Stencil.Yaml.Access
import Stencil.Yaml.Description
import Stencil.Yaml.Lexing
import Stencil.Yaml.Node
import Stencil.Yaml.Number
import Stencil.Yaml.Scalar
import Stencil.Yaml.Token
import Stencil.Yaml.Value
import Stencil.Proofs.Build.Checks
import Stencil.Proofs.Build.Destination
import Stencil.Proofs.Build.Flags
import Stencil.Proofs.Build.Layers
import Stencil.Proofs.Build.Names
import Stencil.Proofs.Build.Values
import Stencil.Proofs.Bytes.Agreement
import Stencil.Proofs.Bytes.Boundaries
import Stencil.Proofs.Bytes.Scanner
import Stencil.Proofs.Bytes.Source
import Stencil.Proofs.Bytes.Text
import Stencil.Proofs.CommandLine.Arguments
import Stencil.Proofs.CommandLine.CheckReport
import Stencil.Proofs.CommandLine.Expansion
import Stencil.Proofs.Environment.Distinct
import Stencil.Proofs.Environment.History
import Stencil.Proofs.Environment.Listing
import Stencil.Proofs.Path.Components
import Stencil.Proofs.Path.Decomposition
import Stencil.Proofs.Pattern.Anchored
import Stencil.Proofs.Pattern.Avoidance
import Stencil.Proofs.Pattern.Literal
import Stencil.Proofs.Pattern.Matches
import Stencil.Proofs.Pattern.Preference
import Stencil.Proofs.Pattern.Replacement
import Stencil.Proofs.Pattern.Runs
import Stencil.Proofs.Pattern.Weight
import Stencil.Proofs.Spelling.Canonical
import Stencil.Proofs.Spelling.Closed
import Stencil.Proofs.Spelling.Expansion
import Stencil.Proofs.Spelling.Piece
import Stencil.Proofs.Spelling.Reference
import Stencil.Proofs.Spelling.Segments
import Stencil.Proofs.Spelling.Source
import Stencil.Proofs.Spelling.Token
import Stencil.Proofs.Spelling.Writing
import Stencil.Proofs.Template.BareSearch
import Stencil.Proofs.Template.Blanks
import Stencil.Proofs.Template.Chunk
import Stencil.Proofs.Template.Deferral
import Stencil.Proofs.Template.Dependence
import Stencil.Proofs.Template.Erasure
import Stencil.Proofs.Template.Expansion
import Stencil.Proofs.Template.FaultLine
import Stencil.Proofs.Template.Faults
import Stencil.Proofs.Template.FormPattern
import Stencil.Proofs.Template.Injection
import Stencil.Proofs.Template.LiteralEdit
import Stencil.Proofs.Template.Lookups
import Stencil.Proofs.Template.Moved
import Stencil.Proofs.Template.Nesting
import Stencil.Proofs.Template.NormalForm
import Stencil.Proofs.Template.Occurrence
import Stencil.Proofs.Template.Printing
import Stencil.Proofs.Template.References
import Stencil.Proofs.Template.Search
import Stencil.Proofs.Template.Shadowing
import Stencil.Proofs.Template.Slices
import Stencil.Proofs.Template.Spans
import Stencil.Proofs.Template.Stability
import Stencil.Proofs.Text.Reads
import Stencil.Proofs.Text.Selection
import Stencil.Proofs.Unicode.Ranges
