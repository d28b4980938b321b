import NamedExports.Batch
import NamedExports.CommandLine.Arguments
import NamedExports.CommandLine.Command
import NamedExports.Disk
import NamedExports.ExportList
import NamedExports.Failure
import NamedExports.Fallback
import NamedExports.Forms
import NamedExports.Host
import NamedExports.Json.Form
import NamedExports.Json.Printer
import NamedExports.Json.Reader
import NamedExports.Json.Record
import NamedExports.Json.Value
import NamedExports.Loading.Answer
import NamedExports.Loading.Loader
import NamedExports.Loading.Process
import NamedExports.Main
import NamedExports.Mode
import NamedExports.ModuleValue
import NamedExports.Name
import NamedExports.Number.Double
import NamedExports.Package.Exports
import NamedExports.Package.Search
import NamedExports.Package.Specifier
import NamedExports.Path
import NamedExports.Pool
import NamedExports.Proofs.Batch.Interleaving
import NamedExports.Proofs.Batch.Pausing
import NamedExports.Proofs.Disk
import NamedExports.Proofs.Disk.Canonical
import NamedExports.Proofs.ExportList
import NamedExports.Proofs.Fallback
import NamedExports.Proofs.Json.Forms
import NamedExports.Proofs.Json.Grammar
import NamedExports.Proofs.Json.Printing
import NamedExports.Proofs.Json.Reading
import NamedExports.Proofs.Json.Value
import NamedExports.Proofs.Loading.Answer
import NamedExports.Proofs.Package.Containment
import NamedExports.Proofs.Package.Looks
import NamedExports.Proofs.Package.Specifier
import NamedExports.Proofs.Package.Spelling
import NamedExports.Proofs.Name
import NamedExports.Proofs.Name.Binding
import NamedExports.Proofs.Path
import NamedExports.Proofs.Path.Segments
import NamedExports.Proofs.Report
import NamedExports.Proofs.Resolver
import NamedExports.Proofs.Resolver.CallChain
import NamedExports.Proofs.Scan.Attached
import NamedExports.Proofs.Scan.Attaching
import NamedExports.Proofs.Scan.CallMode
import NamedExports.Proofs.Scan.Changes
import NamedExports.Proofs.Scan.Condition
import NamedExports.Proofs.Scan.DeadParts
import NamedExports.Proofs.Scan.Emission
import NamedExports.Proofs.Scan.Exactness
import NamedExports.Proofs.Scan.Executions
import NamedExports.Proofs.Scan.Factories
import NamedExports.Proofs.Scan.Findings
import NamedExports.Proofs.Scan.Following
import NamedExports.Proofs.Scan.Forwarding
import NamedExports.Proofs.Scan.Hoisting
import NamedExports.Proofs.Scan.Immediate
import NamedExports.Proofs.Scan.Listing
import NamedExports.Proofs.Scan.Literals
import NamedExports.Proofs.Scan.Lookups
import NamedExports.Proofs.Scan.Merging
import NamedExports.Proofs.Scan.Origins
import NamedExports.Proofs.Scan.Reached
import NamedExports.Proofs.Scan.Regrouping
import NamedExports.Proofs.Scan.Residue
import NamedExports.Proofs.Scan.Separation
import NamedExports.Proofs.Scan.Shape
import NamedExports.Proofs.Scan.Sources
import NamedExports.Proofs.Scan.Untouched
import NamedExports.Proofs.Script.Declaring
import NamedExports.Proofs.Script.Nodes
import NamedExports.Proofs.Script.Renaming
import NamedExports.Proofs.Script.Restyling
import NamedExports.Proofs.Script.Standing
import NamedExports.Proofs.Settings.Precedence
import NamedExports.Proofs.Settings.Setting
import NamedExports.Proofs.Settings.Sources
import NamedExports.Proofs.Text.Cut
import NamedExports.Proofs.Text.Utf8
import NamedExports.Proofs.Text.WordTable
import NamedExports.Proofs.Trace
import NamedExports.Proofs.Traversal.Calls
import NamedExports.Proofs.Traversal.Discipline
import NamedExports.Proofs.Traversal.Limit
import NamedExports.Proofs.Traversal.Provenance
import NamedExports.Proofs.Traversal.Unfolding
import NamedExports.Report
import NamedExports.Request
import NamedExports.Resolver
import NamedExports.Scan.Bindings
import NamedExports.Scan.Condition
import NamedExports.Scan.Exports
import NamedExports.Scan.Findings
import NamedExports.Scan.Returns
import NamedExports.Scan.Shape
import NamedExports.Script.Lexer
import NamedExports.Script.Pattern
import NamedExports.Script.Program
import NamedExports.Script.Reader
import NamedExports.Script.Reader.Expression
import NamedExports.Script.Reader.Function
import NamedExports.Script.Reader.Statement
import NamedExports.Script.Regex
import NamedExports.Script.RegexProperty
import NamedExports.Script.Syntax
import NamedExports.Script.Token
import NamedExports.Settings
import NamedExports.Settings.Document
import NamedExports.Settings.Load
import NamedExports.Settings.Source
import NamedExports.Settings.Template
import NamedExports.Shell.Arithmetic
import NamedExports.Shell.Builtin
import NamedExports.Shell.Condition
import NamedExports.Shell.Format
import NamedExports.Shell.Pattern
import NamedExports.Shell.Reader
import NamedExports.Shell.Run
import NamedExports.Shell.Runner
import NamedExports.Shell.State
import NamedExports.Shell.Syntax
import NamedExports.Shell.Token
import NamedExports.Shell.Utility
import NamedExports.Text.Cut
import NamedExports.Text.IdentifierChars
import NamedExports.Text.Numeral
import NamedExports.Text.Utf8
import NamedExports.Text.WordTable
import NamedExports.Toml.Reader
import NamedExports.Toml.Scalar
import NamedExports.Toml.Value
import NamedExports.Trace
import NamedExports.Traversal
import NamedExports.Proofs.Scan.RestyledShape
import NamedExports.Proofs.Scan.Restyling
import NamedExports.Proofs.Scan.Building
import NamedExports.Proofs.Scan.Built
import NamedExports.Proofs.Json.Order
import NamedExports.Proofs.Package.Targets
import NamedExports.Proofs.Package.Patterns
import NamedExports.Proofs.Disk.Tree
import NamedExports.Proofs.Disk.Slashes
import NamedExports.Proofs.Package.Results
import NamedExports.Proofs.Package.Subpaths
import NamedExports.Proofs.ExportList.NormalForm
import NamedExports.Proofs.Settings.Merging
import NamedExports.Proofs.Settings.Validity
import NamedExports.Proofs.Report.Colors
import NamedExports.Proofs.Scan.ThreeValued
import NamedExports.Proofs.Disk.Writing
import NamedExports.Proofs.CommandLine.ExitCode
import NamedExports.Proofs.Script.Reading
import NamedExports.Proofs.Traversal.Encoding
