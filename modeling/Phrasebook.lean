import Phrasebook.Charset
import Phrasebook.CommandLine.Console
import Phrasebook.CommandLine.Grammar
import Phrasebook.CommandLine.Invocation
import Phrasebook.CommandLine.Parsing
import Phrasebook.CommandLine.Run
import Phrasebook.CommandLine.Usage
import Phrasebook.Datum
import Phrasebook.Diagnostic
import Phrasebook.Document.Entry
import Phrasebook.Document.Reader
import Phrasebook.Document.Source
import Phrasebook.Event
import Phrasebook.Failure
import Phrasebook.File.Disk
import Phrasebook.File.Path
import Phrasebook.File.Replacement
import Phrasebook.File.TextFile
import Phrasebook.Host
import Phrasebook.Json.Fault
import Phrasebook.Json.Reader
import Phrasebook.Json.Writer
import Phrasebook.Key.Basic
import Phrasebook.Key.Identifier
import Phrasebook.Key.Path
import Phrasebook.KeyModule.Comment
import Phrasebook.KeyModule.Emission
import Phrasebook.KeyModule.Member
import Phrasebook.KeyModule.Options
import Phrasebook.KeyModule.Stamp
import Phrasebook.KeyModule.Writer
import Phrasebook.KnownLocales
import Phrasebook.Language.Locale
import Phrasebook.Language.Reader
import Phrasebook.Language.Registry
import Phrasebook.LocalTexts
import Phrasebook.Lookup.Context
import Phrasebook.Lookup.Resolver
import Phrasebook.Main
import Phrasebook.Node.Basic
import Phrasebook.Node.Canonical
import Phrasebook.Node.Equality
import Phrasebook.Node.Graph
import Phrasebook.Node.Walk
import Phrasebook.Number.Binary64
import Phrasebook.Number.Decimal
import Phrasebook.Number.Integer
import Phrasebook.Number.Numeral
import Phrasebook.Problem
import Phrasebook.Proofs.Charset.Coverage
import Phrasebook.Proofs.Charset.Inventory
import Phrasebook.Proofs.CommandLine.ExitCodes
import Phrasebook.Proofs.CommandLine.Faults
import Phrasebook.Proofs.CommandLine.Stale
import Phrasebook.Proofs.CommandLine.Writing
import Phrasebook.Proofs.Diagnostic.LineStructure
import Phrasebook.Proofs.Display
import Phrasebook.Proofs.Document.Bytes
import Phrasebook.Proofs.Document.Encodable
import Phrasebook.Proofs.Document.Entry
import Phrasebook.Proofs.Document.Format
import Phrasebook.Proofs.Document.Notes
import Phrasebook.Proofs.Document.Objects
import Phrasebook.Proofs.Document.Parsed
import Phrasebook.Proofs.Document.Recursion
import Phrasebook.Proofs.Document.Refusal
import Phrasebook.Proofs.Document.Resemblance
import Phrasebook.Proofs.Document.Translation
import Phrasebook.Proofs.Document.Warnings
import Phrasebook.Proofs.Document.Writing
import Phrasebook.Proofs.Encodable
import Phrasebook.Proofs.File.Disk
import Phrasebook.Proofs.File.Replacement
import Phrasebook.Proofs.File.UntakenPath
import Phrasebook.Proofs.Json.Bounds
import Phrasebook.Proofs.Json.LongNumber
import Phrasebook.Proofs.Json.Nesting
import Phrasebook.Proofs.Json.Quote
import Phrasebook.Proofs.Key.Identifier
import Phrasebook.Proofs.Key.Path
import Phrasebook.Proofs.Key.Recapitalization
import Phrasebook.Proofs.Key.TitleCase
import Phrasebook.Proofs.KeyModule.Attributes
import Phrasebook.Proofs.KeyModule.Constants
import Phrasebook.Proofs.KeyModule.Declaration
import Phrasebook.Proofs.KeyModule.Emittable
import Phrasebook.Proofs.KeyModule.Indentation
import Phrasebook.Proofs.KeyModule.Lines
import Phrasebook.Proofs.KeyModule.NameClash
import Phrasebook.Proofs.KeyModule.PhysicalLines
import Phrasebook.Proofs.KeyModule.Reading
import Phrasebook.Proofs.KeyModule.RoundTrip
import Phrasebook.Proofs.KeyModule.Stamp
import Phrasebook.Proofs.Language.Configuration
import Phrasebook.Proofs.Language.LocaleMatching
import Phrasebook.Proofs.Language.Lookup
import Phrasebook.Proofs.Language.Registry
import Phrasebook.Proofs.Language.SystemLocale
import Phrasebook.Proofs.Loading
import Phrasebook.Proofs.Lookup.Addressing
import Phrasebook.Proofs.Lookup.History
import Phrasebook.Proofs.Lookup.Inverse
import Phrasebook.Proofs.Lookup.Modes
import Phrasebook.Proofs.Lookup.Overflow
import Phrasebook.Proofs.Lookup.Registered
import Phrasebook.Proofs.Lookup.Strict
import Phrasebook.Proofs.Node.Canonical
import Phrasebook.Proofs.Node.Equality
import Phrasebook.Proofs.Node.Inspection
import Phrasebook.Proofs.Node.Making
import Phrasebook.Proofs.Node.Place
import Phrasebook.Proofs.Node.Position
import Phrasebook.Proofs.Node.Sharing
import Phrasebook.Proofs.Node.Traversal
import Phrasebook.Proofs.Number.Binary64
import Phrasebook.Proofs.Number.Numeral
import Phrasebook.Proofs.Outcome
import Phrasebook.Proofs.Settings.Configuration
import Phrasebook.Proofs.Settings.Table
import Phrasebook.Proofs.Template.Concatenation
import Phrasebook.Proofs.Template.Literal
import Phrasebook.Proofs.Template.Overflow
import Phrasebook.Proofs.Text.Decoding
import Phrasebook.Proofs.Text.Encodable
import Phrasebook.Proofs.Text.Replacing
import Phrasebook.Proofs.Text.Split
import Phrasebook.Proofs.Text.Utf8
import Phrasebook.Proofs.Texts
import Phrasebook.Proofs.Unicode.CaseMapping
import Phrasebook.Settings.Basic
import Phrasebook.Settings.Fault
import Phrasebook.Settings.Load
import Phrasebook.Sha256
import Phrasebook.Template.Basic
import Phrasebook.Template.Fault
import Phrasebook.Template.Presentation
import Phrasebook.Template.Spec
import Phrasebook.Template.Substitution
import Phrasebook.Text.Basic
import Phrasebook.Text.CodePoint
import Phrasebook.Text.Quoted
import Phrasebook.Text.Taken
import Phrasebook.Text.Utf8
import Phrasebook.Toml.Fault
import Phrasebook.Toml.Reader
import Phrasebook.Toml.Scalar
import Phrasebook.Toml.Table
import Phrasebook.Tree
import Phrasebook.Unicode.Blank
import Phrasebook.Unicode.Case
import Phrasebook.Unicode.CaseMapping
import Phrasebook.Unicode.Category
import Phrasebook.Unicode.Digit
import Phrasebook.Unicode.Identifier
import Phrasebook.Unicode.Printable
import Phrasebook.Unicode.Ranges
import Phrasebook.Warning
