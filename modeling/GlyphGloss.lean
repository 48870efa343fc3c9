import GlyphGloss.Text.Columns
import GlyphGloss.Text.Printable
import GlyphGloss.Number.Binary64
import GlyphGloss.Number.Decimal
import GlyphGloss.Text.Quoted
import GlyphGloss.Number.Shortest
import GlyphGloss.Value.Basic
import GlyphGloss.Value.Printer
import GlyphGloss.Value.Reader
import GlyphGloss.Formula
import GlyphGloss.OrderedMap
import GlyphGloss.ErrorReport
import GlyphGloss.Rules.Setting
import GlyphGloss.Rules.Table
import GlyphGloss.Record.Basic
import GlyphGloss.Record.Check
import GlyphGloss.Composition
import GlyphGloss.Display.Field
import GlyphGloss.Display.Phrase
import GlyphGloss.Display.Table
import GlyphGloss.Lexicon
import GlyphGloss.Options.Basic
import GlyphGloss.Options.Keys
import GlyphGloss.Annotator
import GlyphGloss.Files.Path
import GlyphGloss.Round
import GlyphGloss.Files.Entry
import GlyphGloss.Files.Tree
import GlyphGloss.Files.Pieces
import GlyphGloss.Yaml.Cursor
import GlyphGloss.Yaml.Flow
import GlyphGloss.Yaml.Token
import GlyphGloss.Yaml.Document
import GlyphGloss.Yaml.Reader
import GlyphGloss.Tools
import GlyphGloss.Tools.Standard
import GlyphGloss.Event
import GlyphGloss.Failure
import GlyphGloss.Schema
import GlyphGloss.Dictionary.Basic
import GlyphGloss.Dictionary.Header
import GlyphGloss.Dictionary.Shelf
import GlyphGloss.Session.Basic
import GlyphGloss.Session.Build
import GlyphGloss.Session.Request
import GlyphGloss.CommandLine.Arguments
import GlyphGloss.CommandLine.Program
import GlyphGloss.Main
import GlyphGloss.Proofs.Composition
import GlyphGloss.Proofs.Options.Exclusion
import GlyphGloss.Proofs.Options.Dial
import GlyphGloss.Proofs.Round
import GlyphGloss.Proofs.Lexicon
import GlyphGloss.Proofs.Record.Joined
import GlyphGloss.Proofs.Alternates
import GlyphGloss.Proofs.Dictionary
import GlyphGloss.Proofs.Annotation
import GlyphGloss.Proofs.Rules.Table
import GlyphGloss.Proofs.Record.Check
import GlyphGloss.Proofs.Record.Written
import GlyphGloss.Proofs.Display
import GlyphGloss.Proofs.CommandLine
import GlyphGloss.Proofs.Formula
import GlyphGloss.Proofs.Rules.Setting
import GlyphGloss.Proofs.Session.RuleSource
import GlyphGloss.Proofs.Reporting.Run
import GlyphGloss.Proofs.Extraction
import GlyphGloss.Proofs.Session.RoundTrip
import GlyphGloss.Proofs.Schema
import GlyphGloss.Proofs.Record.Fields
import GlyphGloss.Proofs.Boundary
import GlyphGloss.Proofs.Verbosity
import GlyphGloss.Proofs.FirstAlternate
import GlyphGloss.Proofs.Options.Outside
import GlyphGloss.Proofs.Table
import GlyphGloss.Proofs.Codes
import GlyphGloss.Proofs.Sections
import GlyphGloss.Proofs.NormalForm
