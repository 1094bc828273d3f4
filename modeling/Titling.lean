import Titling.Dictionary
import Titling.Text.Occurrence
import Titling.Text.Blank
import Titling.Text.Word
import Titling.Text.Quoted
import Titling.CharacterReference.Decode
import Titling.Markup.Escape
import Titling.Decimal.Layout
import Titling.Value
import Titling.Markup.Loose
import Titling.Title.Pattern
import Titling.Title.Expression
import Titling.Title.Pass
import Titling.Json.Reader
import Titling.Catalog.Directory
import Titling.Catalog.Packaged
import Titling.Message.Pointer
import Titling.Message.Number
import Titling.Message.Format
import Titling.Message.Recorder
import Titling.Title.Session
import Titling.Markup.Shorthand
import Titling.Project.Settings
import Titling.Main
import Titling.Text.DecimalDigit
import Titling.Proofs.CharacterReference.Decode
import Titling.Proofs.Text.Occurrence
import Titling.Proofs.Markup.Escape
import Titling.Proofs.Dictionary
import Titling.Proofs.Markup.Element
import Titling.Proofs.Title.Expression
import Titling.Proofs.Title.Sides
import Titling.Proofs.CharacterReference.Overlong
import Titling.Proofs.Title.InlineText
import Titling.Proofs.Title.Answer
import Titling.Proofs.Title.Chained
import Titling.Proofs.Markup.Brackets
import Titling.Proofs.Title.Injection
import Titling.Proofs.Title.Pattern
import Titling.Proofs.Title.Segmentation
import Titling.Proofs.Markup.Run
import Titling.Proofs.Title.Substitution
import Titling.Proofs.Message.Latch
import Titling.Proofs.Title.Directive
import Titling.Proofs.Title.Session
import Titling.Proofs.Title.Recorded
import Titling.Proofs.Title.Warning
import Titling.Proofs.Markup.Unambiguous
import Titling.Proofs.Title.CarriedOut
import Titling.Proofs.Title.Variables
import Titling.Proofs.Title.Visible
import Titling.Proofs.Files.Path
import Titling.Proofs.Files.Tree
import Titling.Proofs.Catalog.Directory
import Titling.Proofs.Catalog.Lookup
import Titling.Proofs.Catalog.Shelf
import Titling.Proofs.Catalog.Calls
import Titling.Proofs.Markup.Merge
import Titling.Proofs.Files.Alike
import Titling.Proofs.Files.Removal
import Titling.Proofs.Catalog.Cleaned
import Titling.Proofs.Catalog.Languages
import Titling.Proofs.Text.Blank
import Titling.Proofs.Text.Parts
import Titling.Proofs.Title.Reference
import Titling.Proofs.Title.Form
import Titling.Proofs.Title.Template
import Titling.Proofs.Markup.Readings
import Titling.Proofs.Title.Accepted
import Titling.Proofs.Title.Literal
import Titling.Proofs.Title.Normal
import Titling.Proofs.Title.Renewed
import Titling.Proofs.Title.Shown
import Titling.Proofs.Context
import Titling.Proofs.Message.Bus
import Titling.Proofs.Message.Calls
import Titling.Proofs.Message.Plain
import Titling.Proofs.Project.Walks
import Titling.Proofs.CommandLine.Variables
import Titling.Proofs.CommandLine.Report
import Titling.Proofs.Catalog.Packaged
import Titling.Proofs.CommandLine.Title
import Titling.Proofs.Message.Template
import Titling.Proofs.Title.Failed
import Titling.Proofs.Markup.Loose
import Titling.Proofs.Markup.Replacements
import Titling.Proofs.Markup.Overrides
