import NoteVault.Calendar.Date
import NoteVault.Calendar.DateTime
import NoteVault.Calendar.Duration
import NoteVault.Calendar.DurationText
import NoteVault.Calendar.Fault
import NoteVault.Calendar.Iso
import NoteVault.Calendar.Pattern
import NoteVault.Command.Arguments
import NoteVault.Command.Basic
import NoteVault.Command.Check
import NoteVault.Command.Line
import NoteVault.Command.Sort
import NoteVault.Command.Tasks
import NoteVault.Frontmatter.Literal
import NoteVault.Frontmatter.Split
import NoteVault.Json.Basic
import NoteVault.Json.Read
import NoteVault.Line.InlineField
import NoteVault.Line.ListItem
import NoteVault.Link.Basic
import NoteVault.Link.Header
import NoteVault.Link.Title
import NoteVault.Link.WikiLink
import NoteVault.Main
import NoteVault.Note.Completion
import NoteVault.Note.Rewrite
import NoteVault.Note.Tasks
import NoteVault.Notice.Columns
import NoteVault.Notice.Emoji
import NoteVault.Notice.EmojiTable
import NoteVault.Notice.Markup
import NoteVault.Notice.Style
import NoteVault.Number.Basic
import NoteVault.Number.Binary64
import NoteVault.Number.Magnitude
import NoteVault.Number.Shortest
import NoteVault.Proofs.Calendar.Instant
import NoteVault.Proofs.Line.FieldLines
import NoteVault.Proofs.Line.FieldsUnder
import NoteVault.Proofs.Line.InlineField
import NoteVault.Proofs.Line.ListItem
import NoteVault.Proofs.Note.Block
import NoteVault.Proofs.Note.Completion
import NoteVault.Proofs.Note.Frame
import NoteVault.Proofs.Note.Outcome
import NoteVault.Proofs.Note.Overwrite
import NoteVault.Proofs.Note.Rewrite
import NoteVault.Proofs.Note.Splice
import NoteVault.Proofs.Note.Stamps
import NoteVault.Proofs.Note.StatusEdit
import NoteVault.Proofs.Note.StatusRun
import NoteVault.Proofs.Note.Tasks
import NoteVault.Proofs.Number.Exact
import NoteVault.Proofs.Order.Comparable
import NoteVault.Proofs.Order.Composition
import NoteVault.Proofs.Order.Equality
import NoteVault.Proofs.Order.Fields
import NoteVault.Proofs.Order.KeyOrder
import NoteVault.Proofs.Order.TotalPreorder
import NoteVault.Proofs.Store.Memory
import NoteVault.Proofs.Text.BareEnds
import NoteVault.Proofs.Text.LineEnds
import NoteVault.Proofs.Text.Lines
import NoteVault.Proofs.Text.Pattern
import NoteVault.Proofs.Text.Scan
import NoteVault.Proofs.Text.Strip
import NoteVault.Record.Basic
import NoteVault.Record.Link
import NoteVault.Record.Task
import NoteVault.Settings.Basic
import NoteVault.Settings.Load
import NoteVault.Store.Basic
import NoteVault.Store.FileTree
import NoteVault.Store.Files
import NoteVault.Store.Memory
import NoteVault.Task.Markdown
import NoteVault.Task.Nest
import NoteVault.Task.Node
import NoteVault.Text.Basic
import NoteVault.Text.Blank
import NoteVault.Text.CaseTable
import NoteVault.Text.Digit
import NoteVault.Text.Hex
import NoteVault.Text.Lines
import NoteVault.Text.Lower
import NoteVault.Text.Numeral
import NoteVault.Text.Printable
import NoteVault.Text.Quoted
import NoteVault.Text.Range
import NoteVault.Text.Scan
import NoteVault.Text.Utf8
import NoteVault.Text.Width
import NoteVault.Text.Word
import NoteVault.Toml.Basic
import NoteVault.Toml.Read
import NoteVault.Toml.Scalar
import NoteVault.Value.Basic
import NoteVault.Value.Display
import NoteVault.Value.Grouping
import NoteVault.Value.Inspect
import NoteVault.Value.Key
import NoteVault.Value.Order
import NoteVault.Value.Sorting
import NoteVault.Value.Tree
import NoteVault.Value.Truth
import NoteVault.Vault.Load
import NoteVault.Vault.Page
import NoteVault.Yaml.BlockScalar
import NoteVault.Yaml.Document
import NoteVault.Yaml.FlowScalar
import NoteVault.Yaml.Fold
import NoteVault.Yaml.Literal
import NoteVault.Yaml.Node
import NoteVault.Yaml.Token
import NoteVault.Proofs.Order.Sorting
import NoteVault.Proofs.Order.Grouping
import NoteVault.Proofs.Task.Walk
import NoteVault.Proofs.Task.Nest
import NoteVault.Proofs.Task.Forest
import NoteVault.Proofs.Task.Markdown
import NoteVault.Proofs.Store.Files
import NoteVault.Proofs.Note.Settled
import NoteVault.Proofs.Command.Check
import NoteVault.Proofs.Settings.Load
import NoteVault.Proofs.Command.CheckRun
import NoteVault.Proofs.Store.Paths
import NoteVault.Proofs.Store.Atomic
import NoteVault.Proofs.Store.Interchange
import NoteVault.Proofs.Link.Derivation
import NoteVault.Proofs.Command.Sort
import NoteVault.Proofs.Line.FieldUpdate
import NoteVault.Proofs.Link.Header
import NoteVault.Proofs.Link.SingleBlanks
import NoteVault.Proofs.Link.HeaderForm
import NoteVault.Proofs.Task.Record
import NoteVault.Proofs.Link.Markdown
import NoteVault.Proofs.Command.SortJson
import NoteVault.Proofs.Text.Words
import NoteVault.Proofs.Line.FieldPattern
import NoteVault.Proofs.Line.FieldRemoval
import NoteVault.Proofs.Line.FieldSpans
import NoteVault.Proofs.Task.FullyCompleted
import NoteVault.Proofs.Line.Grammar
import NoteVault.Proofs.Task.ByFile
import NoteVault.Proofs.Calendar.Fields
import NoteVault.Proofs.Value.Shape
import NoteVault.Proofs.Number.Integers
import NoteVault.Proofs.Value.Display
import NoteVault.Proofs.Calendar.DurationParts
import NoteVault.Proofs.Calendar.DurationSum
import NoteVault.Proofs.Calendar.DurationRender
import NoteVault.Proofs.Value.Tree
import NoteVault.Proofs.Calendar.IsoText
import NoteVault.Proofs.Link.Pattern
import NoteVault.Proofs.Frontmatter.Literal
import NoteVault.Proofs.Number.Rounding
import NoteVault.Proofs.Calendar.DurationBounds
import NoteVault.Proofs.Frontmatter.Meaning
