import KeyScript.Check.Basic
import KeyScript.Check.Comparison
import KeyScript.Check.Page
import KeyScript.Config.File
import KeyScript.Config.Moment
import KeyScript.Config.Reader
import KeyScript.Config.Statement
import KeyScript.Config.Table
import KeyScript.Dictionary
import KeyScript.Editor.Completion
import KeyScript.Editor.Document
import KeyScript.Editor.Fix
import KeyScript.Editor.Highlight
import KeyScript.Exit
import KeyScript.Json.Decode
import KeyScript.Json.Parser
import KeyScript.Json.Value
import KeyScript.Main
import KeyScript.Markup.Construction.Adoption
import KeyScript.Markup.Construction.After
import KeyScript.Markup.Construction.Body
import KeyScript.Markup.Construction.Embedded
import KeyScript.Markup.Construction.Head
import KeyScript.Markup.Construction.Insertion
import KeyScript.Markup.Construction.Scope
import KeyScript.Markup.Construction.Select
import KeyScript.Markup.Construction.State
import KeyScript.Markup.Construction.Table
import KeyScript.Markup.Content
import KeyScript.Markup.Doctype
import KeyScript.Markup.Forest
import KeyScript.Markup.Name
import KeyScript.Markup.Node
import KeyScript.Markup.Reference
import KeyScript.Markup.ReferenceTable
import KeyScript.Markup.Select
import KeyScript.Markup.Selector.Basic
import KeyScript.Markup.Selector.Progression
import KeyScript.Markup.Selector.Reader
import KeyScript.Markup.Selector.Token
import KeyScript.Markup.Token
import KeyScript.Markup.Tree
import KeyScript.Pattern.Basic
import KeyScript.Pattern.CharSet
import KeyScript.Pattern.CharSets
import KeyScript.Pattern.Draft
import KeyScript.Pattern.Error
import KeyScript.Pattern.Factor
import KeyScript.Pattern.Grouping
import KeyScript.Pattern.Match
import KeyScript.Pattern.Parser
import KeyScript.Pattern.Piece
import KeyScript.Proofs.Check.Negation
import KeyScript.Proofs.Check.Parts
import KeyScript.Proofs.Editor.Agreement
import KeyScript.Proofs.Editor.Completions
import KeyScript.Proofs.Editor.Fixes
import KeyScript.Proofs.Editor.Hover
import KeyScript.Proofs.Editor.Indexes
import KeyScript.Proofs.Editor.Tokens
import KeyScript.Proofs.Json.Spelling
import KeyScript.Proofs.Markup.Elements
import KeyScript.Proofs.Markup.Marks
import KeyScript.Proofs.Markup.References
import KeyScript.Proofs.Report.Lines
import KeyScript.Proofs.Report.Rendering
import KeyScript.Proofs.Script.Accounting
import KeyScript.Proofs.Script.AnyCase
import KeyScript.Proofs.Script.ByLine
import KeyScript.Proofs.Script.Calls
import KeyScript.Proofs.Script.Caps
import KeyScript.Proofs.Script.Counts
import KeyScript.Proofs.Script.Decoding
import KeyScript.Proofs.Script.ErrorLines
import KeyScript.Proofs.Script.Indentation
import KeyScript.Proofs.Script.Joining
import KeyScript.Proofs.Script.LineByLine
import KeyScript.Proofs.Script.Lines
import KeyScript.Proofs.Script.Origin
import KeyScript.Proofs.Script.Parsing
import KeyScript.Proofs.Script.Printing
import KeyScript.Proofs.Script.Pruning
import KeyScript.Proofs.Script.Ranking
import KeyScript.Proofs.Script.Ranking.Division
import KeyScript.Proofs.Script.Ranking.Exchange
import KeyScript.Proofs.Script.Ranking.Heap
import KeyScript.Proofs.Script.Readings
import KeyScript.Proofs.Script.Searching
import KeyScript.Proofs.Script.Suggestions
import KeyScript.Proofs.Script.Transcript
import KeyScript.Proofs.Script.Unknown
import KeyScript.Proofs.Script.WellFormed
import KeyScript.Proofs.Server.Documents
import KeyScript.Proofs.Server.Effect
import KeyScript.Proofs.Server.Framing
import KeyScript.Proofs.Server.Replies
import KeyScript.Proofs.Server.Stream
import KeyScript.Proofs.Sketch.Escape
import KeyScript.Proofs.Sketch.Grammar
import KeyScript.Proofs.Sketch.HeldKeys
import KeyScript.Proofs.Sketch.Lossless
import KeyScript.Proofs.Sketch.Target
import KeyScript.Proofs.Sketch.Unquote
import KeyScript.Proofs.Text.Case
import KeyScript.Proofs.Text.Columns
import KeyScript.Proofs.Text.Cuts
import KeyScript.Proofs.Text.Distance
import KeyScript.Proofs.Text.Division
import KeyScript.Proofs.Text.Encoding
import KeyScript.Proofs.Text.Numeral
import KeyScript.Proofs.Text.Prefixes
import KeyScript.Proofs.Text.Runes
import KeyScript.Proofs.Text.Utf8
import KeyScript.Proofs.Text.WrittenWords
import KeyScript.Proofs.Tool.Diagnostics
import KeyScript.Proofs.Tool.Performing
import KeyScript.Proofs.Tool.Precedence
import KeyScript.Report.Page
import KeyScript.Script.Command
import KeyScript.Script.Decoder
import KeyScript.Script.Diagnostic
import KeyScript.Script.Key
import KeyScript.Script.Line
import KeyScript.Script.Ranking
import KeyScript.Script.Result
import KeyScript.Script.Vocabulary
import KeyScript.Server.Frame
import KeyScript.Server.Inbox
import KeyScript.Server.Reply
import KeyScript.Server.Request
import KeyScript.Server.Serve
import KeyScript.Server.Session
import KeyScript.Sink
import KeyScript.Sketch.Basic
import KeyScript.Sketch.Literal
import KeyScript.Sketch.Statement
import KeyScript.Sketch.Target
import KeyScript.Text.Bytes
import KeyScript.Text.Case
import KeyScript.Text.CaseTable
import KeyScript.Text.CategoryTable
import KeyScript.Text.Columns
import KeyScript.Text.Distance
import KeyScript.Text.Numeral
import KeyScript.Text.Printable
import KeyScript.Text.Property
import KeyScript.Text.Quoted
import KeyScript.Text.Rune
import KeyScript.Text.Words
import KeyScript.Text.WritingSystemTable
import KeyScript.Tool.CommandLine
import KeyScript.Tool.Flag
import KeyScript.Tool.Host
import KeyScript.Tool.Output
import KeyScript.Tool.Path
import KeyScript.Tool.Run
import KeyScript.Tool.Settings
import KeyScript.Tool.Watch
import KeyScript.Tool.Workspace
