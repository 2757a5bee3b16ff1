import TemplateWorkbench.Json.Basic
import TemplateWorkbench.Json.Writer
import TemplateWorkbench.Json.Reader
import TemplateWorkbench.Layout.Drag
import TemplateWorkbench.Layout.Panes
import TemplateWorkbench.Logging.Journal
import TemplateWorkbench.Logging.Message
import TemplateWorkbench.Markup.Basic
import TemplateWorkbench.Number.Complex
import TemplateWorkbench.Number.Double
import TemplateWorkbench.Number.Integer
import TemplateWorkbench.Number.Shortest
import TemplateWorkbench.Number.Reading
import TemplateWorkbench.Outline.Tree
import TemplateWorkbench.Page.Document
import TemplateWorkbench.Page.Script
import TemplateWorkbench.Page.StyleSheet
import TemplateWorkbench.Session.Basic
import TemplateWorkbench.Session.Config
import TemplateWorkbench.Session.Edit
import TemplateWorkbench.Settings.FileTree
import TemplateWorkbench.Settings.Storage
import TemplateWorkbench.Template.Attribute
import TemplateWorkbench.Template.Braces
import TemplateWorkbench.Template.Builtin
import TemplateWorkbench.Template.Call
import TemplateWorkbench.Template.Compile
import TemplateWorkbench.Template.Compile.Expression
import TemplateWorkbench.Template.Compile.Frame
import TemplateWorkbench.Template.Compile.Statement
import TemplateWorkbench.Template.Display
import TemplateWorkbench.Template.Environment
import TemplateWorkbench.Template.Evaluate
import TemplateWorkbench.Template.Execute
import TemplateWorkbench.Template.Fault
import TemplateWorkbench.Template.Filter
import TemplateWorkbench.Template.Filter.Basic
import TemplateWorkbench.Template.Filter.Number
import TemplateWorkbench.Template.Filter.Sequence
import TemplateWorkbench.Template.Filter.Stream
import TemplateWorkbench.Template.Filter.Text
import TemplateWorkbench.Template.Fold
import TemplateWorkbench.Template.Grammar.Basic
import TemplateWorkbench.Template.Grammar.Expression
import TemplateWorkbench.Template.Grammar.Statement
import TemplateWorkbench.Template.Iteration
import TemplateWorkbench.Template.Lexer
import TemplateWorkbench.Template.Library
import TemplateWorkbench.Template.Listing
import TemplateWorkbench.Template.Literal
import TemplateWorkbench.Template.Memory
import TemplateWorkbench.Template.Mention
import TemplateWorkbench.Template.Method
import TemplateWorkbench.Template.Operation
import TemplateWorkbench.Template.Program
import TemplateWorkbench.Template.Rendering
import TemplateWorkbench.Template.Report
import TemplateWorkbench.Template.Scope
import TemplateWorkbench.Template.Syntax
import TemplateWorkbench.Template.Test
import TemplateWorkbench.Template.Token
import TemplateWorkbench.Template.TokenList
import TemplateWorkbench.Template.Value
import TemplateWorkbench.Template.Value.Arithmetic
import TemplateWorkbench.Template.Value.Encode
import TemplateWorkbench.Template.Value.Equality
import TemplateWorkbench.Template.Value.Interpolation
import TemplateWorkbench.Template.Value.Missing
import TemplateWorkbench.Template.Value.Plain
import TemplateWorkbench.Template.Value.Presentation
import TemplateWorkbench.Template.Value.Pretty
import TemplateWorkbench.Template.Value.Printing
import TemplateWorkbench.Template.Value.Subscript
import TemplateWorkbench.Text.CharacterNames
import TemplateWorkbench.Text.Entity
import TemplateWorkbench.Text.Link
import TemplateWorkbench.Text.Lines
import TemplateWorkbench.Text.Quoted
import TemplateWorkbench.Text.Search
import TemplateWorkbench.Text.Unmarked
import TemplateWorkbench.Text.Utf8
import TemplateWorkbench.Text.Wrap
import TemplateWorkbench.Unicode.Character
import TemplateWorkbench.Unicode.Case
import TemplateWorkbench.Unicode.CaseTable
import TemplateWorkbench.Unicode.Identifier
import TemplateWorkbench.Unicode.Name
import TemplateWorkbench.Unicode.Name.Alphabets
import TemplateWorkbench.Unicode.Name.Ancient
import TemplateWorkbench.Unicode.Name.Asia
import TemplateWorkbench.Unicode.Name.East
import TemplateWorkbench.Unicode.Name.Forms
import TemplateWorkbench.Unicode.Name.Notation
import TemplateWorkbench.Unicode.Name.Pictures
import TemplateWorkbench.Unicode.Name.Scripts
import TemplateWorkbench.Unicode.Name.Signs
import TemplateWorkbench.Unicode.Name.Symbols
import TemplateWorkbench.Unicode.Normal
import TemplateWorkbench.Unicode.NormalTable
import TemplateWorkbench.Unicode.Printable
import TemplateWorkbench.View.Dispatch
import TemplateWorkbench.View.Outcome
import TemplateWorkbench.View.Mode
import TemplateWorkbench.View.Projection
import TemplateWorkbench.View.TemplateEngine
import TemplateWorkbench.Proofs.Template.Matches
import TemplateWorkbench.Proofs.Text.Lines
import TemplateWorkbench.Proofs.Template.Cutting
import TemplateWorkbench.Proofs.Results
import TemplateWorkbench.Proofs.Session.Freshness
import TemplateWorkbench.Proofs.Template.TokenSpans
import TemplateWorkbench.Proofs.Page.Panes
import TemplateWorkbench.Proofs.Json.Writing
import TemplateWorkbench.Proofs.Json.Members
import TemplateWorkbench.Proofs.Json.Reading
import TemplateWorkbench.Proofs.Settings.SavedFile
import TemplateWorkbench.Proofs.Settings.SettingsText
import TemplateWorkbench.Proofs.Settings.Refinement
import TemplateWorkbench.Proofs.Template.Alternation
import TemplateWorkbench.Proofs.Template.AlternationTree
import TemplateWorkbench.Proofs.Template.AlternationProgram
import TemplateWorkbench.Proofs.Template.Memory
import TemplateWorkbench.Proofs.Template.AlternationText
import TemplateWorkbench.Proofs.View.RenderView
import TemplateWorkbench.Proofs.Outline.Integers
import TemplateWorkbench.Proofs.Template.Display
import TemplateWorkbench.Proofs.Template.Grammar.Reading
import TemplateWorkbench.Proofs.Template.Grammar.Expressions
import TemplateWorkbench.Proofs.Template.Grammar.Statements
import TemplateWorkbench.Proofs.Template.Numerals
import TemplateWorkbench.Proofs.Template.Folding
import TemplateWorkbench.Proofs.Template.Compiling
import TemplateWorkbench.Proofs.View.Refusals
import TemplateWorkbench.Proofs.View.EngineViews
import TemplateWorkbench.Proofs.Page.Writing
import TemplateWorkbench.Proofs.Template.Chain
import TemplateWorkbench.Proofs.Number.Digits
import TemplateWorkbench.Proofs.Number.Rounding
import TemplateWorkbench.Proofs.Number.Shortest
import TemplateWorkbench.Proofs.Number.Layout
import TemplateWorkbench.Proofs.Json.Depth
import TemplateWorkbench.Proofs.Json.Numbers
import TemplateWorkbench.Proofs.Json.RoundTrip
import TemplateWorkbench.Proofs.Settings.Answers
import TemplateWorkbench.Proofs.Settings.Keeping
import TemplateWorkbench.Proofs.Layout.Dragging
import TemplateWorkbench.Proofs.Settings.Interruption
import TemplateWorkbench.Proofs.Template.ChainProgram
import TemplateWorkbench.Proofs.Template.ChainText
import TemplateWorkbench.Proofs.Template.ChainFault
import TemplateWorkbench.Proofs.Layout.Seeding
import TemplateWorkbench.Proofs.Template.Grammar.Ending
import TemplateWorkbench.Proofs.Template.Renaming
import TemplateWorkbench.Proofs.View.Agreement
import TemplateWorkbench.Proofs.Template.ShownBlocks
import TemplateWorkbench.Proofs.View.Instructions
import TemplateWorkbench.Proofs.View.Calls
import TemplateWorkbench.Proofs.View.History
import TemplateWorkbench.Proofs.Text.Escaping
import TemplateWorkbench.Proofs.Markup.Reading
import TemplateWorkbench.Proofs.View.Fragments
import TemplateWorkbench.Proofs.Page.ScriptElement
import TemplateWorkbench.Proofs.Page.GuardedText
import TemplateWorkbench.Proofs.Page.LineTexts
import TemplateWorkbench.Proofs.Page.EmbeddedState
import TemplateWorkbench.Proofs.Layout.Restart
import TemplateWorkbench.Proofs.Settings.Attempts
import TemplateWorkbench.Proofs.Layout.Authority
import TemplateWorkbench.Proofs.Session.Announcements
import TemplateWorkbench.Proofs.Json.OneLine
import TemplateWorkbench.Proofs.Outline.Nodes
import TemplateWorkbench.Proofs.Outline.Parts
import TemplateWorkbench.Proofs.Template.SyntaxNodes
import TemplateWorkbench.Proofs.Template.Grammar.Reads
import TemplateWorkbench.Proofs.View.NodeView
import TemplateWorkbench.Proofs.Settings.Namespaces
import TemplateWorkbench.Proofs.Page.DisplayedTexts
import TemplateWorkbench.Proofs.Page.DecodedState
import TemplateWorkbench.Proofs.Template.CompiledAhead
import TemplateWorkbench.Proofs.Text.Quoting
import TemplateWorkbench.Proofs.Json.Forms
import TemplateWorkbench.Proofs.Template.Likeness
import TemplateWorkbench.Proofs.Template.SetOrder
import TemplateWorkbench.Proofs.Session.Batches
import TemplateWorkbench.Proofs.Template.QuotedLine
import TemplateWorkbench.Proofs.Session.GivenContext
import TemplateWorkbench.Proofs.Settings.FileFaults
import TemplateWorkbench.Proofs.Number.IntegerTexts
import TemplateWorkbench.Proofs.Session.Configuration
import TemplateWorkbench.Proofs.Text.Replacing
import TemplateWorkbench.Proofs.Template.LineEnds
import TemplateWorkbench.Proofs.Settings.CanonicalFile
