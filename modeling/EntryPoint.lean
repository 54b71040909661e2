import EntryPoint.Arguments.Grammar
import EntryPoint.Arguments.Help
import EntryPoint.Arguments.Request
import EntryPoint.Association
import EntryPoint.Chain
import EntryPoint.Command
import EntryPoint.Console
import EntryPoint.Console.Emoji
import EntryPoint.Console.Handler
import EntryPoint.Console.Markup
import EntryPoint.Console.StyleName
import EntryPoint.Decimal.Binary64
import EntryPoint.Decimal.Shortest
import EntryPoint.Document.Content
import EntryPoint.Document.Json.Reader
import EntryPoint.Document.Json.Writer
import EntryPoint.Document.Moment
import EntryPoint.Document.Value
import EntryPoint.Document.Yaml.Binary
import EntryPoint.Document.Yaml.Cursor
import EntryPoint.Document.Yaml.Flaw
import EntryPoint.Document.Yaml.Node
import EntryPoint.Document.Yaml.Number
import EntryPoint.Document.Yaml.Reader
import EntryPoint.Document.Yaml.Scalar
import EntryPoint.Document.Yaml.Tag
import EntryPoint.Document.Yaml.Token
import EntryPoint.Document.Yaml.Token.Lexer
import EntryPoint.Document.Yaml.Token.Property
import EntryPoint.Failure
import EntryPoint.FileTree
import EntryPoint.Host
import EntryPoint.Main
import EntryPoint.Module.Library
import EntryPoint.Module.References
import EntryPoint.Module.Wrapper
import EntryPoint.Options
import EntryPoint.Path
import EntryPoint.Program
import EntryPoint.Program.Configuring
import EntryPoint.Program.Rendering
import EntryPoint.Program.Report
import EntryPoint.Proofs.Arguments.Manner
import EntryPoint.Proofs.Association
import EntryPoint.Proofs.Callback.CommandText
import EntryPoint.Proofs.Callback.Dispatch
import EntryPoint.Proofs.Callback.Execution
import EntryPoint.Proofs.Callback.Names
import EntryPoint.Proofs.Callback.Printing
import EntryPoint.Proofs.Callback.Refusal
import EntryPoint.Proofs.Callback.Remainder
import EntryPoint.Proofs.Chain
import EntryPoint.Proofs.Chain.Text
import EntryPoint.Proofs.Console.Diagnostics
import EntryPoint.Proofs.Console.Emoji
import EntryPoint.Proofs.Console.Markup
import EntryPoint.Proofs.Console.Terminal
import EntryPoint.Proofs.Console.Unmarked
import EntryPoint.Proofs.Document.Json.Keys
import EntryPoint.Proofs.Document.Json.LongInteger
import EntryPoint.Proofs.Document.Json.RoundTrip
import EntryPoint.Proofs.Document.Pairs
import EntryPoint.Proofs.Document.Yaml.Nodes
import EntryPoint.Proofs.Document.Yaml.Scanning
import EntryPoint.Proofs.Document.Yaml.Tokens
import EntryPoint.Proofs.Document.Yaml.Values
import EntryPoint.Proofs.Failure
import EntryPoint.Proofs.FileTree
import EntryPoint.Proofs.Module.Bindings
import EntryPoint.Proofs.Module.Callee
import EntryPoint.Proofs.Module.Decoding
import EntryPoint.Proofs.Module.Escapes
import EntryPoint.Proofs.Module.Exports
import EntryPoint.Proofs.Module.Hoisting
import EntryPoint.Proofs.Module.Inlining
import EntryPoint.Proofs.Module.Layout
import EntryPoint.Proofs.Module.OwnNames
import EntryPoint.Proofs.Module.Printing
import EntryPoint.Proofs.Module.References
import EntryPoint.Proofs.Module.Refusal
import EntryPoint.Proofs.Module.Relocation
import EntryPoint.Proofs.Module.Specifier
import EntryPoint.Proofs.Module.WellFormed
import EntryPoint.Proofs.Options.Merging
import EntryPoint.Proofs.Options.Names
import EntryPoint.Proofs.Options.Overlay
import EntryPoint.Proofs.Outcome
import EntryPoint.Proofs.Path
import EntryPoint.Proofs.Program.Ending
import EntryPoint.Proofs.Program.Faults
import EntryPoint.Proofs.Program.Loading
import EntryPoint.Proofs.Program.Preparation
import EntryPoint.Proofs.Program.Rendering
import EntryPoint.Proofs.Program.Report
import EntryPoint.Proofs.Session
import EntryPoint.Proofs.Session.Files
import EntryPoint.Proofs.Session.Preparation
import EntryPoint.Proofs.Session.Replacement
import EntryPoint.Proofs.Settings.Commands
import EntryPoint.Proofs.Settings.Confirmation
import EntryPoint.Proofs.Settings.Layers
import EntryPoint.Proofs.Settings.Place
import EntryPoint.Proofs.Settings.Precedence
import EntryPoint.Proofs.Settings.Preparation
import EntryPoint.Proofs.Settings.Setting
import EntryPoint.Proofs.Settings.Store
import EntryPoint.Proofs.Settings.Switching
import EntryPoint.Proofs.Signature.Accepted
import EntryPoint.Proofs.Signature.Declarations
import EntryPoint.Proofs.Signature.Entries
import EntryPoint.Proofs.Signature.References
import EntryPoint.Proofs.Signature.Rejected
import EntryPoint.Proofs.Signature.ShortForms
import EntryPoint.Proofs.Signature.Unforeseen
import EntryPoint.Proofs.Syntax.Arms
import EntryPoint.Proofs.Syntax.Definitions
import EntryPoint.Proofs.Syntax.Expression
import EntryPoint.Proofs.Syntax.Imports
import EntryPoint.Proofs.Syntax.Layout
import EntryPoint.Proofs.Syntax.Lexing
import EntryPoint.Proofs.Syntax.Lines
import EntryPoint.Proofs.Syntax.Operators
import EntryPoint.Proofs.Syntax.Outline
import EntryPoint.Proofs.Syntax.Patterns
import EntryPoint.Proofs.Syntax.Quoted
import EntryPoint.Proofs.Syntax.Reader
import EntryPoint.Proofs.Syntax.Scope
import EntryPoint.Proofs.Syntax.Statement
import EntryPoint.Proofs.Text.Digits
import EntryPoint.Proofs.Text.Identifier
import EntryPoint.Proofs.Text.Split
import EntryPoint.Proofs.Text.Utf8
import EntryPoint.Render
import EntryPoint.Settings.Layers
import EntryPoint.Settings.Place
import EntryPoint.Settings.Store
import EntryPoint.Signature
import EntryPoint.Signature.Extract
import EntryPoint.Source
import EntryPoint.Syntax.Literal.Escape
import EntryPoint.Syntax.Literal.Parts
import EntryPoint.Syntax.Outline
import EntryPoint.Syntax.Printer.Expression
import EntryPoint.Syntax.Printer.Literal
import EntryPoint.Syntax.Printer.Statement
import EntryPoint.Syntax.Reader.Basic
import EntryPoint.Syntax.Reader.Expression
import EntryPoint.Syntax.Reader.Pattern
import EntryPoint.Syntax.Reader.Statement
import EntryPoint.Syntax.Token
import EntryPoint.Syntax.Token.Layout
import EntryPoint.Syntax.Token.Lexeme
import EntryPoint.Syntax.Token.Numeral
import EntryPoint.Syntax.Tree
import EntryPoint.Text.CellTable
import EntryPoint.Text.Character
import EntryPoint.Text.CharacterName
import EntryPoint.Text.Charset
import EntryPoint.Text.CompatibilityForm
import EntryPoint.Text.CompatibilityTable
import EntryPoint.Text.DecimalDigit
import EntryPoint.Text.Digits
import EntryPoint.Text.EmojiTable
import EntryPoint.Text.Identifier
import EntryPoint.Text.IdentifierTable
import EntryPoint.Text.LowerCase
import EntryPoint.Text.NameTable.Ancient
import EntryPoint.Text.NameTable.EastAsia
import EntryPoint.Text.NameTable.Further
import EntryPoint.Text.NameTable.Pictographs
import EntryPoint.Text.NameTable.Scripts
import EntryPoint.Text.NameTable.Symbols
import EntryPoint.Text.PrintableTable
import EntryPoint.Text.Quoted
import EntryPoint.Text.Ranges
import EntryPoint.Text.Split
import EntryPoint.Text.Tab
import EntryPoint.Text.Table
import EntryPoint.Text.Utf8
import EntryPoint.World
