import TypeScriptRepl.CommandLine.Basic
import TypeScriptRepl.CommandLine.Error
import TypeScriptRepl.CommandLine.Parse
import TypeScriptRepl.CommandLine.Similarity
import TypeScriptRepl.CommandLine.Usage
import TypeScriptRepl.Export.Extraction
import TypeScriptRepl.Export.IndexedNames
import TypeScriptRepl.Export.SymbolSet
import TypeScriptRepl.Export.Table
import TypeScriptRepl.FileSystem.Basic
import TypeScriptRepl.FileSystem.Fault
import TypeScriptRepl.FileSystem.Operations
import TypeScriptRepl.Grammar.Automaton
import TypeScriptRepl.Grammar.GotoRows
import TypeScriptRepl.Grammar.Keyword
import TypeScriptRepl.Grammar.LexTable
import TypeScriptRepl.Grammar.Packed
import TypeScriptRepl.Grammar.ReduceRows
import TypeScriptRepl.Grammar.Shape
import TypeScriptRepl.Grammar.ShiftRows
import TypeScriptRepl.Grammar.StateTable
import TypeScriptRepl.Grammar.Symbol
import TypeScriptRepl.Harness.Basic
import TypeScriptRepl.Harness.Block
import TypeScriptRepl.Harness.Bootstrap
import TypeScriptRepl.Harness.Options
import TypeScriptRepl.Json.Basic
import TypeScriptRepl.Json.Quoted
import TypeScriptRepl.Json.Text
import TypeScriptRepl.Main
import TypeScriptRepl.Number.Binary64
import TypeScriptRepl.Path.Basic
import TypeScriptRepl.Program.Basic
import TypeScriptRepl.Program.Json
import TypeScriptRepl.Program.Parse
import TypeScriptRepl.Program.Scan
import TypeScriptRepl.Proofs.Export.Extraction
import TypeScriptRepl.Proofs.Export.Followed
import TypeScriptRepl.Proofs.Export.IndexedNames
import TypeScriptRepl.Proofs.Export.Insertion
import TypeScriptRepl.Proofs.Export.Modifier
import TypeScriptRepl.Proofs.Export.NewNames
import TypeScriptRepl.Proofs.Export.Rearrangement
import TypeScriptRepl.Proofs.Export.Table
import TypeScriptRepl.Proofs.FileSystem.Lookup
import TypeScriptRepl.Proofs.FileSystem.Operations
import TypeScriptRepl.Proofs.Harness.LineGrammar
import TypeScriptRepl.Proofs.Harness.Markers
import TypeScriptRepl.Proofs.Harness.ModuleGrammar
import TypeScriptRepl.Proofs.Harness.ReadBack
import TypeScriptRepl.Proofs.Harness.Rescan
import TypeScriptRepl.Proofs.Harness.Slots
import TypeScriptRepl.Proofs.Json.Quoted
import TypeScriptRepl.Proofs.Json.Records
import TypeScriptRepl.Proofs.Path.Components
import TypeScriptRepl.Proofs.Path.Normal
import TypeScriptRepl.Proofs.Program.Classifiers
import TypeScriptRepl.Proofs.Program.Comments
import TypeScriptRepl.Proofs.Program.Correspondence
import TypeScriptRepl.Proofs.Program.Denotation
import TypeScriptRepl.Proofs.Program.ExportNames
import TypeScriptRepl.Proofs.Program.FirstError
import TypeScriptRepl.Proofs.Program.InnerScopes
import TypeScriptRepl.Proofs.Program.Items
import TypeScriptRepl.Proofs.Program.Json
import TypeScriptRepl.Proofs.Program.Lookups
import TypeScriptRepl.Proofs.Program.Namespaces
import TypeScriptRepl.Proofs.Program.Outline
import TypeScriptRepl.Proofs.Program.Patterns
import TypeScriptRepl.Proofs.Program.Spans
import TypeScriptRepl.Proofs.Report.EditDistance
import TypeScriptRepl.Proofs.Report.Escapes
import TypeScriptRepl.Proofs.Report.Suggestions
import TypeScriptRepl.Proofs.Report.Underline
import TypeScriptRepl.Proofs.Session.HarnessFile
import TypeScriptRepl.Proofs.Session.HarnessNames
import TypeScriptRepl.Proofs.Session.History
import TypeScriptRepl.Proofs.Session.Interleaving
import TypeScriptRepl.Proofs.Session.Remains
import TypeScriptRepl.Proofs.Session.UnderHome
import TypeScriptRepl.Proofs.Settings.Layers
import TypeScriptRepl.Proofs.Settings.Nearest
import TypeScriptRepl.Proofs.Text.Position
import TypeScriptRepl.Proofs.Text.Slice
import TypeScriptRepl.Report.Diagnostic
import TypeScriptRepl.Report.EditDistance
import TypeScriptRepl.Report.ErrorChain
import TypeScriptRepl.Report.Style
import TypeScriptRepl.Session.HarnessFile
import TypeScriptRepl.Session.HarnessPath
import TypeScriptRepl.Session.History
import TypeScriptRepl.Session.Launch
import TypeScriptRepl.Session.Run
import TypeScriptRepl.Session.Variables
import TypeScriptRepl.Settings.Basic
import TypeScriptRepl.Settings.File
import TypeScriptRepl.Settings.Json
import TypeScriptRepl.Settings.Toml
import TypeScriptRepl.Shell.Expand
import TypeScriptRepl.Shell.Parse
import TypeScriptRepl.Shell.Program
import TypeScriptRepl.Shell.Run
import TypeScriptRepl.Shell.Script
import TypeScriptRepl.Shell.Start
import TypeScriptRepl.Syntax.Contextual
import TypeScriptRepl.Syntax.Lexeme
import TypeScriptRepl.Syntax.Node
import TypeScriptRepl.Syntax.Parser
import TypeScriptRepl.Syntax.Stack
import TypeScriptRepl.Syntax.Subtree
import TypeScriptRepl.Syntax.Tokenizer
import TypeScriptRepl.Text.Blank
import TypeScriptRepl.Text.Cursor
import TypeScriptRepl.Text.Escaped
import TypeScriptRepl.Text.Extent
import TypeScriptRepl.Text.Lines
import TypeScriptRepl.Text.Shapeless
import TypeScriptRepl.Text.Slice
import TypeScriptRepl.Text.Utf8
import TypeScriptRepl.Toml.Datetime
import TypeScriptRepl.Toml.Document
import TypeScriptRepl.Toml.Excerpt
import TypeScriptRepl.Toml.Fault
import TypeScriptRepl.Toml.Item
import TypeScriptRepl.Toml.Number
import TypeScriptRepl.Toml.Reader
import TypeScriptRepl.Toml.Table
import TypeScriptRepl.Toml.Text
import TypeScriptRepl.Toml.Trivia
import TypeScriptRepl.Toml.Value
