import PegKit.Analysis
import PegKit.Analysis.Labels
import PegKit.Analysis.Meaning
import PegKit.Analysis.RuleTable
import PegKit.CharClass
import PegKit.CharClass.Bracket
import PegKit.CharClass.Denotation
import PegKit.CharClass.Pattern
import PegKit.CharClass.Pattern.BracketedSet
import PegKit.CharClass.Pattern.Escape
import PegKit.CharClass.Pattern.Reader
import PegKit.CharClass.Pattern.Spacing
import PegKit.CharClass.PropertyName
import PegKit.CommandLine.Arguments
import PegKit.CommandLine.Command
import PegKit.CommandLine.Run
import PegKit.Compilation
import PegKit.Cst
import PegKit.Cst.Parser
import PegKit.Cst.Production
import PegKit.Cst.View
import PegKit.Diagnostic
import PegKit.Diagnostic.Filter
import PegKit.Diagnostic.Kind
import PegKit.Emission
import PegKit.Emission.Statement
import PegKit.Expr
import PegKit.Expr.Display
import PegKit.FailureReport
import PegKit.Files.FileTree
import PegKit.Files.Host
import PegKit.Files.PathName
import PegKit.Grammar
import PegKit.Grammar.LeftRecursion
import PegKit.Interner
import PegKit.Loading
import PegKit.Machine
import PegKit.Machine.Trace
import PegKit.Main
import PegKit.Namespace
import PegKit.Palette
import PegKit.Parser
import PegKit.Predicate
import PegKit.Predicate.Guard
import PegKit.Program
import PegKit.Program.Builder
import PegKit.Program.Dump
import PegKit.Program.Lowering
import PegKit.Proofs.Analysis.Repeats
import PegKit.Proofs.Analysis.Reports
import PegKit.Proofs.CharClass.Membership
import PegKit.Proofs.CharClass.Normal
import PegKit.Proofs.CharClass.Rendering
import PegKit.Proofs.CharClass.Reversed
import PegKit.Proofs.CommandLine.Checked
import PegKit.Proofs.Compilation.Accepted
import PegKit.Proofs.Compilation.Display
import PegKit.Proofs.Compilation.Labels
import PegKit.Proofs.Compilation.Legible
import PegKit.Proofs.Compilation.Pragmas
import PegKit.Proofs.Compilation.Restored
import PegKit.Proofs.Cst.Acceptance
import PegKit.Proofs.Cst.Expressions
import PegKit.Proofs.Cst.Faultless
import PegKit.Proofs.Cst.Following
import PegKit.Proofs.Cst.Levels
import PegKit.Proofs.Cst.Limits
import PegKit.Proofs.Cst.Means
import PegKit.Proofs.Cst.Nesting
import PegKit.Proofs.Cst.Origin
import PegKit.Proofs.Cst.Preservation
import PegKit.Proofs.Cst.Progress
import PegKit.Proofs.Cst.Reading
import PegKit.Proofs.Cst.Recovery
import PegKit.Proofs.Cst.References
import PegKit.Proofs.Cst.Rereading
import PegKit.Proofs.Cst.Restating
import PegKit.Proofs.Cst.Spacing
import PegKit.Proofs.Cst.Stacking
import PegKit.Proofs.Cst.Strings
import PegKit.Proofs.Cst.Syntax
import PegKit.Proofs.Cst.Tolls
import PegKit.Proofs.Cst.Totality
import PegKit.Proofs.Cst.Twins
import PegKit.Proofs.Diagnostic.Filtering
import PegKit.Proofs.Emission.Methods
import PegKit.Proofs.Emission.Reading
import PegKit.Proofs.Emission.Rebuilding
import PegKit.Proofs.Emission.Replay
import PegKit.Proofs.Emission.Statements
import PegKit.Proofs.Emission.Tokens
import PegKit.Proofs.Expr.Written
import PegKit.Proofs.Grammar.Cycles
import PegKit.Proofs.Grammar.Distinct
import PegKit.Proofs.Grammar.Ends
import PegKit.Proofs.Grammar.LeftRecursion
import PegKit.Proofs.Grammar.Nullable
import PegKit.Proofs.Grammar.Peg
import PegKit.Proofs.Grammar.Written
import PegKit.Proofs.Interner.Numbering
import PegKit.Proofs.Machine.Attempts
import PegKit.Proofs.Machine.Backtracking
import PegKit.Proofs.Machine.Bracketing
import PegKit.Proofs.Machine.Ensures
import PegKit.Proofs.Machine.Inquiries
import PegKit.Proofs.Machine.Explained
import PegKit.Proofs.Machine.Failures
import PegKit.Proofs.Machine.Furthest
import PegKit.Proofs.Machine.Guarded
import PegKit.Proofs.Machine.Limits
import PegKit.Proofs.Machine.Nesting
import PegKit.Proofs.Machine.Pairing
import PegKit.Proofs.Machine.Realization
import PegKit.Proofs.Machine.Scoped
import PegKit.Proofs.Machine.Suffix
import PegKit.Proofs.Machine.Termination
import PegKit.Proofs.Machine.Unmoved
import PegKit.Proofs.Machine.Unrolling
import PegKit.Proofs.Namespace.Loads
import PegKit.Proofs.Parser.Endless
import PegKit.Proofs.Parser.History
import PegKit.Proofs.Parser.Hooks
import PegKit.Proofs.Parser.Tracing
import PegKit.Proofs.Program.Building
import PegKit.Proofs.Program.Declared
import PegKit.Proofs.Program.Encoding
import PegKit.Proofs.Program.Faithful
import PegKit.Proofs.Program.Matching
import PegKit.Proofs.Program.Refinement
import PegKit.Proofs.Program.Sessions
import PegKit.Proofs.SyntaxTree.Tiling
import PegKit.Proofs.Terminal.Quoting
import PegKit.Proofs.Terminal.Unescaping
import PegKit.Proofs.Text.Casing
import PegKit.Proofs.Text.Letters
import PegKit.Proofs.Text.Pascal
import PegKit.Proofs.Text.Position
import PegKit.Proofs.Text.Utf8
import PegKit.Proofs.Token.Spacing
import PegKit.Proofs.Token.Spans
import PegKit.Proofs.Token.Tiling
import PegKit.Proofs.Token.Whole
import PegKit.Proofs.Token.Writing
import PegKit.Snippet
import PegKit.Snippet.Canvas
import PegKit.Snippet.Mark
import PegKit.Snippet.SourceLine
import PegKit.SyntaxTree
import PegKit.SyntaxTree.Render
import PegKit.Terminal
import PegKit.Text.Casing
import PegKit.Text.Json
import PegKit.Text.NestedName
import PegKit.Text.Offset
import PegKit.Text.Position
import PegKit.Text.Quoted
import PegKit.Text.Span
import PegKit.Token
import PegKit.Token.Lexer
import PegKit.Unicode.Age
import PegKit.Unicode.Alphanumeric
import PegKit.Unicode.Blank
import PegKit.Unicode.CaseFolding
import PegKit.Unicode.Category
import PegKit.Unicode.Digit
import PegKit.Unicode.Extender
import PegKit.Unicode.Property
import PegKit.Unicode.Property.Derived
import PegKit.Unicode.Property.Names
import PegKit.Unicode.RangeTable
import PegKit.Unicode.RangeTable.Algebra
import PegKit.Unicode.Script
import PegKit.Unicode.TextBreak
import PegKit.Unicode.Unprintable
import PegKit.Unicode.Width
import PegKit.Unicode.Word
