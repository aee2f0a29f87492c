import Guest.Builtin.Basic
import Guest.Builtin.Math
import Guest.Builtin.Numeric
import Guest.Builtin.Table
import Guest.Builtin.Text
import Guest.Command
import Guest.CommandLine
import Guest.Context
import Guest.Evaluation
import Guest.Expr.Basic
import Guest.Expr.Parser
import Guest.Expr.Script
import Guest.Filter.Basic
import Guest.Filter.Parser
import Guest.Filter.Query
import Guest.Json.Numeral
import Guest.Json.Printer
import Guest.Json.Reader
import Guest.Json.Value
import Guest.Main
import Guest.Message
import Guest.Number.Arithmetic
import Guest.Number.Basic
import Guest.Number.Decimal
import Guest.Number.Elementary
import Guest.Number.Fixed
import Guest.Number.Numeral
import Guest.Number.Read
import Guest.Number.Text
import Guest.Operator
import Guest.Paragraph
import Guest.Parser.Basic
import Guest.Pattern.Age
import Guest.Pattern.Basic
import Guest.Pattern.Category
import Guest.Pattern.CharSet
import Guest.Pattern.Encoding
import Guest.Pattern.Fold
import Guest.Pattern.Layout
import Guest.Pattern.Memory
import Guest.Pattern.Naming
import Guest.Pattern.Parser
import Guest.Pattern.Program
import Guest.Pattern.Property
import Guest.Pattern.PropertyTable
import Guest.Pattern.Script
import Guest.Pattern.ScriptExtension
import Guest.Pattern.Search
import Guest.Pattern.Segmentation
import Guest.Pattern.Simplification
import Guest.Position
import Guest.Proofs.Builtin.Positions
import Guest.Proofs.Builtin.Searches
import Guest.Proofs.Builtin.Slices
import Guest.Proofs.Evaluation.Agreement
import Guest.Proofs.Evaluation.Bindings
import Guest.Proofs.Evaluation.Builtins
import Guest.Proofs.Evaluation.Ensured
import Guest.Proofs.Evaluation.Failures
import Guest.Proofs.Evaluation.Marks
import Guest.Proofs.Evaluation.Polls
import Guest.Proofs.Evaluation.Questions
import Guest.Proofs.Evaluation.Reach
import Guest.Proofs.Evaluation.Run
import Guest.Proofs.Evaluation.Sessions
import Guest.Proofs.Evaluation.Settled
import Guest.Proofs.Evaluation.Steady
import Guest.Proofs.Evaluation.Supplies
import Guest.Proofs.Evaluation.Usage
import Guest.Proofs.Expr.Braces
import Guest.Proofs.Expr.Chains
import Guest.Proofs.Expr.Choices
import Guest.Proofs.Expr.Completeness
import Guest.Proofs.Expr.Depth
import Guest.Proofs.Expr.Dialects
import Guest.Proofs.Expr.Endings
import Guest.Proofs.Expr.Exactness
import Guest.Proofs.Expr.Grammar
import Guest.Proofs.Expr.Invariants
import Guest.Proofs.Expr.Keyed
import Guest.Proofs.Expr.Laziness
import Guest.Proofs.Expr.Objects
import Guest.Proofs.Expr.Occurrences
import Guest.Proofs.Expr.Printing
import Guest.Proofs.Expr.Refusals
import Guest.Proofs.Expr.RoundTrip
import Guest.Proofs.Expr.Soundness
import Guest.Proofs.Expr.Stars
import Guest.Proofs.Expr.SyntaxErrors
import Guest.Proofs.Expr.Values
import Guest.Proofs.Expr.Viability
import Guest.Proofs.Filter.Languages
import Guest.Proofs.Filter.Meaning
import Guest.Proofs.Filter.Results
import Guest.Proofs.Filter.RoundTrip
import Guest.Proofs.Filter.Surface
import Guest.Proofs.Filter.Wire
import Guest.Proofs.Json.Compact
import Guest.Proofs.Json.Conversion
import Guest.Proofs.Json.Grammar
import Guest.Proofs.Json.Reading
import Guest.Proofs.Json.RoundTrip
import Guest.Proofs.Json.Writing
import Guest.Proofs.Message.Positions
import Guest.Proofs.Message.Separators
import Guest.Proofs.Message.Speakers
import Guest.Proofs.Number.Conversion
import Guest.Proofs.Number.Exact
import Guest.Proofs.Number.Fronts
import Guest.Proofs.Number.Literals
import Guest.Proofs.Number.Nearest
import Guest.Proofs.Number.Numerals
import Guest.Proofs.Number.Patterns
import Guest.Proofs.Number.Places
import Guest.Proofs.Number.Precision
import Guest.Proofs.Number.Reading
import Guest.Proofs.Number.RoundTrip
import Guest.Proofs.Number.Rounding
import Guest.Proofs.Number.Scanner
import Guest.Proofs.Number.Whole
import Guest.Proofs.Number.WholeRadix
import Guest.Proofs.Number.WholeText
import Guest.Proofs.Number.Words
import Guest.Proofs.Paragraph.Boundaries
import Guest.Proofs.Parser.Cursor
import Guest.Proofs.Parser.Cuts
import Guest.Proofs.Parser.Invariants
import Guest.Proofs.Parser.Names
import Guest.Proofs.Parser.Places
import Guest.Proofs.Parser.Positions
import Guest.Proofs.Parser.Reading
import Guest.Proofs.Parser.Refusals
import Guest.Proofs.Parser.Spans
import Guest.Proofs.Parser.Tokens
import Guest.Proofs.Pattern.Machine
import Guest.Proofs.Pattern.Programs
import Guest.Proofs.Pattern.Ways
import Guest.Proofs.Template.Interpolation
import Guest.Proofs.Template.Segments
import Guest.Proofs.Text.Bytes
import Guest.Proofs.Text.Occurrences
import Guest.Proofs.Text.Pieces
import Guest.Proofs.Token.Decimals
import Guest.Proofs.Token.Fronts
import Guest.Proofs.Token.Lexical
import Guest.Proofs.Token.Literals
import Guest.Proofs.Token.Longest
import Guest.Proofs.Token.Numbers
import Guest.Proofs.Token.Progress
import Guest.Proofs.Token.Radix
import Guest.Proofs.Token.Slices
import Guest.Proofs.Token.Spelling
import Guest.Proofs.Token.Tiling
import Guest.Proofs.Token.Writing
import Guest.Proofs.TypeExpr.Depth
import Guest.Proofs.TypeExpr.Exactness
import Guest.Proofs.TypeExpr.Fullnames
import Guest.Proofs.TypeExpr.Grammar
import Guest.Proofs.TypeExpr.Invariants
import Guest.Proofs.TypeExpr.Keyed
import Guest.Proofs.TypeExpr.Occurrences
import Guest.Proofs.TypeExpr.Pieces
import Guest.Proofs.TypeExpr.Reading
import Guest.Proofs.TypeExpr.Records
import Guest.Proofs.TypeExpr.Results
import Guest.Proofs.TypeExpr.RoundTrip
import Guest.Proofs.TypeExpr.Steps
import Guest.Proofs.Value.Bitwise
import Guest.Proofs.Value.Equality
import Guest.Proofs.Value.Indexing
import Guest.Proofs.Value.Keyed
import Guest.Proofs.Value.LooseEquality
import Guest.Proofs.Value.RoundTrip
import Guest.Proofs.Value.Source
import Guest.Script
import Guest.Template
import Guest.Text.Blank
import Guest.Text.Bytes
import Guest.Text.Case
import Guest.Text.Letters
import Guest.Text.Quoted
import Guest.Text.Ranges
import Guest.Text.Search
import Guest.Text.Units
import Guest.Token.Basic
import Guest.Token.Lexer
import Guest.Token.Scan
import Guest.TypeExpr.Basic
import Guest.TypeExpr.Parser
import Guest.TypeExpr.Record
import Guest.TypeExpr.Script
import Guest.Value.Access
import Guest.Value.Basic
import Guest.Value.Compare
import Guest.Value.Operation
import Guest.Value.Source
