import Dialect.Aspect
import Dialect.Charset
import Dialect.Document
import Dialect.Error
import Dialect.Expr.Eval
import Dialect.Expr.Evaluator
import Dialect.Expr.Literal
import Dialect.Expr.Parser
import Dialect.Expr.Token
import Dialect.Expr.Tree
import Dialect.Failure
import Dialect.File
import Dialect.Format
import Dialect.Json.Reader
import Dialect.Json.Writer
import Dialect.Language
import Dialect.Macro
import Dialect.Marker
import Dialect.Moment
import Dialect.Number.Binary64
import Dialect.Number.Complex
import Dialect.Number.Decimal
import Dialect.Number.Fixed
import Dialect.Number.Power
import Dialect.Number.Root
import Dialect.Number.Shortest
import Dialect.Number.Whole
import Dialect.Pipeline.Language
import Dialect.Pipeline.Step
import Dialect.Plain
import Dialect.Program
import Dialect.Proofs.Document.Contract
import Dialect.Proofs.Document.Fallback
import Dialect.Proofs.Expr.Binding
import Dialect.Proofs.Expr.Cache
import Dialect.Proofs.Expr.Composition
import Dialect.Proofs.Expr.Grammar
import Dialect.Proofs.Expr.Leftmost
import Dialect.Proofs.Expr.Lexing
import Dialect.Proofs.Expr.Locality
import Dialect.Proofs.Expr.Meaning
import Dialect.Proofs.Expr.Memory
import Dialect.Proofs.Expr.Parsing
import Dialect.Proofs.Expr.Printing
import Dialect.Proofs.Expr.Reading
import Dialect.Proofs.Expr.Recognition
import Dialect.Proofs.Expr.Refusal
import Dialect.Proofs.Expr.Spelling
import Dialect.Proofs.Expr.Terminal
import Dialect.Proofs.Expr.Viability
import Dialect.Proofs.Json.Containers
import Dialect.Proofs.Json.Refusal
import Dialect.Proofs.Json.RoundTrip
import Dialect.Proofs.Json.Scanning
import Dialect.Proofs.Language.Composition
import Dialect.Proofs.Language.Consistency
import Dialect.Proofs.Language.Derivation
import Dialect.Proofs.Language.Extension
import Dialect.Proofs.Language.Marking
import Dialect.Proofs.Language.Order
import Dialect.Proofs.Language.Table
import Dialect.Proofs.Number.Written
import Dialect.Proofs.Pipeline.Appending
import Dialect.Proofs.Pipeline.Collection
import Dialect.Proofs.Pipeline.Fusion
import Dialect.Proofs.Pipeline.Parameters
import Dialect.Proofs.Pipeline.Sites
import Dialect.Proofs.Run.Bound
import Dialect.Proofs.Run.Call
import Dialect.Proofs.Run.Engine
import Dialect.Proofs.Run.Equivalence
import Dialect.Proofs.Run.Evaluation
import Dialect.Proofs.Run.Extension
import Dialect.Proofs.Run.Failure
import Dialect.Proofs.Run.Flattening
import Dialect.Proofs.Run.Isolation
import Dialect.Proofs.Run.Languages
import Dialect.Proofs.Run.Law
import Dialect.Proofs.Run.Lookups
import Dialect.Proofs.Run.Namespace
import Dialect.Proofs.Run.Noninterference
import Dialect.Proofs.Run.Refinement
import Dialect.Proofs.Run.Reports
import Dialect.Proofs.Run.Session
import Dialect.Proofs.Run.Swap
import Dialect.Proofs.Run.Twin
import Dialect.Proofs.Run.Unmixed
import Dialect.Proofs.Scope.Fault
import Dialect.Proofs.Scope.Growth
import Dialect.Proofs.Scope.Lens
import Dialect.Proofs.Scope.Merge
import Dialect.Proofs.Scope.Relabel
import Dialect.Proofs.Scope.Sight
import Dialect.Proofs.Scope.Swap
import Dialect.Proofs.Scope.Twin
import Dialect.Proofs.Scope.Update
import Dialect.Proofs.Scope.View
import Dialect.Proofs.Text.Digits
import Dialect.Proofs.Toml.Refusal
import Dialect.Proofs.Value.Distinct
import Dialect.Proofs.Value.Entries
import Dialect.Proofs.Value.Override
import Dialect.Proofs.Value.Relabel
import Dialect.Proofs.Value.Swap
import Dialect.Proofs.Yaml.Building
import Dialect.Proofs.Yaml.Composing
import Dialect.Proofs.Yaml.Content
import Dialect.Proofs.Yaml.Lexing
import Dialect.Proofs.Yaml.Scanning
import Dialect.ReadFault
import Dialect.Run.Act
import Dialect.Run.Basic
import Dialect.Run.Report
import Dialect.Run.World
import Dialect.Scope.Path
import Dialect.Scope.Store
import Dialect.Text.Base64
import Dialect.Text.Blank
import Dialect.Text.CharName
import Dialect.Text.CharName.Aliases
import Dialect.Text.CharName.Eastern
import Dialect.Text.CharName.Historic
import Dialect.Text.CharName.Letters
import Dialect.Text.CharName.Pictures
import Dialect.Text.CharName.Signs
import Dialect.Text.Digit
import Dialect.Text.Lower
import Dialect.Text.Occurrence
import Dialect.Text.Printable
import Dialect.Text.Quoted
import Dialect.Text.Ranges
import Dialect.Text.Utf16
import Dialect.Text.Utf8
import Dialect.Toml.Reader
import Dialect.Toml.Scalar
import Dialect.Toml.Table
import Dialect.Value.Access
import Dialect.Value.Arithmetic
import Dialect.Value.Basic
import Dialect.Value.Equality
import Dialect.Value.Order
import Dialect.Value.Template
import Dialect.Value.Text
import Dialect.Yaml.Content
import Dialect.Yaml.Cursor
import Dialect.Yaml.Graph
import Dialect.Yaml.Lexer
import Dialect.Yaml.Node
import Dialect.Yaml.Reader
import Dialect.Yaml.Scalar
import Dialect.Yaml.Style
import Dialect.Yaml.Tag
import Dialect.Yaml.Token
import Dialect.Yaml.Writer
