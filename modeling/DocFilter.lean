import DocFilter.Config.Basic
import DocFilter.Config.Error
import DocFilter.Config.Reader
import DocFilter.Config.Reference
import DocFilter.Config.Setting
import DocFilter.Dialect.Basic
import DocFilter.Dialect.Condition
import DocFilter.Dialect.ConnectionUrl
import DocFilter.Dialect.Extraction
import DocFilter.Dialect.Page
import DocFilter.Dict
import DocFilter.Document.Layout
import DocFilter.Document.Path
import DocFilter.Endpoint.Access
import DocFilter.Endpoint.Basic
import DocFilter.Endpoint.Registry
import DocFilter.Endpoint.Verb
import DocFilter.Error
import DocFilter.Filter.Bound
import DocFilter.Filter.Compile
import DocFilter.Filter.Operator
import DocFilter.Filter.Reader
import DocFilter.Filter.Tree
import DocFilter.Gateway
import DocFilter.Json.Basic
import DocFilter.Json.Lexer
import DocFilter.Json.Printer
import DocFilter.Json.Reader
import DocFilter.Json.Source
import DocFilter.Logging
import DocFilter.Minting
import DocFilter.Number.Double
import DocFilter.Number.Numeral
import DocFilter.Number.Shortest
import DocFilter.Number.Written
import DocFilter.Pattern.Options
import DocFilter.Pattern.Wildcard
import DocFilter.Predicate
import DocFilter.Query.Direction
import DocFilter.Query.Parameters
import DocFilter.Query.Positional
import DocFilter.Query.Projection
import DocFilter.Query.Request
import DocFilter.Query.Translation
import DocFilter.Query.Translator
import DocFilter.Runtime.Regex
import DocFilter.Runtime.Url
import DocFilter.Sql.Formula
import DocFilter.Sql.Fragment
import DocFilter.Sql.Name
import DocFilter.Text.Blank
import DocFilter.Text.Case
import DocFilter.Text.CaseData
import DocFilter.Text.Letter
import DocFilter.Text.Split
import DocFilter.Toml.Lexer
import DocFilter.Toml.Reader
import DocFilter.Toml.Scalar
import DocFilter.Toml.Source
import DocFilter.Proofs.Dict
import DocFilter.Proofs.Sql.Nesting
import DocFilter.Proofs.Sql.Name
import DocFilter.Proofs.Dialect.Alike
import DocFilter.Proofs.Dialect.Condition
import DocFilter.Proofs.Endpoint.Access
import DocFilter.Proofs.Endpoint.Registry
import DocFilter.Proofs.Filter.Compile
import DocFilter.Proofs.Filter.Kleene
import DocFilter.Proofs.Filter.Outline
import DocFilter.Proofs.Gateway
import DocFilter.Proofs.Query.Agreement
import DocFilter.Proofs.Query.Negation
import DocFilter.Proofs.Query.Operands
import DocFilter.Proofs.Query.Outline
import DocFilter.Proofs.Query.Positional
import DocFilter.Proofs.Query.Sharing
import DocFilter.Proofs.Filter.Numbering
import DocFilter.Proofs.Filter.Operator
import DocFilter.Proofs.Filter.Entry
import DocFilter.Proofs.Filter.Grammar
import DocFilter.Proofs.Filter.Sugar
import DocFilter.Proofs.Number.Numeral
import DocFilter.Proofs.Query.Flat
import DocFilter.Proofs.Query.Sugar
import DocFilter.Proofs.Query.Columns
import DocFilter.Proofs.Config.Reference
import DocFilter.Proofs.Endpoint.History
import DocFilter.Proofs.Pattern.Matching
import DocFilter.Proofs.Pattern.Emulation
import DocFilter.Proofs.Pattern.Spelling
import DocFilter.Proofs.Filter.Exclusion
import DocFilter.Proofs.Document.Path
import DocFilter.Proofs.Document.TextArray
import DocFilter.Proofs.Filter.Limit
import DocFilter.Proofs.Endpoint.Rules
import DocFilter.Proofs.Filter.Shape
import DocFilter.Proofs.Filter.Admissible
import DocFilter.Proofs.Filter.Fault
import DocFilter.Proofs.Dialect.Mention
import DocFilter.Proofs.Dialect.Address
import DocFilter.Proofs.Document.Notation
import DocFilter.Proofs.Page
import DocFilter.Proofs.Config.Brace
import DocFilter.Proofs.Config.Portable
import DocFilter.Proofs.Endpoint.Path
import DocFilter.Proofs.Query.Projection
import DocFilter.Proofs.Config.Database
import DocFilter.Proofs.Query.Tail
import DocFilter.Proofs.Filter.Options
import DocFilter.Proofs.Filter.Column
import DocFilter.Proofs.Query.Request
import DocFilter.Proofs.Query.Integer
import DocFilter.Proofs.Query.Verbatim
