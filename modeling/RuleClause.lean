import RuleClause.Checked
import RuleClause.CommandLine
import RuleClause.Compile
import RuleClause.Custom.Handler
import RuleClause.Custom.Registry
import RuleClause.Decimal.Basic
import RuleClause.Decimal.Reader
import RuleClause.Decimal.Shortest
import RuleClause.Dialect.Basic
import RuleClause.Dialect.Forms
import RuleClause.Dialect.Template
import RuleClause.Error.Basic
import RuleClause.Error.Code
import RuleClause.Error.Fault
import RuleClause.Json.Basic
import RuleClause.Json.Nesting
import RuleClause.Json.Printer
import RuleClause.Json.Reader
import RuleClause.Json.Token
import RuleClause.Main
import RuleClause.Manual.Overview
import RuleClause.Manual.Pages
import RuleClause.Manual.Topic
import RuleClause.NameMap
import RuleClause.Number.Basic
import RuleClause.Number.Reader
import RuleClause.Operator
import RuleClause.Path
import RuleClause.Plan.Arithmetic
import RuleClause.Plan.Arrays
import RuleClause.Plan.Basic
import RuleClause.Plan.Call
import RuleClause.Plan.Logic
import RuleClause.Plan.Operator
import RuleClause.Plan.Reference
import RuleClause.Plan.Strings
import RuleClause.Proofs.Accumulator
import RuleClause.Proofs.AggregateFold
import RuleClause.Proofs.CanonicalNumeral
import RuleClause.Proofs.Capture
import RuleClause.Proofs.Capture.Layout
import RuleClause.Proofs.CheckOrder
import RuleClause.Proofs.CheckedSums
import RuleClause.Proofs.Compile.Acceptance
import RuleClause.Proofs.Compile.Correspondence
import RuleClause.Proofs.Compile.Origin
import RuleClause.Proofs.Compile.Place
import RuleClause.Proofs.Compile.Reach
import RuleClause.Proofs.Compile.Success
import RuleClause.Proofs.Compile.WithoutSchema
import RuleClause.Proofs.Compile.Yields
import RuleClause.Proofs.ConversionExactness
import RuleClause.Proofs.DepthAgreement
import RuleClause.Proofs.DepthLimit
import RuleClause.Proofs.DialectNeutrality
import RuleClause.Proofs.DialectVerdict
import RuleClause.Proofs.ErrorOrigin
import RuleClause.Proofs.FloatExactness
import RuleClause.Proofs.FoldAcceptance
import RuleClause.Proofs.Fragment.Basic
import RuleClause.Proofs.Fragment.Element
import RuleClause.Proofs.Fragment.Formula
import RuleClause.Proofs.Fragment.Operators
import RuleClause.Proofs.Fragment.Term
import RuleClause.Proofs.Grouping
import RuleClause.Proofs.Grouping.Chain
import RuleClause.Proofs.IterationBody
import RuleClause.Proofs.Json.Brackets
import RuleClause.Proofs.Json.CompactNesting
import RuleClause.Proofs.Json.Nesting
import RuleClause.Proofs.Lexical.Expression
import RuleClause.Proofs.Lexical.Fragment
import RuleClause.Proofs.Lexical.Literal
import RuleClause.Proofs.Lexical.Numeral
import RuleClause.Proofs.Lexical.Operator
import RuleClause.Proofs.Lexical.Scan
import RuleClause.Proofs.Lexical.Template
import RuleClause.Proofs.LexicalSafety
import RuleClause.Proofs.LiteralFidelity
import RuleClause.Proofs.MeaningPreservation
import RuleClause.Proofs.MergedArrays
import RuleClause.Proofs.NameResolution
import RuleClause.Proofs.NullTest
import RuleClause.Proofs.NullTest.Clause
import RuleClause.Proofs.NullTest.Shape
import RuleClause.Proofs.NullTest.Value
import RuleClause.Proofs.NumberToken
import RuleClause.Proofs.Numeral.FloatText
import RuleClause.Proofs.Numeral.Rounding
import RuleClause.Proofs.Numeral.Shortest
import RuleClause.Proofs.Numeral.Spelling
import RuleClause.Proofs.Numeral.Value
import RuleClause.Proofs.NumeralExactness
import RuleClause.Proofs.NumeralGrammar
import RuleClause.Proofs.OffsetStorage
import RuleClause.Proofs.OperatorNames
import RuleClause.Proofs.OperatorSupport
import RuleClause.Proofs.PathUniqueness
import RuleClause.Proofs.Placement
import RuleClause.Proofs.Plan.Faults
import RuleClause.Proofs.Plan.InsideIteration
import RuleClause.Proofs.Plan.Outcome
import RuleClause.Proofs.Plan.Relocation
import RuleClause.Proofs.Plan.Requests
import RuleClause.Proofs.Plan.Restriction
import RuleClause.Proofs.Plan.Steadiness
import RuleClause.Proofs.Plan.Success
import RuleClause.Proofs.PresenceThreshold
import RuleClause.Proofs.Reading.ArrayText
import RuleClause.Proofs.Reading.Expression
import RuleClause.Proofs.Reading.Meaning
import RuleClause.Proofs.Reading.Piece
import RuleClause.Proofs.Reading.Reader
import RuleClause.Proofs.Reading.Rows
import RuleClause.Proofs.Reading.Signed
import RuleClause.Proofs.Reading.Token
import RuleClause.Proofs.RegistryHistory
import RuleClause.Proofs.Rule.Conversion
import RuleClause.Proofs.Rule.Occurrence
import RuleClause.Proofs.SchemaDeclaration
import RuleClause.Proofs.SchemaRestriction
import RuleClause.Proofs.SchemaSoundness
import RuleClause.Proofs.SnapshotIsolation
import RuleClause.Proofs.Target
import RuleClause.Proofs.TextEntry
import RuleClause.Proofs.TextWindow
import RuleClause.Rule.Basic
import RuleClause.Rule.OfJson
import RuleClause.Schema.Basic
import RuleClause.Schema.Document
import RuleClause.Schema.FieldType
import RuleClause.Sql.Basic
import RuleClause.Sql.Literal
import RuleClause.Sql.Render
import RuleClause.Target
import RuleClause.Text.Blank
import RuleClause.Text.DecimalDigit
import RuleClause.Text.Letters
import RuleClause.Text.Numeral
import RuleClause.Workspace
