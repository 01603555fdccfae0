import Fixtures.Calendar.Date
import Fixtures.Calendar.Format
import Fixtures.Calendar.Timestamp
import Fixtures.Check.Evaluation
import Fixtures.Check.Expression
import Fixtures.Check.Parser
import Fixtures.Check.Token
import Fixtures.Check.Tree
import Fixtures.Contract.Basic
import Fixtures.Contract.Schema
import Fixtures.Domain.Basic
import Fixtures.Domain.Bounds
import Fixtures.Domain.Terminal
import Fixtures.Encoding.Hex
import Fixtures.Encoding.Uuid
import Fixtures.Faker.Text
import Fixtures.Faker.Topic
import Fixtures.Faker.Words
import Fixtures.Generation.Batch
import Fixtures.Generation.Error
import Fixtures.Generation.Event
import Fixtures.Generation.KeyTracker
import Fixtures.Generation.Length
import Fixtures.Generation.Options
import Fixtures.Generation.Parameter
import Fixtures.Generation.Plan
import Fixtures.Generation.Reference
import Fixtures.Generation.Report
import Fixtures.Generation.Row
import Fixtures.Generation.RowKey
import Fixtures.Generation.Run
import Fixtures.Generation.Scalar
import Fixtures.Generation.Sequence
import Fixtures.Generation.Strategy
import Fixtures.Generation.TextPattern
import Fixtures.Generation.Value
import Fixtures.Json.Basic
import Fixtures.Json.Decode
import Fixtures.Json.Pointer
import Fixtures.Json.Printer
import Fixtures.Json.Reader
import Fixtures.Model.Analysis
import Fixtures.Model.Analysis.Field
import Fixtures.Model.Analysis.Key
import Fixtures.Model.Analysis.Type
import Fixtures.Model.Basic
import Fixtures.Model.Encode
import Fixtures.Numeric.Basic
import Fixtures.Numeric.Binary64
import Fixtures.Numeric.Decimal
import Fixtures.Numeric.Shortest
import Fixtures.Proofs.Calendar.Days
import Fixtures.Proofs.Calendar.Reading
import Fixtures.Proofs.Calendar.Text
import Fixtures.Proofs.Check.Arithmetic
import Fixtures.Proofs.Check.Comparisons
import Fixtures.Proofs.Check.Expansions
import Fixtures.Proofs.Check.Levels
import Fixtures.Proofs.Check.Lexing
import Fixtures.Proofs.Check.Numerals
import Fixtures.Proofs.Check.Printing
import Fixtures.Proofs.Check.QuotedNames
import Fixtures.Proofs.Check.Reading
import Fixtures.Proofs.Check.Unknowns
import Fixtures.Proofs.Contract.Describing
import Fixtures.Proofs.Contract.Meeting
import Fixtures.Proofs.Contract.Records
import Fixtures.Proofs.Dependency.Counting
import Fixtures.Proofs.Dependency.Order
import Fixtures.Proofs.Dependency.References
import Fixtures.Proofs.Dependency.Settling
import Fixtures.Proofs.Domain.Acceptance
import Fixtures.Proofs.Domain.Enums
import Fixtures.Proofs.Domain.Labels
import Fixtures.Proofs.Domain.MergedBounds
import Fixtures.Proofs.Domain.MergedChecks
import Fixtures.Proofs.Domain.Merging
import Fixtures.Proofs.Domain.Permutation
import Fixtures.Proofs.Domain.Ranges
import Fixtures.Proofs.Encoding.Bytes
import Fixtures.Proofs.Generation.AttemptSeeds
import Fixtures.Proofs.Generation.BatchEvents
import Fixtures.Proofs.Generation.BatchSizes
import Fixtures.Proofs.Generation.Batching
import Fixtures.Proofs.Generation.BoundedDraws
import Fixtures.Proofs.Generation.CheckedRows
import Fixtures.Proofs.Generation.Commit
import Fixtures.Proofs.Generation.CommonTables
import Fixtures.Proofs.Generation.CompleteRun
import Fixtures.Proofs.Generation.CompositeKeys
import Fixtures.Proofs.Generation.Conformity
import Fixtures.Proofs.Generation.Defaults
import Fixtures.Proofs.Generation.Delivery
import Fixtures.Proofs.Generation.DrawnKeys
import Fixtures.Proofs.Generation.EmptyParents
import Fixtures.Proofs.Generation.ErrorSources
import Fixtures.Proofs.Generation.FailedRuns
import Fixtures.Proofs.Generation.Faults
import Fixtures.Proofs.Generation.FieldValues
import Fixtures.Proofs.Generation.FirstAttempts
import Fixtures.Proofs.Generation.Integrity
import Fixtures.Proofs.Generation.KeptKeys
import Fixtures.Proofs.Generation.KeyTracker
import Fixtures.Proofs.Generation.Lookups
import Fixtures.Proofs.Generation.PatternAnchors
import Fixtures.Proofs.Generation.Planning
import Fixtures.Proofs.Generation.Rebatching
import Fixtures.Proofs.Generation.RowByRow
import Fixtures.Proofs.Generation.RowErrors
import Fixtures.Proofs.Generation.RowKeyedTables
import Fixtures.Proofs.Generation.RowKeys
import Fixtures.Proofs.Generation.RowOrdinals
import Fixtures.Proofs.Generation.RowValues
import Fixtures.Proofs.Generation.RunReport
import Fixtures.Proofs.Generation.ScalarFaults
import Fixtures.Proofs.Generation.SequenceKeys
import Fixtures.Proofs.Generation.SequenceRanges
import Fixtures.Proofs.Generation.TableByTable
import Fixtures.Proofs.Generation.TableConstraints
import Fixtures.Proofs.Generation.TakenKeys
import Fixtures.Proofs.Json.Finite
import Fixtures.Proofs.Json.Ordered
import Fixtures.Proofs.Json.Text
import Fixtures.Proofs.Model.Acceptance
import Fixtures.Proofs.Model.Defaults
import Fixtures.Proofs.Model.Diagnostics
import Fixtures.Proofs.Model.Field
import Fixtures.Proofs.Model.KeyFields
import Fixtures.Proofs.Model.KeyReview
import Fixtures.Proofs.Model.Keys
import Fixtures.Proofs.Model.Lookup
import Fixtures.Proofs.Model.Names
import Fixtures.Proofs.Model.Review
import Fixtures.Proofs.Model.TypeCycles
import Fixtures.Proofs.Model.WellFormed
import Fixtures.Proofs.Numeric.DecimalText
import Fixtures.Proofs.Numeric.Digits
import Fixtures.Proofs.Numeric.Finite
import Fixtures.Proofs.Numeric.Integers
import Fixtures.Proofs.Numeric.Nearest
import Fixtures.Proofs.Numeric.Order
import Fixtures.Proofs.Numeric.Rounding
import Fixtures.Proofs.Numeric.Shortest
import Fixtures.Proofs.Outcome
import Fixtures.Proofs.Positions
import Fixtures.Proofs.Random.Draw
import Fixtures.Proofs.Regex.AnchoredPatterns
import Fixtures.Proofs.Regex.KeptAnchors
import Fixtures.Proofs.Regex.Readers
import Fixtures.Proofs.Schema.Documents
import Fixtures.Proofs.Schema.Loading
import Fixtures.Proofs.Text.Joined
import Fixtures.Proofs.Text.Names
import Fixtures.Proofs.Typing.Ancestors
import Fixtures.Proofs.Typing.Answers
import Fixtures.Proofs.Typing.Walk
import Fixtures.Proofs.Value.Key
import Fixtures.Proofs.Value.Kind
import Fixtures.Proofs.Value.Spelling
import Fixtures.Random.Draw
import Fixtures.Random.Source
import Fixtures.Regex.CharSet
import Fixtures.Regex.Error
import Fixtures.Regex.Match
import Fixtures.Regex.Parser
import Fixtures.Regex.Parser.Bracket
import Fixtures.Regex.Parser.Cursor
import Fixtures.Regex.Parser.Escape
import Fixtures.Regex.Parser.Group
import Fixtures.Regex.Parser.Item
import Fixtures.Regex.Pattern
import Fixtures.Regex.Sample
import Fixtures.Regex.UnicodeClass
import Fixtures.Schema.Basic
import Fixtures.Schema.Decode
import Fixtures.Schema.Dependency
import Fixtures.Schema.Diagnostic
import Fixtures.Schema.Document
import Fixtures.Schema.Encode
import Fixtures.Schema.Symbols
import Fixtures.Schema.Text
import Fixtures.Text.Ascii
import Fixtures.Text.CharClass
import Fixtures.Text.CodePoints
import Fixtures.Text.Names
import Fixtures.Text.Table.CaseFolding
import Fixtures.Text.Table.GeneralCategory
import Fixtures.Text.Table.Letter
import Fixtures.Text.Table.Script
import Fixtures.Toml.Basic
import Fixtures.Toml.Reader
import Fixtures.Toml.Reader.Blank
import Fixtures.Toml.Reader.Number
import Fixtures.Toml.Reader.Text
import Fixtures.Typing.Registry
import Fixtures.Value.Basic
import Fixtures.Value.Coerce
import Fixtures.Value.Record
import Fixtures.Value.Tagged
