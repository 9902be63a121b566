import CrossQuery.Calendar.Clock
import CrossQuery.Calendar.Date
import CrossQuery.Calendar.Reader
import CrossQuery.Calendar.Timestamp
import CrossQuery.Capability
import CrossQuery.Catalog
import CrossQuery.Catalog.Builder
import CrossQuery.Cell
import CrossQuery.Cell.Order
import CrossQuery.Collection.Document
import CrossQuery.Collection.Group
import CrossQuery.Collection.Match
import CrossQuery.Collection.Pipeline
import CrossQuery.Collection.Stage
import CrossQuery.CommandLine
import CrossQuery.CommandLine.Arguments
import CrossQuery.Config
import CrossQuery.Dataset
import CrossQuery.Dataset.Reader
import CrossQuery.Dataset.Stores
import CrossQuery.Decimal.Binary
import CrossQuery.Decimal.Notation
import CrossQuery.Decimal.Reading
import CrossQuery.Decimal.Shortest
import CrossQuery.Description
import CrossQuery.Engine
import CrossQuery.Engine.Backend
import CrossQuery.Engine.Store
import CrossQuery.Engine.Timeline
import CrossQuery.Envelope
import CrossQuery.Failure
import CrossQuery.Grouping
import CrossQuery.Json
import CrossQuery.Json.Numeral
import CrossQuery.Json.Reader
import CrossQuery.Json.Shape
import CrossQuery.Json.Writer
import CrossQuery.Main
import CrossQuery.Pattern
import CrossQuery.Pattern.Like
import CrossQuery.Pattern.Reader
import CrossQuery.Plan
import CrossQuery.Plan.Compiler
import CrossQuery.Postgres.Server
import CrossQuery.Postgres.Settings
import CrossQuery.Proofs.Agreement.Aggregates
import CrossQuery.Proofs.Agreement.Counted
import CrossQuery.Proofs.Agreement.Groups
import CrossQuery.Proofs.Agreement.Mirrored
import CrossQuery.Proofs.Agreement.Overflow
import CrossQuery.Proofs.Agreement.Partition
import CrossQuery.Proofs.Agreement.Rows
import CrossQuery.Proofs.Agreement.Single
import CrossQuery.Proofs.Agreement.Source
import CrossQuery.Proofs.Agreement.Summary
import CrossQuery.Proofs.Agreement.Texts
import CrossQuery.Proofs.Agreement.Totals
import CrossQuery.Proofs.Agreement.Windowed
import CrossQuery.Proofs.Calendar.Order
import CrossQuery.Proofs.Calendar.RoundTrip
import CrossQuery.Proofs.Catalog.Additions
import CrossQuery.Proofs.Catalog.Building
import CrossQuery.Proofs.Catalog.Built
import CrossQuery.Proofs.Catalog.Calls
import CrossQuery.Proofs.Cell.Admitted
import CrossQuery.Proofs.Cell.Content
import CrossQuery.Proofs.Cell.Mixed
import CrossQuery.Proofs.Cell.Sorted
import CrossQuery.Proofs.Collection.Completed
import CrossQuery.Proofs.Collection.Compound
import CrossQuery.Proofs.Collection.Matching
import CrossQuery.Proofs.Collection.Pages
import CrossQuery.Proofs.Collection.Pipelines
import CrossQuery.Proofs.Dataset.Catalog
import CrossQuery.Proofs.Dataset.Contents
import CrossQuery.Proofs.Dataset.Contiguous
import CrossQuery.Proofs.Dataset.Keyed
import CrossQuery.Proofs.Dataset.Pages
import CrossQuery.Proofs.Dataset.Reading
import CrossQuery.Proofs.Dataset.Shared
import CrossQuery.Proofs.Dataset.Spelling
import CrossQuery.Proofs.Dataset.Storage
import CrossQuery.Proofs.Dataset.Typed
import CrossQuery.Proofs.Decimal.Number
import CrossQuery.Proofs.Decimal.Packing
import CrossQuery.Proofs.Decimal.Rounding
import CrossQuery.Proofs.Decimal.Shortest
import CrossQuery.Proofs.Engine.Attempts
import CrossQuery.Proofs.Engine.Bounded
import CrossQuery.Proofs.Engine.Completed
import CrossQuery.Proofs.Engine.Passage
import CrossQuery.Proofs.Engine.Retries
import CrossQuery.Proofs.Grouping
import CrossQuery.Proofs.Outcome
import CrossQuery.Proofs.Pattern.Escapes
import CrossQuery.Proofs.Pattern.Like
import CrossQuery.Proofs.Pattern.Literal
import CrossQuery.Proofs.Plan.ColumnNames
import CrossQuery.Proofs.Plan.Composed
import CrossQuery.Proofs.Plan.Described
import CrossQuery.Proofs.Plan.ForeignKeys
import CrossQuery.Proofs.Plan.Joins
import CrossQuery.Proofs.Plan.Kept
import CrossQuery.Proofs.Plan.Local
import CrossQuery.Proofs.Plan.Lowered
import CrossQuery.Proofs.Plan.Meaning
import CrossQuery.Proofs.Plan.Pages
import CrossQuery.Proofs.Plan.Portable
import CrossQuery.Proofs.Plan.Rendered
import CrossQuery.Proofs.Plan.Resolved
import CrossQuery.Proofs.Plan.Values
import CrossQuery.Proofs.Plan.Visited
import CrossQuery.Proofs.Plan.WellFormed
import CrossQuery.Proofs.Postgres.Connection
import CrossQuery.Proofs.Predicate.Judgement
import CrossQuery.Proofs.Predicate.Portable
import CrossQuery.Proofs.Predicate.Stored
import CrossQuery.Proofs.Predicate.Truth
import CrossQuery.Proofs.Relational.Answers
import CrossQuery.Proofs.Relational.Calls
import CrossQuery.Proofs.Relational.Checked
import CrossQuery.Proofs.Relational.Completed
import CrossQuery.Proofs.Relational.Conditions
import CrossQuery.Proofs.Relational.Constants
import CrossQuery.Proofs.Relational.Filters
import CrossQuery.Proofs.Relational.Grouped
import CrossQuery.Proofs.Relational.Joined
import CrossQuery.Proofs.Relational.Membership
import CrossQuery.Proofs.Relational.Pages
import CrossQuery.Proofs.Relational.Reread
import CrossQuery.Proofs.Relational.Statements
import CrossQuery.Proofs.Renaming.Catalogs
import CrossQuery.Proofs.Renaming.Documents
import CrossQuery.Proofs.Renaming.Pipelines
import CrossQuery.Proofs.Renaming.Plans
import CrossQuery.Proofs.Renaming.Runs
import CrossQuery.Proofs.Renaming.Sources
import CrossQuery.Proofs.Renaming.Statements
import CrossQuery.Proofs.Renaming.Stores
import CrossQuery.Proofs.Renaming.Tables
import CrossQuery.Proofs.Request.RoundTrip
import CrossQuery.Proofs.Select.Clauses
import CrossQuery.Proofs.Select.Ensured
import CrossQuery.Proofs.Select.Expressions
import CrossQuery.Proofs.Select.Fits
import CrossQuery.Proofs.Select.Heads
import CrossQuery.Proofs.Select.Lexed
import CrossQuery.Proofs.Select.Numerals
import CrossQuery.Proofs.Select.Parsed
import CrossQuery.Proofs.Select.Phrases
import CrossQuery.Proofs.Select.Planned
import CrossQuery.Proofs.Select.RoundTrip
import CrossQuery.Proofs.Select.Shapes
import CrossQuery.Proofs.Select.Spelled
import CrossQuery.Proofs.Select.Stepping
import CrossQuery.Proofs.Select.Texts
import CrossQuery.Proofs.Select.Trees
import CrossQuery.Proofs.Sorting
import CrossQuery.Proofs.Text.Order
import CrossQuery.Relational.Answer
import CrossQuery.Relational.Database
import CrossQuery.Relational.Evaluation
import CrossQuery.Relational.Operation
import CrossQuery.Relational.Scope
import CrossQuery.Relational.Selection
import CrossQuery.Request
import CrossQuery.Request.Reader
import CrossQuery.Request.Writer
import CrossQuery.Rowset
import CrossQuery.Select.Clause
import CrossQuery.Select.DataType
import CrossQuery.Select.Grammar
import CrossQuery.Select.Phrase
import CrossQuery.Select.Reader
import CrossQuery.Select.Statement
import CrossQuery.Select.Token
import CrossQuery.Select.Tree
import CrossQuery.Select.Writer
import CrossQuery.Text.Blank
import CrossQuery.Text.CaseMappings
import CrossQuery.Text.Casing
import CrossQuery.Text.Letter
import CrossQuery.Text.Numeral
import CrossQuery.Text.Quoted
import CrossQuery.Text.Search
import CrossQuery.Text.Word
import CrossQuery.Toml
import CrossQuery.Toml.Reader
import CrossQuery.Toml.Scalar
import CrossQuery.Toml.Text
import CrossQuery.Truth
