import Relq.Syntax.Vocabulary
import Relq.Syntax.Ast
import Relq.Analysis.Walk
import Relq.Syntax.Equality
import Relq.Syntax.Assign
import Relq.Analysis.Scopes
import Relq.Analysis.Nullability
import Relq.Compiler.Model
import Relq.Analysis.Assigned
import Relq.Compiler.Render
import Relq.Compiler.Visits
import Relq.Compiler.Grouping
import Relq.Compiler.Validation
import Relq.Library.Outcome
import Relq.Library.ThreeValued
import Relq.Semantics.Evaluation
import Relq.Library.Offsets
import Relq.Compiler.Accepted
import Relq.Scoping.Environment
import Relq.Scoping.Acceptance
import Relq.Scoping.Verdict
import Relq.Scoping.Columns
import Relq.Scoping.CteBinding
import Relq.Library.Nearest
import Relq.Scoping.Resolution
import Relq.Grouping.Exposure
import Relq.Grouping.Soundness
import Relq.Grouping.Parameters
import Relq.Grouping.Values
import Relq.Library.Templates
import Relq.Library.Emission
import Relq.Compiler.Layout
import Relq.Compiler.Parts
import Relq.Compiler.Steady
import Relq.Compiler.Success
import Relq.Compiler.Portability
import Relq.Compiler.Errors
import Relq.Compiler.PortableText
import Relq.Compiler.BatchingLaws
import Relq.Compiler.LayoutParts
import Relq.Compiler.LayoutAssembly
import Relq.Compiler.Ordinals
import Relq.Compiler.Likeness
import Relq.Compiler.Binding
import Relq.Compiler.Noninterference
import Relq.Library.Greedy
import Relq.Library.Interleaving
import Relq.Library.Traces
import Relq.Library.Triples
import Relq.Sqlite.Engine
import Relq.Sqlite.Registry
import Relq.Sqlite.Consistency
import Relq.Sqlite.Growth
import Relq.Sqlite.Session
import Relq.Sqlite.Transitions
import Relq.Sqlite.Refinement
import Relq.Postgres.Runs
import Relq.Postgres.Stream
import Relq.Postgres.StreamEvents
import Relq.Postgres.Coherence
import Relq.Postgres.Recovery
import Relq.Postgres.Refinement
import Relq.Library.Dictionaries
import Relq.Builders.Declarations
import Relq.Library.Characters
import Relq.Library.Scanner
import Relq.Migrate.Emptiness
import Relq.Migrate.Splitter
import Relq.Migrate.Statements
import Relq.Migrate.Splitting
import Relq.Migrate.Incremental
import Relq.Migrate.Model
import Relq.Migrate.History
import Relq.Migrate.Ledger
import Relq.Migrate.SqliteMigrator
import Relq.Migrate.SqliteRuns
import Relq.Migrate.Screening
import Relq.Migrate.PostgresMigrator
import Relq.Migrate.PostgresRuns
import Relq.Migrate.Cleanup
import Relq.Builders.WindowSpec
import Relq.Builders.Predicates
import Relq.Library.OuterJoins
import Relq.Analysis.NullExtension
import Relq.Placement.Analytic
import Relq.Placement.Excluded
import Relq.Placement.Aliases
import Relq.Library.Chains
import Relq.Scoping.JoinPredicates
import Relq.Scoping.RecursiveForm
import Relq.Placement.Locks
import Relq.Library.EscapeStrings
import Relq.Library.Strings
import Relq.Codegen.Model
import Relq.Codegen.Mapping
import Relq.Codegen.Introspection
import Relq.Codegen.BuiltinNames
import Relq.Codegen.Lookup
import Relq.Library.Fresh
import Relq.Codegen.Names
import Relq.Codegen.Allocation
import Relq.Compiler.ArbiterPredicates
import Relq.Library.Brackets
import Relq.Compiler.Bracketing
import Relq.Compiler.ClauseText
import Relq.Compiler.UpsertText
import Relq.Compiler.CompoundText
import Relq.Semantics.ProjectedNulls
import Relq.Builders.Dml
import Relq.Builders.Select
