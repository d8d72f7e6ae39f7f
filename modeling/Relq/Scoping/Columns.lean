/-
Module: Relq.Scoping.Columns
Layer: Scoping
Purpose: Column scope. The validator carries the sources of enclosing statements and the names of
  WITH entries in one set, so an accepted column may borrow the name of an entry that is no relation
  of any FROM or JOIN. `columnsInScope_iff` says that this, and a subquery of an ON condition naming
  a relation joined later, are the only ways out of scope.
Imports: Relq.Scoping.Acceptance
Trusted boundary: none (fully proved)
Main exports: NoBorrowedColumn, columnsInScope_iff
-/
import Relq.Scoping.Acceptance

namespace Relq

variable {V : Type}

/-- No column takes its name from a WITH entry, or from a relation joined only after the ON
condition around it, unless a source it can see has that name too. -/
def NoBorrowedColumn (root : QueryNode V) : Prop :=
  ∀ node env, Occurs root (node, env) → ∀ clause ∈ ownClauses node,
    ∀ source ∈ referencedSources clause.expression,
      source ∈ (clauseEnv node env).declaredNames ∨ source ∈ env.later →
        source ∈ clause.locals ∨ source ∈ env.sources

theorem clauseEnv_sources (node : QueryNode V) (env : Env) :
    (clauseEnv node env).sources = env.sources := by
  cases node <;> rfl

theorem clauseEnv_later (node : QueryNode V) (env : Env) :
    (clauseEnv node env).later = env.later := by
  cases node <;> rfl

/-- Column scope is sound in an accepted query exactly when no column borrows its name. -/
theorem columnsInScope_iff [DecidableEq V] [PyObject V] {root : QueryNode V} {dialect : Dialect}
    (accepted : Accepted root dialect) : ColumnsInScope root ↔ NoBorrowedColumn root := by
  constructor
  · intro sound node env occurs clause member source named _
    exact sound node env occurs clause member source named
  · intro plain node env occurs clause member source named
    rcases accepted_columns accepted occurs member named with shown | enclosing | later | declared
    · exact Or.inl shown
    · exact Or.inr (clauseEnv_sources node env ▸ enclosing)
    · exact plain node env occurs clause member source named
        (Or.inr (clauseEnv_later node env ▸ later))
    · exact plain node env occurs clause member source named (Or.inl declared)

/-- `WITH "c" AS (SELECT "t"."a" FROM "t") SELECT "c"."a" FROM "t"`. -/
def borrowedColumn : QueryNode Int :=
  .select
    { selections := [.column "c" "a"]
      fromSource := some (.table { name := "t" })
      ctes := [
        { name := "c"
          query := .select
            { selections := [.column "t" "a"], fromSource := some (.table { name := "t" }) } }] }

/-- The entry `c` is never read, and yet licenses a column. -/
theorem borrowedColumn_out_of_scope :
    Accepted borrowedColumn sqlite ∧ ¬ColumnsInScope borrowedColumn := by
  refine ⟨by decide +kernel, fun sound => ?_⟩
  have named : "c" ∈ referencedSources (.column "c" "a" : Node Int) := by decide +kernel
  have := sound borrowedColumn {} .refl ⟨["t"], [], .column "c" "a"⟩ (by simp [borrowedColumn,
    ownClauses, SelectNode.clauses, joinClauses, SelectNode.clauseExpressions, localSources,
    SourceNode.reference, TableSourceNode.reference]) "c" named
  simp at this

/-- `WITH "c" AS (SELECT "t"."a" FROM "t") SELECT "c"."a" FROM "c"`. -/
def readColumn : QueryNode Int :=
  .select
    { selections := [.column "c" "a"]
      fromSource := some (.cte "c")
      ctes := [
        { name := "c"
          query := .select
            { selections := [.column "t" "a"], fromSource := some (.table { name := "t" }) } }] }

theorem columnsInScope_iff_readColumn :
    Accepted readColumn sqlite ∧ (ColumnsInScope readColumn ↔ NoBorrowedColumn readColumn) := by
  have accepted : Accepted readColumn sqlite := by decide +kernel
  exact ⟨accepted, columnsInScope_iff accepted⟩

end Relq
