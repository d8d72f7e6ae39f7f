/-
Module: Relq.Scoping.JoinPredicates
Layer: Scoping
Purpose: What the ON conditions of a SELECT may name, at every depth. The references that stand
  directly in a condition are checked join by join against the sources joined so far. The subqueries
  of a condition are validated afterwards, with every source of the SELECT in scope;
  `joinPredicatesInScope_iff` says exactly what that lets through.
Imports: Relq.Scoping.Acceptance, Relq.Scoping.Columns
Trusted boundary: human-reviewed spec (predicateClauses, ReachedFrom, JoinPredicatesInScope)
Main exports: predicateClauses, ReachedFrom, JoinPredicatesInScope, JoinPredicatesBorrowNothing,
  joinPredicatesInScope_iff
-/
import Relq.Scoping.Acceptance
import Relq.Scoping.Columns

namespace Relq

variable {V : Type}

/-! ### The places of an ON condition -/

/-- The ON conditions of a SELECT, each with FROM and the joins up to its own. -/
def SelectNode.predicateClauses (node : SelectNode V) : List (Clause V) :=
  joinClauses (node.fromSource.toList.map (·.reference)) node.joins

/-- `inner` stands in a subquery of the clause, at some depth. -/
def ReachedFrom (clause : Clause V) (env : Env) (inner : QueryNode V × Env) : Prop :=
  ∃ query ∈ subqueries clause.expression,
    Relation.ReflTransGen Encloses (.select query, env.enter clause) inner

/-- Every column that stands directly in a clause names a source it can see. -/
def ClauseInScope (env : Env) (clause : Clause V) : Prop :=
  ∀ source ∈ referencedSources clause.expression, source ∈ clause.locals ∨ source ∈ env.sources

/-- Every column in an ON condition, at any depth, names FROM, a join up to that condition, a source
of an enclosing statement, or a source of the subquery it stands in. -/
def JoinPredicatesInScope (root : QueryNode V) : Prop :=
  ∀ node env, Occurs root (.select node, env) → ∀ clause ∈ node.predicateClauses,
    ClauseInScope env clause ∧
      ∀ inner, ReachedFrom clause (node.mainEnv env) inner →
        ∀ part ∈ ownClauses inner.1, ClauseInScope inner.2 part

/-! ### What the validator lets through -/

/-- No column of a clause has only the name of a WITH entry, or only that of a relation which an
ON condition around the clause cannot see yet. -/
def ClauseBorrowsNothing (node : QueryNode V) (env : Env) (clause : Clause V) : Prop :=
  ∀ source ∈ referencedSources clause.expression,
    source ∈ (clauseEnv node env).declaredNames ∨ source ∈ env.later →
      source ∈ clause.locals ∨ source ∈ env.sources

/-- `ClauseBorrowsNothing` at every depth of every ON condition. -/
def JoinPredicatesBorrowNothing (root : QueryNode V) : Prop :=
  ∀ node env, Occurs root (.select node, env) → ∀ clause ∈ node.predicateClauses,
    ClauseBorrowsNothing (.select node) env clause ∧
      ∀ inner, ReachedFrom clause (node.mainEnv env) inner →
        ∀ part ∈ ownClauses inner.1, ClauseBorrowsNothing inner.1 inner.2 part

theorem predicateClauses_subset {node : SelectNode V} {clause : Clause V}
    (member : clause ∈ node.predicateClauses) : clause ∈ node.clauses :=
  List.mem_append_left _ member

/-- What an ON condition reaches occurs in the statement. -/
theorem ReachedFrom.occurs {root : QueryNode V} {node : SelectNode V} {env : Env}
    {clause : Clause V} {inner : QueryNode V × Env} (occurs : Occurs root (.select node, env))
    (member : clause ∈ node.predicateClauses)
    (reached : ReachedFrom clause (node.mainEnv env) inner) : Occurs root inner := by
  obtain ⟨query, nested, reached⟩ := reached
  have encloses : Encloses (.select node, env)
      (.select query, (node.mainEnv env).enter clause) := by
    refine List.mem_append_right _ (List.mem_flatMap.mpr ⟨clause, ?_, ?_⟩)
    · exact predicateClauses_subset member
    · exact List.mem_map_of_mem nested
  exact (occurs.tail encloses).trans reached

section
variable [DecidableEq V] [PyObject V]

/-- The columns of an accepted statement that can see nothing of their name have borrowed it. -/
theorem clauseInScope_iff {root : QueryNode V} {dialect : Dialect} (accepted : Accepted root dialect)
    {node : QueryNode V} {env : Env} (occurs : Occurs root (node, env)) {clause : Clause V}
    (member : clause ∈ ownClauses node) :
    ClauseInScope env clause ↔ ClauseBorrowsNothing node env clause := by
  constructor
  · intro sound source named _
    exact sound source named
  · intro plain source named
    rcases accepted_columns accepted occurs member named with shown | enclosing | later | declared
    · exact .inl shown
    · exact .inr (clauseEnv_sources node env ▸ enclosing)
    · exact plain source named (.inr (clauseEnv_later node env ▸ later))
    · exact plain source named (.inl declared)

/-- The ON conditions of an accepted statement see only what was joined up to them exactly when no
column in them has only the name of a WITH entry or of a later join. -/
theorem joinPredicatesInScope_iff {root : QueryNode V} {dialect : Dialect}
    (accepted : Accepted root dialect) :
    JoinPredicatesInScope root ↔ JoinPredicatesBorrowNothing root := by
  have direct : ∀ node env, Occurs root (.select node, env) → ∀ clause ∈ node.predicateClauses,
      (ClauseInScope env clause ↔ ClauseBorrowsNothing (.select node) env clause) := by
    intro node env occurs clause member
    exact clauseInScope_iff accepted occurs (predicateClauses_subset member)
  have nested : ∀ node env, Occurs root (.select node, env) → ∀ clause ∈ node.predicateClauses,
      ∀ inner, ReachedFrom clause (node.mainEnv env) inner → ∀ part ∈ ownClauses inner.1,
        (ClauseInScope inner.2 part ↔ ClauseBorrowsNothing inner.1 inner.2 part) := by
    intro node env occurs clause member inner reached part listed
    exact clauseInScope_iff accepted (reached.occurs occurs member) listed
  constructor
  · intro sound node env occurs clause member
    obtain ⟨shown, below⟩ := sound node env occurs clause member
    refine ⟨(direct node env occurs clause member).mp shown, fun inner reached part listed => ?_⟩
    exact (nested node env occurs clause member inner reached part listed).mp
      (below inner reached part listed)
  · intro plain node env occurs clause member
    obtain ⟨shown, below⟩ := plain node env occurs clause member
    refine ⟨(direct node env occurs clause member).mpr shown, fun inner reached part listed => ?_⟩
    exact (nested node env occurs clause member inner reached part listed).mpr
      (below inner reached part listed)

end

/-! ### A relation that is joined too late -/

/-- `SELECT "v"."a" FROM "v" WHERE "v"."a" = "w"."a"`. -/
def correlatedToLater : SelectNode Int :=
  { selections := [.column "v" "a"]
    fromSource := some (.table { name := "v" })
    whereNode := some (.binary (.column "v" "a") .eq (.column "w" "a")) }

/-- `SELECT "t"."a" FROM "t" INNER JOIN "u" ON EXISTS (…) INNER JOIN "w" ON "t"."a" = "w"."a"`. -/
def joinedTooLate : QueryNode Int :=
  .select
    { selections := [.column "t" "a"]
      fromSource := some (.table { name := "t" })
      joins := [
        { source := .table { name := "u" }
          predicate := .exists correlatedToLater false
          kind := "inner" },
        { source := .table { name := "w" }
          predicate := .binary (.column "t" "a") .eq (.column "w" "a")
          kind := "inner" }] }

theorem joinedTooLate_out_of_scope :
    Accepted joinedTooLate postgres ∧ ¬JoinPredicatesInScope joinedTooLate := by
  refine ⟨by decide +kernel, fun sound => ?_⟩
  have nested : correlatedToLater ∈
      subqueries (.exists correlatedToLater false : Node Int) :=
    mem_subqueries.mpr ⟨_, self_mem_walk _, rfl⟩
  have named : "w" ∈ referencedSources
      (.binary (.column "v" "a") .eq (.column "w" "a") : Node Int) := by decide +kernel
  have part := (sound _ {} .refl ⟨["u", "t"], ["w"], .exists correlatedToLater false⟩
    (by simp [SelectNode.predicateClauses, joinClauses, SourceNode.reference,
      TableSourceNode.reference])).2
    (.select correlatedToLater, _) ⟨correlatedToLater, nested, .refl⟩
    ⟨["v"], [], .binary (.column "v" "a") .eq (.column "w" "a")⟩
    (by simp [ownClauses, SelectNode.clauses, joinClauses, SelectNode.clauseExpressions,
      localSources, SourceNode.reference, TableSourceNode.reference, correlatedToLater])
    "w" named
  simp [Env.enter, SelectNode.mainEnv, Env.push] at part

theorem joinPredicatesInScope_iff_joinedTooLate : Accepted joinedTooLate postgres ∧
    (JoinPredicatesInScope joinedTooLate ↔ JoinPredicatesBorrowNothing joinedTooLate) := by
  have accepted : Accepted joinedTooLate postgres := by decide +kernel
  exact ⟨accepted, joinPredicatesInScope_iff accepted⟩

end Relq
