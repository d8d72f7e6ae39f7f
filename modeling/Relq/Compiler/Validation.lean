/-
Module: Relq.Compiler.Validation
Layer: Compiler
Purpose: Structural validation of query ASTs (`_compiler/validation.py`). A statement is accepted
  when `validateQuery` returns without raising. As in the source, one list `outer` carries both the
  CTE names and the column sources of the enclosing scopes.
Imports: Relq.Analysis.Scopes, Relq.Analysis.Nullability, Relq.Compiler.Grouping
Trusted boundary: human-reviewed spec
Main exports: validateSources, validateLocks, validateSelect, validateStatement, validateQuery,
  Accepted
-/
import Relq.Analysis.Scopes
import Relq.Analysis.Nullability
import Relq.Compiler.Grouping

namespace Relq

variable {V : Type}

/-! ### Compound shape and recursive CTEs -/

/-- Whether ORDER BY, LIMIT or OFFSET is present. -/
def SelectNode.isOrderedOrPaginated (node : SelectNode V) : Bool :=
  !node.orderBy.isEmpty || node.limit.isSome || node.offset.isSome

def validateCompoundShape (node : SelectNode V) : Except PyError Unit := do
  if node.compounds.isEmpty then return ()
  check (node.isOrderedOrPaginated = false)
    (.valueError "compound queries cannot have ORDER BY, LIMIT, or OFFSET; bind the compound with as_() to a declared DerivedTable and modify the outer query" [])
  node.compounds.forM fun arm => do
    check (node.selections.length = arm.query.selections.length)
      (.valueError "compound queries require equal projection widths: left has {}, right has {}"
        [toString node.selections.length, toString arm.query.selections.length])
    check arm.query.ctes.isEmpty (.valueError "a compound arm cannot declare CTEs" [])
    check arm.query.compounds.isEmpty
      (.valueError "a compound arm cannot itself be compound" [])
    check (arm.query.isOrderedOrPaginated = false)
      (.valueError "compound arms cannot have ORDER BY, LIMIT, or OFFSET" [])

/-- Require a non-recursive seed followed by recursive UNION ALL arms. -/
def validateRecursiveCte (node : SelectNode V) (name : String) : Except PyError Unit := do
  let seed := { node with compounds := [] }
  check (name ∉ cteReferences seed)
    (.valueError "a recursive CTE's seed query cannot reference itself" [])
  check (node.compounds ≠ [])
    (.valueError "recursive CTE requires a non-recursive seed and a UNION ALL recursive arm" [])
  (node.compounds.zipIdx 1).forM fun (compound, index) => do
    check (compound.operator = .unionAll)
      (.valueError "recursive CTE arms must be combined with union_all()" [])
    check (name ∈ cteReferences compound.query)
      (.valueError "recursive CTE arm {} must reference its own CTE source" [toString index])

/-! ### Nullability of selected expressions -/

/-- The arithmetic operators of `_nullable_result_sources`. -/
def BinaryOperator.isArithmetic (operator : BinaryOperator) : Bool :=
  operator ∈ [.add, .subtract, .multiply, .divide]

/-- The operands whose NULL makes a selected expression NULL according to
`_nullable_result_sources`; columns are treated there directly. -/
def nullPropagatingOperands : Node V → List (Node V)
  | .aliased expression _ => [expression]
  | .uuidCast expression => [expression]
  | .binary left operator right => if operator.isArithmetic then [left, right] else []
  | .temporalArithmetic timestamp _ interval => [timestamp, interval]
  | .temporalDifference left right => [left, right]
  | .temporalAge left right => [left, right]
  | .temporalMakeDate year month day => [year, month, day]
  | .temporalMakeTime hour minute second => [hour, minute, second]
  | .temporalMakeTimestamp year month day hour minute second =>
      [year, month, day, hour, minute, second]
  | .temporalMakeTimestamptz year month day hour minute second zone =>
      [year, month, day, hour, minute, second] ++ zone.toList
  | .temporalMakeInterval components => components.map (·.2)
  | .temporalEpoch seconds => [seconds]
  | .temporalIntervalUnary seconds => [seconds]
  | .temporalJustify _ seconds => [seconds]
  | .temporalIntervalScale interval _ factor => [interval, factor]
  | .temporalTimezone expression zone => [expression, zone]
  | .temporalExtract _ expression => [expression]
  | .temporalTrunc _ expression => [expression]
  | .temporalTruncTimestamptz _ expression zone => [expression, zone]
  | .temporalBin stride expression origin => [stride, expression, origin]
  | .case branches otherwise => otherwise :: branches.map (·.2)
  | _ => []

theorem nullPropagatingOperands_subset {node operand : Node V}
    (member : operand ∈ nullPropagatingOperands node) : operand ∈ children node := by
  cases node with
  | binary left operator right =>
      simp only [nullPropagatingOperands] at member
      split at member
      · simpa [children] using member
      · simp at member
  | case branches otherwise =>
      simp only [nullPropagatingOperands, List.mem_cons, List.mem_map] at member
      rcases member with rfl | ⟨branch, inside, rfl⟩
      · simp [children]
      · simp only [children, List.mem_append, List.mem_flatMap]
        exact Or.inl ⟨branch, inside, by simp⟩
  | _ =>
      simp only [nullPropagatingOperands, List.not_mem_nil] at member <;>
        simpa [children] using member

/-- Sources that can make a selected scalar expression NULL. -/
def nullableResultSources (node : Node V) : List String :=
  match node with
  | .column source _ => [source]
  | node => (nullPropagatingOperands node).attach.flatMap fun operand =>
      nullableResultSources operand.1
termination_by sizeOf node
decreasing_by exact sizeOf_lt_of_mem_children (nullPropagatingOperands_subset operand.2)

def validateSelectionNullability (node : Node V) (nullableSources : List String) :
    Except PyError Unit :=
  let sources := (nullableResultSources node).filter (· ∈ nullableSources)
  check (sources = [])
    (.valueError "outer join can NULL-extend selected expression from source(s) {}; call .nullable() to acknowledge its optional result type" (sortedNames sources))

/-- Require an explicit result-type transition after an outer join. -/
def validateProjectedNullability (node : SelectNode V) : Except PyError Unit := do
  let nullableSources ← nullExtendedSources node
  if nullableSources.isEmpty then return ()
  node.selections.forM fun selection => validateSelectionNullability selection nullableSources

/-! ### Sources and locks -/

/-- `_add_source`: the new `available` and `local` sets. -/
def addSource (reference : String) (available locals : List String) :
    Except PyError (List String × List String) := do
  check (reference ∉ locals)
    (.valueError "each FROM/JOIN source needs a distinct table name or alias" [])
  return (reference :: available, reference :: locals)

/-- The join loop of `validate_sources`; it returns the references available after all joins. -/
def validateJoins : List (JoinNode V) → (available locals : List String) →
    Except PyError (List String)
  | [], available, _ => .ok available
  | join :: rest, available, locals => do
      let (available, locals) ← addSource join.source.reference available locals
      let missing := (referencedSources join.predicate).filter (· ∉ available)
      check (missing = [])
        (.valueError "join predicate references source(s) not visible at this join: {}"
          (sortedNames missing))
      validateJoins rest available locals

/-- The expressions `validate_sources` checks after the joins. -/
def SelectNode.clauseExpressions (node : SelectNode V) : List (Node V) :=
  node.selections ++ node.whereNode.toList ++ node.groupBy ++ node.having.toList ++
    node.orderBy.map (·.expression)

def validateSources (node : SelectNode V) (outer : List String) : Except PyError Unit := do
  match node.fromSource with
  | none => .error (.valueError "SELECT queries must have from_() before compilation" [])
  | some source => do
      node.sources.forM fun source => do
        match source.cteName with
        | none => return ()
        | some name =>
            check (name ∈ outer)
              (.valueError "query references CTE {} before it is declared" [name])
      let (available, locals) ← addSource source.reference outer []
      let available ← validateJoins node.joins available locals
      let missing := (node.clauseExpressions.flatMap referencedSources).filter (· ∉ available)
      check (missing = [])
        (.valueError "query references source(s) not present in from_() or join(): {}"
          (sortedNames missing))
      validateProjectedNullability node

/-- `isinstance(descendant, (AggregateNode, WindowNode))`. -/
def Node.isAnalytic : Node V → Bool
  | .aggregate _ _ _ => true
  | .window .. => true
  | _ => false

def SourceNode.directTable : SourceNode V → Option TableSourceNode
  | .table relation => some relation
  | _ => none

/-- PostgreSQL's row-locking restrictions. -/
def validateLocks (node : SelectNode V) : Except PyError Unit := do
  if node.locks.isEmpty then return ()
  check (node.distinct = false)
    (.valueError "row locking cannot be combined with DISTINCT" [])
  check (node.groupBy.isEmpty ∧ node.having.isNone)
    (.valueError "row locking cannot be combined with GROUP BY or HAVING" [])
  check node.compounds.isEmpty
    (.valueError "row locking cannot be combined with UNION, INTERSECT, or EXCEPT" [])
  check ((node.clauseExpressions.flatMap walk).any Node.isAnalytic = false)
    (.valueError "row locking cannot be combined with aggregate or window expressions" [])
  let directTables := node.sources.filterMap SourceNode.directTable
  let nullable ← nullExtendedSources node
  node.locks.forM fun lock => do
    let targets := if lock.of.isEmpty then directTables else lock.of
    check (∀ target ∈ targets, target ∈ directTables)
      (.valueError "lock OF must reference direct tables in from_() or join()" [])
    check (∀ target ∈ targets, target.reference ∉ nullable)
      (.valueError "row locking cannot lock a nullable outer-join side" [])

/-! ### Dialect rules -/

def extractFieldValues : List String :=
  ["century", "day", "decade", "dow", "doy", "epoch", "hour", "isodow", "isoyear", "julian",
    "microseconds", "millennium", "milliseconds", "minute", "month", "quarter", "second",
    "timezone", "timezone_hour", "timezone_minute", "week", "year"]

def truncUnitValues : List String :=
  ["microseconds", "milliseconds", "second", "minute", "hour", "day", "week", "month", "quarter",
    "year", "decade", "century", "millennium"]

def intervalComponents : List String :=
  ["years", "months", "weeks", "days", "hours", "mins", "secs"]

/-- `isinstance(item, temporal_types)`. -/
def Node.isTemporal : Node V → Bool
  | .temporalClock _ | .temporalMakeDate .. | .temporalMakeTime .. | .temporalMakeTimestamp ..
  | .temporalMakeTimestamptz .. | .temporalMakeInterval .. | .temporalEpoch ..
  | .temporalArithmetic .. | .temporalDifference .. | .temporalIntervalUnary ..
  | .temporalIntervalScale .. | .temporalTimezone .. | .temporalExtract .. | .temporalTrunc ..
  | .temporalTruncTimestamptz .. | .temporalBin .. | .temporalAge .. | .temporalOverlaps ..
  | .temporalJustify .. => true
  | _ => false

/-- Clock kinds, signs, scale operators and justify functions cannot be out of range: their node
fields are closed enumerations. -/
def validateTemporalNode [PyObject V] : Node V → Except PyError Unit
  | .temporalMakeInterval components => do
      let names := components.map (·.1)
      check (∀ name ∈ names, name ∈ intervalComponents)
        (.valueError "unsupported make_interval component" [])
      check names.Nodup (.valueError "make_interval components must be unique" [])
  | .temporalExtract field _ =>
      check (field ∈ extractFieldValues) (.valueError "unsupported extract field: {}" [field])
  | .temporalTrunc unit _ =>
      check (unit ∈ truncUnitValues) (.valueError "unsupported date_trunc unit: {}" [unit])
  | .temporalTruncTimestamptz unit _ _ =>
      check (unit ∈ truncUnitValues) (.valueError "unsupported date_trunc unit: {}" [unit])
  | .temporalBin (.value stride) _ _ =>
      match PyObject.view stride with
      | .interval months days microseconds =>
          check (¬(months ≠ 0 ∨ days * 86400000000 + microseconds ≤ 0))
            (.valueError
              "date_bin stride must be positive and cannot contain month-or-larger units" [])
      | _ => .ok ()
  | _ => .ok ()

def validateExpressionDialect [PyObject V] (expression : Node V) (dialect : Dialect) :
    Except PyError Unit :=
  (walk expression).forM fun item =>
    if item.isTemporal then do
      check dialect.supportsTemporalArithmetic
        (.valueError "{} does not support PostgreSQL temporal expressions" [dialect.name])
      validateTemporalNode item
    else .ok ()

/-- The expressions of a SELECT in the order of `_validate_dialect_nodes`. -/
def SelectNode.dialectExpressions (node : SelectNode V) : List (Node V) :=
  node.selections ++ node.whereNode.toList ++ node.joins.map (·.predicate) ++ node.groupBy ++
    node.having.toList ++ node.orderBy.map (·.expression)

def validateDialectNodes [PyObject V] (node : SelectNode V) (dialect : Dialect) :
    Except PyError Unit := do
  node.dialectExpressions.forM fun expression => validateExpressionDialect expression dialect
  check (node.locks.isEmpty ∨ dialect.supportsRowLocking)
    (.valueError "{} does not support PostgreSQL row locking" [dialect.name])

/-! ### Data modification -/

def validateDmlSources (table : TableSourceNode) (expressions : List (Node V)) :
    Except PyError Unit :=
  let missing := (expressions.flatMap referencedSources).filter (· ≠ table.reference)
  check (missing = [])
    (.valueError "DML query references source(s) outside its target table: {}"
      (sortedNames missing))

def rejectAggregatesAndWindows (expressions : List (Node V)) (statement : String) :
    Except PyError Unit :=
  check ((expressions.flatMap walk).any Node.isAnalytic = false)
    (.valueError "{} cannot contain aggregate or window expressions" [statement])

/-- The source an `ExcludedNode` names. -/
def Node.excludedSource : Node V → Option String
  | .excluded source _ => some source
  | _ => none

def excludedSources (node : Node V) : List String :=
  (walk node).filterMap Node.excludedSource

/-- `_conflict_predicates`. -/
def ConflictNode.predicates (conflict : ConflictNode V) : List (Node V) :=
  conflict.targetWhere.toList ++ conflict.updateWhere.toList

/-- VALUES cells and conflict assignments, the `values` of `validate_insert`. -/
def InsertNode.assignedValues (node : InsertNode V) : List (Node V) :=
  insertValues node.source ++
    node.conflict.toList.flatMap fun conflict => conflict.updateValues.map (·.2)

def validateInsertClauses (node : InsertNode V) : Except PyError Unit := do
  let targetWhere := node.conflict.bind (·.targetWhere)
  let updateWhere := node.conflict.bind (·.updateWhere)
  match node.conflict with
  | none => pure ()
  | some conflict => do
      check (conflict.targetWhere.isNone ∨ ¬conflict.columns.isEmpty)
        (.valueError "ON CONFLICT ... WHERE requires at least one conflict target column" [])
      check (conflict.updateWhere.isNone ∨ conflict.action = "update")
        (.valueError "a conflict action predicate requires ON CONFLICT DO UPDATE" [])
  validateDmlSources node.table
    (targetWhere.toList ++ updateWhere.toList ++ node.assignedValues ++ node.returning)
  check (targetWhere.toList.flatMap excludedSources = [])
    (.valueError "excluded() cannot appear in a conflict-target predicate; the arbiter matches a unique index over stored rows, not the proposed row" [])
  let excluded := (node.assignedValues ++ updateWhere.toList).flatMap excludedSources
  if excluded.isEmpty then return ()
  check (node.conflict.any fun conflict => decide (conflict.action = "update"))
    (.valueError "excluded() can only be used in ON CONFLICT DO UPDATE assignments" [])
  check (∀ source ∈ excluded, source = node.table.reference)
    (.valueError "excluded() columns must belong to the INSERT table: {}"
      (sortedNames (excluded.filter (· ≠ node.table.reference))))

/-- The expressions of a statement other than SELECT, in the order of `_validate_insert_dialect`
and `_validate_dml_dialect`. -/
def dmlExpressions : QueryNode V → List (Node V)
  | .select _ => []
  | .insert node =>
      node.returning ++ node.assignedValues ++
        node.conflict.toList.flatMap ConflictNode.predicates
  | .update node => node.whereNode.toList ++ node.values.map (·.2) ++ node.returning
  | .delete node => node.whereNode.toList ++ node.returning

theorem sizeOf_lt_of_mem_dmlExpressions {node : QueryNode V} {expression : Node V}
    (member : expression ∈ dmlExpressions node) : sizeOf expression < sizeOf node := by
  cases node with
  | select node => simp [dmlExpressions] at member
  | insert node =>
      by_cases visited : expression ∈ scopeExpressions (.insert node)
      · exact sizeOf_scopeExpressions visited
      · obtain ⟨table, source, conflict, returning⟩ := node
        simp only [dmlExpressions, scopeExpressions, InsertNode.assignedValues, List.mem_append,
          List.mem_flatMap, Option.mem_toList] at member visited
        rcases member with (inside | inside) | ⟨clause, present, inside⟩
        · exact absurd (Or.inr inside) visited
        · exact absurd (Or.inl inside) visited
        · cases present
          obtain ⟨columns, action, updateValues, targetWhere, updateWhere⟩ := clause
          simp only [ConflictNode.predicates, List.mem_append, Option.mem_toList] at inside
          rcases inside with inside | inside
          · exact sizeOf_lt_of_mem_option inside (by simp; omega)
          · exact sizeOf_lt_of_mem_option inside (by simp; omega)
  | update node =>
      have visited : expression ∈ scopeExpressions (.update node) := by
        simp only [dmlExpressions, scopeExpressions, List.mem_append] at member ⊢
        grind
      exact sizeOf_scopeExpressions visited
  | delete node =>
      have visited : expression ∈ scopeExpressions (.delete node) := by
        simpa only [dmlExpressions, scopeExpressions, List.mem_append] using member
      exact sizeOf_scopeExpressions visited

theorem sizeOf_lt_of_mem_dml_subqueries {node : QueryNode V} {expression : Node V}
    {query : SelectNode V} (inside : expression ∈ dmlExpressions node)
    (nested : query ∈ subqueries expression) : sizeOf query < sizeOf node := by
  have := sizeOf_lt_of_mem_dmlExpressions inside
  have := sizeOf_lt_of_mem_subqueries nested
  omega

/-! ### Statements -/

/-- `query.returning`; a SELECT has none. -/
def QueryNode.returning : QueryNode V → List (Node V)
  | .select _ => []
  | .insert query => query.returning
  | .update query => query.returning
  | .delete query => query.returning

/-- The expressions whose subqueries `_validate_select` visits, in its order. -/
def SelectNode.nestedExpressions (node : SelectNode V) : List (Node V) :=
  node.selections ++ node.joins.map (·.predicate) ++ node.whereNode.toList ++ node.groupBy ++
    node.having.toList ++ node.orderBy.map (·.expression)

theorem SelectNode.mem_nestedExpressions {node : SelectNode V} {expression : Node V} :
    expression ∈ node.nestedExpressions ↔ expression ∈ node.scopeExpressions := by
  simp only [SelectNode.nestedExpressions, SelectNode.scopeExpressions, List.mem_append]
  grind

theorem sizeOf_ctes (node : SelectNode V) : sizeOf node.ctes < sizeOf node := by
  cases node
  simp
  omega

/-- `_validate_insert` without its nested queries. -/
def validateInsertShape (node : InsertNode V) : Except PyError Unit :=
  match node.source with
  | none => .error (.valueError "INSERT requires values(), from_select(), or default_values()" [])
  | some (.select query columns) => do
      check (columns ≠ []) (.valueError "insert-from-select requires target columns" [])
      check (query.selections.length = columns.length)
        (.valueError "insert-from-select projection width changed after construction" [])
  | some (.rows []) => .error .indexError
  | some (.rows (first :: rest)) =>
      check (∀ row ∈ rest, row.map (·.1) = first.map (·.1))
        (.valueError
          "every INSERT VALUES row must contain the same columns in the same order" [])
  | some (.values _) => .ok ()
  | some .defaultValues =>
      check node.conflict.isNone
        (.valueError "INSERT DEFAULT VALUES cannot use ON CONFLICT" [])

/-- The query of an insert-from-select. -/
def InsertNode.sourceQuery (node : InsertNode V) : Option (SelectNode V) :=
  match node.source with
  | some (.select query _) => some query
  | _ => none

theorem InsertNode.sizeOf_sourceQuery {node : InsertNode V} {query : SelectNode V}
    (member : query ∈ node.sourceQuery) : sizeOf query < sizeOf node := by
  obtain ⟨table, source, conflict, returning⟩ := node
  cases source with
  | none => simp [InsertNode.sourceQuery] at member
  | some source =>
      cases source with
      | select inner columns =>
          obtain rfl : inner = query := by simpa [InsertNode.sourceQuery] using member
          simp
          omega
      | _ => simp [InsertNode.sourceQuery] at member

def supportedConflictPredicates (node : InsertNode V) (dialect : Dialect) : Except PyError Unit :=
  check (node.conflict.toList.flatMap ConflictNode.predicates = [] ∨
      dialect.supportsConflictPredicates)
    (.valueError "{} does not support ON CONFLICT predicates" [dialect.name])

section
variable [DecidableEq V] [PyObject V]

mutual

/-- Validate one statement against the relations visible where it appears. -/
def validateStatement (node : QueryNode V) (dialect : Dialect) (outer : List String) :
    Except PyError Unit :=
  match node with
  | .select query => validateSelect query dialect outer
  | .insert query => do
      validateInsertShape query
      query.sourceQuery.toList.attach.forM fun inner => validateSelect inner.1 dialect outer
      validateInsertClauses query
      supportedConflictPredicates query dialect
      rejectAggregatesAndWindows (dmlExpressions (.insert query)) "INSERT"
      (dmlExpressions (.insert query)).attach.forM fun expression => do
        validateExpressionDialect expression.1 dialect
        (subqueries expression.1).attach.forM fun inner =>
          validateSelect inner.1 dialect (query.table.reference :: outer)
  | .update query => do
      check (query.values ≠ []) (.valueError "UPDATE requires at least one value" [])
      check query.bounded (.valueError "UPDATE requires where() or explicit all_rows()" [])
      validateDmlSources query.table
        (query.whereNode.toList ++ query.values.map (·.2) ++ query.returning)
      rejectAggregatesAndWindows (dmlExpressions (.update query)) "UPDATE"
      (dmlExpressions (.update query)).attach.forM fun expression => do
        validateExpressionDialect expression.1 dialect
        (subqueries expression.1).attach.forM fun inner =>
          validateSelect inner.1 dialect (query.table.reference :: outer)
  | .delete query => do
      check query.bounded (.valueError "DELETE requires where() or explicit all_rows()" [])
      validateDmlSources query.table (query.whereNode.toList ++ query.returning)
      rejectAggregatesAndWindows (dmlExpressions (.delete query)) "DELETE"
      (dmlExpressions (.delete query)).attach.forM fun expression => do
        validateExpressionDialect expression.1 dialect
        (subqueries expression.1).attach.forM fun inner =>
          validateSelect inner.1 dialect (query.table.reference :: outer)
termination_by 2 * sizeOf node
decreasing_by
  · simp
  · have := InsertNode.sizeOf_sourceQuery (Option.mem_toList.mp inner.2)
    simp
    omega
  all_goals
    have := sizeOf_lt_of_mem_dml_subqueries expression.2 inner.2
    omega

/-- `_validate_select`. -/
def validateSelect (node : SelectNode V) (dialect : Dialect) (outer : List String) :
    Except PyError Unit := do
  validateCompoundShape node
  validateCtes node.ctes dialect outer []
  let bound := node.ctes.map (·.name) ++ outer
  validateSources node bound
  validateLocks node
  validateDialectNodes node dialect
  validateAnalyticClauses node
  validateGrouping node
  node.compounds.attach.forM fun compound => do
    check compound.1.query.locks.isEmpty
      (.valueError "row locking cannot be combined with UNION, INTERSECT, or EXCEPT" [])
    validateSelect compound.1.query dialect bound
  (node.sources.filterMap SourceNode.derivedQuery).attach.forM fun inner =>
    validateSelect inner.1 dialect bound
  node.nestedExpressions.attach.forM fun expression =>
    (subqueries expression.1).attach.forM fun inner =>
      validateSelect inner.1 dialect (localSources node ++ bound)
termination_by 2 * sizeOf node
decreasing_by
  · have := sizeOf_ctes node
    omega
  · have := SelectNode.sizeOf_compound compound.2
    omega
  · have := SelectNode.sizeOf_derived inner.2
    omega
  · have := SelectNode.sizeOf_expression (SelectNode.mem_nestedExpressions.mp expression.2)
    have := sizeOf_lt_of_mem_subqueries inner.2
    omega

/-- The WITH loop of `_validate_select`; `visible` holds the names declared so far. -/
def validateCtes (ctes : List (CteNode V)) (dialect : Dialect) (outer visible : List String) :
    Except PyError Unit :=
  match ctes with
  | [] => .ok ()
  | ⟨name, query, recursive, _⟩ :: rest => do
      check (name ∉ visible) (.valueError "CTE {} is declared more than once" [name])
      validateCteBody query name recursive dialect (visible ++ outer)
      validateCtes rest dialect outer (name :: visible)
termination_by 2 * sizeOf ctes
decreasing_by all_goals simp +arith

/-- A SELECT body sees its own name if the entry is recursive; a data-modifying body
(`_validate_data_modifying_cte`) must be plain and return rows. -/
def validateCteBody (query : QueryNode V) (name : String) (recursive : Bool) (dialect : Dialect)
    (sources : List String) : Except PyError Unit :=
  match query with
  | .select query => do
      if recursive then validateRecursiveCte query name
      validateSelect query dialect (if recursive then name :: sources else sources)
  | query => do
      check (recursive = false) (.valueError "recursive CTE {} requires a SELECT query" [name])
      check (query.returning ≠ [])
        (.valueError
          "data-modifying CTE {} requires returning() to declare its output relation" [name])
      validateStatement query dialect sources
termination_by 2 * sizeOf query + 1
decreasing_by
  · simp +arith
  · omega

end

end

/-! ### WITH clauses across the whole statement -/

/-- Whether the body is not a SELECT. -/
def CteNode.isDataModifying (cte : CteNode V) : Bool :=
  match cte.query with
  | .select _ => false
  | _ => true

/-- `_validate_nested_cte_visibility`. -/
def validateNestedCteVisibility (node : QueryNode V) : Except PyError Unit :=
  (nestedScopes node []).forM fun scope =>
    match scope.1 with
    | .select nested =>
        (nested.sources.filterMap SourceNode.cteName).forM fun name =>
          check (name ∈ nested.ctes.map (·.name) ++ scope.2)
            (.valueError "query references CTE {} before it is declared" [name])
    | _ => .ok ()

/-- Names of the data-modifying entries a query declares itself. -/
def dataModifyingCtes : QueryNode V → List String
  | .select query => (query.ctes.filter CteNode.isDataModifying).map (·.name)
  | _ => []

/-- Keep data-modifying CTEs in the outermost WITH clause. -/
def validateDataModifyingCtePlacement (node : QueryNode V) : Except PyError Unit :=
  let nestedNames := (nestedQueries node).flatMap dataModifyingCtes
  check (nestedNames = [])
    (.valueError "data-modifying CTE(s) must be declared on the outermost query: {}"
      (nestedNames.mergeSort fun left right => decide (left ≤ right)))

def validateQuery [DecidableEq V] [PyObject V] (node : QueryNode V) (dialect : Dialect) :
    Except PyError Unit := do
  validateDataModifyingCtePlacement node
  validateNestedCteVisibility node
  validateStatement node dialect []

/-- `validate_query` returns without raising. -/
def Accepted [DecidableEq V] [PyObject V] (node : QueryNode V) (dialect : Dialect) : Prop :=
  validateQuery node dialect = .ok ()

instance [DecidableEq V] [PyObject V] (node : QueryNode V) (dialect : Dialect) :
    Decidable (Accepted node dialect) :=
  match outcome : validateQuery node dialect with
  | .ok () => isTrue outcome
  | .error _ => isFalse (by simp [Accepted, outcome])

end Relq
