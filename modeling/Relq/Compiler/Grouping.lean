/-
Module: Relq.Compiler.Grouping
Layer: Compiler
Purpose: Portable analytic and grouped-query validation (`_compiler/grouping.py`).
Imports: Relq.Analysis.Walk, Relq.Syntax.Equality, Relq.Compiler.Model
Trusted boundary: human-reviewed spec
Main exports: check, containsAnalytic, validateAggregateNesting, validateAnalyticClauses,
  ungroupedLocalColumns, validateGrouping
-/
import Relq.Analysis.Walk
import Relq.Syntax.Equality
import Relq.Compiler.Model

namespace Relq

variable {V : Type}

/-- `if not condition: raise error`. -/
def check (condition : Prop) [Decidable condition] (error : PyError) : Except PyError Unit :=
  if condition then .ok () else .error error

/-- `sorted(set(names))`, for error messages. -/
def sortedNames (names : List String) : List String :=
  names.eraseDups.mergeSort fun left right => decide (left ≤ right)

/-- `_contains_analytic` below a present node. -/
def containsAnalytic (aggregate window : Bool) (node : Node V) : Bool :=
  match node with
  | .aggregate name arguments filter =>
      aggregate || (children (.aggregate name arguments filter)).attach.any fun child =>
        containsAnalytic aggregate window child.1
  | .window .. => window
  | node => (children node).attach.any fun child => containsAnalytic aggregate window child.1
termination_by sizeOf node
decreasing_by all_goals exact sizeOf_lt_of_mem_children child.2

def containsAggregateOrWindow (node : Option (Node V)) : Bool :=
  node.any (containsAnalytic true true)

def containsWindow (node : Option (Node V)) : Bool :=
  node.any (containsAnalytic false true)

def containsAggregate (node : Option (Node V)) : Bool :=
  node.any (containsAnalytic true false)

/-- The inner `visit` of `_validate_aggregate_nesting`. -/
def visitAggregates (insideAggregate : Bool) (current : Node V) : Except PyError Unit :=
  match current with
  | .aggregate name arguments filter => do
      check (insideAggregate = false)
        (.valueError "aggregate expressions cannot contain another aggregate" [])
      (children (.aggregate name arguments filter)).attach.forM fun child =>
        visitAggregates true child.1
  | .window expression partitionBy orderBy frame exclusion => do
      check (insideAggregate = false)
        (.valueError "aggregate expressions cannot contain window expressions" [])
      (children (.window expression partitionBy orderBy frame exclusion)).attach.forM fun child =>
        visitAggregates false child.1
  | node => (children node).attach.forM fun child => visitAggregates insideAggregate child.1
termination_by sizeOf current
decreasing_by all_goals exact sizeOf_lt_of_mem_children child.2

def validateAggregateNesting (node : Node V) : Except PyError Unit :=
  visitAggregates false node

/-- `isinstance(expression, AliasNode)`. -/
def Node.isAlias : Node V → Bool
  | .aliased _ _ => true
  | _ => false

/-- Reject aggregate and window placements that both dialects reject. -/
def validateAnalyticClauses (node : SelectNode V) : Except PyError Unit := do
  check (containsAggregateOrWindow node.whereNode = false)
    (.valueError "WHERE cannot contain aggregate or window expressions; use HAVING or a subquery" [])
  node.groupBy.forM fun expression => do
    check (expression.isAlias = false)
      (.typeError "GROUP BY expressions cannot be aliased; group the underlying expression")
    check (containsAggregateOrWindow (some expression) = false)
      (.valueError "GROUP BY cannot contain aggregate or window expressions" [])
  check (containsWindow node.having = false)
    (.valueError "HAVING cannot contain window expressions; use a derived query" [])
  (node.selections ++ node.having.toList).forM validateAggregateNesting
  node.orderBy.forM fun order => validateAggregateNesting order.expression

def localSources (node : SelectNode V) : List String :=
  match node.fromSource with
  | none => []
  | some source => source.reference :: node.joins.map (·.source.reference)

/-- The clauses a grouped query restricts, each under its name. -/
def groupedExpressions (node : SelectNode V) : List (String × Node V) :=
  node.selections.map (fun expression => ("SELECT", expression)) ++
    node.having.toList.map (fun expression => ("HAVING", expression)) ++
    node.orderBy.map fun order => ("ORDER BY", order.expression)

/-- The columns of an error message, in the order of their sources and names. -/
def sortedColumns (columns : List (String × String)) : List String :=
  (columns.eraseDups.mergeSort fun left right =>
    decide (left.1 < right.1 ∨ left.1 = right.1 ∧ left.2 ≤ right.2)).map fun column =>
      column.1 ++ "." ++ column.2

/-- Whether some selected, HAVING or ORDER BY expression contains an aggregate. -/
def hasAggregate (node : SelectNode V) : Bool :=
  (groupedExpressions node).any fun item => containsAggregate (some item.2)

section
variable [DecidableEq V] [PyObject V]

/-- `node in grouped`: hashing the node may raise. -/
def inGrouped (grouped : List (Node V)) (node : Node V) : Except PyError Bool :=
  if hashable node then .ok (grouped.any (pyEqual node))
  else .error (.typeError "unhashable type")

/-- `frozenset(node.group_by)`: hashing an entry may raise. -/
def groupingSet (groupBy : List (Node V)) : Except PyError (List (Node V)) :=
  if groupBy.all hashable then .ok groupBy else .error (.typeError "unhashable type")

/-- Local columns of an expression that neither GROUP BY nor an aggregate covers. -/
def ungroupedLocalColumns (grouped : List (Node V)) (locals : List String) (node : Node V) :
    Except PyError (List (String × String)) := do
  if ← inGrouped grouped node then return []
  match node with
  | .column source name => return if source ∈ locals then [(source, name)] else []
  | .aggregate _ _ _ => return []
  | node =>
      let columns ← (children node).attach.mapM fun child =>
        ungroupedLocalColumns grouped locals child.1
      return columns.flatten
termination_by sizeOf node
decreasing_by exact sizeOf_lt_of_mem_children child.2

/-- Enforce the shared SQLite and PostgreSQL grouping contract. -/
def validateGrouping (node : SelectNode V) : Except PyError Unit := do
  check (node.having.isNone ∨ ¬node.groupBy.isEmpty ∨ hasAggregate node)
    (.valueError "HAVING requires GROUP BY or an aggregate expression" [])
  if node.groupBy.isEmpty && !hasAggregate node then return ()
  let grouped ← groupingSet node.groupBy
  (groupedExpressions node).forM fun item => do
    let ungrouped ← ungroupedLocalColumns grouped (localSources node) item.2
    check (ungrouped = [])
      (.valueError "{} references ungrouped local column(s): {}"
        (item.1 :: sortedColumns ungrouped))

end

end Relq
