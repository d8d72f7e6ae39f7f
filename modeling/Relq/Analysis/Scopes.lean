/-
Module: Relq.Analysis.Scopes
Layer: Analysis
Purpose: Enumeration of the query scopes nested inside a statement (`_analysis/scopes.py`) and of
  the CTE names a SELECT tree uses (`_analysis/ctes.py`). The lists follow the source, places it
  does not visit included: the two predicates of a conflict clause are not among the expressions of
  an INSERT.
Imports: Relq.Analysis.Walk
Trusted boundary: human-reviewed spec
Main exports: scopeExpressions, childScopes, nestedScopes, nestedQueries, cteReferences
-/
import Relq.Analysis.Walk

namespace Relq

variable {V : Type}

/-- `_insert_values`. -/
def insertValues : Option (InsertSourceNode V) → List (Node V)
  | some (.values values) => values.map (·.2)
  | some (.rows rows) => rows.flatMap fun row => row.map (·.2)
  | _ => []

def SelectNode.scopeExpressions (node : SelectNode V) : List (Node V) :=
  node.selections ++ node.joins.map (·.predicate) ++ node.groupBy ++
    node.orderBy.map (·.expression) ++ node.whereNode.toList ++ node.having.toList

/-- `_expressions`: the expressions whose subqueries open scopes inside a statement. -/
def scopeExpressions : QueryNode V → List (Node V)
  | .select node => node.scopeExpressions
  | .insert node =>
      insertValues node.source ++
        (node.conflict.toList.flatMap fun conflict => conflict.updateValues.map (·.2)) ++
        node.returning
  | .update node => node.values.map (·.2) ++ node.whereNode.toList ++ node.returning
  | .delete node => node.whereNode.toList ++ node.returning

/-- The query of a derived table. -/
def SourceNode.derivedQuery : SourceNode V → Option (SelectNode V)
  | .derived query _ => some query
  | _ => none

/-- The bodies of a WITH clause, each with the names bound where it stands: the entries before it,
and its own name if it is recursive. -/
def cteScopes : List (CteNode V) → List String → List (QueryNode V × List String)
  | [], _ => []
  | cte :: rest, bound =>
      (cte.query, if cte.recursive then cte.name :: bound else bound) ::
        cteScopes rest (cte.name :: bound)

/-- The names bound after a WITH clause. -/
def afterCtes (ctes : List (CteNode V)) (bound : List String) : List String :=
  ctes.foldl (fun bound cte => cte.name :: bound) bound

/-- `_child_scopes`: queries directly inside `node` with the CTE names they see. -/
def childScopes : QueryNode V → List String → List (QueryNode V × List String)
  | .select node, visible =>
      let bound := afterCtes node.ctes visible
      cteScopes node.ctes visible ++
        (node.sources.filterMap SourceNode.derivedQuery).map (fun query => (.select query, bound)) ++
        node.compounds.map (fun compound => (.select compound.query, bound)) ++
        (node.scopeExpressions.flatMap subqueries).map fun query => (.select query, bound)
  | .insert node, visible =>
      (match node.source with
        | some (.select query _) => [(.select query, visible)]
        | _ => []) ++
        ((scopeExpressions (.insert node)).flatMap subqueries).map fun query =>
          (.select query, visible)
  | node, visible =>
      ((scopeExpressions node).flatMap subqueries).map fun query => (.select query, visible)

theorem mem_afterCtes {ctes : List (CteNode V)} {bound : List String} {name : String} :
    name ∈ afterCtes ctes bound ↔ name ∈ ctes.map (·.name) ∨ name ∈ bound := by
  induction ctes generalizing bound with
  | nil => simp [afterCtes]
  | cons cte rest ih =>
      have unfolded : afterCtes (cte :: rest) bound = afterCtes rest (cte.name :: bound) := rfl
      rw [unfolded, ih]
      grind

/-! ### Sizes

Each of the lists above only holds strict parts of the statement it is taken from. -/

theorem sizeOf_cte_query (cte : CteNode V) : sizeOf cte.query < sizeOf cte := by
  cases cte
  simp
  omega

theorem SelectNode.sizeOf_cte {node : SelectNode V} {cte : CteNode V} (member : cte ∈ node.ctes) :
    sizeOf cte < sizeOf node := by
  cases node
  exact sizeOf_lt_of_mem_list member (by simp; omega)

theorem SelectNode.sizeOf_compound {node : SelectNode V} {compound : CompoundNode V}
    (member : compound ∈ node.compounds) : sizeOf compound.query < sizeOf node := by
  have inner : sizeOf compound.query < sizeOf compound := by
    cases compound
    simp only [CompoundNode.mk.sizeOf_spec]
    omega
  have outer : sizeOf compound < sizeOf node := by
    cases node
    exact sizeOf_lt_of_mem_list member (by simp; omega)
  omega

theorem SelectNode.sizeOf_source {node : SelectNode V} {source : SourceNode V}
    (member : source ∈ node.sources) : sizeOf source < sizeOf node := by
  simp only [SelectNode.sources, List.mem_append, Option.mem_toList, List.mem_map] at member
  rcases member with inside | ⟨join, inside, rfl⟩
  · cases node
    exact sizeOf_lt_of_mem_option inside (by simp; omega)
  · have inner : sizeOf join.source < sizeOf join := by
      cases join
      simp
      omega
    have outer : sizeOf join < sizeOf node := by
      cases node
      exact sizeOf_lt_of_mem_list inside (by simp; omega)
    omega

theorem SourceNode.sizeOf_derivedQuery {source : SourceNode V} {query : SelectNode V}
    (derived : source.derivedQuery = some query) : sizeOf query < sizeOf source := by
  cases source <;> simp [SourceNode.derivedQuery] at derived
  subst derived
  simp
  omega

theorem SelectNode.sizeOf_derived {node query : SelectNode V}
    (member : query ∈ node.sources.filterMap SourceNode.derivedQuery) :
    sizeOf query < sizeOf node := by
  obtain ⟨source, inside, derived⟩ := List.mem_filterMap.mp member
  have := SourceNode.sizeOf_derivedQuery derived
  have := SelectNode.sizeOf_source inside
  omega

theorem sizeOf_order_expression (order : OrderNode V) : sizeOf order.expression < sizeOf order := by
  cases order
  simp
  omega

theorem SelectNode.sizeOf_expression {node : SelectNode V} {expression : Node V}
    (member : expression ∈ node.scopeExpressions) : sizeOf expression < sizeOf node := by
  obtain ⟨selections, fromSource, joins, whereNode, groupBy, having, orderBy, limit, offset,
    distinct, ctes, compounds, locks⟩ := node
  simp only [SelectNode.scopeExpressions, List.mem_append, List.mem_map, Option.mem_toList]
    at member
  rcases member with ((((inside | ⟨join, inside, rfl⟩) | inside) | ⟨order, inside, rfl⟩) | inside) |
    inside
  · exact sizeOf_lt_of_mem_list inside (by simp; omega)
  · have inner : sizeOf join.predicate < sizeOf join := by
      cases join
      simp
      omega
    have outer := List.sizeOf_lt_of_mem inside
    simp
    omega
  · exact sizeOf_lt_of_mem_list inside (by simp; omega)
  · have inner := sizeOf_order_expression order
    have outer := List.sizeOf_lt_of_mem inside
    simp
    omega
  · exact sizeOf_lt_of_mem_option inside (by simp; omega)
  · exact sizeOf_lt_of_mem_option inside (by simp; omega)

theorem SelectNode.sizeOf_subquery {node query : SelectNode V}
    (member : query ∈ node.scopeExpressions.flatMap subqueries) : sizeOf query < sizeOf node := by
  obtain ⟨expression, inside, nested⟩ := List.mem_flatMap.mp member
  have := SelectNode.sizeOf_expression inside
  have := sizeOf_lt_of_mem_subqueries nested
  omega

theorem sizeOf_named {name : String} {node : Node V} {pairs : List (String × Node V)}
    (member : (name, node) ∈ pairs) : sizeOf node < sizeOf pairs := by
  have := List.sizeOf_lt_of_mem member
  simp at this
  omega

theorem mem_map_snd {node : Node V} {pairs : List (String × Node V)}
    (member : node ∈ pairs.map (·.2)) : ∃ name, (name, node) ∈ pairs := by
  obtain ⟨⟨name, value⟩, inside, rfl⟩ := List.mem_map.mp member
  exact ⟨name, inside⟩

theorem sizeOf_insertValues {source : InsertSourceNode V} {expression : Node V}
    (member : expression ∈ insertValues (some source)) : sizeOf expression < sizeOf source := by
  cases source with
  | values values =>
      obtain ⟨name, inside⟩ := mem_map_snd member
      have := sizeOf_named inside
      simp
      omega
  | rows rows =>
      simp only [insertValues, List.mem_flatMap] at member
      obtain ⟨row, rowInside, member⟩ := member
      obtain ⟨name, inside⟩ := mem_map_snd member
      have := sizeOf_named inside
      have := List.sizeOf_lt_of_mem rowInside
      simp
      omega
  | select query columns => simp [insertValues] at member
  | defaultValues => simp [insertValues] at member

theorem sizeOf_scopeExpressions {node : QueryNode V} {expression : Node V}
    (member : expression ∈ scopeExpressions node) : sizeOf expression < sizeOf node := by
  cases node with
  | select node =>
      have := SelectNode.sizeOf_expression member
      simp
      omega
  | insert node =>
      obtain ⟨table, source, conflict, returning⟩ := node
      simp only [scopeExpressions, List.mem_append, List.mem_flatMap, Option.mem_toList] at member
      rcases member with (inside | ⟨clause, present, inside⟩) | inside
      · cases source with
        | none => simp [insertValues] at inside
        | some source =>
            have := sizeOf_insertValues inside
            simp
            omega
      · cases present
        obtain ⟨columns, action, updateValues, targetWhere, updateWhere⟩ := clause
        obtain ⟨name, inside⟩ := mem_map_snd inside
        have := sizeOf_named inside
        simp at this ⊢
        omega
      · exact sizeOf_lt_of_mem_list inside (by simp; omega)
  | update node =>
      obtain ⟨table, values, whereNode, bounded, returning⟩ := node
      simp only [scopeExpressions, List.mem_append, Option.mem_toList] at member
      rcases member with (inside | inside) | inside
      · obtain ⟨name, inside⟩ := mem_map_snd inside
        have := sizeOf_named inside
        simp
        omega
      · exact sizeOf_lt_of_mem_option inside (by simp; omega)
      · exact sizeOf_lt_of_mem_list inside (by simp; omega)
  | delete node =>
      obtain ⟨table, whereNode, bounded, returning⟩ := node
      simp only [scopeExpressions, List.mem_append, Option.mem_toList] at member
      rcases member with inside | inside
      · exact sizeOf_lt_of_mem_option inside (by simp; omega)
      · exact sizeOf_lt_of_mem_list inside (by simp; omega)

theorem sizeOf_lt_of_mem_scope_subqueries {node : QueryNode V} {query : SelectNode V}
    (member : query ∈ (scopeExpressions node).flatMap subqueries) :
    sizeOf (QueryNode.select query) < sizeOf node := by
  obtain ⟨expression, inside, nested⟩ := List.mem_flatMap.mp member
  have := sizeOf_scopeExpressions inside
  have := sizeOf_lt_of_mem_subqueries nested
  simp
  omega

theorem cteScopes_query {ctes : List (CteNode V)} {bound visible : List String}
    {query : QueryNode V} (member : (query, visible) ∈ cteScopes ctes bound) :
    ∃ cte ∈ ctes, query = cte.query := by
  induction ctes generalizing bound with
  | nil => simp [cteScopes] at member
  | cons cte rest ih =>
      simp only [cteScopes, List.mem_cons, Prod.mk.injEq] at member
      rcases member with ⟨rfl, -⟩ | later
      · exact ⟨cte, by simp, rfl⟩
      · obtain ⟨found, inside, same⟩ := ih later
        exact ⟨found, by simp [inside], same⟩

theorem sizeOf_lt_of_mem_childScopes {node child : QueryNode V} {visible scope : List String}
    (member : (child, scope) ∈ childScopes node visible) : sizeOf child < sizeOf node := by
  cases node with
  | select node =>
      simp only [childScopes, List.mem_append, List.mem_map, Prod.mk.injEq] at member
      rcases member with ((bodies | ⟨query, inside, rfl, -⟩) | ⟨compound, inside, rfl, -⟩) |
        ⟨query, inside, rfl, -⟩
      · obtain ⟨cte, inside, rfl⟩ := cteScopes_query bodies
        have := sizeOf_cte_query cte
        have := SelectNode.sizeOf_cte inside
        simp
        omega
      · have := SelectNode.sizeOf_derived inside
        simp
        omega
      · have := SelectNode.sizeOf_compound inside
        simp
        omega
      · have := SelectNode.sizeOf_subquery inside
        simp
        omega
  | insert node =>
      simp only [childScopes, List.mem_append, List.mem_map, Prod.mk.injEq] at member
      rcases member with inside | ⟨query, inside, rfl, -⟩
      · obtain ⟨table, source, conflict, returning⟩ := node
        cases source with
        | none => simp at inside
        | some source =>
            cases source <;> simp at inside
            obtain ⟨rfl, -⟩ := inside
            simp
            omega
      · exact sizeOf_lt_of_mem_scope_subqueries inside
  | update node =>
      simp only [childScopes, List.mem_map, Prod.mk.injEq] at member
      obtain ⟨query, inside, rfl, -⟩ := member
      exact sizeOf_lt_of_mem_scope_subqueries inside
  | delete node =>
      simp only [childScopes, List.mem_map, Prod.mk.injEq] at member
      obtain ⟨query, inside, rfl, -⟩ := member
      exact sizeOf_lt_of_mem_scope_subqueries inside

/-- Every query strictly inside `node` with the CTE names it can see, outermost first. `visible`
holds the CTE names that enclose `node` itself. -/
def nestedScopes (node : QueryNode V) (visible : List String) : List (QueryNode V × List String) :=
  (childScopes node visible).attach.flatMap fun child =>
    child.1 :: nestedScopes child.1.1 child.1.2
termination_by sizeOf node
decreasing_by exact sizeOf_lt_of_mem_childScopes child.2

theorem nestedScopes_eq (node : QueryNode V) (visible : List String) :
    nestedScopes node visible =
      (childScopes node visible).flatMap fun child => child :: nestedScopes child.1 child.2 := by
  rw [nestedScopes]
  exact (List.flatMap_subtype fun _ _ => rfl).trans (by rw [List.unattach_attach])

def nestedQueries (node : QueryNode V) : List (QueryNode V) :=
  (nestedScopes node []).map (·.1)

/-! ### CTE references -/

/-- The name a CTE source uses. -/
def SourceNode.cteName : SourceNode V → Option String
  | .cte name => some name
  | _ => none

/-- CTE names used anywhere in a SELECT tree, including subqueries. The bodies of the tree's own
WITH clauses are not visited. -/
def cteReferences (node : SelectNode V) : List String :=
  node.sources.filterMap SourceNode.cteName ++
    ((node.sources.filterMap SourceNode.derivedQuery).attach.flatMap fun query =>
      cteReferences query.1) ++
    ((node.scopeExpressions.flatMap subqueries).attach.flatMap fun query =>
      cteReferences query.1) ++
    (node.compounds.attach.flatMap fun compound => cteReferences compound.1.query)
termination_by sizeOf node
decreasing_by
  · exact SelectNode.sizeOf_derived query.2
  · exact SelectNode.sizeOf_subquery query.2
  · exact SelectNode.sizeOf_compound compound.2

end Relq
