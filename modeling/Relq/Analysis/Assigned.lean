/-
Module: Relq.Analysis.Assigned
Layer: Analysis
Purpose: The traversals of a statement commute with putting values in the place of its labels: what
  they find in the assigned statement is what they find in its shape, assigned in the same way. Names,
  kinds and the nesting of statements are those of the shape.
Imports: Mathlib.Data.List.Basic (congruence of flatMap), Relq.Syntax.Assign, Relq.Analysis.Scopes,
  Relq.Analysis.Nullability
Trusted boundary: human-reviewed spec (OrderNode.assigned, JoinNode.assigned, CteNode.assigned,
  CompoundNode.assigned, ConflictNode.assigned, InsertNode.assigned, UpdateNode.assigned,
  DeleteNode.assigned)
Main exports: children_assign, walk_assign, subqueries_assign, childScopes_assign,
  nestedScopes_assign, cteReferences_assign
-/
import Mathlib.Data.List.Basic
import Relq.Syntax.Assign
import Relq.Analysis.Scopes
import Relq.Analysis.Nullability

namespace Relq

variable {P V : Type} (f : P → V)

/-! ### Parts of a statement -/

def OrderNode.assigned (order : OrderNode P) : OrderNode V :=
  ⟨order.expression.assign f f, order.direction, order.nulls⟩

def JoinNode.assigned (join : JoinNode P) : JoinNode V :=
  ⟨join.source.assign f f, join.predicate.assign f f, join.kind⟩

def CteNode.assigned (cte : CteNode P) : CteNode V :=
  ⟨cte.name, cte.query.assign f f, cte.recursive, cte.materialized⟩

def CompoundNode.assigned (compound : CompoundNode P) : CompoundNode V :=
  ⟨compound.operator, compound.query.assign f f⟩

def namedAssigned (pair : String × Node P) : String × Node V :=
  (pair.1, pair.2.assign f f)

def ConflictNode.assigned (conflict : ConflictNode P) : ConflictNode V :=
  { columns := conflict.columns
    action := conflict.action
    updateValues := conflict.updateValues.map (namedAssigned f)
    targetWhere := conflict.targetWhere.map (Node.assign f f)
    updateWhere := conflict.updateWhere.map (Node.assign f f) }

def InsertNode.assigned (query : InsertNode P) : InsertNode V :=
  { table := query.table
    source := query.source.map (InsertSourceNode.assign f f)
    conflict := query.conflict.map (ConflictNode.assigned f)
    returning := query.returning.map (Node.assign f f) }

def UpdateNode.assigned (query : UpdateNode P) : UpdateNode V :=
  { table := query.table
    values := query.values.map (namedAssigned f)
    whereNode := query.whereNode.map (Node.assign f f)
    bounded := query.bounded
    returning := query.returning.map (Node.assign f f) }

def DeleteNode.assigned (query : DeleteNode P) : DeleteNode V :=
  { table := query.table
    whereNode := query.whereNode.map (Node.assign f f)
    bounded := query.bounded
    returning := query.returning.map (Node.assign f f) }

@[simp] theorem assignNodes_eq (nodes : List (Node P)) :
    assignNodes f f nodes = nodes.map (Node.assign f f) := by
  induction nodes with
  | nil => rfl
  | cons node rest ih => rw [assignNodes, ih, List.map_cons]

@[simp] theorem assignOption_eq (slot : Option (Node P)) :
    assignOption f f slot = slot.map (Node.assign f f) := by
  cases slot with
  | none => rfl
  | some node => rfl

@[simp] theorem assignNamed_eq (pairs : List (String × Node P)) :
    assignNamed f f pairs = pairs.map (namedAssigned f) := by
  induction pairs with
  | nil => rfl
  | cons pair rest ih => rw [assignNamed, ih, List.map_cons, namedAssigned]

@[simp] theorem assignRows_eq (rows : List (List (String × Node P))) :
    assignRows f f rows = rows.map (List.map (namedAssigned f)) := by
  induction rows with
  | nil => rfl
  | cons row rest ih => rw [assignRows, ih, List.map_cons, assignNamed_eq]

@[simp] theorem assignBranches_eq (branches : List (Node P × Node P)) :
    assignBranches f f branches =
      branches.map fun branch => (branch.1.assign f f, branch.2.assign f f) := by
  induction branches with
  | nil => rfl
  | cons branch rest ih => rw [assignBranches, ih, List.map_cons]

@[simp] theorem assignOrders_eq (orders : List (OrderNode P)) :
    assignOrders f f orders = orders.map (OrderNode.assigned f) := by
  induction orders with
  | nil => rfl
  | cons order rest ih =>
      obtain ⟨expression, direction, nulls⟩ := order
      rw [assignOrders, ih, List.map_cons, OrderNode.assigned]

@[simp] theorem assignSource_eq (slot : Option (SourceNode P)) :
    assignSource f f slot = slot.map (SourceNode.assign f f) := by
  cases slot with
  | none => rfl
  | some source => rfl

@[simp] theorem assignJoins_eq (joins : List (JoinNode P)) :
    assignJoins f f joins = joins.map (JoinNode.assigned f) := by
  induction joins with
  | nil => rfl
  | cons join rest ih =>
      obtain ⟨source, predicate, kind⟩ := join
      rw [assignJoins, ih, List.map_cons, JoinNode.assigned]

@[simp] theorem assignCtes_eq (ctes : List (CteNode P)) :
    assignCtes f f ctes = ctes.map (CteNode.assigned f) := by
  induction ctes with
  | nil => rfl
  | cons cte rest ih =>
      obtain ⟨name, query, recursive, materialized⟩ := cte
      rw [assignCtes, ih, List.map_cons, CteNode.assigned]

@[simp] theorem assignCompounds_eq (compounds : List (CompoundNode P)) :
    assignCompounds f f compounds = compounds.map (CompoundNode.assigned f) := by
  induction compounds with
  | nil => rfl
  | cons compound rest ih =>
      obtain ⟨operator, query⟩ := compound
      rw [assignCompounds, ih, List.map_cons, CompoundNode.assigned]

@[simp] theorem assignInsertSource_eq (slot : Option (InsertSourceNode P)) :
    assignInsertSource f f slot = slot.map (InsertSourceNode.assign f f) := by
  cases slot with
  | none => rfl
  | some source => rfl

@[simp] theorem assignConflict_eq (slot : Option (ConflictNode P)) :
    assignConflict f f slot = slot.map (ConflictNode.assigned f) := by
  cases slot with
  | none => rfl
  | some conflict =>
      cases conflict
      simp [assignConflict, ConflictNode.assign, ConflictNode.assigned]

@[simp] theorem assign_select (query : SelectNode P) :
    (QueryNode.select query).assign f f = .select (query.assign f f) := rfl

@[simp] theorem assign_insert (query : InsertNode P) :
    (QueryNode.insert query).assign f f = .insert (query.assigned f) := by
  cases query
  simp [QueryNode.assign, InsertNode.assigned]

@[simp] theorem assign_update (query : UpdateNode P) :
    (QueryNode.update query).assign f f = .update (query.assigned f) := by
  cases query
  simp [QueryNode.assign, UpdateNode.assigned]

@[simp] theorem assign_delete (query : DeleteNode P) :
    (QueryNode.delete query).assign f f = .delete (query.assigned f) := by
  cases query
  simp [QueryNode.assign, DeleteNode.assigned]

section
variable (node : SelectNode P)

attribute [local simp] SelectNode.assign

@[simp] theorem selections_assign :
    (node.assign f f).selections = node.selections.map (Node.assign f f) := by
  cases node; simp

@[simp] theorem fromSource_assign :
    (node.assign f f).fromSource = node.fromSource.map (SourceNode.assign f f) := by
  cases node; simp

@[simp] theorem joins_assign : (node.assign f f).joins = node.joins.map (JoinNode.assigned f) := by
  cases node; simp

@[simp] theorem whereNode_assign :
    (node.assign f f).whereNode = node.whereNode.map (Node.assign f f) := by
  cases node; simp

@[simp] theorem groupBy_assign :
    (node.assign f f).groupBy = node.groupBy.map (Node.assign f f) := by
  cases node; simp

@[simp] theorem having_assign : (node.assign f f).having = node.having.map (Node.assign f f) := by
  cases node; simp

@[simp] theorem orderBy_assign :
    (node.assign f f).orderBy = node.orderBy.map (OrderNode.assigned f) := by
  cases node; simp

@[simp] theorem limit_assign : (node.assign f f).limit = node.limit := by
  cases node; rfl

@[simp] theorem offset_assign : (node.assign f f).offset = node.offset := by
  cases node; rfl

@[simp] theorem distinct_assign : (node.assign f f).distinct = node.distinct := by
  cases node; rfl

@[simp] theorem ctes_assign : (node.assign f f).ctes = node.ctes.map (CteNode.assigned f) := by
  cases node; simp

@[simp] theorem compounds_assign :
    (node.assign f f).compounds = node.compounds.map (CompoundNode.assigned f) := by
  cases node; simp

@[simp] theorem locks_assign : (node.assign f f).locks = node.locks := by
  cases node; rfl

end

@[simp] theorem reference_assign (source : SourceNode P) :
    (source.assign f f).reference = source.reference := by
  cases source <;> rfl

@[simp] theorem cteName_assign (source : SourceNode P) :
    (source.assign f f).cteName = source.cteName := by
  cases source <;> rfl

@[simp] theorem derivedQuery_assign (source : SourceNode P) :
    (source.assign f f).derivedQuery = source.derivedQuery.map (SelectNode.assign f f) := by
  cases source <;> rfl

@[simp] theorem toNode_assign (call : WindowCall P) :
    (call.assign f f).toNode = call.toNode.assign f f := by
  cases call <;> simp [WindowCall.assign, WindowCall.toNode, Node.assign]

theorem sources_assign (node : SelectNode P) :
    (node.assign f f).sources = node.sources.map (SourceNode.assign f f) := by
  simp [SelectNode.sources, JoinNode.assigned, Option.toList_map, Function.comp_def]

@[simp] theorem cteNames_assign (node : SelectNode P) :
    (node.assign f f).sources.filterMap SourceNode.cteName =
      node.sources.filterMap SourceNode.cteName := by
  simp [sources_assign, List.filterMap_map]

@[simp] theorem derivedQueries_assign (node : SelectNode P) :
    (node.assign f f).sources.filterMap SourceNode.derivedQuery =
      (node.sources.filterMap SourceNode.derivedQuery).map (SelectNode.assign f f) := by
  simp [sources_assign, List.filterMap_map, List.map_filterMap]

/-! ### Expressions -/

@[simp] theorem children_assign (node : Node P) :
    children (node.assign f f) = (children node).map (Node.assign f f) := by
  cases node with
  | inNode expression values negated =>
      cases values <;> simp [Node.assign, InValues.assign, children]
  | case branches otherwise =>
      simp [Node.assign, children, List.map_flatMap, List.flatMap_map]
  | _ => simp [Node.assign, children, namedAssigned, OrderNode.assigned, Option.toList_map,
      Function.comp_def]

@[simp] theorem nestedSelect_assign (node : Node P) :
    (node.assign f f).nestedSelect = node.nestedSelect.map (SelectNode.assign f f) := by
  cases node with
  | inNode expression values negated => cases values <;> rfl
  | _ => rfl

@[simp] theorem walk_assign (node : Node P) :
    walk (node.assign f f) = (walk node).map (Node.assign f f) := by
  induction node using children_induction with
  | step node ih =>
      rw [walk_eq, walk_eq, children_assign, List.map_cons, List.map_flatMap, List.flatMap_map,
        List.flatMap_congr ih]

@[simp] theorem subqueries_assign (expression : Node P) :
    subqueries (expression.assign f f) = (subqueries expression).map (SelectNode.assign f f) := by
  simp [subqueries, List.filterMap_map, List.map_filterMap]

@[simp] theorem columnSource_assign (node : Node P) :
    (node.assign f f).columnSource = node.columnSource := by
  cases node <;> rfl

@[simp] theorem referencedSources_assign (expression : Node P) :
    referencedSources (expression.assign f f) = referencedSources expression := by
  simp [referencedSources, List.filterMap_map]

/-! ### Scopes -/

theorem insertValues_assign (slot : Option (InsertSourceNode P)) :
    insertValues (slot.map (InsertSourceNode.assign f f)) =
      (insertValues slot).map (Node.assign f f) := by
  cases slot with
  | none => rfl
  | some source =>
      cases source <;> simp [insertValues, InsertSourceNode.assign, namedAssigned, List.map_flatMap,
        List.flatMap_map, Function.comp_def]

theorem SelectNode.scopeExpressions_assign (node : SelectNode P) :
    (node.assign f f).scopeExpressions = node.scopeExpressions.map (Node.assign f f) := by
  simp [SelectNode.scopeExpressions, JoinNode.assigned, OrderNode.assigned, Option.toList_map,
    Function.comp_def]

theorem subqueriesOf_assign (expressions : List (Node P)) :
    (expressions.map (Node.assign f f)).flatMap subqueries =
      (expressions.flatMap subqueries).map (SelectNode.assign f f) := by
  simp [List.flatMap_map, List.map_flatMap]

theorem conflictValues_assign (slot : Option (ConflictNode P)) :
    ((slot.map (ConflictNode.assigned f)).toList.flatMap fun conflict =>
        conflict.updateValues.map (·.2)) =
      (slot.toList.flatMap fun conflict => conflict.updateValues.map (·.2)).map (Node.assign f f) := by
  cases slot with
  | none => rfl
  | some conflict => simp [ConflictNode.assigned, namedAssigned, Function.comp_def]

theorem scopeExpressions_assign (node : QueryNode P) :
    scopeExpressions (node.assign f f) = (scopeExpressions node).map (Node.assign f f) := by
  cases node with
  | select query => exact SelectNode.scopeExpressions_assign f query
  | insert query =>
      simp [scopeExpressions, InsertNode.assigned, insertValues_assign, conflictValues_assign]
  | update query =>
      simp [scopeExpressions, UpdateNode.assigned, namedAssigned, Option.toList_map,
        Function.comp_def]
  | delete query => simp [scopeExpressions, DeleteNode.assigned, Option.toList_map]

theorem cteScopes_assign (ctes : List (CteNode P)) (bound : List String) :
    cteScopes (ctes.map (CteNode.assigned f)) bound =
      (cteScopes ctes bound).map fun scope => (scope.1.assign f f, scope.2) := by
  induction ctes generalizing bound with
  | nil => rfl
  | cons cte rest ih => simp [cteScopes, ih, CteNode.assigned]

theorem afterCtes_assign (ctes : List (CteNode P)) (bound : List String) :
    afterCtes (ctes.map (CteNode.assigned f)) bound = afterCtes ctes bound := by
  simp [afterCtes, List.foldl_map, CteNode.assigned]

theorem childScopes_assign (node : QueryNode P) (visible : List String) :
    childScopes (node.assign f f) visible =
      (childScopes node visible).map fun scope => (scope.1.assign f f, scope.2) := by
  cases node with
  | select query =>
      simp [childScopes, afterCtes_assign, cteScopes_assign,
        SelectNode.scopeExpressions_assign, subqueriesOf_assign, derivedQueries_assign,
        CompoundNode.assigned, Function.comp_def]
  | insert query =>
      have expressions := scopeExpressions_assign f (.insert query)
      rw [assign_insert] at expressions ⊢
      rw [childScopes, childScopes, expressions, subqueriesOf_assign]
      obtain ⟨table, source, conflict, returning⟩ := query
      cases source with
      | none => simp [InsertNode.assigned]
      | some source => cases source <;> simp [InsertNode.assigned, InsertSourceNode.assign]
  | update query =>
      have expressions := scopeExpressions_assign f (.update query)
      rw [assign_update] at expressions ⊢
      rw [childScopes, childScopes, expressions, subqueriesOf_assign] <;> simp
  | delete query =>
      have expressions := scopeExpressions_assign f (.delete query)
      rw [assign_delete] at expressions ⊢
      rw [childScopes, childScopes, expressions, subqueriesOf_assign] <;> simp

theorem nestedScopes_assign (node : QueryNode P) (visible : List String) :
    nestedScopes (node.assign f f) visible =
      (nestedScopes node visible).map fun scope => (scope.1.assign f f, scope.2) := by
  rw [nestedScopes_eq, nestedScopes_eq node, childScopes_assign, List.map_flatMap, List.flatMap_map]
  apply List.flatMap_congr
  intro child member
  rw [List.map_cons, nestedScopes_assign child.1 child.2]
termination_by sizeOf node
decreasing_by exact sizeOf_lt_of_mem_childScopes member

/-! ### CTE references -/

theorem cteReferences_eq (node : SelectNode P) :
    cteReferences node =
      node.sources.filterMap SourceNode.cteName ++
        ((node.sources.filterMap SourceNode.derivedQuery).flatMap cteReferences) ++
        ((node.scopeExpressions.flatMap subqueries).flatMap cteReferences) ++
        node.compounds.flatMap fun compound => cteReferences compound.query := by
  rw [cteReferences]
  simp only [List.flatMap_subtype, List.unattach_attach]

theorem cteReferences_assign (node : SelectNode P) :
    cteReferences (node.assign f f) = cteReferences node := by
  rw [cteReferences_eq, cteReferences_eq node, cteNames_assign, derivedQueries_assign,
    SelectNode.scopeExpressions_assign, subqueriesOf_assign, compounds_assign, List.flatMap_map,
    List.flatMap_map, List.flatMap_map]
  have derived : ∀ query ∈ node.sources.filterMap SourceNode.derivedQuery,
      cteReferences (query.assign f f) = cteReferences query :=
    fun query member => cteReferences_assign query
  have nested : ∀ query ∈ node.scopeExpressions.flatMap subqueries,
      cteReferences (query.assign f f) = cteReferences query :=
    fun query member => cteReferences_assign query
  have arms : ∀ compound ∈ node.compounds,
      cteReferences (compound.assigned f).query = cteReferences compound.query :=
    fun compound member => cteReferences_assign compound.query
  rw [List.flatMap_congr derived, List.flatMap_congr nested, List.flatMap_congr arms]
termination_by sizeOf node
decreasing_by
  · exact SelectNode.sizeOf_derived member
  · exact SelectNode.sizeOf_subquery member
  · exact SelectNode.sizeOf_compound member

/-! ### Null extension -/

theorem nullExtendedJoins_assign (joins : List (JoinNode P)) (visible nullable : List String) :
    nullExtendedJoins (joins.map (JoinNode.assigned f)) visible nullable =
      nullExtendedJoins joins visible nullable := by
  induction joins generalizing visible nullable with
  | nil => rfl
  | cons join rest ih => simp [nullExtendedJoins, JoinNode.assigned, ih]

theorem nullExtendedSources_assign (node : SelectNode P) :
    nullExtendedSources (node.assign f f) = nullExtendedSources node := by
  cases from_ : node.fromSource <;>
    simp [nullExtendedSources, from_, nullExtendedJoins_assign]

end Relq
