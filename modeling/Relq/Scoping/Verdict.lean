/-
Module: Relq.Scoping.Verdict
Layer: Scoping
Purpose: What the verdict of the validator depends on. Every check is decided by the shape of the
  statement, except two: the grouping check, which hashes and compares expressions, and the check of
  a `date_bin` stride. `validateStatement_transfer` carries the acceptance of a statement over to the
  same statement with other values bound, given these two checks.
Imports: Relq.Analysis.Assigned, Relq.Scoping.Acceptance
Trusted boundary: human-reviewed spec (Node.strideLegal, StridesLegal)
Main exports: StridesLegal, ValuesPass, Transfers, groupedExpressions_assign, hasAggregate_assign,
  validateStatement_transfer, accepted_transfer
-/
import Relq.Analysis.Assigned
import Relq.Scoping.Acceptance

namespace Relq

open Outcome

variable {P V : Type} (f : P → V)

/-! ### Checks of a SELECT -/

theorem validateCompoundShape_assign (node : SelectNode P) :
    validateCompoundShape (node.assign f f) = validateCompoundShape node := by
  simp [validateCompoundShape, SelectNode.isOrderedOrPaginated, CompoundNode.assigned]

theorem validateRecursiveCte_assign {node : SelectNode P} {name : String} :
    validateRecursiveCte (node.assign f f) name = .ok () ↔ validateRecursiveCte node name = .ok () := by
  have seed : cteReferences { node.assign f f with compounds := [] } =
      cteReferences { node with compounds := [] } := by
    rw [← cteReferences_assign f { node with compounds := [] }]
    cases node
    rfl
  rw [validateRecursiveCte_eq_ok, validateRecursiveCte_eq_ok, seed, compounds_assign]
  simp [CompoundNode.assigned, cteReferences_assign]

theorem nullPropagatingOperands_assign (node : Node P) :
    nullPropagatingOperands (node.assign f f) =
      (nullPropagatingOperands node).map (Node.assign f f) := by
  cases node with
  | binary left operator right =>
      by_cases arithmetic : operator.isArithmetic <;>
        simp [Node.assign, nullPropagatingOperands, arithmetic]
  | _ => simp [Node.assign, nullPropagatingOperands, namedAssigned, Option.toList_map,
      Function.comp_def]

theorem nullableResultSources_eq (node : Node P) :
    nullableResultSources node =
      node.columnSource.toList ++ (nullPropagatingOperands node).flatMap nullableResultSources := by
  rw [nullableResultSources.eq_def]
  cases node with
  | column source name => rfl
  | _ =>
      dsimp only [Node.columnSource, Option.toList_none, List.nil_append]
      simp only [List.flatMap_subtype, List.unattach_attach]

theorem nullableResultSources_assign (node : Node P) :
    nullableResultSources (node.assign f f) = nullableResultSources node := by
  rw [nullableResultSources_eq, nullableResultSources_eq node, columnSource_assign,
    nullPropagatingOperands_assign, List.flatMap_map]
  congr 1
  apply List.flatMap_congr
  intro operand member
  exact nullableResultSources_assign operand
termination_by sizeOf node
decreasing_by exact sizeOf_lt_of_mem_children (nullPropagatingOperands_subset member)

theorem validateProjectedNullability_assign (node : SelectNode P) :
    validateProjectedNullability (node.assign f f) = validateProjectedNullability node := by
  simp [validateProjectedNullability, nullExtendedSources_assign, validateSelectionNullability,
    nullableResultSources_assign]

theorem validateJoins_assign (joins : List (JoinNode P)) (available locals : List String) :
    validateJoins (joins.map (JoinNode.assigned f)) available locals =
      validateJoins joins available locals := by
  induction joins generalizing available locals with
  | nil => rfl
  | cons join rest ih => simp [validateJoins, JoinNode.assigned, ih]

theorem clauseExpressions_assign (node : SelectNode P) :
    (node.assign f f).clauseExpressions = node.clauseExpressions.map (Node.assign f f) := by
  simp [SelectNode.clauseExpressions, OrderNode.assigned, Option.toList_map, Function.comp_def]

theorem clauseSources_assign (node : SelectNode P) :
    (node.assign f f).clauseExpressions.flatMap referencedSources =
      node.clauseExpressions.flatMap referencedSources := by
  simp [clauseExpressions_assign, List.flatMap_map]

theorem validateSources_assign (node : SelectNode P) (outer : List String) :
    validateSources (node.assign f f) outer = validateSources node outer := by
  unfold validateSources
  rw [fromSource_assign]
  cases node.fromSource with
  | none => rfl
  | some source =>
      simp only [Option.map_some, reference_assign, joins_assign, validateJoins_assign,
        clauseSources_assign, validateProjectedNullability_assign, sources_assign]
      simp

@[simp] theorem isAnalytic_assign (node : Node P) :
    (node.assign f f).isAnalytic = node.isAnalytic := by
  cases node <;> rfl

theorem anyAnalytic_assign (expressions : List (Node P)) :
    ((expressions.map (Node.assign f f)).flatMap walk).any Node.isAnalytic =
      (expressions.flatMap walk).any Node.isAnalytic := by
  simp [List.flatMap_map, List.any_flatMap, Function.comp_def]

theorem directTables_assign (node : SelectNode P) :
    (node.assign f f).sources.filterMap SourceNode.directTable =
      node.sources.filterMap SourceNode.directTable := by
  have same (source : SourceNode P) : (source.assign f f).directTable = source.directTable := by
    cases source <;> rfl
  simp [sources_assign, List.filterMap_map, same]

theorem validateLocks_assign (node : SelectNode P) :
    validateLocks (node.assign f f) = validateLocks node := by
  simp only [validateLocks, locks_assign, distinct_assign, groupBy_assign, having_assign,
    compounds_assign, clauseExpressions_assign, anyAnalytic_assign, directTables_assign,
    nullExtendedSources_assign, List.isEmpty_map, Option.isNone_map]

theorem any_attach {α : Type} (items : List α) (test : α → Bool) :
    (items.attach.any fun item => test item.1) = items.any test := by
  simp only [List.any_subtype, List.unattach_attach]

theorem containsAnalytic_assign (aggregate window : Bool) (node : Node P) :
    containsAnalytic aggregate window (node.assign f f) = containsAnalytic aggregate window node := by
  induction node using children_induction with
  | step node ih =>
      have below : (children (node.assign f f)).any (containsAnalytic aggregate window) =
          (children node).any (containsAnalytic aggregate window) := by
        rw [children_assign, List.any_map, Bool.eq_iff_iff]
        simp only [List.any_eq_true, Function.comp_apply]
        constructor
        · rintro ⟨child, member, found⟩
          exact ⟨child, member, ih child member ▸ found⟩
        · rintro ⟨child, member, found⟩
          exact ⟨child, member, (ih child member).symm ▸ found⟩
      rw [← any_attach, ← any_attach (children node)] at below
      rw [containsAnalytic.eq_def, containsAnalytic.eq_def _ _ node]
      cases node with
      | aggregate name arguments filter => exact congrArg (aggregate || ·) below
      | window call partitionBy orderBy frame exclusion => rfl
      | _ => exact below

theorem visitAggregates_assign {inside : Bool} {node : Node P} :
    visitAggregates inside (node.assign f f) = .ok () ↔ visitAggregates inside node = .ok () := by
  induction node using children_induction generalizing inside with
  | step node ih =>
      have below (within : Bool) :
          ((children (node.assign f f)).attach.forM fun child => visitAggregates within child.1) =
              .ok () ↔
            ((children node).attach.forM fun child => visitAggregates within child.1) = .ok () := by
        rw [attach_forM_eq_ok, attach_forM_eq_ok, children_assign]
        simp only [List.forall_mem_map]
        exact forall₂_congr fun child member => ih child member
      rw [visitAggregates.eq_def, visitAggregates.eq_def _ node]
      cases node with
      | aggregate name arguments filter =>
          simp only [Node.assign] at below ⊢
          rw [seq_eq_ok, seq_eq_ok, below true]
      | window call partitionBy orderBy frame exclusion =>
          simp only [Node.assign] at below ⊢
          rw [seq_eq_ok, seq_eq_ok, below false]
      | _ => exact below inside

@[simp] theorem isAlias_assign (node : Node P) : (node.assign f f).isAlias = node.isAlias := by
  cases node <;> rfl

theorem containsAnalyticOpt_assign (aggregate window : Bool) (slot : Option (Node P)) :
    (slot.map (Node.assign f f)).any (containsAnalytic aggregate window) =
      slot.any (containsAnalytic aggregate window) := by
  cases slot with
  | none => rfl
  | some node => exact containsAnalytic_assign f aggregate window node

theorem validateAnalyticClauses_assign {node : SelectNode P} :
    validateAnalyticClauses (node.assign f f) = .ok () ↔ validateAnalyticClauses node = .ok () := by
  simp only [validateAnalyticClauses, seq_eq_ok, check_eq_ok, forM_eq_ok]
  simp only [whereNode_assign, groupBy_assign, having_assign, selections_assign, orderBy_assign, containsAggregateOrWindow,
    containsWindow, containsAnalyticOpt_assign, validateAggregateNesting, List.forall_mem_map,
    isAlias_assign, Option.any_some, containsAnalytic_assign, OrderNode.assigned,
    visitAggregates_assign, Option.toList_map, ← List.map_append]

theorem groupedExpressions_assign (node : SelectNode P) :
    groupedExpressions (node.assign f f) = (groupedExpressions node).map (namedAssigned f) := by
  simp [groupedExpressions, OrderNode.assigned, namedAssigned, Option.toList_map, Function.comp_def]

theorem hasAggregate_assign (node : SelectNode P) :
    hasAggregate (node.assign f f) = hasAggregate node := by
  simp [hasAggregate, groupedExpressions_assign, namedAssigned, containsAggregate,
    containsAnalytic_assign, Function.comp_def]

theorem localSources_assign (node : SelectNode P) :
    localSources (node.assign f f) = localSources node := by
  unfold localSources
  rw [fromSource_assign]
  cases node.fromSource with
  | none => rfl
  | some source => simp [JoinNode.assigned]

/-! ### Checks of an INSERT, UPDATE or DELETE -/

theorem assignedValues_assign (query : InsertNode P) :
    (query.assigned f).assignedValues = query.assignedValues.map (Node.assign f f) := by
  simp [InsertNode.assignedValues, InsertNode.assigned, insertValues_assign, conflictValues_assign]

theorem predicates_assign (slot : Option (ConflictNode P)) :
    (slot.map (ConflictNode.assigned f)).toList.flatMap ConflictNode.predicates =
      (slot.toList.flatMap ConflictNode.predicates).map (Node.assign f f) := by
  cases slot with
  | none => rfl
  | some conflict => simp [ConflictNode.predicates, ConflictNode.assigned, Option.toList_map]

theorem dmlExpressions_assign (node : QueryNode P) :
    dmlExpressions (node.assign f f) = (dmlExpressions node).map (Node.assign f f) := by
  cases node with
  | select query => rfl
  | insert query =>
      have predicates := predicates_assign f query.conflict
      simp only [assign_insert, dmlExpressions, assignedValues_assign, List.map_append]
      rw [← predicates]
      rfl
  | update query =>
      simp [dmlExpressions, UpdateNode.assigned, namedAssigned, Option.toList_map, Function.comp_def]
  | delete query => simp [dmlExpressions, DeleteNode.assigned, Option.toList_map]

theorem sourceQuery_assign (query : InsertNode P) :
    (query.assigned f).sourceQuery = query.sourceQuery.map (SelectNode.assign f f) := by
  obtain ⟨table, source, conflict, returning⟩ := query
  cases source with
  | none => rfl
  | some source => cases source <;> rfl

theorem rejectAggregatesAndWindows_assign (expressions : List (Node P)) (statement : String) :
    rejectAggregatesAndWindows (expressions.map (Node.assign f f)) statement =
      rejectAggregatesAndWindows expressions statement := by
  simp only [rejectAggregatesAndWindows, anyAnalytic_assign]

theorem validateDmlSources_assign (table : TableSourceNode) (expressions : List (Node P)) :
    validateDmlSources table (expressions.map (Node.assign f f)) =
      validateDmlSources table expressions := by
  have sources : (expressions.map (Node.assign f f)).flatMap referencedSources =
      expressions.flatMap referencedSources := by
    simp [List.flatMap_map]
  simp only [validateDmlSources, sources]

theorem excludedSources_assign (expression : Node P) :
    excludedSources (expression.assign f f) = excludedSources expression := by
  have same (node : Node P) : (node.assign f f).excludedSource = node.excludedSource := by
    cases node <;> rfl
  simp [excludedSources, List.filterMap_map, same]

theorem excludedSourcesOf_assign (expressions : List (Node P)) :
    (expressions.map (Node.assign f f)).flatMap excludedSources =
      expressions.flatMap excludedSources := by
  simp [List.flatMap_map, excludedSources_assign]

theorem validateInsertShape_assign {query : InsertNode P} :
    validateInsertShape (query.assigned f) = .ok () ↔ validateInsertShape query = .ok () := by
  have cells (row : List (String × Node P)) :
      (row.map (namedAssigned f)).map (·.1) = row.map (·.1) := by
    simp [namedAssigned, Function.comp_def]
  obtain ⟨table, source, conflict, returning⟩ := query
  cases source with
  | none => rfl
  | some source =>
      cases source with
      | values values => rfl
      | rows rows =>
          cases rows with
          | nil => rfl
          | cons first rest =>
              simp only [InsertNode.assigned, Option.map_some, InsertSourceNode.assign,
                assignRows_eq, List.map_cons, validateInsertShape, check_eq_ok, List.forall_mem_map,
                cells]
      | select query columns =>
          simp [InsertNode.assigned, InsertSourceNode.assign, validateInsertShape]
      | defaultValues => cases conflict <;> rfl

theorem validateInsertClauses_assign {query : InsertNode P} :
    validateInsertClauses (query.assigned f) = .ok () ↔ validateInsertClauses query = .ok () := by
  have values := assignedValues_assign f query
  obtain ⟨table, source, conflict, returning⟩ := query
  cases conflict with
  | none =>
      simp only [validateInsertClauses, InsertNode.assigned, Option.map_none, Option.bind_none,
        Option.toList_none, List.nil_append, List.append_nil, seq_eq_ok] at values ⊢
      rw [values, ← List.map_append, validateDmlSources_assign, excludedSourcesOf_assign]
      generalize InsertNode.assignedValues _ = assigned
      by_cases empty : (assigned.flatMap excludedSources).isEmpty <;> simp [empty]
  | some conflict =>
      simp only [validateInsertClauses, InsertNode.assigned, Option.map_some, ConflictNode.assigned,
        Option.bind_some, Option.toList_map, seq_eq_ok, Option.isNone_map] at values ⊢
      rw [values, ← List.map_append, ← List.map_append, ← List.map_append, ← List.map_append,
        validateDmlSources_assign, excludedSourcesOf_assign, excludedSourcesOf_assign]
      generalize InsertNode.assignedValues _ = assigned
      exact Iff.rfl

theorem supportedConflictPredicates_assign {query : InsertNode P} {dialect : Dialect} :
    supportedConflictPredicates (query.assigned f) dialect = .ok () ↔
      supportedConflictPredicates query dialect = .ok () := by
  have predicates := predicates_assign f query.conflict
  simp only [supportedConflictPredicates, check_eq_ok, InsertNode.assigned, predicates,
    List.map_eq_nil_iff]

/-! ### Checks that look at values -/

theorem isTemporal_assign (node : Node P) : (node.assign f f).isTemporal = node.isTemporal := by
  cases node <;> rfl

section

variable [PyObject V]

/-- The check of a bound `date_bin` stride. -/
def Node.strideLegal : Node V → Bool
  | .temporalBin (.value stride) _ _ =>
      match PyObject.view stride with
      | .interval months days microseconds =>
          decide (¬(months ≠ 0 ∨ days * 86400000000 + microseconds ≤ 0))
      | _ => true
  | _ => true

/-- No `date_bin` in the expression is bound to an interval with months or of no positive length. -/
def StridesLegal (expression : Node V) : Prop :=
  ∀ item ∈ walk expression, item.strideLegal = true

theorem validateTemporalNode_stride {item : Node V} (accepted : validateTemporalNode item = .ok ()) :
    item.strideLegal = true := by
  cases item with
  | temporalBin stride expression origin =>
      cases stride with
      | value stride =>
          rw [validateTemporalNode] at accepted
          rw [Node.strideLegal]
          cases view : PyObject.view stride with
          | interval months days microseconds =>
              simp only [view, check_eq_ok] at accepted
              exact decide_eq_true accepted
          | _ => rfl
      | _ => rfl
  | _ => rfl

theorem validateTemporalNode_transfer {f g : P → V} {item : Node P}
    (accepted : validateTemporalNode (item.assign f f) = .ok ())
    (stride : (item.assign g g).strideLegal = true) :
    validateTemporalNode (item.assign g g) = .ok () := by
  cases item with
  | temporalMakeInterval components =>
      simpa [Node.assign, validateTemporalNode, namedAssigned, Function.comp_def] using accepted
  | temporalBin step expression origin =>
      cases step with
      | value label =>
          simp only [Node.assign, validateTemporalNode]
          simp only [Node.assign, Node.strideLegal] at stride
          cases view : PyObject.view (g label) with
          | interval months days microseconds =>
              simp only [view, decide_eq_true_eq] at stride
              exact check_eq_ok.mpr stride
          | _ => rfl
      | _ => rfl
  | _ => exact accepted

theorem validateExpressionDialect_strides {expression : Node V} {dialect : Dialect}
    (accepted : validateExpressionDialect expression dialect = .ok ()) : StridesLegal expression := by
  intro item member
  have visited := forM_eq_ok.mp accepted item member
  by_cases temporal : item.isTemporal = true
  · rw [if_pos temporal, seq_eq_ok] at visited
    exact validateTemporalNode_stride visited.2
  · cases item with
    | temporalBin stride expression origin => exact absurd rfl temporal
    | _ => rfl

theorem validateExpressionDialect_transfer {f g : P → V} {expression : Node P} {dialect : Dialect}
    (accepted : validateExpressionDialect (expression.assign f f) dialect = .ok ())
    (strides : StridesLegal (expression.assign g g)) :
    validateExpressionDialect (expression.assign g g) dialect = .ok () := by
  rw [validateExpressionDialect, walk_assign, forM_eq_ok, List.forall_mem_map] at accepted ⊢
  rw [StridesLegal, walk_assign, List.forall_mem_map] at strides
  intro item member
  have visited := accepted item member
  rw [isTemporal_assign] at visited ⊢
  by_cases temporal : item.isTemporal = true
  · rw [if_pos temporal, seq_eq_ok] at visited ⊢
    exact ⟨visited.1, validateTemporalNode_transfer visited.2 (strides item member)⟩
  · rw [if_neg temporal]

end

/-! ### Statements inside statements -/

def Clause.assigned (clause : Clause P) : Clause V :=
  { locals := clause.locals, later := clause.later, expression := clause.expression.assign f f }

def placeAssigned (place : QueryNode P × Env) : QueryNode V × Env :=
  (place.1.assign f f, place.2)

theorem joinClauses_assign (joined : List String) (joins : List (JoinNode P)) :
    joinClauses joined (joins.map (JoinNode.assigned f)) =
      (joinClauses joined joins).map (Clause.assigned f) := by
  induction joins generalizing joined with
  | nil => rfl
  | cons join rest ih => simp [joinClauses, ih, JoinNode.assigned, Clause.assigned, Function.comp_def]

theorem ownClauses_assign (node : QueryNode P) :
    ownClauses (node.assign f f) = (ownClauses node).map (Clause.assigned f) := by
  cases node with
  | select query =>
      have first : (query.assign f f).fromSource.toList.map (·.reference) =
          query.fromSource.toList.map (·.reference) := by
        simp [Option.toList_map, Function.comp_def]
      rw [assign_select, ownClauses, ownClauses, SelectNode.clauses, SelectNode.clauses, first,
        joins_assign, joinClauses_assign, clauseExpressions_assign, localSources_assign]
      simp [Clause.assigned, Function.comp_def]
  | insert query =>
      have expressions := dmlExpressions_assign f (.insert query)
      rw [assign_insert] at expressions ⊢
      rw [ownClauses, expressions]
      simp [ownClauses, Clause.assigned, Function.comp_def, InsertNode.assigned]
  | update query =>
      have expressions := dmlExpressions_assign f (.update query)
      rw [assign_update] at expressions ⊢
      rw [ownClauses, expressions]
      simp [ownClauses, Clause.assigned, Function.comp_def, UpdateNode.assigned]
  | delete query =>
      have expressions := dmlExpressions_assign f (.delete query)
      rw [assign_delete] at expressions ⊢
      rw [ownClauses, expressions]
      simp [ownClauses, Clause.assigned, Function.comp_def, DeleteNode.assigned]

theorem clauseQueries_assign (clauses : List (Clause P)) (env : Env) :
    clauseQueries (clauses.map (Clause.assigned f)) env =
      (clauseQueries clauses env).map (placeAssigned f) := by
  simp [clauseQueries, Clause.assigned, placeAssigned, List.flatMap_map, List.map_flatMap, Env.enter,
    Function.comp_def]

theorem entriesAfter_assign (depth : Nat) (before : List Entry) (ctes : List (CteNode P)) :
    entriesAfter depth before (ctes.map (CteNode.assigned f)) = entriesAfter depth before ctes := by
  induction ctes generalizing before with
  | nil => rfl
  | cons cte rest ih => simp [entriesAfter, ih, CteNode.assigned]

theorem cteBodies_assign (env : Env) (all : List Entry) (recursive : Bool) (before : List Entry)
    (ctes : List (CteNode P)) :
    cteBodies env all recursive before (ctes.map (CteNode.assigned f)) =
      (cteBodies env all recursive before ctes).map (placeAssigned f) := by
  induction ctes generalizing before with
  | nil => rfl
  | cons cte rest ih => simp [cteBodies, ih, CteNode.assigned, placeAssigned]

theorem entries_assign (node : SelectNode P) (env : Env) :
    (node.assign f f).entries env = node.entries env := by
  rw [SelectNode.entries, ctes_assign, entriesAfter_assign, SelectNode.entries]

theorem clauseEnv_assign (node : QueryNode P) (env : Env) :
    clauseEnv (node.assign f f) env = clauseEnv node env := by
  cases node with
  | select query => simp [clauseEnv, SelectNode.mainEnv, entries_assign]
  | _ => simp [clauseEnv]

theorem nestedStatements_assign (node : QueryNode P) (env : Env) :
    nestedStatements (node.assign f f) env = (nestedStatements node env).map (placeAssigned f) := by
  cases node with
  | select query =>
      simp [nestedStatements, entries_assign, SelectNode.isRecursive, CteNode.assigned,
        cteBodies_assign, SelectNode.mainEnv, placeAssigned, CompoundNode.assigned, Function.comp_def]
  | insert query =>
      simp [nestedStatements, sourceQuery_assign, placeAssigned, Option.toList_map,
        Function.comp_def]
  | _ => simp [nestedStatements]

theorem inside_assign (node : QueryNode P) (env : Env) :
    inside (node.assign f f) env = (inside node env).map (placeAssigned f) := by
  rw [inside, nestedStatements_assign, ownClauses_assign, clauseEnv_assign, clauseQueries_assign,
    inside, List.map_append]

theorem occurs_assign {root : QueryNode P} {place : QueryNode P × Env} (occurs : Occurs root place) :
    Occurs (root.assign f f) (placeAssigned f place) := by
  induction occurs with
  | refl => exact .refl
  | tail _ encloses ih =>
      refine ih.tail ?_
      rw [Encloses, placeAssigned, inside_assign]
      exact List.mem_map_of_mem encloses

/-! ### WITH clauses across the whole statement -/

theorem dataModifyingCtes_assign (node : QueryNode P) :
    dataModifyingCtes (node.assign f f) = dataModifyingCtes node := by
  cases node with
  | select query =>
      have same (cte : CteNode P) : (cte.assigned f).isDataModifying = cte.isDataModifying := by
        obtain ⟨name, query, recursive, materialized⟩ := cte
        cases query <;> simp [CteNode.assigned, CteNode.isDataModifying]
      have names (cte : CteNode P) : (cte.assigned f).name = cte.name := rfl
      simp [dataModifyingCtes, List.filter_map, Function.comp_def, same, names]
  | _ => simp [dataModifyingCtes]

theorem validateDataModifyingCtePlacement_assign (node : QueryNode P) :
    validateDataModifyingCtePlacement (node.assign f f) = validateDataModifyingCtePlacement node := by
  have names : (nestedQueries (node.assign f f)).flatMap dataModifyingCtes =
      (nestedQueries node).flatMap dataModifyingCtes := by
    simp [nestedQueries, nestedScopes_assign, List.flatMap_map, dataModifyingCtes_assign]
  simp only [validateDataModifyingCtePlacement, names]

theorem validateNestedCteVisibility_assign {node : QueryNode P} :
    validateNestedCteVisibility (node.assign f f) = .ok () ↔
      validateNestedCteVisibility node = .ok () := by
  simp only [validateNestedCteVisibility, nestedScopes_assign, forM_eq_ok, List.forall_mem_map]
  refine forall₂_congr fun scope member => ?_
  obtain ⟨query, names⟩ := scope
  cases query with
  | select query => simp [CteNode.assigned, Function.comp_def]
  | _ => simp

/-! ### What stands directly inside a statement -/

section

variable {node : SelectNode P} (env : Env)

theorem inside_cte {cte : CteNode P} (member : cte ∈ node.ctes) :
    ∃ inner, (cte.query, inner) ∈ inside (.select node) env := by
  obtain ⟨inner, found⟩ := cteBodies_query member
  refine ⟨inner, ?_⟩
  rw [inside, nestedStatements, List.mem_append, List.mem_append, List.mem_append]
  exact Or.inl (Or.inl (Or.inl found))

theorem inside_derived {query : SelectNode P}
    (member : query ∈ node.sources.filterMap SourceNode.derivedQuery) :
    ∃ inner, (.select query, inner) ∈ inside (.select node) env := by
  refine ⟨node.mainEnv env, ?_⟩
  rw [inside, nestedStatements, List.mem_append, List.mem_append, List.mem_append]
  exact Or.inl (Or.inl (Or.inr (List.mem_map.mpr ⟨query, member, rfl⟩)))

theorem inside_arm {compound : CompoundNode P} (member : compound ∈ node.compounds) :
    ∃ inner, (.select compound.query, inner) ∈ inside (.select node) env := by
  refine ⟨node.mainEnv env, ?_⟩
  rw [inside, nestedStatements, List.mem_append, List.mem_append, List.mem_append]
  exact Or.inl (Or.inr (List.mem_map.mpr ⟨compound, member, rfl⟩))

theorem inside_source {query : InsertNode P} {inner : SelectNode P}
    (member : inner ∈ query.sourceQuery) : (.select inner, env) ∈ inside (.insert query) env := by
  rw [inside, nestedStatements, List.mem_append]
  exact Or.inl (List.mem_map.mpr ⟨inner, Option.mem_toList.mpr member, rfl⟩)

theorem inside_clause {statement : QueryNode P} {clause : Clause P}
    (member : clause ∈ ownClauses statement) {query : SelectNode P}
    (nested : query ∈ subqueries clause.expression) :
    ∃ inner, (.select query, inner) ∈ inside statement env := by
  refine ⟨(clauseEnv statement env).enter clause, ?_⟩
  rw [inside, List.mem_append, clauseQueries, List.mem_flatMap]
  exact Or.inr ⟨clause, member, List.mem_map.mpr ⟨query, nested, rfl⟩⟩

end

theorem cteBodies_member {env : Env} {all before : List Entry} {recursive : Bool}
    {ctes : List (CteNode P)} {place : QueryNode P × Env}
    (member : place ∈ cteBodies env all recursive before ctes) : ∃ cte ∈ ctes, place.1 = cte.query := by
  induction ctes generalizing before with
  | nil => cases member
  | cons cte rest ih =>
      rw [cteBodies] at member
      rcases List.mem_cons.mp member with rfl | later
      · exact ⟨cte, List.mem_cons_self, rfl⟩
      · obtain ⟨found, inRest, same⟩ := ih later
        exact ⟨found, List.mem_cons_of_mem _ inRest, same⟩

theorem ownClauses_size {node : QueryNode P} {clause : Clause P} (member : clause ∈ ownClauses node) :
    sizeOf clause.expression < sizeOf node := by
  cases node with
  | select query =>
      have := SelectNode.sizeOf_expression (clause_expression member)
      rw [QueryNode.select.sizeOf_spec]
      omega
  | insert query | update query | delete query =>
      obtain ⟨expression, inside, rfl⟩ := List.mem_map.mp member
      exact sizeOf_lt_of_mem_dmlExpressions inside

/-- A statement inside another one is a strict part of it. -/
theorem sizeOf_lt_of_mem_inside {node : QueryNode P} {env : Env} {place : QueryNode P × Env}
    (member : place ∈ inside node env) : sizeOf place.1 < sizeOf node := by
  rcases List.mem_append.mp member with nested | below
  · cases node with
    | select query =>
        rw [QueryNode.select.sizeOf_spec]
        simp only [nestedStatements, List.mem_append, List.mem_map] at nested
        rcases nested with (body | ⟨derived, found, rfl⟩) | ⟨compound, found, rfl⟩
        · obtain ⟨cte, found, same⟩ := cteBodies_member body
          have := sizeOf_cte_query cte
          have := SelectNode.sizeOf_cte found
          rw [same]
          omega
        · have := SelectNode.sizeOf_derived found
          simp only [QueryNode.select.sizeOf_spec]
          omega
        · have := SelectNode.sizeOf_compound found
          simp only [QueryNode.select.sizeOf_spec]
          omega
    | insert query =>
        obtain ⟨inner, found, rfl⟩ := List.mem_map.mp nested
        have := InsertNode.sizeOf_sourceQuery (Option.mem_toList.mp found)
        simp only [QueryNode.select.sizeOf_spec, QueryNode.insert.sizeOf_spec]
        omega
    | update query | delete query => cases nested
  · simp only [clauseQueries, List.mem_flatMap, List.mem_map] at below
    obtain ⟨clause, found, query, nested, rfl⟩ := below
    have := ownClauses_size found
    have := sizeOf_lt_of_mem_subqueries nested
    simp only [QueryNode.select.sizeOf_spec]
    omega

/-! ### Acceptance with other values -/

theorem returning_assign (query : QueryNode P) :
    (query.assign f f).returning = query.returning.map (Node.assign f f) := by
  cases query with
  | select query => rfl
  | insert query => simp [QueryNode.returning, InsertNode.assigned]
  | update query => simp [QueryNode.returning, UpdateNode.assigned]
  | delete query => simp [QueryNode.returning, DeleteNode.assigned]

section

variable [DecidableEq V] [PyObject V] {f} {g : P → V} {dialect : Dialect}

/-- The checks of a statement that look at its values, without those of the statements inside it. -/
structure ValuesPass (statement : QueryNode V) : Prop where
  strides : ∀ clause ∈ ownClauses statement, StridesLegal clause.expression
  grouping : ∀ node, statement = .select node → validateGrouping node = .ok ()

/-- A statement that is accepted under `f` is accepted under `g`. -/
def Transfers (f g : P → V) (dialect : Dialect) (node : QueryNode P) : Prop :=
  ∀ outer, validateStatement (node.assign f f) dialect outer = .ok () →
    validateStatement (node.assign g g) dialect outer = .ok ()

theorem Transfers.select {node : SelectNode P} (transfers : Transfers f g dialect (.select node))
    {outer : List String} (accepted : validateSelect (node.assign f f) dialect outer = .ok ()) :
    validateSelect (node.assign g g) dialect outer = .ok () := by
  have statement := transfers outer
  rw [assign_select, assign_select, validateStatement, validateStatement] at statement
  exact statement accepted

theorem validateCteBody_transfer {query : QueryNode P} (transfers : Transfers f g dialect query)
    {name : String} {recursive : Bool} {sources : List String}
    (accepted : validateCteBody (query.assign f f) name recursive dialect sources = .ok ()) :
    validateCteBody (query.assign g g) name recursive dialect sources = .ok () := by
  have returning (h : P → V) : (query.assign h h).returning ≠ [] ↔ query.returning ≠ [] := by
    simp [returning_assign]
  have body := transfers sources
  cases query with
  | select query =>
      rw [assign_select, validateCteBody.eq_def] at accepted ⊢
      cases recursive with
      | false => exact transfers.select accepted
      | true =>
          simp only [if_true, seq_eq_ok, validateRecursiveCte_assign] at accepted ⊢
          exact ⟨accepted.1, transfers.select accepted.2⟩
  | insert query | update query | delete query =>
      simp only [assign_insert, assign_update, assign_delete] at accepted returning body ⊢
      rw [validateCteBody.eq_def] at accepted ⊢
      simp only [seq_eq_ok, check_eq_ok, returning] at accepted ⊢
      exact ⟨accepted.1, accepted.2.1, body accepted.2.2⟩

theorem validateCtes_transfer {ctes : List (CteNode P)} {outer visible : List String}
    (transfers : ∀ cte ∈ ctes, Transfers f g dialect cte.query)
    (accepted : validateCtes (ctes.map (CteNode.assigned f)) dialect outer visible = .ok ()) :
    validateCtes (ctes.map (CteNode.assigned g)) dialect outer visible = .ok () := by
  induction ctes generalizing visible with
  | nil => simp [validateCtes]
  | cons cte rest ih =>
      obtain ⟨first, later⟩ := List.forall_mem_cons.mp transfers
      simp only [List.map_cons, CteNode.assigned, validateCtes, seq_eq_ok] at accepted ⊢
      exact ⟨accepted.1, validateCteBody_transfer first accepted.2.1, ih later accepted.2.2⟩

/-- The strides of an assigned statement, clause by clause of its shape. -/
theorem ValuesPass.clause {statement : QueryNode P} (own : ValuesPass (statement.assign g g))
    {clause : Clause P} (member : clause ∈ ownClauses statement) :
    StridesLegal (clause.expression.assign g g) := by
  have strides := own.strides (clause.assigned g)
  rw [ownClauses_assign] at strides
  exact strides (List.mem_map_of_mem member)

/-- The rules of a SELECT carry over, given the checks that look at values and the statements inside. -/
theorem SelectRules.transfer {node : SelectNode P} {outer : List String} {env : Env}
    (rules : SelectRules (node.assign f f) dialect outer)
    (own : ValuesPass ((QueryNode.select node).assign g g))
    (below : ∀ place ∈ inside (.select node) env, Transfers f g dialect place.1) :
    SelectRules (node.assign g g) dialect outer := by
  have bound (h : P → V) : (node.assign h h).bound outer = node.bound outer := by
    simp [SelectNode.bound, CteNode.assigned, Function.comp_def]
  refine ⟨?_, ?_, ?_, ?_, ?_, ?_, own.grouping _ rfl, ?_, ?_, ?_⟩
  · have shape := rules.shape
    rwa [validateCompoundShape_assign] at shape ⊢
  · have ctes := rules.ctes
    rw [ctes_assign] at ctes ⊢
    refine validateCtes_transfer (fun cte member => ?_) ctes
    obtain ⟨inner, found⟩ := inside_cte env member
    exact below _ found
  · have sources := rules.sources
    rwa [bound, validateSources_assign] at sources ⊢
  · have locks := rules.locks
    rwa [validateLocks_assign] at locks ⊢
  · have checked := rules.dialectNodes
    have expressions (h : P → V) : (node.assign h h).dialectExpressions =
        node.dialectExpressions.map (Node.assign h h) := by
      simp [SelectNode.dialectExpressions, JoinNode.assigned, OrderNode.assigned, Option.toList_map,
        Function.comp_def]
    simp only [validateDialectNodes, expressions, seq_eq_ok, forM_eq_ok, List.forall_mem_map,
      locks_assign] at checked ⊢
    refine ⟨fun expression member => ?_, checked.2⟩
    have visited : expression ∈ node.scopeExpressions := by
      simp only [SelectNode.dialectExpressions, SelectNode.scopeExpressions, List.mem_append]
        at member ⊢
      grind
    obtain ⟨clause, found, same⟩ := clause_expression_iff.mpr visited
    have strides : StridesLegal (clause.expression.assign g g) := own.clause found
    rw [same] at strides
    exact validateExpressionDialect_transfer (checked.1 expression member) strides
  · exact (validateAnalyticClauses_assign g).mpr ((validateAnalyticClauses_assign f).mp rules.analytic)
  · have arms := rules.arms
    simp only [compounds_assign, List.forall_mem_map, CompoundNode.assigned, locks_assign, bound]
      at arms ⊢
    intro compound member
    obtain ⟨inner, found⟩ := inside_arm env member
    exact ⟨(arms compound member).1, (below _ found).select (arms compound member).2⟩
  · have derived := rules.derived
    simp only [derivedQueries_assign, List.forall_mem_map, bound] at derived ⊢
    intro query member
    obtain ⟨inner, found⟩ := inside_derived env member
    exact (below _ found).select (derived query member)
  · have nested := rules.nested
    simp only [SelectNode.scopeExpressions_assign, List.forall_mem_map, subqueries_assign, bound,
      localSources_assign] at nested ⊢
    intro expression member query inner
    obtain ⟨clause, found, rfl⟩ := clause_expression_iff.mpr member
    have own_ : clause ∈ ownClauses (.select node) := found
    obtain ⟨place, placed⟩ := inside_clause env own_ inner
    exact (below _ placed).select (nested _ member query inner)

/-- The checks of an INSERT, UPDATE or DELETE on its own expressions carry over. -/
theorem dmlExpressions_transfer {node : QueryNode P} {table : TableSourceNode} {outer : List String}
    {env : Env} (own : ValuesPass (node.assign g g))
    (clauses : ∀ expression ∈ dmlExpressions node, ∃ clause ∈ ownClauses node,
      clause.expression = expression)
    (below : ∀ place ∈ inside node env, Transfers f g dialect place.1)
    (accepted : ∀ expression ∈ (dmlExpressions node).map (Node.assign f f),
      validateExpressionDialect expression dialect = .ok () ∧
        ∀ query ∈ subqueries expression,
          validateSelect query dialect (table.reference :: outer) = .ok ()) :
    ∀ expression ∈ (dmlExpressions node).map (Node.assign g g),
      validateExpressionDialect expression dialect = .ok () ∧
        ∀ query ∈ subqueries expression,
          validateSelect query dialect (table.reference :: outer) = .ok () := by
  simp only [List.forall_mem_map, subqueries_assign] at accepted ⊢
  intro expression member
  obtain ⟨clause, found, rfl⟩ := clauses expression member
  obtain ⟨checked, nested⟩ := accepted _ member
  refine ⟨validateExpressionDialect_transfer checked (own.clause found), fun query inner => ?_⟩
  obtain ⟨place, placed⟩ := inside_clause env found inner
  exact (below _ placed).select (nested query inner)

/-- One step: acceptance carries over to a statement from the statements inside it. -/
theorem validateStatement_step {node : QueryNode P} {env : Env}
    (own : ValuesPass (node.assign g g))
    (below : ∀ place ∈ inside node env, Transfers f g dialect place.1) :
    Transfers f g dialect node := by
  intro outer accepted
  cases node with
  | select query =>
      rw [assign_select, validateStatement, validateSelect_iff] at accepted ⊢
      exact accepted.transfer own below
  | insert query =>
      have expressions := @dmlExpressions_transfer P V f _ _ g dialect (.insert query) query.table
        outer env own (fun expression member => ⟨_, List.mem_map.mpr ⟨expression, member, rfl⟩, rfl⟩) below
      have rejected (h : P → V) : dmlExpressions (.insert (query.assigned h)) =
          (dmlExpressions (.insert query)).map (Node.assign h h) := by
        rw [← assign_insert, dmlExpressions_assign]
      rw [assign_insert] at accepted ⊢
      rw [validateStatement] at accepted ⊢
      simp only [seq_eq_ok, attach_forM_eq_ok, Option.mem_toList, sourceQuery_assign, rejected,
        validateInsertShape_assign, validateInsertClauses_assign, supportedConflictPredicates_assign,
        rejectAggregatesAndWindows_assign] at accepted ⊢
      obtain ⟨shape, source, clauses, supported, plain, nested⟩ := accepted
      refine ⟨shape, fun inner member => ?_, clauses, supported, plain, expressions nested⟩
      obtain ⟨origin, given, rfl⟩ := Option.map_eq_some_iff.mp member
      apply (below _ (inside_source env given)).select
      exact source _ (Option.map_eq_some_iff.mpr ⟨origin, given, rfl⟩)
  | update query =>
      have expressions := @dmlExpressions_transfer P V f _ _ g dialect (.update query) query.table
        outer env own (fun expression member => ⟨_, List.mem_map.mpr ⟨expression, member, rfl⟩, rfl⟩) below
      have rejected (h : P → V) : dmlExpressions (.update (query.assigned h)) =
          (dmlExpressions (.update query)).map (Node.assign h h) := by
        rw [← assign_update, dmlExpressions_assign]
      have values (h : P → V) : (query.assigned h).whereNode.toList ++
            (query.assigned h).values.map (·.2) ++ (query.assigned h).returning =
          (dmlExpressions (.update query)).map (Node.assign h h) := by
        rw [← rejected]
        rfl
      rw [assign_update] at accepted ⊢
      rw [validateStatement] at accepted ⊢
      simp only [seq_eq_ok, attach_forM_eq_ok, check_eq_ok, values, rejected,
        rejectAggregatesAndWindows_assign] at accepted ⊢
      obtain ⟨given, bounded, sources, plain, nested⟩ := accepted
      refine ⟨by simpa [UpdateNode.assigned] using given, bounded, ?_, plain, expressions nested⟩
      exact (validateDmlSources_assign g query.table _).trans
        ((validateDmlSources_assign f query.table _).symm.trans sources)
  | delete query =>
      have expressions := @dmlExpressions_transfer P V f _ _ g dialect (.delete query) query.table
        outer env own (fun expression member => ⟨_, List.mem_map.mpr ⟨expression, member, rfl⟩, rfl⟩) below
      have rejected (h : P → V) : dmlExpressions (.delete (query.assigned h)) =
          (dmlExpressions (.delete query)).map (Node.assign h h) := by
        rw [← assign_delete, dmlExpressions_assign]
      have values (h : P → V) : (query.assigned h).whereNode.toList ++ (query.assigned h).returning =
          (dmlExpressions (.delete query)).map (Node.assign h h) := by
        rw [← rejected]
        rfl
      rw [assign_delete] at accepted ⊢
      rw [validateStatement] at accepted ⊢
      simp only [seq_eq_ok, attach_forM_eq_ok, check_eq_ok, values, rejected,
        rejectAggregatesAndWindows_assign] at accepted ⊢
      obtain ⟨bounded, sources, plain, nested⟩ := accepted
      refine ⟨bounded, ?_, plain, expressions nested⟩
      exact (validateDmlSources_assign g query.table _).trans
        ((validateDmlSources_assign f query.table _).symm.trans sources)

/-- The run: acceptance carries over from the innermost statements outwards. -/
theorem validateStatement_transfer (node : QueryNode P) (env : Env)
    (passes : ∀ place, Relation.ReflTransGen Encloses (node, env) place →
      ValuesPass (place.1.assign g g)) : Transfers f g dialect node := by
  apply validateStatement_step (passes _ .refl)
  intro place member
  exact validateStatement_transfer place.1 place.2 fun inner below => passes inner (.head member below)
termination_by sizeOf node
decreasing_by exact sizeOf_lt_of_mem_inside member

/-- What is accepted passes the checks that look at values. -/
theorem validateStatement_values {node : QueryNode V} {outer : List String}
    (accepted : validateStatement node dialect outer = .ok ()) : ValuesPass node := by
  cases node with
  | select query =>
      rw [validateStatement] at accepted
      have rules := validateSelect_iff.mp accepted
      refine ⟨fun clause member => ?_, ?_⟩
      · have checked := rules.dialectNodes
        simp only [validateDialectNodes, seq_eq_ok, forM_eq_ok] at checked
        apply validateExpressionDialect_strides (checked.1 clause.expression ?_)
        have visited := clause_expression member
        simp only [SelectNode.dialectExpressions, SelectNode.scopeExpressions, List.mem_append]
          at visited ⊢
        grind
      · rintro _ ⟨⟩
        exact rules.grouping
  | insert query | update query | delete query =>
      have rules := validateStatement_dml accepted rfl
      refine ⟨fun clause member => ?_, fun _ other => by cases other⟩
      obtain ⟨expression, inside, rfl⟩ := List.mem_map.mp member
      exact validateExpressionDialect_strides (rules.dialectNodes expression inside)

/-- A statement that is accepted with the values `f` is accepted with the values `g` exactly when every
statement in it passes the checks that look at values. -/
theorem accepted_transfer {root : QueryNode P} (accepted : Accepted (root.assign f f) dialect) :
    Accepted (root.assign g g) dialect ↔
      ∀ place, Occurs root place → ValuesPass (place.1.assign g g) := by
  constructor
  · intro again place occurs
    obtain ⟨names, statement, -⟩ := accepted_occurs again (occurs_assign g occurs)
    exact validateStatement_values statement
  · intro passes
    simp only [Accepted, validateQuery, seq_eq_ok, validateDataModifyingCtePlacement_assign,
      validateNestedCteVisibility_assign] at accepted ⊢
    exact ⟨accepted.1, accepted.2.1, validateStatement_transfer root {} passes [] accepted.2.2⟩

end

end Relq
