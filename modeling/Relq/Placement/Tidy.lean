/-
Module: Relq.Placement.Tidy
Layer: Placement
Purpose: Where aliases may stand. SQL takes an alias around a whole item of a SELECT or RETURNING list
  and nowhere else. A statement that keeps the rule at every depth is tidy, an aliased GROUP BY
  expression apart, which the validator rejects. The expressions that the builders make of clean
  operands are clean, but for the alias that `as_` puts around one.
Imports: Relq.Builders.Calls, Relq.Scoping.Acceptance
Trusted boundary: human-reviewed spec (Node.item, listItems, plainClauses, AliasesOutermost,
  Node.carriesAlias, Call.handed)
Main exports: AliasesOutermost, Call.HandsPlain, Tidy, Clean, Listed, tidy_iff, clean_iff,
  ExpressionCall.make_listed
-/
import Relq.Builders.Calls
import Relq.Scoping.Acceptance

namespace Relq

open Outcome

variable {V : Type}

/-! ### The rule -/

/-- No alias stands in an expression. -/
def Unaliased (expression : Node V) : Prop :=
  ∀ inner ∈ walk expression, inner.isAlias = false

/-- The expression of a list item, without the alias around it. -/
def Node.item : Node V → Node V
  | .aliased expression _ => expression
  | .nullableResult (.aliased expression _) => expression
  | expression => expression

/-- The items of the SELECT or RETURNING list of a statement. -/
def listItems : QueryNode V → List (Node V)
  | .select node => node.selections
  | .insert node => node.returning
  | .update node => node.returning
  | .delete node => node.returning

/-- The expressions of a statement that no check searches for aliases: WHERE, ON, HAVING, ORDER BY,
the cells of VALUES, assignments and conflict clauses. -/
def plainClauses : QueryNode V → List (Node V)
  | .select node =>
      node.joins.map (·.predicate) ++ node.whereNode.toList ++ node.having.toList ++
        node.orderBy.map (·.expression)
  | .insert node => node.assignedValues ++ node.conflict.toList.flatMap ConflictNode.predicates
  | .update node => node.whereNode.toList ++ node.values.map (·.2)
  | .delete node => node.whereNode.toList

/-- The GROUP BY expressions of a statement. -/
def groupExpressions : QueryNode V → List (Node V)
  | .select node => node.groupBy
  | _ => []

/-- The aliases of one statement are where SQL has them. -/
structure AliasPlacement (node : QueryNode V) : Prop where
  items : ∀ item ∈ listItems node, Unaliased item.item
  clauses : ∀ expression ∈ plainClauses node ++ groupExpressions node, Unaliased expression

/-- At every depth an alias stands only around an item of a SELECT or RETURNING list. -/
def AliasesOutermost (root : QueryNode V) : Prop :=
  ∀ node env, Occurs root (node, env) → AliasPlacement node

/-- The lists are the clauses of the statement. -/
theorem mem_ownClauses_iff {node : QueryNode V} {expression : Node V} :
    (∃ clause ∈ ownClauses node, clause.expression = expression) ↔
      expression ∈ listItems node ++ (plainClauses node ++ groupExpressions node) := by
  rw [← List.mem_map]
  cases node with
  | select node =>
      rw [ownClauses, clauses_expressions]
      simp only [listItems, plainClauses, groupExpressions, SelectNode.clauseExpressions,
        List.mem_append]
      grind
  | insert node =>
      rw [ownClauses, List.map_map]
      simp [listItems, plainClauses, groupExpressions, dmlExpressions, Function.comp_def]
  | update node =>
      rw [ownClauses, List.map_map]
      simp [listItems, plainClauses, groupExpressions, dmlExpressions, Function.comp_def]
      grind
  | delete node =>
      rw [ownClauses, List.map_map]
      simp [listItems, plainClauses, groupExpressions, dmlExpressions, Function.comp_def]
      grind

/-! ### What the calls of a program hand on -/

/-- The expression carries an alias: `as_` returned it, or `nullable` did, for one from `as_`. -/
def Node.carriesAlias : Node V → Bool
  | .aliased _ _ | .nullableResult (.aliased _ _) => true
  | _ => false

/-- The expressions that a call makes operands. `nullable` may be given what `as_` returned. -/
def ExpressionCall.handed : ExpressionCall V → List (Node V)
  | .nullable self => [self.node].filter (·.isAlias = false)
  | .window self (.partitionBy expressions) => self.node :: expressions
  | call => call.operands.map (·.node)

/-- The expressions that a method takes for other clauses than the SELECT list. `group_by` may be given
what `as_` returned, since validation rejects it there. -/
def SelectMethod.handed : SelectMethod V → List (Node V)
  | .join _ _ on => [on]
  | .where predicate | .having predicate => [predicate]
  | .groupBy expressions => expressions.filter (·.isAlias = false)
  | _ => []

/-- The expressions that a method takes for other clauses than RETURNING. -/
def DmlMethod.handed : DmlMethod V → List (Node V)
  | .values entries | .doUpdate entries => entries.expressions.map (·.node)
  | .valuesMany rows => (rows.flatMap Payload.expressions).map (·.node)
  | .where predicate => [predicate]
  | _ => []

/-- The expressions that a call puts where SQL takes no alias. -/
def Call.handed : Call V → List (Node V)
  | .expression call => call.handed
  | .order self _ => [self.node]
  | .selectMethod _ method => method.handed
  | .dmlMethod _ method => method.handed
  | _ => []

/-- No expression that a call puts where SQL takes no alias carries one. -/
def Call.HandsPlain (call : Call V) : Prop :=
  ∀ node ∈ call.handed, node.carriesAlias = false

/-! ### Tidy statements -/

/-- The statements directly inside a statement, those in its expressions apart. -/
def heldStatements : QueryNode V → List (QueryNode V)
  | .select node =>
      node.ctes.map (·.query) ++ (node.sources.filterMap SourceNode.derivedQuery).map .select ++
        node.compounds.map (.select ·.query)
  | .insert node => node.sourceQuery.toList.map .select
  | .update _ | .delete _ => []

/-- The GROUP BY expressions of a statement that an accepted statement may have. -/
def acceptableGroups (node : QueryNode V) : List (Node V) :=
  (groupExpressions node).filter (·.isAlias = false)

/-- The expressions of a statement, without the aliases of its items. -/
def bareExpressions (node : QueryNode V) : List (Node V) :=
  (listItems node).map Node.item ++ (plainClauses node ++ acceptableGroups node)

/-- The aliases of a statement and of the statements inside it stand outermost, an aliased GROUP BY
expression apart, which keeps the statement from being accepted. -/
inductive Tidy : QueryNode V → Prop where
  | intro {node : QueryNode V}
      (expressions : ∀ expression ∈ bareExpressions node, Unaliased expression)
      (queries : ∀ expression ∈ bareExpressions node, ∀ query ∈ subqueries expression,
        Tidy (.select query))
      (held : ∀ inner ∈ heldStatements node, Tidy inner) : Tidy node

/-- An expression without an alias, whose subqueries are tidy. -/
def Clean (expression : Node V) : Prop :=
  Unaliased expression ∧ ∀ query ∈ subqueries expression, Tidy (.select query)

/-- An expression as the builders return it: clean, or an item around a clean expression. -/
def Listed (expression : Node V) : Prop :=
  Clean expression.item

theorem tidy_iff {node : QueryNode V} :
    Tidy node ↔ (∀ item ∈ listItems node, Listed item) ∧
      (∀ expression ∈ plainClauses node, Clean expression) ∧
      (∀ expression ∈ groupExpressions node, expression.isAlias = false → Clean expression) ∧
      ∀ inner ∈ heldStatements node, Tidy inner := by
  have split : (∀ expression ∈ bareExpressions node, Clean expression) ↔
      (∀ item ∈ listItems node, Listed item) ∧
        (∀ expression ∈ plainClauses node, Clean expression) ∧
        ∀ expression ∈ groupExpressions node, expression.isAlias = false → Clean expression := by
    simp only [bareExpressions, acceptableGroups, List.forall_mem_append, List.forall_mem_map,
      List.mem_filter, decide_eq_true_eq, and_imp]
    rfl
  constructor
  · rintro ⟨expressions, queries, held⟩
    have clean := split.mp fun expression member =>
      ⟨expressions expression member, queries expression member⟩
    exact ⟨clean.1, clean.2.1, clean.2.2, held⟩
  · rintro ⟨items, clauses, groups, held⟩
    have clean := split.mpr ⟨items, clauses, groups⟩
    exact ⟨fun expression member => (clean expression member).1,
      fun expression member => (clean expression member).2, held⟩

/-! ### Clean expressions -/

theorem unaliased_iff {expression : Node V} :
    Unaliased expression ↔
      expression.isAlias = false ∧ ∀ child ∈ children expression, Unaliased child := by
  constructor
  · intro unaliased
    refine ⟨unaliased expression (self_mem_walk expression), fun child member inner inside => ?_⟩
    exact unaliased inner (mem_walk.mpr (.inr ⟨child, member, inside⟩))
  · rintro ⟨bare, below⟩ inner inside
    rcases mem_walk.mp inside with rfl | ⟨child, member, deeper⟩
    · exact bare
    · exact below child member inner deeper

theorem mem_subqueries_iff {expression : Node V} {query : SelectNode V} :
    query ∈ subqueries expression ↔
      query ∈ expression.nestedSelect ∨ ∃ child ∈ children expression, query ∈ subqueries child := by
  rw [mem_subqueries, walk_eq]
  simp only [List.mem_cons, List.mem_flatMap, mem_subqueries, Option.mem_def]
  grind

/-- An item is an alias around an expression, or carries none. -/
theorem Node.item_cases (node : Node V) :
    (∃ expression aliasName, node = .aliased expression aliasName ∧ node.item = expression) ∨
      (∃ expression aliasName, node = .nullableResult (.aliased expression aliasName) ∧
        node.item = expression) ∨
      node.carriesAlias = false ∧ node.item = node := by
  cases node with
  | aliased expression aliasName => exact .inl ⟨expression, aliasName, rfl, rfl⟩
  | nullableResult operand =>
      cases operand with
      | aliased expression aliasName => exact .inr (.inl ⟨expression, aliasName, rfl, rfl⟩)
      | _ => exact .inr (.inr ⟨rfl, rfl⟩)
  | _ => exact .inr (.inr ⟨rfl, rfl⟩)

/-- The alias around an item holds no subquery. -/
theorem mem_subqueries_item {item : Node V} {query : SelectNode V} :
    query ∈ subqueries item ↔ query ∈ subqueries item.item := by
  rcases item.item_cases with
    ⟨expression, aliasName, rfl, same⟩ | ⟨expression, aliasName, rfl, same⟩ | ⟨-, same⟩
  · rw [same, mem_subqueries_iff]
    simp [Node.nestedSelect, children]
  · rw [same, mem_subqueries_iff]
    simp only [Node.nestedSelect, children, List.mem_singleton, exists_eq_left]
    rw [mem_subqueries_iff]
    simp [Node.nestedSelect, children]
  · rw [same]

/-- What makes an expression clean, from its operands and its own subquery. -/
theorem forall_mem_none {α : Type} {p : α → Prop} : ∀ item ∈ (none : Option α), p item :=
  fun _ held => absurd held (Option.not_mem_none _)

theorem clean_iff {expression : Node V} :
    Clean expression ↔ expression.isAlias = false ∧ (∀ child ∈ children expression, Clean child) ∧
      ∀ query ∈ expression.nestedSelect, Tidy (.select query) := by
  rw [Clean, unaliased_iff]
  constructor
  · rintro ⟨⟨bare, below⟩, queries⟩
    refine ⟨bare, fun child member => ⟨below child member, fun query inside => ?_⟩, ?_⟩
    · exact queries query (mem_subqueries_iff.mpr (.inr ⟨child, member, inside⟩))
    · exact fun query own => queries query (mem_subqueries_iff.mpr (.inl own))
  · rintro ⟨bare, below, own⟩
    refine ⟨⟨bare, fun child member => (below child member).1⟩, fun query inside => ?_⟩
    rcases mem_subqueries_iff.mp inside with nested | ⟨child, member, deeper⟩
    · exact own query nested
    · exact (below child member).2 query deeper

/-- An expression that is no alias and holds no subquery is clean if its operands are. -/
theorem clean_plain {expression : Node V} (bare : expression.isAlias = false)
    (none : expression.nestedSelect = none) :
    Clean expression ↔ ∀ child ∈ children expression, Clean child := by
  rw [clean_iff]
  constructor
  · exact fun clean => clean.2.1
  · intro operands
    refine ⟨bare, operands, fun query held => ?_⟩
    rw [none] at held
    cases held

@[simp] theorem clean_value (value : V) : Clean (.value value : Node V) :=
  (clean_plain rfl rfl).mpr (List.forall_mem_nil _)

/-- An expression of the program that carries no alias is clean. -/
theorem Listed.clean {expression : Node V} (listed : Listed expression)
    (plain : expression.carriesAlias = false) : Clean expression := by
  rcases expression.item_cases with ⟨_, _, rfl, -⟩ | ⟨_, _, rfl, -⟩ | ⟨-, same⟩
  · cases plain
  · cases plain
  · rwa [Listed, same] at listed

theorem Clean.listed {expression : Node V} (clean : Clean expression) : Listed expression := by
  rcases expression.item_cases with ⟨_, _, rfl, -⟩ | ⟨_, _, rfl, -⟩ | ⟨-, same⟩
  · cases (clean_iff.mp clean).1
  · have operand := (clean_iff.mp clean).2.1 _ (List.mem_singleton.mpr rfl)
    cases (clean_iff.mp operand).1
  · rwa [Listed, same]

/-! ### Builders of expressions -/

open ExpressionCall (expressionsOf)

theorem clean_operands {items : List (Expression V ⊕ V)} :
    (∀ self ∈ expressionsOf items, Clean self.node) ↔
      ∀ item ∈ items, Clean (Expression.operand item) := by
  constructor
  · intro expressions item member
    cases item with
    | inl self => exact expressions self (List.mem_filterMap.mpr ⟨.inl self, member, rfl⟩)
    | inr value => exact clean_value value
  · intro operands self member
    obtain ⟨item, inside, got⟩ := List.mem_filterMap.mp member
    cases item with
    | inl held =>
        obtain rfl := Option.some.inj got
        exact operands (.inl held) inside
    | inr value => cases got

/-- The arguments of a method of `WindowSpec` are clean. -/
def WindowMethod.Clean : WindowMethod V → Prop
  | .partitionBy expressions => ∀ expression ∈ expressions, Relq.Clean expression
  | .orderBy orders => ∀ order ∈ orders, Relq.Clean order.expression
  | .between .. | .exclude _ => True

theorem windowSpec_eq_some {node : Node V} {spec : WindowSpec V} :
    windowSpec node = some spec ↔ node = spec.node := by
  cases node with
  | window expression partitionBy orderBy frame exclusion =>
      constructor
      · intro same
        obtain rfl := Option.some.inj same
        rfl
      · intro same
        cases spec
        cases same
        rfl
  | _ =>
      constructor
      · intro same
        cases same
      · intro same
        cases spec
        cases same

theorem clean_window {spec : WindowSpec V} :
    Clean spec.node ↔ Clean spec.expression.toNode ∧
      (∀ expression ∈ spec.partitionBy, Clean expression) ∧
      ∀ order ∈ spec.orderBy, Clean order.expression := by
  have inner : children spec.node =
      spec.expression.toNode :: (spec.partitionBy ++ spec.orderBy.map (·.expression)) := rfl
  rw [clean_plain rfl rfl, inner, List.forall_mem_cons, List.forall_mem_append, List.forall_mem_map]

theorem WindowSpec.apply_clean {spec next : WindowSpec V} {method : WindowMethod V}
    (clean : Clean spec.node) (given : method.Clean) (done : spec.apply method = .ok next) :
    Clean next.node := by
  obtain ⟨call, partitions, orders⟩ := clean_window.mp clean
  apply clean_window.mpr
  cases method with
  | partitionBy expressions =>
      simp only [apply] at done
      split at done <;> cases done
      exact ⟨call, List.forall_mem_append.mpr ⟨partitions, given⟩, orders⟩
  | orderBy added =>
      simp only [apply] at done
      split at done <;> cases done
      exact ⟨call, partitions, List.forall_mem_append.mpr ⟨orders, given⟩⟩
  | between kind start «end» =>
      simp only [apply, withFrame] at done
      by_cases framed : spec.frame.isSome
      · simp [framed] at done
      · simp only [framed, Bool.false_eq_true, if_false, bind_eq_ok, pure_eq_ok] at done
        obtain ⟨⟨⟩, -, rfl⟩ := done
        exact ⟨call, partitions, orders⟩
  | exclude exclusion =>
      simp only [apply] at done
      split at done
      · cases done
      · split at done <;> cases done
        exact ⟨call, partitions, orders⟩

theorem toOption_eq_some {ε α : Type} {outcome : Except ε α} {result : α} :
    outcome.toOption = some result ↔ outcome = .ok result := by
  cases outcome <;> simp [Except.toOption]

theorem clean_conjoin {earlier : Option (Node V)} {predicate : Node V}
    (before : ∀ node ∈ earlier, Clean node) (added : Clean predicate) :
    Clean (SelectObject.conjoin earlier predicate) := by
  cases earlier with
  | none => exact added
  | some node =>
      refine (clean_plain rfl rfl).mpr (List.forall_mem_cons.mpr ⟨before node rfl, ?_⟩)
      exact List.forall_mem_singleton.mpr added

theorem clean_aggregate {name : AggregateName} {arguments : List (Node V)} {filter : Option (Node V)} :
    Clean (.aggregate name arguments filter) ↔
      (∀ argument ∈ arguments, Clean argument) ∧ ∀ node ∈ filter, Clean node := by
  have inner : children (.aggregate name arguments filter) = arguments ++ filter.toList := rfl
  rw [clean_plain rfl rfl, inner, List.forall_mem_append]
  simp

namespace Expression

@[simp] theorem node_expr (node : Node V) : (expr node).node = node := rfl
@[simp] theorem node_predicate (node : Node V) : (predicate node).node = node := rfl
@[simp] theorem node_nullablePredicate (node : Node V) : (nullablePredicate node).node = node := rfl

end Expression

theorem clean_function {name : FunctionName} {arguments : List (Node V)} :
    Clean (.function name arguments) ↔ ∀ argument ∈ arguments, Clean argument :=
  clean_plain rfl rfl

theorem clean_binary {left right : Node V} {operator : BinaryOperator} :
    Clean (.binary left operator right) ↔ Clean left ∧ Clean right := by
  have inner : children (.binary left operator right) = [left, right] := rfl
  rw [clean_plain rfl rfl, inner, List.forall_mem_cons, List.forall_mem_singleton]

theorem combine_clean {operator : BinaryOperator} {self other result : Expression V}
    (left : Clean self.node) (right : Clean other.node)
    (made : self.combine operator other = .ok result) : Clean result.node := by
  cases self with
  | expr node => cases made
  | predicate node =>
      cases other with
      | expr node => cases made
      | _ =>
          obtain rfl := Except.ok.inj made
          exact clean_binary.mpr ⟨left, right⟩
  | nullablePredicate node =>
      obtain rfl := Except.ok.inj made
      exact clean_binary.mpr ⟨left, right⟩

theorem invert_clean {self result : Expression V} (operand : Clean self.node)
    (made : self.invert = .ok result) : Clean result.node := by
  have negated : Clean (.unary .not self.node) :=
    (clean_plain rfl rfl).mpr (List.forall_mem_singleton.mpr operand)
  cases self with
  | expr node => cases made
  | _ =>
      obtain rfl := Except.ok.inj made
      exact negated

/-- The calls other than `as_` and `nullable` make clean expressions of clean ones. -/
theorem ExpressionCall.make_clean [PyObject V] {call : ExpressionCall V} {result : Expression V}
    (given : ∀ operand ∈ call.operands, Clean operand.node)
    (inner : ∀ query ∈ call.queries, Tidy (.select query))
    (window : ∀ self method, call = .window self method → method.Clean)
    (notAs : ∀ self aliasName, call ≠ .as self aliasName) (notNullable : ∀ self, call ≠ .nullable self)
    (made : call.make = some result) : Clean result.node := by
  cases call with
  | as self aliasName => exact absurd rfl (notAs self aliasName)
  | nullable self => exact absurd rfl (notNullable self)
  | combine operator self other =>
      simp only [operands, List.forall_mem_cons] at given
      exact combine_clean given.1 given.2.1 (toOption_eq_some.mp made)
  | invert self =>
      exact invert_clean (given self (List.mem_singleton.mpr rfl)) (toOption_eq_some.mp made)
  | filter self condition =>
      simp only [operands, List.forall_mem_cons] at given
      obtain ⟨aggregate, added, -⟩ := given
      simp only [make] at made
      split at made
      · next held =>
          obtain rfl := Option.some.inj made
          rw [held, clean_aggregate] at aggregate
          refine clean_aggregate.mpr ⟨aggregate.1, ?_⟩
          rintro _ ⟨⟩
          exact clean_conjoin aggregate.2 added
      · cases made
  | over_ self =>
      have aggregate := given self (List.mem_singleton.mpr rfl)
      simp only [make] at made
      split at made
      · next held =>
          obtain rfl := Option.some.inj made
          rw [held] at aggregate
          exact clean_window.mpr ⟨aggregate, List.forall_mem_nil _, List.forall_mem_nil _⟩
      · cases made
  | overFunction name =>
      obtain rfl := Option.some.inj made
      have function : Clean (.function name [] : Node V) := clean_function.mpr (List.forall_mem_nil _)
      exact clean_window.mpr ⟨function, List.forall_mem_nil _, List.forall_mem_nil _⟩
  | window self method =>
      have before := given self (List.mem_singleton.mpr rfl)
      simp only [make, Option.bind_eq_bind, Option.bind_eq_some_iff] at made
      obtain ⟨spec, held, next, applied, same⟩ := made
      obtain rfl := Option.some.inj same
      rw [windowSpec_eq_some.mp held] at before
      exact spec.apply_clean before (window self method rfl) (toOption_eq_some.mp applied)
  | inItems ofBool self items negated =>
      obtain rfl := Option.some.inj made
      simp only [operands, List.forall_mem_cons, clean_operands] at given
      unfold Expression.inItems
      split
      · exact clean_value _
      · rw [Expression.node_nullablePredicate]
        apply (clean_plain rfl rfl).mpr
        exact List.forall_mem_cons.mpr ⟨given.1, List.forall_mem_map.mpr given.2⟩
  | jsonText self key =>
      simp only [make] at made
      split at made
      · cases made
      · obtain rfl := Option.some.inj made
        rw [Expression.node_expr, clean_iff]
        simpa [Node.isAlias, Node.nestedSelect, children, operands] using given
  | dateTrunc unit expression zone =>
      simp only [operands, List.forall_mem_cons, clean_operands] at given
      cases zone <;>
        (obtain rfl := Option.some.inj made
         rw [Expression.node_expr, clean_iff]
         simpa [Node.isAlias, Node.nestedSelect, children] using given)
  | «exists» query negated =>
      obtain rfl := Option.some.inj made
      have tidy := inner query (List.mem_singleton.mpr rfl)
      cases negated <;> exact clean_iff.mpr
        ⟨rfl, List.forall_mem_nil _, fun _ same => Option.some.inj same ▸ tidy⟩
  | count argument =>
      obtain rfl := Option.some.inj made
      refine clean_aggregate.mpr ⟨?_, forall_mem_none⟩
      rw [List.forall_mem_singleton]
      cases argument with
      | none => exact (clean_plain rfl rfl).mpr (List.forall_mem_nil _)
      | some argument => exact given argument (List.mem_singleton.mpr rfl)
  | makeTimestamptz year month day hour minute second zone =>
      obtain rfl := Option.some.inj made
      simp only [operands, clean_operands] at given
      rw [Expression.node_expr]
      apply (clean_plain rfl rfl).mpr
      cases zone <;> simpa [children] using given
  | makeInterval components =>
      obtain rfl := Option.some.inj made
      simp only [operands, clean_operands, List.forall_mem_map] at given
      rw [Expression.node_expr]
      apply (clean_plain rfl rfl).mpr
      simpa only [children, List.map_map, List.forall_mem_map, Function.comp_apply] using given
  | caseWhen branches otherwise =>
      obtain rfl := Option.some.inj made
      simp only [operands, clean_operands, List.forall_mem_append, List.forall_mem_map,
        List.forall_mem_singleton] at given
      obtain ⟨conditions, values, last⟩ := given
      rw [Expression.node_expr]
      apply (clean_plain rfl rfl).mpr
      simp only [children, List.forall_mem_append, List.forall_mem_singleton, List.forall_mem_flatMap,
        List.forall_mem_map, List.forall_mem_cons]
      exact ⟨fun branch member => ⟨conditions branch member, values branch member⟩, last⟩
  | _ =>
      -- A call that makes one node of its operands.
      simp only [make, Option.some.injEq] at made
      subst made
      simp only [operands, queries, clean_operands, List.forall_mem_cons, List.forall_mem_append]
        at given inner
      simp only [Expression.check, Expression.comparison, Expression.comparisonWithNone,
        Expression.inQuery, Expression.between, Expression.overlaps, Expression.regexMatch,
        Expression.node_expr, Expression.node_predicate, Expression.node_nullablePredicate]
      rw [clean_iff]
      simp_all [children, Node.isAlias, Node.nestedSelect]

theorem ExpressionCall.operand_handed {call : ExpressionCall V} {operand : Expression V}
    (notNullable : ∀ self, call ≠ .nullable self) (member : operand ∈ call.operands) :
    operand.node ∈ call.handed := by
  unfold handed
  split
  · exact absurd rfl (notNullable _)
  · obtain rfl := List.mem_singleton.mp member
    exact List.mem_cons_self
  · exact List.mem_map_of_mem member

/-- What a call returns is an item around a clean expression, if every expression it was given is and
it puts none with an alias inside. -/
theorem ExpressionCall.make_listed [PyObject V] {call : ExpressionCall V} {result : Expression V}
    (given : ∀ operand ∈ call.operands, Listed operand.node)
    (inner : ∀ query ∈ call.queries, Tidy (.select query))
    (window : ∀ self method, call = .window self method → method.Clean)
    (plain : ∀ node ∈ call.handed, node.carriesAlias = false) (made : call.make = some result) :
    Listed result.node := by
  by_cases isNullable : ∃ self, call = .nullable self
  · obtain ⟨self, rfl⟩ := isNullable
    obtain rfl := Option.some.inj made
    have listed := given self (List.mem_singleton.mpr rfl)
    rw [Expression.node_expr]
    cases aliased : self.node.isAlias with
    | true =>
        -- The alias stays outermost: the item is the one inside it.
        obtain ⟨item, aliasName, held⟩ : ∃ item aliasName, self.node = .aliased item aliasName := by
          unfold Node.isAlias at aliased
          split at aliased
          · exact ⟨_, _, ‹_›⟩
          · cases aliased
        rw [held] at listed ⊢
        exact listed
    | false =>
        have bare := listed.clean (plain _ (by simp [handed, aliased]))
        refine Clean.listed ((clean_plain rfl rfl).mpr ?_)
        simpa only [children, List.forall_mem_singleton] using bare
  · have notNullable := not_exists.mp isNullable
    have clean : ∀ operand ∈ call.operands, Clean operand.node := fun operand member =>
      (given operand member).clean (plain operand.node (operand_handed notNullable member))
    by_cases isAs : ∃ self aliasName, call = .as self aliasName
    · obtain ⟨self, aliasName, rfl⟩ := isAs
      simp only [make] at made
      split at made
      · cases made
      · obtain rfl := Option.some.inj made
        exact clean self (List.mem_singleton.mpr rfl)
    · have notAs : ∀ self aliasName, call ≠ .as self aliasName := fun self aliasName same =>
        isAs ⟨self, aliasName, same⟩
      exact (make_clean clean inner window notAs notNullable made).listed

end Relq
