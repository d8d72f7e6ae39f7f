/-
Module: Relq.Syntax.Equality
Layer: Syntax
Purpose: Python's `==` and `hash()` on AST values. The node classes are frozen dataclasses, so both
  descend structurally and reach the payloads of `ValueNode`s. `agree related` compares two trees
  that must coincide everywhere except that corresponding payloads only have to be `related`;
  Python equality is the instance that compares canonical representatives.
Imports: Relq.Syntax.Ast
Trusted boundary: human-reviewed spec (Node.agree, pyEqual, hashable)
Main exports: Node.agree, pyEqual, hashable, agreeNodes_self, agreeCall_self, Node.agree_refl,
  pyEqual_self
-/
import Relq.Syntax.Ast

namespace Relq

variable {V W : Type}

mutual

/-- Two expressions of one shape whose bound values are pairwise `related`. -/
def Node.agree (related : V → W → Bool) : Node V → Node W → Bool
  | .column source name, .column source' name' => source == source' && name == name'
  | .value value, .value value' => related value value'
  | .temporalClock kind, .temporalClock kind' => kind == kind'
  | .binary left operator right, .binary left' operator' right' =>
      left.agree related left' && operator == operator' && right.agree related right'
  | .temporalMakeDate year month day, .temporalMakeDate year' month' day' =>
      year.agree related year' && month.agree related month' && day.agree related day'
  | .temporalMakeTime hour minute second, .temporalMakeTime hour' minute' second' =>
      hour.agree related hour' && minute.agree related minute' && second.agree related second'
  | .temporalMakeTimestamp year month day hour minute second,
    .temporalMakeTimestamp year' month' day' hour' minute' second' =>
      year.agree related year' && month.agree related month' && day.agree related day' &&
        hour.agree related hour' && minute.agree related minute' && second.agree related second'
  | .temporalMakeTimestamptz year month day hour minute second zone,
    .temporalMakeTimestamptz year' month' day' hour' minute' second' zone' =>
      year.agree related year' && month.agree related month' && day.agree related day' &&
        hour.agree related hour' && minute.agree related minute' &&
        second.agree related second' && agreeOption related zone zone'
  | .temporalMakeInterval components, .temporalMakeInterval components' =>
      agreeNamed related components components'
  | .temporalEpoch seconds, .temporalEpoch seconds' => seconds.agree related seconds'
  | .temporalArithmetic timestamp operator interval,
    .temporalArithmetic timestamp' operator' interval' =>
      timestamp.agree related timestamp' && operator == operator' &&
        interval.agree related interval'
  | .temporalDifference left right, .temporalDifference left' right' =>
      left.agree related left' && right.agree related right'
  | .temporalIntervalUnary interval, .temporalIntervalUnary interval' =>
      interval.agree related interval'
  | .temporalIntervalScale interval operator factor,
    .temporalIntervalScale interval' operator' factor' =>
      interval.agree related interval' && operator == operator' && factor.agree related factor'
  | .temporalTimezone expression zone, .temporalTimezone expression' zone' =>
      expression.agree related expression' && zone.agree related zone'
  | .temporalExtract field expression, .temporalExtract field' expression' =>
      field == field' && expression.agree related expression'
  | .temporalTrunc unit expression, .temporalTrunc unit' expression' =>
      unit == unit' && expression.agree related expression'
  | .temporalTruncTimestamptz unit expression zone,
    .temporalTruncTimestamptz unit' expression' zone' =>
      unit == unit' && expression.agree related expression' && zone.agree related zone'
  | .temporalBin stride expression origin, .temporalBin stride' expression' origin' =>
      stride.agree related stride' && expression.agree related expression' &&
        origin.agree related origin'
  | .temporalAge left right, .temporalAge left' right' =>
      left.agree related left' && right.agree related right'
  | .temporalOverlaps leftStart leftEnd rightStart rightEnd,
    .temporalOverlaps leftStart' leftEnd' rightStart' rightEnd' =>
      leftStart.agree related leftStart' && leftEnd.agree related leftEnd' &&
        rightStart.agree related rightStart' && rightEnd.agree related rightEnd'
  | .temporalJustify kind interval, .temporalJustify kind' interval' =>
      kind == kind' && interval.agree related interval'
  | .unary operator operand, .unary operator' operand' =>
      operator == operator' && operand.agree related operand'
  | .function name arguments, .function name' arguments' =>
      name == name' && agreeNodes related arguments arguments'
  | .case branches otherwise, .case branches' otherwise' =>
      agreeBranches related branches branches' && otherwise.agree related otherwise'
  | .aggregate name arguments filter, .aggregate name' arguments' filter' =>
      name == name' && agreeNodes related arguments arguments' &&
        agreeOption related filter filter'
  | .window expression partitionBy orderBy frame exclusion,
    .window expression' partitionBy' orderBy' frame' exclusion' =>
      expression.agree related expression' && agreeNodes related partitionBy partitionBy' &&
        agreeOrders related orderBy orderBy' && frame == frame' && exclusion == exclusion'
  | .aliased expression aliasName, .aliased expression' aliasName' =>
      expression.agree related expression' && aliasName == aliasName'
  | .nullableResult expression, .nullableResult expression' =>
      expression.agree related expression'
  | .star, .star => true
  | .inNode expression values negated, .inNode expression' values' negated' =>
      expression.agree related expression' && values.agree related values' &&
        negated == negated'
  | .between expression lower upper negated, .between expression' lower' upper' negated' =>
      expression.agree related expression' && lower.agree related lower' &&
        upper.agree related upper' && negated == negated'
  | .scalarSubquery query, .scalarSubquery query' => query.agree related query'
  | .exists query negated, .exists query' negated' =>
      query.agree related query' && negated == negated'
  | .excluded source name, .excluded source' name' => source == source' && name == name'
  | .jsonText value key, .jsonText value' key' =>
      value.agree related value' && key.agree related key'
  | .regexMatch value pattern insensitive, .regexMatch value' pattern' insensitive' =>
      value.agree related value' && pattern.agree related pattern' &&
        insensitive == insensitive'
  | .uuidCast value, .uuidCast value' => value.agree related value'
  | _, _ => false

def WindowCall.agree (related : V → W → Bool) : WindowCall V → WindowCall W → Bool
  | .aggregate name arguments filter, .aggregate name' arguments' filter' =>
      name == name' && agreeNodes related arguments arguments' &&
        agreeOption related filter filter'
  | .function name arguments, .function name' arguments' =>
      name == name' && agreeNodes related arguments arguments'
  | _, _ => false

def InValues.agree (related : V → W → Bool) : InValues V → InValues W → Bool
  | .nodes values, .nodes values' => agreeNodes related values values'
  | .select query, .select query' => query.agree related query'
  | _, _ => false

def agreeNodes (related : V → W → Bool) : List (Node V) → List (Node W) → Bool
  | [], [] => true
  | node :: rest, node' :: rest' => node.agree related node' && agreeNodes related rest rest'
  | _, _ => false

def agreeOption (related : V → W → Bool) : Option (Node V) → Option (Node W) → Bool
  | none, none => true
  | some node, some node' => node.agree related node'
  | _, _ => false

def agreeNamed (related : V → W → Bool) :
    List (String × Node V) → List (String × Node W) → Bool
  | [], [] => true
  | (name, node) :: rest, (name', node') :: rest' =>
      name == name' && node.agree related node' && agreeNamed related rest rest'
  | _, _ => false

def agreeRows (related : V → W → Bool) :
    List (List (String × Node V)) → List (List (String × Node W)) → Bool
  | [], [] => true
  | row :: rest, row' :: rest' => agreeNamed related row row' && agreeRows related rest rest'
  | _, _ => false

def agreeBranches (related : V → W → Bool) :
    List (Node V × Node V) → List (Node W × Node W) → Bool
  | [], [] => true
  | (condition, node) :: rest, (condition', node') :: rest' =>
      condition.agree related condition' && node.agree related node' &&
        agreeBranches related rest rest'
  | _, _ => false

def agreeOrders (related : V → W → Bool) : List (OrderNode V) → List (OrderNode W) → Bool
  | [], [] => true
  | ⟨expression, direction, nulls⟩ :: rest, ⟨expression', direction', nulls'⟩ :: rest' =>
      expression.agree related expression' && direction == direction' && nulls == nulls' &&
        agreeOrders related rest rest'
  | _, _ => false

def SourceNode.agree (related : V → W → Bool) : SourceNode V → SourceNode W → Bool
  | .table relation, .table relation' => relation == relation'
  | .derived query aliasName, .derived query' aliasName' =>
      query.agree related query' && aliasName == aliasName'
  | .cte name, .cte name' => name == name'
  | _, _ => false

def agreeSource (related : V → W → Bool) : Option (SourceNode V) → Option (SourceNode W) → Bool
  | none, none => true
  | some source, some source' => source.agree related source'
  | _, _ => false

def agreeJoins (related : V → W → Bool) : List (JoinNode V) → List (JoinNode W) → Bool
  | [], [] => true
  | ⟨source, predicate, kind⟩ :: rest, ⟨source', predicate', kind'⟩ :: rest' =>
      source.agree related source' && predicate.agree related predicate' && kind == kind' &&
        agreeJoins related rest rest'
  | _, _ => false

def agreeCtes (related : V → W → Bool) : List (CteNode V) → List (CteNode W) → Bool
  | [], [] => true
  | ⟨name, query, recursive, materialized⟩ :: rest,
    ⟨name', query', recursive', materialized'⟩ :: rest' =>
      name == name' && query.agree related query' && recursive == recursive' &&
        materialized == materialized' && agreeCtes related rest rest'
  | _, _ => false

def agreeCompounds (related : V → W → Bool) :
    List (CompoundNode V) → List (CompoundNode W) → Bool
  | [], [] => true
  | ⟨operator, query⟩ :: rest, ⟨operator', query'⟩ :: rest' =>
      operator == operator' && query.agree related query' && agreeCompounds related rest rest'
  | _, _ => false

def SelectNode.agree (related : V → W → Bool) : SelectNode V → SelectNode W → Bool
  | ⟨selections, fromSource, joins, whereNode, groupBy, having, orderBy, limit, offset, distinct,
      ctes, compounds, locks⟩,
    ⟨selections', fromSource', joins', whereNode', groupBy', having', orderBy', limit', offset',
      distinct', ctes', compounds', locks'⟩ =>
      agreeNodes related selections selections' && agreeSource related fromSource fromSource' &&
        agreeJoins related joins joins' && agreeOption related whereNode whereNode' &&
        agreeNodes related groupBy groupBy' && agreeOption related having having' &&
        agreeOrders related orderBy orderBy' && limit == limit' && offset == offset' &&
        distinct == distinct' && agreeCtes related ctes ctes' &&
        agreeCompounds related compounds compounds' && locks == locks'

def InsertSourceNode.agree (related : V → W → Bool) :
    InsertSourceNode V → InsertSourceNode W → Bool
  | .values values, .values values' => agreeNamed related values values'
  | .rows rows, .rows rows' => agreeRows related rows rows'
  | .select query columns, .select query' columns' =>
      query.agree related query' && columns == columns'
  | .defaultValues, .defaultValues => true
  | _, _ => false

def agreeInsertSource (related : V → W → Bool) :
    Option (InsertSourceNode V) → Option (InsertSourceNode W) → Bool
  | none, none => true
  | some source, some source' => source.agree related source'
  | _, _ => false

def ConflictNode.agree (related : V → W → Bool) : ConflictNode V → ConflictNode W → Bool
  | ⟨columns, action, updateValues, targetWhere, updateWhere⟩,
    ⟨columns', action', updateValues', targetWhere', updateWhere'⟩ =>
      columns == columns' && action == action' && agreeNamed related updateValues updateValues' &&
        agreeOption related targetWhere targetWhere' &&
        agreeOption related updateWhere updateWhere'

def agreeConflict (related : V → W → Bool) :
    Option (ConflictNode V) → Option (ConflictNode W) → Bool
  | none, none => true
  | some conflict, some conflict' => conflict.agree related conflict'
  | _, _ => false

def QueryNode.agree (related : V → W → Bool) : QueryNode V → QueryNode W → Bool
  | .select query, .select query' => query.agree related query'
  | .insert ⟨table, source, conflict, returning⟩, .insert ⟨table', source', conflict', returning'⟩ =>
      table == table' && agreeInsertSource related source source' &&
        agreeConflict related conflict conflict' && agreeNodes related returning returning'
  | .update ⟨table, values, whereNode, bounded, returning⟩,
    .update ⟨table', values', whereNode', bounded', returning'⟩ =>
      table == table' && agreeNamed related values values' &&
        agreeOption related whereNode whereNode' && bounded == bounded' &&
        agreeNodes related returning returning'
  | .delete ⟨table, whereNode, bounded, returning⟩,
    .delete ⟨table', whereNode', bounded', returning'⟩ =>
      table == table' && agreeOption related whereNode whereNode' && bounded == bounded' &&
        agreeNodes related returning returning'
  | _, _ => false

end

section
variable [PyObject V]

/-- Python's `==` on two AST nodes. -/
def pyEqual [DecidableEq V] (left right : Node V) : Bool :=
  left.agree (fun x y => decide (PyObject.canonical x = PyObject.canonical y)) right

/-- Whether `hash(node)` succeeds. Hashing a tree visits exactly the payloads that comparing it with
itself visits. -/
def hashable (node : Node V) : Bool :=
  node.agree (fun value _ => PyObject.hashable value) node

end

/-! ### A tree and itself -/

section

variable {related : V → V → Bool}

theorem agreeNodes_self {nodes : List (Node V)} (same : agreeNodes related nodes nodes = true) :
    ∀ node ∈ nodes, node.agree related node = true := by
  induction nodes with
  | nil => exact fun _ member => absurd member List.not_mem_nil
  | cons node rest ih =>
      rw [agreeNodes, Bool.and_eq_true] at same
      exact List.forall_mem_cons.mpr ⟨same.1, ih same.2⟩

theorem agreeOption_self {slot : Option (Node V)} (same : agreeOption related slot slot = true) :
    ∀ node ∈ slot.toList, node.agree related node = true := by
  cases slot with
  | none => exact fun _ member => absurd member List.not_mem_nil
  | some node => exact List.forall_mem_cons.mpr ⟨same, fun _ member => absurd member List.not_mem_nil⟩

theorem agreeNamed_self {pairs : List (String × Node V)}
    (same : agreeNamed related pairs pairs = true) :
    ∀ pair ∈ pairs, pair.2.agree related pair.2 = true := by
  induction pairs with
  | nil => exact fun _ member => absurd member List.not_mem_nil
  | cons pair rest ih =>
      rw [agreeNamed, Bool.and_eq_true, Bool.and_eq_true] at same
      exact List.forall_mem_cons.mpr ⟨same.1.2, ih same.2⟩

theorem agreeBranches_self {branches : List (Node V × Node V)}
    (same : agreeBranches related branches branches = true) :
    ∀ branch ∈ branches, branch.1.agree related branch.1 = true ∧
      branch.2.agree related branch.2 = true := by
  induction branches with
  | nil => exact fun _ member => absurd member List.not_mem_nil
  | cons branch rest ih =>
      rw [agreeBranches, Bool.and_eq_true, Bool.and_eq_true] at same
      exact List.forall_mem_cons.mpr ⟨same.1, ih same.2⟩

theorem agreeOrders_self {orders : List (OrderNode V)}
    (same : agreeOrders related orders orders = true) :
    ∀ order ∈ orders, order.expression.agree related order.expression = true := by
  induction orders with
  | nil => exact fun _ member => absurd member List.not_mem_nil
  | cons order rest ih =>
      obtain ⟨expression, direction, nulls⟩ := order
      simp only [agreeOrders, Bool.and_eq_true] at same
      exact List.forall_mem_cons.mpr ⟨same.1.1.1, ih same.2⟩

theorem agreeCall_self {call : WindowCall V} (same : call.agree related call = true) :
    call.toNode.agree related call.toNode = true := by
  cases call with
  | aggregate name arguments filter => rwa [WindowCall.agree, ← Node.agree] at same
  | function name arguments => rwa [WindowCall.agree, ← Node.agree] at same

mutual

/-- Every tree agrees with itself. -/
theorem Node.agree_refl (same : ∀ value, related value value = true) :
    ∀ node : Node V, node.agree related node = true
  | .column .. | .temporalClock _ | .star | .excluded .. => by simp [Node.agree]
  | .value value => same value
  | .binary left _ right => by simp [Node.agree, left.agree_refl same, right.agree_refl same]
  | .temporalMakeDate year month day => by
      simp [Node.agree, year.agree_refl same, month.agree_refl same, day.agree_refl same]
  | .temporalMakeTime hour minute second => by
      simp [Node.agree, hour.agree_refl same, minute.agree_refl same, second.agree_refl same]
  | .temporalMakeTimestamp year month day hour minute second => by
      simp [Node.agree, year.agree_refl same, month.agree_refl same, day.agree_refl same,
        hour.agree_refl same, minute.agree_refl same, second.agree_refl same]
  | .temporalMakeTimestamptz year month day hour minute second zone => by
      simp [Node.agree, year.agree_refl same, month.agree_refl same, day.agree_refl same,
        hour.agree_refl same, minute.agree_refl same, second.agree_refl same,
        agreeOption_refl same zone]
  | .temporalMakeInterval components => by simp [Node.agree, agreeNamed_refl same components]
  | .temporalEpoch operand | .temporalIntervalUnary operand | .temporalJustify _ operand
  | .temporalExtract _ operand | .temporalTrunc _ operand | .unary _ operand | .aliased operand _
  | .nullableResult operand | .uuidCast operand => by simp [Node.agree, operand.agree_refl same]
  | .temporalArithmetic left _ right | .temporalDifference left right
  | .temporalIntervalScale left _ right | .temporalTimezone left right
  | .temporalTruncTimestamptz _ left right | .temporalAge left right | .jsonText left right
  | .regexMatch left right _ => by simp [Node.agree, left.agree_refl same, right.agree_refl same]
  | .temporalBin stride expression origin => by
      simp [Node.agree, stride.agree_refl same, expression.agree_refl same, origin.agree_refl same]
  | .temporalOverlaps leftStart leftEnd rightStart rightEnd => by
      simp [Node.agree, leftStart.agree_refl same, leftEnd.agree_refl same,
        rightStart.agree_refl same, rightEnd.agree_refl same]
  | .function _ arguments => by simp [Node.agree, agreeNodes_refl same arguments]
  | .case branches otherwise => by
      simp [Node.agree, agreeBranches_refl same branches, otherwise.agree_refl same]
  | .aggregate _ arguments filter => by
      simp [Node.agree, agreeNodes_refl same arguments, agreeOption_refl same filter]
  | .window call partitionBy orderBy _ _ => by
      simp [Node.agree, call.agree_refl same, agreeNodes_refl same partitionBy,
        agreeOrders_refl same orderBy]
  | .inNode expression values _ => by
      simp [Node.agree, expression.agree_refl same, values.agree_refl same]
  | .between expression lower upper _ => by
      simp [Node.agree, expression.agree_refl same, lower.agree_refl same, upper.agree_refl same]
  | .scalarSubquery query | .exists query _ => by simp [Node.agree, query.agree_refl same]

theorem WindowCall.agree_refl (same : ∀ value, related value value = true) :
    ∀ call : WindowCall V, call.agree related call = true
  | .aggregate _ arguments filter => by
      simp [WindowCall.agree, agreeNodes_refl same arguments, agreeOption_refl same filter]
  | .function _ arguments => by simp [WindowCall.agree, agreeNodes_refl same arguments]

theorem InValues.agree_refl (same : ∀ value, related value value = true) :
    ∀ values : InValues V, values.agree related values = true
  | .nodes values => by simp [InValues.agree, agreeNodes_refl same values]
  | .select query => by simp [InValues.agree, query.agree_refl same]

theorem agreeNodes_refl (same : ∀ value, related value value = true) :
    ∀ nodes : List (Node V), agreeNodes related nodes nodes = true
  | [] => rfl
  | node :: rest => by simp [agreeNodes, node.agree_refl same, agreeNodes_refl same rest]

theorem agreeOption_refl (same : ∀ value, related value value = true) :
    ∀ slot : Option (Node V), agreeOption related slot slot = true
  | none => rfl
  | some node => by simp [agreeOption, node.agree_refl same]

theorem agreeNamed_refl (same : ∀ value, related value value = true) :
    ∀ pairs : List (String × Node V), agreeNamed related pairs pairs = true
  | [] => rfl
  | (_, node) :: rest => by simp [agreeNamed, node.agree_refl same, agreeNamed_refl same rest]

theorem agreeRows_refl (same : ∀ value, related value value = true) :
    ∀ rows : List (List (String × Node V)), agreeRows related rows rows = true
  | [] => rfl
  | row :: rest => by simp [agreeRows, agreeNamed_refl same row, agreeRows_refl same rest]

theorem agreeBranches_refl (same : ∀ value, related value value = true) :
    ∀ branches : List (Node V × Node V), agreeBranches related branches branches = true
  | [] => rfl
  | (condition, value) :: rest => by
      simp [agreeBranches, condition.agree_refl same, value.agree_refl same,
        agreeBranches_refl same rest]

theorem agreeOrders_refl (same : ∀ value, related value value = true) :
    ∀ orders : List (OrderNode V), agreeOrders related orders orders = true
  | [] => rfl
  | ⟨expression, _, _⟩ :: rest => by
      simp [agreeOrders, expression.agree_refl same, agreeOrders_refl same rest]

theorem SourceNode.agree_refl (same : ∀ value, related value value = true) :
    ∀ source : SourceNode V, source.agree related source = true
  | .table _ | .cte _ => by simp [SourceNode.agree]
  | .derived query _ => by simp [SourceNode.agree, query.agree_refl same]

theorem agreeSource_refl (same : ∀ value, related value value = true) :
    ∀ slot : Option (SourceNode V), agreeSource related slot slot = true
  | none => rfl
  | some source => by simp [agreeSource, source.agree_refl same]

theorem agreeJoins_refl (same : ∀ value, related value value = true) :
    ∀ joins : List (JoinNode V), agreeJoins related joins joins = true
  | [] => rfl
  | ⟨source, predicate, _⟩ :: rest => by
      simp [agreeJoins, source.agree_refl same, predicate.agree_refl same, agreeJoins_refl same rest]

theorem agreeCtes_refl (same : ∀ value, related value value = true) :
    ∀ ctes : List (CteNode V), agreeCtes related ctes ctes = true
  | [] => rfl
  | ⟨_, query, _, _⟩ :: rest => by simp [agreeCtes, query.agree_refl same, agreeCtes_refl same rest]

theorem agreeCompounds_refl (same : ∀ value, related value value = true) :
    ∀ compounds : List (CompoundNode V), agreeCompounds related compounds compounds = true
  | [] => rfl
  | ⟨_, query⟩ :: rest => by
      simp [agreeCompounds, query.agree_refl same, agreeCompounds_refl same rest]

theorem SelectNode.agree_refl (same : ∀ value, related value value = true) :
    ∀ node : SelectNode V, node.agree related node = true
  | ⟨selections, fromSource, joins, whereNode, groupBy, having, orderBy, _, _, _, ctes, compounds, _⟩ => by
      simp [SelectNode.agree, agreeNodes_refl same selections, agreeSource_refl same fromSource,
        agreeJoins_refl same joins, agreeOption_refl same whereNode, agreeNodes_refl same groupBy,
        agreeOption_refl same having, agreeOrders_refl same orderBy, agreeCtes_refl same ctes,
        agreeCompounds_refl same compounds]

theorem InsertSourceNode.agree_refl (same : ∀ value, related value value = true) :
    ∀ source : InsertSourceNode V, source.agree related source = true
  | .values values => by simp [InsertSourceNode.agree, agreeNamed_refl same values]
  | .rows rows => by simp [InsertSourceNode.agree, agreeRows_refl same rows]
  | .select query _ => by simp [InsertSourceNode.agree, query.agree_refl same]
  | .defaultValues => rfl

theorem agreeInsertSource_refl (same : ∀ value, related value value = true) :
    ∀ slot : Option (InsertSourceNode V), agreeInsertSource related slot slot = true
  | none => rfl
  | some source => by simp [agreeInsertSource, source.agree_refl same]

theorem ConflictNode.agree_refl (same : ∀ value, related value value = true) :
    ∀ conflict : ConflictNode V, conflict.agree related conflict = true
  | ⟨_, _, updateValues, targetWhere, updateWhere⟩ => by
      simp [ConflictNode.agree, agreeNamed_refl same updateValues, agreeOption_refl same targetWhere,
        agreeOption_refl same updateWhere]

theorem agreeConflict_refl (same : ∀ value, related value value = true) :
    ∀ slot : Option (ConflictNode V), agreeConflict related slot slot = true
  | none => rfl
  | some conflict => by simp [agreeConflict, conflict.agree_refl same]

theorem QueryNode.agree_refl (same : ∀ value, related value value = true) :
    ∀ query : QueryNode V, query.agree related query = true
  | .select query => by simp [QueryNode.agree, query.agree_refl same]
  | .insert ⟨_, source, conflict, returning⟩ => by
      simp [QueryNode.agree, agreeInsertSource_refl same source, agreeConflict_refl same conflict,
        agreeNodes_refl same returning]
  | .update ⟨_, values, whereNode, _, returning⟩ => by
      simp [QueryNode.agree, agreeNamed_refl same values, agreeOption_refl same whereNode,
        agreeNodes_refl same returning]
  | .delete ⟨_, whereNode, _, returning⟩ => by
      simp [QueryNode.agree, agreeOption_refl same whereNode, agreeNodes_refl same returning]

end

end

/-- An expression equals itself. -/
theorem pyEqual_self [DecidableEq V] [PyObject V] (node : Node V) : pyEqual node node = true := by
  unfold pyEqual
  refine Node.agree_refl ?_ node
  exact fun _ => decide_eq_true rfl

end Relq
