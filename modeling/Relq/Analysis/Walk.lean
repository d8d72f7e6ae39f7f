/-
Module: Relq.Analysis.Walk
Layer: Analysis
Purpose: Structural descent over `Node` (`_analysis/walk.py`, `_analysis/sources.py`). `children`
  is the only enumeration of a node's direct children and never enters a nested SELECT; `walk` is
  its reflexive and transitive closure in depth-first order.
Imports: Relq.Syntax.Ast
Trusted boundary: human-reviewed spec
Main exports: children, walk, Node.nestedSelect, subqueries, referencedSources, children_induction
-/
import Relq.Syntax.Ast

namespace Relq

variable {V : Type}

/-- Direct `Node` children, in the order the source yields them. -/
def children : Node V → List (Node V)
  | .column _ _ | .value _ | .temporalClock _ | .star | .excluded _ _ => []
  | .scalarSubquery _ | .exists _ _ => []
  | .binary left _ right => [left, right]
  | .temporalMakeDate year month day => [year, month, day]
  | .temporalMakeTime hour minute second => [hour, minute, second]
  | .temporalMakeTimestamp year month day hour minute second =>
      [year, month, day, hour, minute, second]
  | .temporalMakeTimestamptz year month day hour minute second zone =>
      [year, month, day, hour, minute, second] ++ zone.toList
  | .temporalMakeInterval components => components.map (·.2)
  | .temporalEpoch seconds => [seconds]
  | .temporalArithmetic timestamp _ interval => [timestamp, interval]
  | .temporalDifference left right => [left, right]
  | .temporalAge left right => [left, right]
  | .temporalIntervalUnary interval => [interval]
  | .temporalJustify _ interval => [interval]
  | .temporalIntervalScale interval _ factor => [interval, factor]
  | .temporalTimezone expression zone => [expression, zone]
  | .temporalExtract _ expression => [expression]
  | .temporalTrunc _ expression => [expression]
  | .temporalTruncTimestamptz _ expression zone => [expression, zone]
  | .temporalBin stride expression origin => [stride, expression, origin]
  | .temporalOverlaps leftStart leftEnd rightStart rightEnd =>
      [leftStart, leftEnd, rightStart, rightEnd]
  | .unary _ operand => [operand]
  | .aliased operand _ => [operand]
  | .nullableResult operand => [operand]
  | .uuidCast operand => [operand]
  | .function _ arguments => arguments
  | .case branches otherwise => (branches.flatMap fun branch => [branch.1, branch.2]) ++ [otherwise]
  | .aggregate _ arguments filter => arguments ++ filter.toList
  | .window expression partitionBy orderBy _ _ =>
      expression.toNode :: partitionBy ++ orderBy.map (·.expression)
  | .inNode expression (.nodes values) _ => expression :: values
  | .inNode expression (.select _) _ => [expression]
  | .between expression lower upper _ => [expression, lower, upper]
  | .jsonText value key => [value, key]
  | .regexMatch value pattern _ => [value, pattern]

/-- The SELECT a node carries itself, outside its `Node` children. -/
def Node.nestedSelect : Node V → Option (SelectNode V)
  | .scalarSubquery query => some query
  | .exists query _ => some query
  | .inNode _ (.select query) _ => some query
  | _ => none

theorem sizeOf_lt_of_mem_list {α : Type} [SizeOf α] {item : α} {items : List α} {bound : Nat}
    (member : item ∈ items) (smaller : sizeOf items < bound) : sizeOf item < bound :=
  Nat.lt_trans (List.sizeOf_lt_of_mem member) smaller

theorem sizeOf_lt_of_mem_option {α : Type} [SizeOf α] {item : α} {slot : Option α} {bound : Nat}
    (member : item ∈ slot) (smaller : sizeOf slot < bound) : sizeOf item < bound := by
  cases slot with
  | none => simp at member
  | some held =>
      obtain rfl : held = item := by simpa using member
      simp at smaller
      omega

theorem WindowCall.sizeOf_toNode (call : WindowCall V) : sizeOf call.toNode = sizeOf call := by
  cases call <;> simp [WindowCall.toNode]

/-- Every child is structurally smaller, which carries all recursion along `children`. -/
theorem sizeOf_lt_of_mem_children {node child : Node V} (member : child ∈ children node) :
    sizeOf child < sizeOf node := by
  cases node with
  | temporalMakeInterval components =>
      obtain ⟨component, inside, rfl⟩ := List.mem_map.mp member
      obtain ⟨name, value⟩ := component
      have := List.sizeOf_lt_of_mem inside
      simp at this ⊢
      omega
  | function name arguments =>
      simp only [children] at member
      exact sizeOf_lt_of_mem_list member (by rw [Node.function.sizeOf_spec]; omega)
  | case branches otherwise =>
      simp only [children, List.mem_append, List.mem_flatMap, List.mem_singleton] at member
      rcases member with ⟨⟨condition, value⟩, inside, chosen⟩ | rfl
      · have := List.sizeOf_lt_of_mem inside
        simp at this chosen ⊢
        rcases chosen with rfl | rfl <;> omega
      · rw [Node.case.sizeOf_spec]
        omega
  | aggregate name arguments filter =>
      simp only [children, List.mem_append, Option.mem_toList] at member
      rcases member with inside | inside
      · exact sizeOf_lt_of_mem_list inside (by rw [Node.aggregate.sizeOf_spec]; omega)
      · exact sizeOf_lt_of_mem_option inside (by rw [Node.aggregate.sizeOf_spec]; omega)
  | temporalMakeTimestamptz year month day hour minute second zone =>
      simp only [children, List.mem_append, Option.mem_toList] at member
      rcases member with inside | inside
      · simp at inside
        rw [Node.temporalMakeTimestamptz.sizeOf_spec]
        rcases inside with rfl | rfl | rfl | rfl | rfl | rfl <;> omega
      · exact sizeOf_lt_of_mem_option inside
          (by rw [Node.temporalMakeTimestamptz.sizeOf_spec]; omega)
  | window expression partitionBy orderBy frame exclusion =>
      simp only [children, List.cons_append, List.mem_cons, List.mem_append, List.mem_map] at member
      rcases member with rfl | inside | ⟨order, inside, rfl⟩
      · rw [WindowCall.sizeOf_toNode, Node.window.sizeOf_spec]
        omega
      · exact sizeOf_lt_of_mem_list inside (by rw [Node.window.sizeOf_spec]; omega)
      · have := List.sizeOf_lt_of_mem inside
        cases order
        simp at this ⊢
        omega
  | inNode expression values negated =>
      cases values with
      | nodes values =>
          simp only [children, List.mem_cons] at member
          rcases member with rfl | inside
          · rw [Node.inNode.sizeOf_spec]
            omega
          · refine sizeOf_lt_of_mem_list inside ?_
            rw [Node.inNode.sizeOf_spec, InValues.nodes.sizeOf_spec]
            omega
      | select query =>
          simp only [children, List.mem_singleton] at member
          subst member
          rw [Node.inNode.sizeOf_spec]
          omega
  | _ =>
      simp only [children, List.mem_cons, List.not_mem_nil, or_false] at member
      repeat' (rcases member with rfl | member)
      all_goals simp <;> omega

/-- A nested SELECT is structurally smaller than the node that carries it. -/
theorem sizeOf_lt_of_nestedSelect {node : Node V} {query : SelectNode V}
    (nested : node.nestedSelect = some query) : sizeOf query < sizeOf node := by
  cases node with
  | inNode expression values negated =>
      cases values with
      | nodes values => simp [Node.nestedSelect] at nested
      | select inner =>
          simp [Node.nestedSelect] at nested
          subst nested
          rw [Node.inNode.sizeOf_spec, InValues.select.sizeOf_spec]
          omega
  | scalarSubquery inner =>
      simp [Node.nestedSelect] at nested
      subst nested
      simp
  | «exists» inner negated =>
      simp [Node.nestedSelect] at nested
      subst nested
      rw [Node.exists.sizeOf_spec]
      omega
  | _ => simp [Node.nestedSelect] at nested

/-- `node` and every `Node` reachable through it, depth-first. -/
def walk (node : Node V) : List (Node V) :=
  node :: (children node).attach.flatMap fun child => walk child.1
termination_by sizeOf node
decreasing_by exact sizeOf_lt_of_mem_children child.2

theorem walk_eq (node : Node V) : walk node = node :: (children node).flatMap walk := by
  rw [walk]
  simp [List.flatMap_subtype]

/-- Induction along `children`: a property that passes from the children of a node to the node
holds of every node. Nested SELECTs are not entered. -/
theorem children_induction {motive : Node V → Prop}
    (step : ∀ node, (∀ child ∈ children node, motive child) → motive node) (node : Node V) :
    motive node :=
  step node fun child _ => children_induction step child
termination_by sizeOf node
decreasing_by exact sizeOf_lt_of_mem_children ‹_›

theorem mem_walk {node target : Node V} :
    target ∈ walk node ↔ target = node ∨ ∃ child ∈ children node, target ∈ walk child := by
  rw [walk_eq]
  simp

@[simp] theorem self_mem_walk (node : Node V) : node ∈ walk node :=
  mem_walk.mpr (Or.inl rfl)

/-- The nodes of `walk` are closed under taking children. -/
theorem child_mem_walk {root node child : Node V} (inside : node ∈ walk root)
    (member : child ∈ children node) : child ∈ walk root := by
  induction root using children_induction with
  | step root ih =>
      rcases mem_walk.mp inside with rfl | ⟨next, nextMember, nextInside⟩
      · exact mem_walk.mpr (Or.inr ⟨child, member, self_mem_walk child⟩)
      · exact mem_walk.mpr (Or.inr ⟨next, nextMember, ih next nextMember nextInside⟩)

/-- SELECTs directly below an expression, in walk order (`scopes._subqueries`). -/
def subqueries (expression : Node V) : List (SelectNode V) :=
  (walk expression).filterMap Node.nestedSelect

theorem mem_subqueries {expression : Node V} {query : SelectNode V} :
    query ∈ subqueries expression ↔
      ∃ node ∈ walk expression, node.nestedSelect = some query := by
  simp [subqueries]

theorem sizeOf_le_of_mem_walk {root node : Node V} (inside : node ∈ walk root) :
    sizeOf node ≤ sizeOf root := by
  induction root using children_induction with
  | step root ih =>
      rcases mem_walk.mp inside with rfl | ⟨child, member, nested⟩
      · exact Nat.le_refl _
      · exact Nat.le_trans (ih child member nested) (Nat.le_of_lt (sizeOf_lt_of_mem_children member))

theorem sizeOf_lt_of_mem_subqueries {expression : Node V} {query : SelectNode V}
    (member : query ∈ subqueries expression) : sizeOf query < sizeOf expression := by
  obtain ⟨node, inside, nested⟩ := mem_subqueries.mp member
  exact Nat.lt_of_lt_of_le (sizeOf_lt_of_nestedSelect nested) (sizeOf_le_of_mem_walk inside)

/-- The source a column node names (`item.source ... if isinstance(item, ColumnNode)`). -/
def Node.columnSource : Node V → Option String
  | .column source _ => some source
  | _ => none

/-- Local sources of an expression. Nested SELECT scopes are excluded. -/
def referencedSources (expression : Node V) : List String :=
  (walk expression).filterMap Node.columnSource

end Relq
