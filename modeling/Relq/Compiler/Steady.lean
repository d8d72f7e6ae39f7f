/-
Module: Relq.Compiler.Steady
Layer: Compiler
Purpose: Whether the renderer raises does not depend on what was bound before. Each part of a
  statement can therefore be rendered on its own to learn whether the whole renders.
Imports: Relq.Compiler.LayoutSound
Trusted boundary: none (fully proved)
Main exports: Steady, steady_node, steady_statement
-/
import Relq.Compiler.LayoutSound

namespace Relq

variable {V α β γ δ ε : Type}

/-- The program returns from all parameters or from none. -/
abbrev Steady (m : Renderer V α) : Prop :=
  Together m m

section
variable {m₁ : Renderer V α} {m₂ : Renderer V β} {m₃ : Renderer V γ} {m₄ : Renderer V δ}

theorem steady_one {f f' : α → ε} (first : Steady m₁) :
    Together (do return f (← m₁)) (do return f' (← m₁)) :=
  first.bind fun _ _ => .pure _ _

theorem steady_two {f f' : α → β → ε} (first : Steady m₁) (second : Steady m₂) :
    Together
      (do
        let a ← m₁
        let b ← m₂
        return f a b)
      (do
        let a ← m₁
        let b ← m₂
        return f' a b) :=
  first.bind fun _ _ => steady_one second

theorem steady_three {f f' : α → β → γ → ε} (first : Steady m₁) (second : Steady m₂)
    (third : Steady m₃) :
    Together
      (do
        let a ← m₁
        let b ← m₂
        let c ← m₃
        return f a b c)
      (do
        let a ← m₁
        let b ← m₂
        let c ← m₃
        return f' a b c) :=
  first.bind fun _ _ => steady_two second third

theorem steady_four {f f' : α → β → γ → δ → ε} (first : Steady m₁) (second : Steady m₂)
    (third : Steady m₃) (fourth : Steady m₄) :
    Together
      (do
        let a ← m₁
        let b ← m₂
        let c ← m₃
        let d ← m₄
        return f a b c d)
      (do
        let a ← m₁
        let b ← m₂
        let c ← m₃
        let d ← m₄
        return f' a b c d) :=
  first.bind fun _ _ => steady_three second third fourth

end

variable (dialect : Dialect)

theorem steady_bindValue (value : V) : Steady (bindValue value : Renderer V Text) :=
  fun _ before' _ => ⟨([.placeholder (before' ++ [value]).length], before' ++ [value]), rfl⟩

theorem steady_guarded (name : String) {m : Renderer V α} (steady : Steady m) :
    Steady (do requirePostgresExpression dialect name; m) :=
  (Together.lift _).bind fun _ _ => steady

theorem steady_window {exclusion : Option WindowExclusion} {frame : Option WindowFrameNode}
    {orderCount : Nat} {partition orders : Renderer V (List Text)} {call : Renderer V Text}
    (steadyPartition : Steady partition) (steadyOrders : Steady orders) (steadyCall : Steady call) :
    Steady (do
      if exclusion.isSome && frame.isNone then
        throw (.valueError "window exclusions require an explicit frame" [])
      let partition ← partition
      let orders ← orders
      let frame ← (frameClause frame orderCount exclusion : Except _ _)
      let expression ← call
      let clauses := clause ["partition", "by"] partition ++ clause ["order", "by"] orders ++ frame
      return expression ++ spaced ["over"] ++ parens (spaces clauses)) := by
  refine .ite (fun _ => .throw_bind _ _ _) fun _ => ?_
  exact steadyPartition.bind fun _ _ => steadyOrders.bind fun _ _ => (Together.lift _).bind fun _ _ =>
    steadyCall.bind fun _ _ => .pure _ _

variable [PyObject V]

theorem steady_select_of (query : SelectNode V) (ctes : Steady (compileCtes dialect query.ctes))
    (selections : Steady (compileNodes dialect query.selections))
    (from_ : Steady (compileFrom dialect query.fromSource))
    (joins : Steady (compileJoins dialect query.joins))
    (where_ : Steady (compileOption dialect query.whereNode))
    (groupBy : Steady (compileNodes dialect query.groupBy))
    (having : Steady (compileOption dialect query.having))
    (orderBy : Steady (compileOrders dialect query.orderBy))
    (compounds : Steady (compileCompounds dialect query.compounds)) :
    Steady (compileSelect dialect query) := by
  obtain ⟨selectionNodes, fromSource, joinNodes, whereNode, groupNodes, havingNode, orderNodes, limit,
    offset, distinct, cteNodes, compoundNodes, locks⟩ := query
  rw [compileSelect]
  refine .ite (fun _ => .throw_bind _ _ _) fun _ => ?_
  exact ctes.bind fun _ _ => selections.bind fun _ _ => from_.bind fun _ _ => joins.bind fun _ _ =>
    where_.bind fun _ _ => steady_four groupBy having orderBy compounds

theorem steady_returning (returning : List (Node V))
    (nodes : Steady (compileNodes dialect returning)) :
    Steady (compileReturning dialect returning) := by
  rw [compileReturning]
  exact .ite (fun _ => .pure _ _) fun _ => .ite (fun _ => .throw _ _) fun _ => steady_one nodes

theorem steady_conflict_of (conflict : ConflictNode V)
    (values : Steady (compileAssignments dialect conflict.updateValues))
    (where_ : Steady (compileOption dialect conflict.updateWhere)) :
    Steady (compileConflict dialect conflict) := by
  obtain ⟨columns, action, updateValues, targetWhere, updateWhere⟩ := conflict
  rw [compileConflict]
  refine (Together.lift _).bind fun _ _ => .ite (fun _ => ?_) fun _ => .ite (fun _ => ?_) fun _ =>
    .throw _ _
  · exact .ite (fun _ => .throw_bind _ _ _) fun _ => .pure _ _
  · exact .ite (fun _ => .throw_bind _ _ _) fun _ => steady_two values where_

theorem steady_insert_of (query : InsertNode V)
    (source_ : ∀ source, query.source = some source → Steady (compileInsertSource dialect source))
    (conflict : Steady (compileConflictOption dialect query.conflict))
    (returning : Steady (compileNodes dialect query.returning)) :
    Steady (compileInsert dialect query) := by
  obtain ⟨table, source, conflictNode, returningNodes⟩ := query
  rw [compileInsert.eq_def]
  dsimp only
  split
  · exact .throw _ _
  · exact (Together.lift _).bind fun _ _ => steady_one (steady_returning dialect _ returning)
  · exact (source_ _ rfl).bind fun _ _ => (Together.lift _).bind fun _ _ =>
      steady_two conflict (steady_returning dialect _ returning)

theorem steady_update_of (query : UpdateNode V)
    (values : Steady (compileAssignments dialect query.values))
    (where_ : Steady (compileOption dialect query.whereNode))
    (returning : Steady (compileNodes dialect query.returning)) :
    Steady (compileUpdate dialect query) := by
  obtain ⟨table, values_, whereNode, bounded, returningNodes⟩ := query
  rw [compileUpdate]
  exact values.bind fun _ _ => (Together.lift _).bind fun _ _ =>
    steady_two where_ (steady_returning dialect _ returning)

theorem steady_delete_of (query : DeleteNode V)
    (where_ : Steady (compileOption dialect query.whereNode))
    (returning : Steady (compileNodes dialect query.returning)) :
    Steady (compileDelete dialect query) := by
  obtain ⟨table, whereNode, bounded, returningNodes⟩ := query
  rw [compileDelete]
  exact (Together.lift _).bind fun _ _ => steady_two where_ (steady_returning dialect _ returning)

mutual

theorem steady_node : (node : Node V) → Steady (compileNode dialect node)
  | .column _ _ => by rw [compileNode]; exact .pure _ _
  | .value value => by rw [compileNode]; exact steady_bindValue value
  | .temporalClock _ => by rw [compileNode]; exact .pure _ _
  | .star => by rw [compileNode]; exact .pure _ _
  | .excluded _ _ => by rw [compileNode]; exact .pure _ _
  | .binary left _ right => by
      rw [compileNode]
      exact steady_two (steady_node left) (steady_node right)
  | .temporalMakeDate year month day => by
      rw [compileNode]
      exact steady_three (steady_node year) (steady_node month) (steady_node day)
  | .temporalMakeTime hour minute second => by
      rw [compileNode]
      exact steady_three (steady_node hour) (steady_node minute) (steady_node second)
  | .temporalMakeTimestamp year month day hour minute second => by
      rw [compileNode]
      exact (steady_node year).bind fun _ _ => (steady_node month).bind fun _ _ =>
        steady_four (steady_node day) (steady_node hour) (steady_node minute) (steady_node second)
  | .temporalMakeTimestamptz year month day hour minute second zone => by
      rw [compileNode]
      exact (steady_node year).bind fun _ _ => (steady_node month).bind fun _ _ => (steady_node day).bind fun _ _ =>
        steady_four (steady_node hour) (steady_node minute) (steady_node second) (steady_option zone)
  | .temporalMakeInterval components => by
      rw [compileNode]
      exact steady_one (steady_components components)
  | .temporalEpoch seconds => by
      rw [compileNode]
      exact steady_one (steady_node seconds)
  | .temporalArithmetic timestamp _ interval => by
      rw [compileNode]
      exact steady_two (steady_node interval) (steady_node timestamp)
  | .temporalDifference left right => by
      rw [compileNode]
      exact steady_two (steady_node left) (steady_node right)
  | .temporalIntervalUnary interval => by
      rw [compileNode]
      exact steady_one (steady_node interval)
  | .temporalIntervalScale interval _ factor => by
      rw [compileNode]
      exact steady_two (steady_node interval) (steady_node factor)
  | .temporalTimezone expression zone => by
      rw [compileNode]
      exact steady_two (steady_node expression) (steady_node zone)
  | .temporalExtract _ expression => by
      rw [compileNode]
      exact steady_one (steady_node expression)
  | .temporalTrunc _ expression => by
      rw [compileNode]
      exact steady_one (steady_node expression)
  | .temporalTruncTimestamptz _ expression zone => by
      rw [compileNode]
      exact steady_two (steady_node expression) (steady_node zone)
  | .temporalBin stride expression origin => by
      rw [compileNode]
      exact steady_three (steady_node stride) (steady_node expression) (steady_node origin)
  | .temporalAge left right => by
      rw [compileNode]
      exact steady_two (steady_node left) (steady_node right)
  | .temporalOverlaps leftStart leftEnd rightStart rightEnd => by
      rw [compileNode]
      exact steady_four (steady_node leftStart) (steady_node leftEnd) (steady_node rightStart) (steady_node rightEnd)
  | .temporalJustify _ interval => by
      rw [compileNode]
      exact steady_one (steady_node interval)
  | .unary _ operand => by
      rw [compileNode]
      exact steady_one (steady_node operand)
  | .function _ arguments => by
      rw [compileNode]
      exact steady_one (steady_nodes arguments)
  | .case branches otherwise => by
      rw [compileNode]
      exact steady_two (steady_branches branches) (steady_node otherwise)
  | .aggregate _ arguments filter => by
      rw [compileNode]
      exact steady_two (steady_nodes arguments) (steady_option filter)
  | .window expression partitionBy orderBy _ _ => by
      rw [compileNode]
      exact steady_window (steady_nodes partitionBy) (steady_orders orderBy)
        (steady_windowCall expression)
  | .aliased expression _ => by
      rw [compileNode]
      exact steady_one (steady_node expression)
  | .nullableResult expression => by
      rw [compileNode]
      exact steady_node expression
  | .inNode expression values _ => by
      rw [compileNode]
      exact steady_two (steady_node expression) (steady_inValues values)
  | .between expression lower upper _ => by
      rw [compileNode]
      exact steady_three (steady_node expression) (steady_node lower) (steady_node upper)
  | .scalarSubquery query => by
      rw [compileNode]
      exact steady_one (steady_select query)
  | .exists query _ => by
      rw [compileNode]
      exact steady_one (steady_select query)
  | .jsonText left right => by
      rw [compileNode]
      exact steady_guarded dialect _ (steady_two (steady_node left) (steady_node right))
  | .regexMatch left right _ => by
      rw [compileNode]
      exact steady_guarded dialect _ (steady_two (steady_node left) (steady_node right))
  | .uuidCast operand => by
      rw [compileNode]
      exact steady_guarded dialect _ (steady_one (steady_node operand))

theorem steady_windowCall : (call : WindowCall V) → Steady (compileWindowCall dialect call)
  | .aggregate _ arguments filter => by
      rw [compileWindowCall]
      exact steady_two (steady_nodes arguments) (steady_option filter)
  | .function _ arguments => by
      rw [compileWindowCall]
      exact steady_one (steady_nodes arguments)

theorem steady_inValues : (values : InValues V) → Steady (compileInValues dialect values)
  | .nodes values => by
      rw [compileInValues]
      exact steady_one (steady_nodes values)
  | .select query => by
      rw [compileInValues]
      exact steady_one (steady_select query)

theorem steady_nodes : (nodes : List (Node V)) → Steady (compileNodes dialect nodes)
  | [] => by rw [compileNodes]; exact .pure _ _
  | node :: rest => by
      rw [compileNodes]
      exact steady_two (steady_node node) (steady_nodes rest)

theorem steady_option : (slot : Option (Node V)) → Steady (compileOption dialect slot)
  | none => by rw [compileOption]; exact .pure _ _
  | some node => by
      rw [compileOption]
      exact steady_one (steady_node node)

theorem steady_components : (components : List (String × Node V)) →
    Steady (compileComponents dialect components)
  | [] => by rw [compileComponents]; exact .pure _ _
  | (_, value) :: rest => by
      rw [compileComponents]
      exact steady_two (steady_node value) (steady_components rest)

theorem steady_branches : (branches : List (Node V × Node V)) →
    Steady (compileBranches dialect branches)
  | [] => by rw [compileBranches]; exact .pure _ _
  | (condition, value) :: rest => by
      rw [compileBranches]
      exact steady_three (steady_node condition) (steady_node value) (steady_branches rest)

theorem steady_orders : (orders : List (OrderNode V)) → Steady (compileOrders dialect orders)
  | [] => by rw [compileOrders]; exact .pure _ _
  | ⟨expression, _, _⟩ :: rest => by
      rw [compileOrders]
      exact steady_two (steady_node expression) (steady_orders rest)

theorem steady_source : (source : SourceNode V) → Steady (compileSource dialect source)
  | .table _ => by rw [compileSource]; exact .lift _
  | .cte _ => by rw [compileSource]; exact .pure _ _
  | .derived query _ => by
      rw [compileSource]
      exact steady_one (steady_select query)

theorem steady_from : (slot : Option (SourceNode V)) → Steady (compileFrom dialect slot)
  | none => by rw [compileFrom]; exact .throw _ _
  | some source => by rw [compileFrom]; exact steady_source source

theorem steady_joins : (joins : List (JoinNode V)) → Steady (compileJoins dialect joins)
  | [] => by rw [compileJoins]; exact .pure _ _
  | ⟨source, predicate, _⟩ :: rest => by
      rw [compileJoins]
      refine (steady_source source).bind fun _ _ => .ite (fun _ => ?_) fun _ => ?_
      · exact steady_two (steady_node predicate) (steady_joins rest)
      · exact steady_one (steady_joins rest)

theorem steady_ctes : (ctes : List (CteNode V)) → Steady (compileCtes dialect ctes)
  | [] => by rw [compileCtes]; exact .pure _ _
  | ⟨_, query, _, _⟩ :: rest => by
      rw [compileCtes]
      exact steady_two (steady_cteBody query) (steady_ctes rest)

theorem steady_cteBody : (query : QueryNode V) → Steady (compileCteBody dialect query)
  | .select query => by rw [compileCteBody]; exact steady_select query
  | .insert query => by
      rw [compileCteBody]
      exact .ite (fun _ => steady_insert query) fun _ => .throw _ _
  | .update query => by
      rw [compileCteBody]
      exact .ite (fun _ => steady_update query) fun _ => .throw _ _
  | .delete query => by
      rw [compileCteBody]
      exact .ite (fun _ => steady_delete query) fun _ => .throw _ _

theorem steady_compounds : (compounds : List (CompoundNode V)) →
    Steady (compileCompounds dialect compounds)
  | [] => by rw [compileCompounds]; exact .pure _ _
  | ⟨_, query⟩ :: rest => by
      rw [compileCompounds]
      exact steady_two (steady_select query) (steady_compounds rest)

theorem steady_select : (query : SelectNode V) → Steady (compileSelect dialect query)
  | ⟨selections, fromSource, joins, whereNode, groupBy, having, orderBy, _, _, _, ctes, compounds,
      _⟩ =>
      steady_select_of dialect _ (steady_ctes ctes) (steady_nodes selections) (steady_from fromSource)
        (steady_joins joins) (steady_option whereNode) (steady_nodes groupBy) (steady_option having)
        (steady_orders orderBy) (steady_compounds compounds)

theorem steady_assignments : (pairs : List (String × Node V)) →
    Steady (compileAssignments dialect pairs)
  | [] => by rw [compileAssignments]; exact .pure _ _
  | (_, value) :: rest => by
      rw [compileAssignments]
      exact steady_two (steady_node value) (steady_assignments rest)

theorem steady_cells : (cells : List (String × Node V)) → Steady (compileCells dialect cells)
  | [] => by rw [compileCells]; exact .pure _ _
  | (_, value) :: rest => by
      rw [compileCells]
      exact steady_two (steady_node value) (steady_cells rest)

theorem steady_rows : (rows : List (List (String × Node V))) → Steady (compileRows dialect rows)
  | [] => by rw [compileRows]; exact .pure _ _
  | row :: rest => by
      rw [compileRows]
      exact steady_two (steady_cells row) (steady_rows rest)

theorem steady_insertSource : (source : InsertSourceNode V) →
    Steady (compileInsertSource dialect source)
  | .values values => by
      rw [compileInsertSource]
      exact steady_one (steady_cells values)
  | .rows rows => by
      rw [compileInsertSource]
      split
      · exact .throw _ _
      · exact steady_one (steady_rows rows)
  | .select query _ => by
      rw [compileInsertSource]
      exact steady_one (steady_select query)
  | .defaultValues => by rw [compileInsertSource]; exact .pure _ _

theorem steady_conflictOption : (slot : Option (ConflictNode V)) →
    Steady (compileConflictOption dialect slot)
  | none => by rw [compileConflictOption]; exact .pure _ _
  | some ⟨_, _, updateValues, _, updateWhere⟩ => by
      rw [compileConflictOption]
      exact steady_conflict_of dialect _ (steady_assignments updateValues) (steady_option updateWhere)

theorem steady_insert : (query : InsertNode V) → Steady (compileInsert dialect query)
  | ⟨_, none, conflict, returning⟩ =>
      steady_insert_of dialect _ (fun _ absent => absurd absent (by simp))
        (steady_conflictOption conflict) (steady_nodes returning)
  | ⟨_, some source, conflict, returning⟩ =>
      steady_insert_of dialect _ (fun _ same => Option.some.inj same ▸ steady_insertSource source)
        (steady_conflictOption conflict) (steady_nodes returning)

theorem steady_update : (query : UpdateNode V) → Steady (compileUpdate dialect query)
  | ⟨_, values, whereNode, _, returning⟩ =>
      steady_update_of dialect _ (steady_assignments values) (steady_option whereNode)
        (steady_nodes returning)

theorem steady_delete : (query : DeleteNode V) → Steady (compileDelete dialect query)
  | ⟨_, whereNode, _, returning⟩ =>
      steady_delete_of dialect _ (steady_option whereNode) (steady_nodes returning)

end

theorem steady_statement (query : QueryNode V) : Steady (renderStatement dialect query) := by
  cases query with
  | select query => exact steady_select dialect query
  | insert query => exact steady_insert dialect query
  | update query => exact steady_update dialect query
  | delete query => exact steady_delete dialect query

end Relq
