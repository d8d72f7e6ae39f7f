/-
Module: Relq.Compiler.Visits
Layer: Compiler
Purpose: The renderer of expressions, instrumented: each call of `_compile_node` and each SELECT that
  one enters is logged, and what happens inside a SELECT is not. Without the log it is the renderer.
  What it logs is, up to order, what `walk` yields with the SELECTs it stops at, each once.
Imports: Relq.Library.Traces, Relq.Compiler.Render, Relq.Analysis.Walk
Trusted boundary: human-reviewed spec (Visit, Rendering, checking, tracedSelect,
  tracedBody, tracedNode, renderedNodes, enteredQueries)
Main exports: Visit, tracedNode, erase_tracedNode, visits, logs_tracedNode, renderedNodes,
  enteredQueries, tracedNode_visits
-/
import Relq.Library.Traces
import Relq.Compiler.Render
import Relq.Analysis.Walk

namespace Relq

open Traces

variable {V : Type}

/-- A node that is rendered, or a SELECT that is entered from one. -/
inductive Visit (V : Type) where
  | node (node : Node V)
  | query (query : SelectNode V)

abbrev Rendering (V α : Type) := Traced PyError (List V) (Visit V) α

/-- A check that may raise. -/
def checking {α : Type} (check : Except PyError α) : Rendering V α :=
  Traced.lift (liftM check)

/-- A nested SELECT is rendered without a log of its own. -/
def tracedSelect [PyObject V] (dialect : Dialect) (query : SelectNode V) : Rendering V Text := do
  Traced.note (.query query)
  Traced.lift (compileSelect dialect query)

mutual

/-- The body of `_compile_node`. -/
def tracedBody [PyObject V] (dialect : Dialect) : Node V → Rendering V Text
  | .column source name => pure [.identifier source, .symbol ".", .identifier name]
  | .value value => Traced.lift (bindValue value)
  | .temporalClock kind => pure (clockText kind)
  | .binary left operator right => do
      let left ← tracedNode dialect left
      let right ← tracedNode dialect right
      return operation left [operator.lexeme] right
  | .temporalMakeDate year month day => do
      let year ← tracedNode dialect year
      let month ← tracedNode dialect month
      let day ← tracedNode dialect day
      return call "make_date" [year, month, day]
  | .temporalMakeTime hour minute second => do
      let hour ← tracedNode dialect hour
      let minute ← tracedNode dialect minute
      let second ← tracedNode dialect second
      return call "make_time" [hour, minute, second]
  | .temporalMakeTimestamp year month day hour minute second => do
      let year ← tracedNode dialect year
      let month ← tracedNode dialect month
      let day ← tracedNode dialect day
      let hour ← tracedNode dialect hour
      let minute ← tracedNode dialect minute
      let second ← tracedNode dialect second
      return call "make_timestamp" [year, month, day, hour, minute, second]
  | .temporalMakeTimestamptz year month day hour minute second zone => do
      let year ← tracedNode dialect year
      let month ← tracedNode dialect month
      let day ← tracedNode dialect day
      let hour ← tracedNode dialect hour
      let minute ← tracedNode dialect minute
      let second ← tracedNode dialect second
      let zone ← tracedOption dialect zone
      return call "make_timestamptz" ([year, month, day, hour, minute, second] ++ zone.toList)
  | .temporalMakeInterval components => do
      let components ← tracedComponents dialect components
      return call "make_interval" components
  | .temporalEpoch seconds => do
      let seconds ← tracedNode dialect seconds
      return call "to_timestamp" [seconds]
  | .temporalArithmetic timestamp operator interval => do
      -- The interval is rendered first, although it stands second in the text.
      let intervalSql ← tracedNode dialect interval
      let timestamp ← tracedNode dialect timestamp
      return operation timestamp [.symbol operator.text] (castInterval interval intervalSql)
  | .temporalDifference left right => do
      let left ← tracedNode dialect left
      let right ← tracedNode dialect right
      return operation left [.symbol "-"] right
  | .temporalIntervalUnary interval => do
      let interval ← tracedNode dialect interval
      return parens (.symbol "-" :: interval)
  | .temporalIntervalScale interval operator factor => do
      let interval ← tracedNode dialect interval
      let factor ← tracedNode dialect factor
      return operation interval [.symbol operator.text] factor
  | .temporalTimezone expression zone => do
      let expression ← tracedNode dialect expression
      let zone ← tracedNode dialect zone
      return operation expression (words ["at", "time", "zone"]) zone
  | .temporalExtract field expression => do
      let expression ← tracedNode dialect expression
      return .word "extract" :: parens ([.literal field] ++ spaced ["from"] ++ expression)
  | .temporalTrunc unit expression => do
      let expression ← tracedNode dialect expression
      return call "date_trunc" [[.literal unit], expression]
  | .temporalTruncTimestamptz unit expression zone => do
      let expression ← tracedNode dialect expression
      let zone ← tracedNode dialect zone
      return call "date_trunc" [[.literal unit], expression, zone]
  | .temporalBin stride expression origin => do
      let strideSql ← tracedNode dialect stride
      let expression ← tracedNode dialect expression
      let origin ← tracedNode dialect origin
      return call "date_bin" [castInterval stride strideSql, expression, origin]
  | .temporalAge left right => do
      let left ← tracedNode dialect left
      let right ← tracedNode dialect right
      return call "age" [left, right]
  | .temporalOverlaps leftStart leftEnd rightStart rightEnd => do
      let leftStart ← tracedNode dialect leftStart
      let leftEnd ← tracedNode dialect leftEnd
      let rightStart ← tracedNode dialect rightStart
      let rightEnd ← tracedNode dialect rightEnd
      return operation (parens (commas [leftStart, leftEnd])) [.word "overlaps"]
        (parens (commas [rightStart, rightEnd]))
  | .temporalJustify kind interval => do
      let interval ← tracedNode dialect interval
      return call kind.text [interval]
  | .unary operator operand => do
      let operand ← tracedNode dialect operand
      return parens (operand ++ [.space] ++ words operator.words)
  | .function name arguments => do
      let arguments ← tracedNodes dialect arguments
      return call name.text arguments
  | .case branches otherwise => do
      let branches ← tracedBranches dialect branches
      let otherwise ← tracedNode dialect otherwise
      return [.word "case", .space] ++ spaces branches ++ spaced ["else"] ++ otherwise ++
        [.space, .word "end"]
  | .aggregate name arguments filter => do
      let arguments ← tracedNodes dialect arguments
      let filter ← tracedOption dialect filter
      return aggregateText name arguments filter
  | .window expression partitionBy orderBy frame exclusion => do
      if exclusion.isSome && frame.isNone then
        checking (.error (.valueError "window exclusions require an explicit frame" []))
      let partition ← tracedNodes dialect partitionBy
      let orders ← tracedOrders dialect orderBy
      let frame ← checking (frameClause frame orderBy.length exclusion)
      -- The call is rendered last, although it stands first in the text.
      let expression ← tracedWindowCall dialect expression
      let clauses := clause ["partition", "by"] partition ++ clause ["order", "by"] orders ++ frame
      return expression ++ spaced ["over"] ++ parens (spaces clauses)
  | .aliased expression aliasName => do
      let expression ← tracedNode dialect expression
      return expression ++ spaced ["as"] ++ [.identifier aliasName]
  | .nullableResult expression => tracedNode dialect expression
  | .star => pure [.symbol "*"]
  | .inNode expression values negated => do
      let left ← tracedNode dialect expression
      let values ← tracedInValues dialect values
      return operation left (words (if negated then ["not", "in"] else ["in"])) values
  | .between expression lower upper negated => do
      let expression ← tracedNode dialect expression
      let lower ← tracedNode dialect lower
      let upper ← tracedNode dialect upper
      return operation expression (words (if negated then ["not", "between"] else ["between"]))
        (lower ++ spaced ["and"] ++ upper)
  | .scalarSubquery query => do
      let query ← tracedSelect dialect query
      return parens query
  | .exists query negated => do
      let query ← tracedSelect dialect query
      return words (if negated then ["not", "exists"] else ["exists"]) ++ [.space] ++ parens query
  | .excluded _ name => pure [.word "excluded", .symbol ".", .identifier name]
  | .jsonText value key => do
      checking (requirePostgresExpression dialect "json_text()")
      let value ← tracedNode dialect value
      let key ← tracedNode dialect key
      return operation value [.symbol "->>"] key
  | .regexMatch value pattern insensitive => do
      checking (requirePostgresExpression dialect "regex_match()")
      let value ← tracedNode dialect value
      let pattern ← tracedNode dialect pattern
      return operation value [.symbol (if insensitive then "~*" else "~")] pattern
  | .uuidCast value => do
      checking (requirePostgresExpression dialect "cast_uuid()")
      let value ← tracedNode dialect value
      return .word "cast" :: parens (value ++ spaced ["as"] ++ [.word "uuid"])
termination_by node => 2 * sizeOf node
decreasing_by all_goals simp +arith

/-- A call of `_compile_node`. -/
def tracedNode [PyObject V] (dialect : Dialect) (node : Node V) : Rendering V Text := do
  Traced.note (.node node)
  tracedBody dialect node
termination_by 2 * sizeOf node + 1
decreasing_by all_goals simp +arith

def tracedWindowCall [PyObject V] (dialect : Dialect) : WindowCall V → Rendering V Text
  | .aggregate name arguments filter => do
      Traced.note (.node (.aggregate name arguments filter))
      let arguments ← tracedNodes dialect arguments
      let filter ← tracedOption dialect filter
      return aggregateText name arguments filter
  | .function name arguments => do
      Traced.note (.node (.function name arguments))
      let arguments ← tracedNodes dialect arguments
      return call name.text arguments
termination_by node => 2 * sizeOf node
decreasing_by all_goals simp +arith

def tracedInValues [PyObject V] (dialect : Dialect) : InValues V → Rendering V Text
  | .nodes values => do
      let values ← tracedNodes dialect values
      return parens (commas values)
  | .select query => do
      let query ← tracedSelect dialect query
      return parens query
termination_by node => 2 * sizeOf node
decreasing_by all_goals simp +arith

def tracedNodes [PyObject V] (dialect : Dialect) : List (Node V) → Rendering V (List Text)
  | [] => pure []
  | node :: rest => do
      let text ← tracedNode dialect node
      let texts ← tracedNodes dialect rest
      return text :: texts
termination_by node => 2 * sizeOf node
decreasing_by all_goals simp +arith

def tracedOption [PyObject V] (dialect : Dialect) : Option (Node V) → Rendering V (Option Text)
  | none => pure none
  | some node => do
      let text ← tracedNode dialect node
      return some text
termination_by node => 2 * sizeOf node
decreasing_by all_goals simp +arith

/-- `name => value` arguments of `make_interval`. -/
def tracedComponents [PyObject V] (dialect : Dialect) :
    List (String × Node V) → Rendering V (List Text)
  | [] => pure []
  | (name, value) :: rest => do
      let value ← tracedNode dialect value
      let texts ← tracedComponents dialect rest
      return ([.word name, .space, .symbol "=>", .space] ++ value) :: texts
termination_by node => 2 * sizeOf node
decreasing_by all_goals simp +arith

def tracedBranches [PyObject V] (dialect : Dialect) :
    List (Node V × Node V) → Rendering V (List Text)
  | [] => pure []
  | (condition, value) :: rest => do
      let condition ← tracedNode dialect condition
      let value ← tracedNode dialect value
      let texts ← tracedBranches dialect rest
      return ([.word "when", .space] ++ condition ++ spaced ["then"] ++ value) :: texts
termination_by node => 2 * sizeOf node
decreasing_by all_goals simp +arith

def tracedOrders [PyObject V] (dialect : Dialect) : List (OrderNode V) → Rendering V (List Text)
  | [] => pure []
  | ⟨expression, direction, nulls⟩ :: rest => do
      let expression ← tracedNode dialect expression
      let texts ← tracedOrders dialect rest
      return orderText expression direction nulls :: texts
termination_by node => 2 * sizeOf node
decreasing_by all_goals simp +arith

end

/-! ### Forgetting the log -/

section Erasure

variable [PyObject V] (dialect : Dialect)

omit [PyObject V] in
theorem erase_checking {α : Type} (check : Except PyError α) :
    Traced.erase (checking (V := V) check) = liftM check := rfl

theorem erase_tracedSelect (query : SelectNode V) :
    Traced.erase (tracedSelect dialect query) = compileSelect dialect query := rfl

/-- The nodes of a list are rendered as they are without a log. -/
theorem erase_tracedNodes {nodes : List (Node V)}
    (each : ∀ node ∈ nodes, Traced.erase (tracedNode dialect node) = compileNode dialect node) :
    Traced.erase (tracedNodes dialect nodes) = compileNodes dialect nodes := by
  induction nodes with
  | nil => rw [tracedNodes, compileNodes]; rfl
  | cons node rest ih =>
      rw [tracedNodes, compileNodes]
      rw [List.forall_mem_cons] at each
      simp only [Traced.erase_bind, Traced.erase_pure, each.1, ih each.2]

theorem erase_tracedOption {slot : Option (Node V)}
    (each : ∀ node ∈ slot, Traced.erase (tracedNode dialect node) = compileNode dialect node) :
    Traced.erase (tracedOption dialect slot) = compileOption dialect slot := by
  cases slot with
  | none => rw [tracedOption, compileOption]; rfl
  | some node =>
      rw [tracedOption, compileOption]
      simp only [Traced.erase_bind, Traced.erase_pure, each node rfl]

theorem erase_tracedComponents {components : List (String × Node V)}
    (each : ∀ component ∈ components,
      Traced.erase (tracedNode dialect component.2) = compileNode dialect component.2) :
    Traced.erase (tracedComponents dialect components) = compileComponents dialect components := by
  induction components with
  | nil => rw [tracedComponents, compileComponents]; rfl
  | cons component rest ih =>
      rw [tracedComponents, compileComponents]
      rw [List.forall_mem_cons] at each
      simp only [Traced.erase_bind, Traced.erase_pure, each.1, ih each.2]

theorem erase_tracedBranches {branches : List (Node V × Node V)}
    (each : ∀ branch ∈ branches,
      Traced.erase (tracedNode dialect branch.1) = compileNode dialect branch.1 ∧
        Traced.erase (tracedNode dialect branch.2) = compileNode dialect branch.2) :
    Traced.erase (tracedBranches dialect branches) = compileBranches dialect branches := by
  induction branches with
  | nil => rw [tracedBranches, compileBranches]; rfl
  | cons branch rest ih =>
      rw [tracedBranches, compileBranches]
      rw [List.forall_mem_cons] at each
      simp only [Traced.erase_bind, Traced.erase_pure, each.1, ih each.2]

theorem erase_tracedOrders {orders : List (OrderNode V)}
    (each : ∀ order ∈ orders,
      Traced.erase (tracedNode dialect order.expression) = compileNode dialect order.expression) :
    Traced.erase (tracedOrders dialect orders) = compileOrders dialect orders := by
  induction orders with
  | nil => rw [tracedOrders, compileOrders]; rfl
  | cons order rest ih =>
      obtain ⟨expression, direction, nulls⟩ := order
      rw [tracedOrders, compileOrders]
      rw [List.forall_mem_cons] at each
      simp only [Traced.erase_bind, Traced.erase_pure, each.1, ih each.2]

/-- The call of a window is rendered by `_compile_node` too. -/
theorem tracedWindowCall_eq (call : WindowCall V) :
    tracedWindowCall dialect call = tracedNode dialect call.toNode := by
  cases call <;> rw [tracedWindowCall, WindowCall.toNode, tracedNode, tracedBody]

/-- The instrumented renderer is the renderer. -/
theorem erase_tracedNode (node : Node V) :
    Traced.erase (tracedNode dialect node) = compileNode dialect node := by
  induction node using children_induction with
  | step node ih =>
      rw [tracedNode, Traced.erase_bind, Traced.erase_note, pure_bind]
      cases node with
      | column source name => rw [tracedBody, compileNode]; rfl
      | value value => rw [tracedBody, compileNode]; rfl
      | temporalClock kind => rw [tracedBody, compileNode]; rfl
      | star => rw [tracedBody, compileNode]; rfl
      | excluded source name => rw [tracedBody, compileNode]; rfl
      | scalarSubquery query =>
          rw [tracedBody, compileNode]
          simp only [Traced.erase_bind, Traced.erase_pure, erase_tracedSelect]
      | «exists» query negated =>
          rw [tracedBody, compileNode]
          simp only [Traced.erase_bind, Traced.erase_pure, erase_tracedSelect]
      | temporalMakeTimestamptz year month day hour minute second zone =>
          simp only [children, List.forall_mem_append, List.forall_mem_cons, Option.mem_toList] at ih
          rw [tracedBody, compileNode]
          simp only [Traced.erase_bind, Traced.erase_pure, ih.1, erase_tracedOption dialect ih.2]
      | temporalMakeInterval components =>
          simp only [children, List.forall_mem_map] at ih
          rw [tracedBody, compileNode]
          simp only [Traced.erase_bind, Traced.erase_pure, erase_tracedComponents dialect ih]
      | function name arguments =>
          simp only [children] at ih
          rw [tracedBody, compileNode]
          simp only [Traced.erase_bind, Traced.erase_pure, erase_tracedNodes dialect ih]
      | case branches otherwise =>
          simp only [children, List.forall_mem_append, List.forall_mem_flatMap,
            List.forall_mem_cons] at ih
          have each := fun branch member => (⟨(ih.1 branch member).1, (ih.1 branch member).2.1⟩ : _ ∧ _)
          rw [tracedBody, compileNode]
          simp only [Traced.erase_bind, Traced.erase_pure, ih.2.1, erase_tracedBranches dialect each]
      | aggregate name arguments filter =>
          simp only [children, List.forall_mem_append, Option.mem_toList] at ih
          rw [tracedBody, compileNode]
          simp only [Traced.erase_bind, Traced.erase_pure, erase_tracedNodes dialect ih.1,
            erase_tracedOption dialect ih.2]
      | window expression partitionBy orderBy frame exclusion =>
          simp only [children, List.cons_append, List.forall_mem_cons, List.forall_mem_append,
            List.forall_mem_map] at ih
          rw [tracedBody, compileNode]
          simp only [tracedWindowCall_eq, compileWindowCall_eq]
          by_cases refused : (exclusion.isSome && frame.isNone) = true
          · simp only [if_pos refused, Traced.erase_bind, Traced.erase_pure, erase_checking,
              erase_tracedNodes dialect ih.2.1, erase_tracedOrders dialect ih.2.2, ih.1]
            rfl
          · simp only [if_neg refused, Traced.erase_bind, Traced.erase_pure, erase_checking,
              erase_tracedNodes dialect ih.2.1, erase_tracedOrders dialect ih.2.2, ih.1]
      | inNode expression values negated =>
          cases values with
          | nodes values =>
              simp only [children, List.forall_mem_cons] at ih
              rw [tracedBody, compileNode, tracedInValues, compileInValues]
              simp only [Traced.erase_bind, Traced.erase_pure, ih.1, erase_tracedNodes dialect ih.2]
          | select query =>
              simp only [children, List.forall_mem_cons] at ih
              rw [tracedBody, compileNode, tracedInValues, compileInValues]
              simp only [Traced.erase_bind, Traced.erase_pure, ih.1, erase_tracedSelect]
      | _ =>
          rw [tracedBody, compileNode]
          simp only [children, List.forall_mem_cons] at ih
          simp only [Traced.erase_bind, Traced.erase_pure, erase_checking, ih]

end Erasure

/-! ### What is logged -/

/-- A node, and the SELECT it carries itself. -/
def Node.visits (node : Node V) : List (Visit V) :=
  .node node :: node.nestedSelect.toList.map .query

/-- What `walk` yields, with the SELECTs it stops at. -/
def visits (node : Node V) : List (Visit V) :=
  (walk node).flatMap Node.visits

theorem visits_eq (node : Node V) : visits node = node.visits ++ (children node).flatMap visits := by
  have inner : visits = fun child : Node V => (walk child).flatMap Node.visits := rfl
  rw [visits, walk_eq, List.flatMap_cons, List.flatMap_assoc, inner]

section Logging

variable [PyObject V] (dialect : Dialect)

theorem logs_tracedSelect (query : SelectNode V) : Logs (tracedSelect dialect query) [.query query] :=
  (Logs.note _).bind fun _ => Logs.lift _

theorem logs_tracedNodes {nodes : List (Node V)}
    (each : ∀ node ∈ nodes, Logs (tracedNode dialect node) (visits node)) :
    Logs (tracedNodes dialect nodes) (nodes.flatMap visits) := by
  induction nodes with
  | nil => rw [tracedNodes]; exact .pure _
  | cons node rest ih =>
      rw [List.forall_mem_cons] at each
      rw [tracedNodes, List.flatMap_cons]
      exact each.1.bind fun _ => (ih each.2).map

theorem logs_tracedOption {slot : Option (Node V)}
    (each : ∀ node ∈ slot, Logs (tracedNode dialect node) (visits node)) :
    Logs (tracedOption dialect slot) (slot.toList.flatMap visits) := by
  cases slot with
  | none => rw [tracedOption]; exact .pure _
  | some node =>
      rw [tracedOption]
      exact (each node rfl).bind fun _ => .pure _

theorem logs_tracedComponents {components : List (String × Node V)}
    (each : ∀ component ∈ components, Logs (tracedNode dialect component.2) (visits component.2)) :
    Logs (tracedComponents dialect components) ((components.map (·.2)).flatMap visits) := by
  induction components with
  | nil => rw [tracedComponents]; exact .pure _
  | cons component rest ih =>
      rw [List.forall_mem_cons] at each
      rw [tracedComponents, List.map_cons, List.flatMap_cons]
      exact each.1.bind fun _ => (ih each.2).map

theorem logs_tracedBranches {branches : List (Node V × Node V)}
    (each : ∀ branch ∈ branches, Logs (tracedNode dialect branch.1) (visits branch.1) ∧
      Logs (tracedNode dialect branch.2) (visits branch.2)) :
    Logs (tracedBranches dialect branches)
      ((branches.flatMap fun branch => [branch.1, branch.2]).flatMap visits) := by
  induction branches with
  | nil => rw [tracedBranches]; exact .pure _
  | cons branch rest ih =>
      rw [List.forall_mem_cons] at each
      rw [tracedBranches]
      exact each.1.1.bind fun _ => each.1.2.bind fun _ => (ih each.2).map

theorem logs_tracedOrders {orders : List (OrderNode V)}
    (each : ∀ order ∈ orders, Logs (tracedNode dialect order.expression) (visits order.expression)) :
    Logs (tracedOrders dialect orders) ((orders.map (·.expression)).flatMap visits) := by
  induction orders with
  | nil => rw [tracedOrders]; exact .pure _
  | cons order rest ih =>
      obtain ⟨expression, direction, nulls⟩ := order
      rw [List.forall_mem_cons] at each
      rw [tracedOrders, List.map_cons, List.flatMap_cons]
      exact each.1.bind fun _ => (ih each.2).map

/-- The body of `_compile_node` logs the SELECT a node carries and what its children log. -/
theorem logs_tracedBody (node : Node V)
    (each : ∀ child ∈ children node, Logs (tracedNode dialect child) (visits child)) :
    Logs (tracedBody dialect node)
      (node.nestedSelect.toList.map .query ++ (children node).flatMap visits) := by
  cases node with
  | column source name => rw [tracedBody]; exact .pure _
  | value value => rw [tracedBody]; exact .lift _
  | temporalClock kind => rw [tracedBody]; exact .pure _
  | star => rw [tracedBody]; exact .pure _
  | excluded source name => rw [tracedBody]; exact .pure _
  | scalarSubquery query =>
      rw [tracedBody]
      exact (logs_tracedSelect dialect query).map
  | «exists» query negated =>
      rw [tracedBody]
      exact (logs_tracedSelect dialect query).map
  | inNode expression values negated =>
      cases values with
      | nodes values =>
          simp only [children, List.forall_mem_cons] at each
          rw [tracedBody, tracedInValues]
          exact each.1.bind fun _ => (logs_tracedNodes dialect each.2).map.map
      | select query =>
          simp only [children, List.forall_mem_cons] at each
          rw [tracedBody, tracedInValues]
          -- The left side is rendered before the SELECT is entered.
          refine Logs.perm (each.1.bind fun _ => (logs_tracedSelect dialect query).map.map) ?_
          simp [Node.nestedSelect, children]
  | temporalMakeTimestamptz year month day hour minute second zone =>
      simp only [children, List.forall_mem_append, List.forall_mem_cons, Option.mem_toList] at each
      obtain ⟨⟨year, month, day, hour, minute, second, -⟩, zone⟩ := each
      rw [tracedBody]
      exact year.bind fun _ => month.bind fun _ => day.bind fun _ => hour.bind fun _ =>
        minute.bind fun _ => second.bind fun _ => (logs_tracedOption dialect zone).map
  | temporalMakeInterval components =>
      simp only [children, List.forall_mem_map] at each
      rw [tracedBody]
      exact (logs_tracedComponents dialect each).map
  | temporalArithmetic timestamp operator interval =>
      simp only [children, List.forall_mem_cons] at each
      obtain ⟨timestamp, interval, -⟩ := each
      rw [tracedBody]
      -- The interval is rendered first.
      refine Logs.perm (interval.bind fun _ => timestamp.map) ?_
      simpa [Node.nestedSelect, children] using List.perm_append_comm
  | function name arguments =>
      rw [tracedBody]
      exact (logs_tracedNodes dialect each).map
  | case branches otherwise =>
      simp only [children, List.forall_mem_append, List.forall_mem_flatMap,
        List.forall_mem_cons] at each
      obtain ⟨branches, otherwise, -⟩ := each
      rw [tracedBody]
      refine Logs.perm ((logs_tracedBranches dialect fun branch member =>
        ⟨(branches branch member).1, (branches branch member).2.1⟩).bind fun _ => otherwise.map) ?_
      simp [Node.nestedSelect, children]
  | aggregate name arguments filter =>
      simp only [children, List.forall_mem_append, Option.mem_toList] at each
      rw [tracedBody]
      refine Logs.perm ((logs_tracedNodes dialect each.1).bind fun _ =>
        (logs_tracedOption dialect each.2).map) ?_
      simp [Node.nestedSelect, children]
  | window expression partitionBy orderBy frame exclusion =>
      simp only [children, List.cons_append, List.forall_mem_cons, List.forall_mem_append,
        List.forall_mem_map] at each
      obtain ⟨call, partition, orders⟩ := each
      -- The partition and the order are rendered first, the call last.
      have reordered : (partitionBy.flatMap visits ++
          ((orderBy.map (·.expression)).flatMap visits ++ visits expression.toNode)).Perm
          (visits expression.toNode ++ (partitionBy ++ orderBy.map (·.expression)).flatMap visits) := by
        rw [List.flatMap_append, ← List.append_assoc]
        exact List.perm_append_comm
      rw [tracedBody]
      simp only [tracedWindowCall_eq]
      refine Logs.perm (.ite (fun _ => .lift_bind fun _ => ?_) fun _ => ?_) reordered
      · exact (logs_tracedNodes dialect partition).bind fun _ =>
          (logs_tracedOrders dialect orders).bind fun _ => .lift_bind fun _ => call.map
      · exact (logs_tracedNodes dialect partition).bind fun _ =>
          (logs_tracedOrders dialect orders).bind fun _ => .lift_bind fun _ => call.map
  | nullableResult expression =>
      simp only [children, List.forall_mem_cons] at each
      rw [tracedBody]
      refine Logs.perm each.1 ?_
      simp [Node.nestedSelect, children]
  | jsonText value key =>
      simp only [children, List.forall_mem_cons] at each
      obtain ⟨value, key, -⟩ := each
      rw [tracedBody]
      exact Logs.lift_bind fun _ => value.bind fun _ => key.bind fun _ => .pure _
  | regexMatch value pattern insensitive =>
      simp only [children, List.forall_mem_cons] at each
      obtain ⟨value, pattern, -⟩ := each
      rw [tracedBody]
      exact Logs.lift_bind fun _ => value.bind fun _ => pattern.bind fun _ => .pure _
  | uuidCast value =>
      simp only [children, List.forall_mem_cons] at each
      rw [tracedBody]
      exact Logs.lift_bind fun _ => each.1.bind fun _ => .pure _
  | _ =>
      -- The other nodes render one to six children, in the order of `children`.
      simp only [children, List.forall_mem_cons] at each
      rw [tracedBody]
      first
      | exact each.1.bind fun _ => .pure _
      | exact each.1.bind fun _ => each.2.1.bind fun _ => .pure _
      | exact each.1.bind fun _ => each.2.1.bind fun _ => each.2.2.1.bind fun _ => .pure _
      | exact each.1.bind fun _ => each.2.1.bind fun _ => each.2.2.1.bind fun _ =>
          each.2.2.2.1.bind fun _ => .pure _
      | exact each.1.bind fun _ => each.2.1.bind fun _ => each.2.2.1.bind fun _ =>
          each.2.2.2.1.bind fun _ => each.2.2.2.2.1.bind fun _ => each.2.2.2.2.2.1.bind fun _ =>
            .pure _

/-- A call of `_compile_node` logs what `walk` yields, with the SELECTs it stops at. -/
theorem logs_tracedNode (node : Node V) : Logs (tracedNode dialect node) (visits node) := by
  induction node using children_induction with
  | step node ih =>
      rw [tracedNode, visits_eq]
      exact (Logs.note (.node node)).bind fun _ => logs_tracedBody dialect node ih

end Logging

/-! ### The walk and the renderer -/

def Visit.node? : Visit V → Option (Node V)
  | node n => some n
  | query _ => none

def Visit.query? : Visit V → Option (SelectNode V)
  | node _ => none
  | query q => some q

theorem visits_nodes (node : Node V) : (visits node).filterMap Visit.node? = walk node := by
  have single : ∀ n : Node V, n.visits.filterMap Visit.node? = [n] := by
    intro n
    rw [Node.visits]
    cases n.nestedSelect <;> rfl
  rw [visits, List.filterMap_flatMap]
  simp [single]

theorem visits_queries (node : Node V) : (visits node).filterMap Visit.query? = subqueries node := by
  have single : ∀ n : Node V, n.visits.filterMap Visit.query? = n.nestedSelect.toList := by
    intro n
    rw [Node.visits]
    cases n.nestedSelect <;> rfl
  rw [visits, List.filterMap_flatMap, subqueries]
  simp only [single]
  exact (List.filterMap_eq_flatMap_toList _ _).symm

/-- The nodes a call of `_compile_node` renders outside nested SELECTs, and the SELECTs it enters. -/
def renderedNodes [PyObject V] (dialect : Dialect) (node : Node V) (parameters : List V) :
    List (Node V) :=
  (tracedNode dialect node parameters).2.filterMap Visit.node?

def enteredQueries [PyObject V] (dialect : Dialect) (node : Node V) (parameters : List V) :
    List (SelectNode V) :=
  (tracedNode dialect node parameters).2.filterMap Visit.query?

/-- The instrumented renderer is the renderer; what it renders is, up to order, what `walk` yields, and
the SELECTs it enters are those that the scope traversal reports, each occurrence once. A rendering
that raises renders nothing else. -/
theorem tracedNode_visits [PyObject V] (dialect : Dialect) (node : Node V) (parameters : List V) :
    (tracedNode dialect node parameters).1 = compileNode dialect node parameters ∧
      (∀ result, compileNode dialect node parameters = .ok result →
        (renderedNodes dialect node parameters).Perm (walk node) ∧
          (enteredQueries dialect node parameters).Perm (subqueries node)) ∧
      (renderedNodes dialect node parameters).Subperm (walk node) ∧
        (enteredQueries dialect node parameters).Subperm (subqueries node) := by
  have erased : (tracedNode dialect node parameters).1 = compileNode dialect node parameters :=
    congrFun (erase_tracedNode dialect node) parameters
  have logs := logs_tracedNode dialect node parameters
  unfold renderedNodes enteredQueries
  rw [← visits_nodes node, ← visits_queries node, ← erased]
  revert logs
  rcases tracedNode dialect node parameters with ⟨error | result, log⟩
  · intro some
    exact ⟨rfl, nofun, subperm_filterMap _ some, subperm_filterMap _ some⟩
  · intro all
    have whole : log.Perm (visits node) := all
    exact ⟨rfl, fun _ _ => ⟨whole.filterMap _, whole.filterMap _⟩, (whole.filterMap _).subperm,
      (whole.filterMap _).subperm⟩

/-- `"t"."a" IN (SELECT "u"."a" FROM "u") AND "t"."b" = 2`. -/
def soughtAmong : Node Int :=
  .binary
    (.inNode (.column "t" "a")
      (.select { selections := [.column "u" "a"], fromSource := some (.table { name := "u" }) }) false)
    .and (.binary (.column "t" "b") .eq (.value 2))

theorem tracedNode_visits_soughtAmong :
    ∃ result, compileNode sqlite soughtAmong [] = .ok result ∧
      (renderedNodes sqlite soughtAmong []).Perm (walk soughtAmong) ∧
      (enteredQueries sqlite soughtAmong []).Perm (subqueries soughtAmong) := by
  have rendered : ∃ result, compileNode sqlite soughtAmong [] = .ok result := by
    simp only [soughtAmong, compileNode, compileInValues, compileSelect, compileCtes, compileNodes,
      compileFrom, compileSource, compileJoins, compileOption, compileOrders, compileCompounds]
    exact ⟨_, rfl⟩
  obtain ⟨result, done⟩ := rendered
  exact ⟨result, done, (tracedNode_visits sqlite soughtAmong []).2.1 result done⟩

end Relq
