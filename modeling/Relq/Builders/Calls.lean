/-
Module: Relq.Builders.Calls
Layer: Builders
Purpose: Programs over the public builders. A program holds the objects that its calls returned and can
  hand these on, so that every statement it reaches was put together by the builders
  (`expressions/core.py`, `expressions/analytics.py`, `expressions/ordering.py`,
  `expressions/relations.py`, `postgres.py`, `query.py`, `dml.py`).
Imports: Relq.Builders.Select, Relq.Builders.WindowSpec
Trusted boundary: human-reviewed spec (ExpressionCall, Call, Argument, Run)
Main exports: ExpressionCall, ExpressionCall.make, Object, Call, Call.answer, Call.arguments, Run
-/
import Relq.Builders.Select
import Relq.Builders.WindowSpec

namespace Relq

variable {V : Type}

/-! ### Expressions -/

/-- The calls that return an expression, with their arguments. An argument of type `Expression V ⊕ V` is
an expression or a Python object, which `_node` binds as a value. -/
inductive ExpressionCall (V : Type) where
  /-- A column read from a relation. -/
  | column (source name : String)
  | excluded (source name : String)
  /-- `value`; also a column read from the class of a relation, which holds `None`. -/
  | value (item : V)
  | clock (kind : ClockKind)
  | check (operator : UnaryOperator) (self : Expression V)
  | comparison (operator : BinaryOperator) (self : Expression V) (other : Expression V ⊕ V)
  | comparisonWithNone (equal : Bool) (self : Expression V)
  | inQuery (self : Expression V) (query : SelectNode V) (negated : Bool)
  | inItems (ofBool : Bool → V) (self : Expression V) (items : List (Expression V ⊕ V)) (negated : Bool)
  | between (self : Expression V) (lower upper : Expression V ⊕ V) (negated : Bool)
  /-- `self & other` and `self | other`. -/
  | combine (operator : BinaryOperator) (self other : Expression V)
  | invert (self : Expression V)
  | as (self : Expression V) (aliasName : String)
  | nullable (self : Expression V)
  /-- `add`, `subtract`, `multiply` and `divide`. -/
  | arithmetic (operator : BinaryOperator) (left : Expression V) (right : Expression V ⊕ V)
  | makeDate (year month day : Expression V ⊕ V)
  | makeTime (hour minute second : Expression V ⊕ V)
  | makeTimestamp (year month day hour minute second : Expression V ⊕ V)
  | makeTimestamptz (year month day hour minute second : Expression V ⊕ V)
      (zone : Option (Expression V ⊕ V))
  /-- With the components that are not the number zero. -/
  | makeInterval (components : List (String × (Expression V ⊕ V)))
  | toTimestamp (seconds : Expression V ⊕ V)
  | age (left right : Expression V)
  | justify (kind : JustifyKind) (interval : Expression V ⊕ V)
  /-- `add_interval` and `subtract_interval`. -/
  | shift (operator : ArithmeticOperator) (timestamp : Expression V) (delta : Expression V ⊕ V)
  /-- `date_difference`, `time_difference` and `timestamp_difference`. -/
  | difference (left right : Expression V)
  | negateInterval (interval : Expression V ⊕ V)
  /-- `multiply_interval` and `divide_interval`. -/
  | scaleInterval (operator : ScaleOperator) (interval factor : Expression V ⊕ V)
  | atTimeZone (expression : Expression V) (zone : Expression V ⊕ V)
  | extract (field : String) (expression : Expression V)
  | dateTrunc (unit : String) (expression : Expression V) (zone : Option (Expression V ⊕ V))
  | dateBin (stride : Expression V ⊕ V) (expression origin : Expression V)
  | overlaps (leftStart leftEnd rightStart rightEnd : Expression V)
  | scalar (query : SelectNode V)
  | exists (query : SelectNode V) (negated : Bool)
  | coalesce (first second : Expression V) (rest : List (Expression V))
  | nullif (left : Expression V) (right : Expression V ⊕ V)
  /-- `case_when` with its `when` calls, up to `else_` or `else_null`. -/
  | caseWhen (branches : List (Expression V × (Expression V ⊕ V))) (otherwise : Expression V ⊕ V)
  | jsonText (self : Expression V) (key : V)
  | regexMatch (self : Expression V) (pattern : Expression V ⊕ V) (insensitive : Bool)
  | castUuid (self : Expression V)
  | count (argument : Option (Expression V))
  /-- `sum`, `avg`, `min` and `max`. -/
  | aggregate (name : AggregateName) (argument : Expression V)
  | filter (self condition : Expression V)
  | over_ (self : Expression V)
  /-- `over()` on what `row_number` and its siblings return. -/
  | overFunction (name : FunctionName)
  /-- A method of `WindowSpec`. -/
  | window (self : Expression V) (method : WindowMethod V)

/-- `_window_node`. -/
def windowSpec : Node V → Option (WindowSpec V)
  | .window expression partitionBy orderBy frame exclusion =>
      some { expression, partitionBy, orderBy, frame, exclusion }
  | _ => none

namespace ExpressionCall

open Expression in
/-- The expression that a call returns, or `none` if it raises. -/
def make [PyObject V] : ExpressionCall V → Option (Expression V)
  | column source name => some (expr (.column source name))
  | excluded source name => some (expr (.excluded source name))
  | value item => some (expr (.value item))
  | clock kind => some (expr (.temporalClock kind))
  | check operator self => some (self.check operator)
  | comparison operator self other => some (self.comparison operator other)
  | comparisonWithNone equal self => some (self.comparisonWithNone equal)
  | inQuery self query negated => some (self.inQuery query negated)
  | inItems ofBool self items negated => some (self.inItems ofBool items negated)
  | between self lower upper negated => some (self.between lower upper negated)
  | combine operator self other => (self.combine operator other).toOption
  | invert self => self.invert.toOption
  | as self aliasName => if aliasName = "" then none else some (expr (.aliased self.node aliasName))
  | nullable self => some (expr (.nullableResult self.node))
  | arithmetic operator left right => some (expr (.binary left.node operator (operand right)))
  | makeDate year month day =>
      some (expr (.temporalMakeDate (operand year) (operand month) (operand day)))
  | makeTime hour minute second =>
      some (expr (.temporalMakeTime (operand hour) (operand minute) (operand second)))
  | makeTimestamp year month day hour minute second =>
      some (expr (.temporalMakeTimestamp (operand year) (operand month) (operand day) (operand hour)
        (operand minute) (operand second)))
  | makeTimestamptz year month day hour minute second zone =>
      some (expr (.temporalMakeTimestamptz (operand year) (operand month) (operand day) (operand hour)
        (operand minute) (operand second) (zone.map operand)))
  | makeInterval components =>
      some (expr (.temporalMakeInterval
        (components.map fun component => (component.1, operand component.2))))
  | toTimestamp seconds => some (expr (.temporalEpoch (operand seconds)))
  | age left right => some (expr (.temporalAge left.node right.node))
  | justify kind interval => some (expr (.temporalJustify kind (operand interval)))
  | shift operator timestamp delta =>
      some (expr (.temporalArithmetic timestamp.node operator (operand delta)))
  | difference left right => some (expr (.temporalDifference left.node right.node))
  | negateInterval interval => some (expr (.temporalIntervalUnary (operand interval)))
  | scaleInterval operator interval factor =>
      some (expr (.temporalIntervalScale (operand interval) operator (operand factor)))
  | atTimeZone expression zone => some (expr (.temporalTimezone expression.node (operand zone)))
  | extract field expression => some (expr (.temporalExtract field expression.node))
  | dateTrunc unit expression none => some (expr (.temporalTrunc unit expression.node))
  | dateTrunc unit expression (some zone) =>
      some (expr (.temporalTruncTimestamptz unit expression.node (operand zone)))
  | dateBin stride expression origin =>
      some (expr (.temporalBin (operand stride) expression.node origin.node))
  | overlaps leftStart leftEnd rightStart rightEnd =>
      some (Expression.overlaps leftStart leftEnd rightStart rightEnd)
  | scalar query => some (expr (.scalarSubquery query))
  | «exists» query negated =>
      some (if negated then Expression.notExists query else Expression.exists query)
  | coalesce first second rest =>
      some (expr (.function .coalesce (first.node :: second.node :: rest.map node)))
  | nullif left right => some (expr (.function .nullif [left.node, operand right]))
  | caseWhen branches otherwise =>
      some (expr (.case (branches.map fun branch => (branch.1.node, operand branch.2))
        (operand otherwise)))
  | jsonText self key =>
      if PyObject.view key = .str "" then none else some (expr (.jsonText self.node (.value key)))
  | regexMatch self pattern insensitive => some (Expression.regexMatch self pattern insensitive)
  | castUuid self => some (expr (.uuidCast self.node))
  | count argument =>
      some (expr (.aggregate .count [argument.elim Node.star node] none))
  | aggregate name argument => some (expr (.aggregate name [argument.node] none))
  | filter self condition =>
      match self.node with
      | .aggregate name arguments earlier =>
          some (expr (.aggregate name arguments
            (some (SelectObject.conjoin earlier condition.node))))
      | _ => none
  | over_ self =>
      match self.node with
      | .aggregate name arguments earlier =>
          some (expr (WindowSpec.node { expression := .aggregate name arguments earlier }))
      | _ => none
  | overFunction name => some (expr (WindowSpec.node { expression := .function name [] }))
  | window self method => do
      let spec ← windowSpec self.node
      let next ← (spec.apply method).toOption
      return expr next.node

/-- The expressions among operands, without the objects that become values. -/
def expressionsOf (operands : List (Expression V ⊕ V)) : List (Expression V) :=
  operands.filterMap Sum.getLeft?

/-- The expressions handed to a call. -/
def operands : ExpressionCall V → List (Expression V)
  | column .. | excluded .. | value _ | clock _ | scalar _ | «exists» .. | overFunction _ => []
  | check _ self | comparisonWithNone _ self | inQuery self _ _ | invert self | as self _
  | nullable self | jsonText self _ | castUuid self | over_ self | window self _ => [self]
  | comparison _ self other | arithmetic _ self other | shift _ self other | atTimeZone self other
  | nullif self other | regexMatch self other _ => self :: expressionsOf [other]
  | inItems _ self items _ => self :: expressionsOf items
  | between self lower upper _ => self :: expressionsOf [lower, upper]
  | combine _ self other | age self other | difference self other | filter self other => [self, other]
  | makeDate year month day => expressionsOf [year, month, day]
  | makeTime hour minute second => expressionsOf [hour, minute, second]
  | makeTimestamp year month day hour minute second =>
      expressionsOf [year, month, day, hour, minute, second]
  | makeTimestamptz year month day hour minute second zone =>
      expressionsOf ([year, month, day, hour, minute, second] ++ zone.toList)
  | makeInterval components => expressionsOf (components.map (·.2))
  | toTimestamp single | justify _ single | negateInterval single => expressionsOf [single]
  | scaleInterval _ interval factor => expressionsOf [interval, factor]
  | extract _ expression => [expression]
  | dateTrunc _ expression zone => expression :: expressionsOf zone.toList
  | dateBin stride expression origin => expressionsOf [stride] ++ [expression, origin]
  | overlaps leftStart leftEnd rightStart rightEnd => [leftStart, leftEnd, rightStart, rightEnd]
  | coalesce first second rest => first :: second :: rest
  | caseWhen branches otherwise =>
      branches.map (·.1) ++ expressionsOf (branches.map (·.2) ++ [otherwise])
  | count argument => argument.toList
  | aggregate _ argument => [argument]

/-- The queries handed to a call. -/
def queries : ExpressionCall V → List (SelectNode V)
  | inQuery _ query _ | scalar query | «exists» query _ => [query]
  | _ => []

end ExpressionCall

/-! ### Objects and calls -/

/-- What the calls of the public builders return. -/
inductive Object (V : Type) where
  | expression (self : Expression V)
  | order (self : OrderNode V)
  /-- A table, a `CteTable` or a derived table. -/
  | source (self : SourceNode V)
  | select (self : SelectObject V)
  | dml (self : DmlObject V)

/-- The statement an object holds, where it is one. -/
def Object.statement : Object V → Option (QueryNode V)
  | .select self => some (.select self.node)
  | .dml self => self.statement
  | _ => none

/-- The public calls with their arguments. -/
inductive Call (V : Type) where
  | expression (call : ExpressionCall V)
  /-- `asc` and `desc`. -/
  | order (self : Expression V) (direction : Direction)
  /-- `nulls_first` and `nulls_last`. -/
  | nulls (self : OrderNode V) (placement : NullPlacement)
  /-- A table, with its alias if `Table.as_` gave it one. -/
  | table (node : TableSourceNode)
  | cteTable (name : String)
  /-- `SelectQuery.as_`. -/
  | derived (query : SelectObject V) (relation : CteRelation) (aliasName : String)
  | select (first : Option (Node V)) (rest : List (Option (Node V))) (named : Bool)
  | selectAllFrom (columns : List (Node V))
  | selectMethod (query : SelectObject V) (method : SelectMethod V)
  | insertInto (table : TableObject)
  | update (table : TableObject)
  | deleteFrom (table : TableObject)
  | dmlMethod (object : DmlObject V) (method : DmlMethod V)

/-- The object that a call returns, or `none` if it raises. -/
def Call.answer [PyObject V] : Call V → Option (Object V)
  | .expression call => call.make.map .expression
  | .order self direction => some (.order { expression := self.node, direction })
  | .nulls self placement =>
      if self.nulls.isNone then some (.order { self with nulls := some placement }) else none
  | .table node => some (.source (.table node))
  | .cteTable name => if name = "" then none else some (.source (.cte name))
  | .derived query relation aliasName => (query.derived relation aliasName).toOption.map .source
  | .select first rest named => (selectExpressions first rest named).toOption.map .select
  | .selectAllFrom columns => (Relq.selectAllFrom columns).toOption.map .select
  | .selectMethod query method => (query.call method).toOption.map .select
  | .insertInto relation => some (.dml (.insert (Relq.insertInto relation)))
  | .update relation => some (.dml (.update (updateTable relation)))
  | .deleteFrom relation => some (.dml (.delete (Relq.deleteFrom relation)))
  | .dmlMethod object method => (object.call method).toOption.map .dml

/-! ### What a program hands on -/

/-- An argument of a call: an object, or the node of one. -/
inductive Argument (V : Type) where
  | object (object : Object V)
  | expression (node : Node V)
  | order (node : OrderNode V)
  | source (node : SourceNode V)
  | query (query : QueryNode V)

/-- The argument is this object, or its node. -/
def Argument.HeldBy : Argument V → Object V → Prop
  | .object self, held => held = self
  | .expression node, held => ∃ self, held = .expression self ∧ self.node = node
  | .order node, held => held = .order node
  | .source node, held => held = .source node
  | .query statement, held => held.statement = some statement

/-- The expressions among the values of a payload. -/
def Payload.expressions (entries : Payload V) : List (Expression V) :=
  ExpressionCall.expressionsOf (entries.items.map (·.2))

def WindowMethod.arguments : WindowMethod V → List (Argument V)
  | .partitionBy expressions => expressions.map .expression
  | .orderBy orders => orders.map .order
  | .between .. | .exclude _ => []

def ExpressionCall.arguments (call : ExpressionCall V) : List (Argument V) :=
  call.operands.map (.object ∘ .expression) ++ call.queries.map (.query ∘ .select) ++
    match call with
    | .window _ method => method.arguments
    | _ => []

def SelectMethod.arguments : SelectMethod V → List (Argument V)
  | .from source | .crossJoin source => [.source source]
  | .join _ source on => [.source source, .expression on]
  | .where predicate | .having predicate => [.expression predicate]
  | .groupBy expressions => expressions.map .expression
  | .orderBy orders => orders.map .order
  | .compound _ other => [.query (.select other)]
  | .with _ query _ | .withRecursive _ query | .withModifying _ query _ => [.query query.node]
  | .distinct | .limit _ | .offset _ | .lock .. | .wait _ | .decode _ => []

def DmlMethod.arguments : DmlMethod V → List (Argument V)
  | .values entries | .doUpdate entries => entries.expressions.map (.object ∘ .expression)
  | .valuesMany rows => (rows.flatMap Payload.expressions).map (.object ∘ .expression)
  | .fromSelect select _ => [.query (.select select)]
  | .where predicate => [.expression predicate]
  | .returning first rest _ => ((first :: rest).filterMap id).map .expression
  | .returningAllFrom columns => columns.map .expression
  | .defaultValues | .onConflict _ | .doNothing | .allRows | .decode _ => []

def Call.arguments : Call V → List (Argument V)
  | .expression call => call.arguments
  | .order self _ => [.object (.expression self)]
  | .nulls self _ => [.order self]
  | .derived query _ _ => [.object (.select query)]
  | .select first rest _ => ((first :: rest).filterMap id).map .expression
  | .selectAllFrom columns => columns.map .expression
  | .selectMethod query method => .object (.select query) :: method.arguments
  | .dmlMethod object method => .object (.dml object) :: method.arguments
  | .table _ | .cteTable _ | .insertInto _ | .update _ | .deleteFrom _ => []

/-- Every argument of a call is an object of the program. -/
def Call.Available (call : Call V) (objects : List (Object V)) : Prop :=
  ∀ argument ∈ call.arguments, ∃ object ∈ objects, argument.HeldBy object

/-- A program, with the calls it made and the objects it has. A call that raises adds none. -/
inductive Run [PyObject V] : List (Call V) → List (Object V) → Prop where
  | start : Run [] []
  | answered {calls : List (Call V)} {objects : List (Object V)} {object : Object V}
      (run : Run calls objects) (call : Call V) (available : call.Available objects)
      (answer : call.answer = some object) : Run (calls ++ [call]) (object :: objects)
  | raised {calls : List (Call V)} {objects : List (Object V)} (run : Run calls objects)
      (call : Call V) (available : call.Available objects) (error : call.answer = none) :
      Run (calls ++ [call]) objects

end Relq
