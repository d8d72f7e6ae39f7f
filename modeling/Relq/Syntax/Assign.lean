/-
Module: Relq.Syntax.Assign
Layer: Syntax
Purpose: Statements over a shape. A shape is a statement whose `ValueNode`s hold labels; `assign`
  puts a payload in the place of each label. The predicates of conflict targets, which are written
  as constants, get their payloads from an assignment of their own, so two statements that are equal
  except for the payloads bound outside them are two assignments of one shape.
Imports: Relq.Syntax.Ast
Trusted boundary: human-reviewed spec
Main exports: QueryNode.assign
-/
import Relq.Syntax.Ast

namespace Relq

variable {P V : Type}

mutual

/-- Put `value label` in the place of each label, and `target label` inside conflict targets. -/
def Node.assign (value target : P → V) : Node P → Node V
  | .column source name => .column source name
  | .value label => .value (value label)
  | .temporalClock kind => .temporalClock kind
  | .binary left operator right =>
      .binary (left.assign value target) operator (right.assign value target)
  | .temporalMakeDate year month day =>
      .temporalMakeDate (year.assign value target) (month.assign value target)
        (day.assign value target)
  | .temporalMakeTime hour minute second =>
      .temporalMakeTime (hour.assign value target) (minute.assign value target)
        (second.assign value target)
  | .temporalMakeTimestamp year month day hour minute second =>
      .temporalMakeTimestamp (year.assign value target) (month.assign value target)
        (day.assign value target) (hour.assign value target) (minute.assign value target)
        (second.assign value target)
  | .temporalMakeTimestamptz year month day hour minute second zone =>
      .temporalMakeTimestamptz (year.assign value target) (month.assign value target)
        (day.assign value target) (hour.assign value target) (minute.assign value target)
        (second.assign value target) (assignOption value target zone)
  | .temporalMakeInterval components => .temporalMakeInterval (assignNamed value target components)
  | .temporalEpoch seconds => .temporalEpoch (seconds.assign value target)
  | .temporalArithmetic timestamp operator interval =>
      .temporalArithmetic (timestamp.assign value target) operator (interval.assign value target)
  | .temporalDifference left right =>
      .temporalDifference (left.assign value target) (right.assign value target)
  | .temporalIntervalUnary interval => .temporalIntervalUnary (interval.assign value target)
  | .temporalIntervalScale interval operator factor =>
      .temporalIntervalScale (interval.assign value target) operator (factor.assign value target)
  | .temporalTimezone expression zone =>
      .temporalTimezone (expression.assign value target) (zone.assign value target)
  | .temporalExtract field expression => .temporalExtract field (expression.assign value target)
  | .temporalTrunc unit expression => .temporalTrunc unit (expression.assign value target)
  | .temporalTruncTimestamptz unit expression zone =>
      .temporalTruncTimestamptz unit (expression.assign value target) (zone.assign value target)
  | .temporalBin stride expression origin =>
      .temporalBin (stride.assign value target) (expression.assign value target)
        (origin.assign value target)
  | .temporalAge left right => .temporalAge (left.assign value target) (right.assign value target)
  | .temporalOverlaps leftStart leftEnd rightStart rightEnd =>
      .temporalOverlaps (leftStart.assign value target) (leftEnd.assign value target)
        (rightStart.assign value target) (rightEnd.assign value target)
  | .temporalJustify kind interval => .temporalJustify kind (interval.assign value target)
  | .unary operator operand => .unary operator (operand.assign value target)
  | .function name arguments => .function name (assignNodes value target arguments)
  | .case branches otherwise =>
      .case (assignBranches value target branches) (otherwise.assign value target)
  | .aggregate name arguments filter =>
      .aggregate name (assignNodes value target arguments) (assignOption value target filter)
  | .window expression partitionBy orderBy frame exclusion =>
      .window (expression.assign value target) (assignNodes value target partitionBy)
        (assignOrders value target orderBy) frame exclusion
  | .aliased expression aliasName => .aliased (expression.assign value target) aliasName
  | .nullableResult expression => .nullableResult (expression.assign value target)
  | .star => .star
  | .inNode expression values negated =>
      .inNode (expression.assign value target) (values.assign value target) negated
  | .between expression lower upper negated =>
      .between (expression.assign value target) (lower.assign value target)
        (upper.assign value target) negated
  | .scalarSubquery query => .scalarSubquery (query.assign value target)
  | .exists query negated => .exists (query.assign value target) negated
  | .excluded source name => .excluded source name
  | .jsonText value_ key => .jsonText (value_.assign value target) (key.assign value target)
  | .regexMatch value_ pattern insensitive =>
      .regexMatch (value_.assign value target) (pattern.assign value target) insensitive
  | .uuidCast value_ => .uuidCast (value_.assign value target)

def WindowCall.assign (value target : P → V) : WindowCall P → WindowCall V
  | .aggregate name arguments filter =>
      .aggregate name (assignNodes value target arguments) (assignOption value target filter)
  | .function name arguments => .function name (assignNodes value target arguments)

def InValues.assign (value target : P → V) : InValues P → InValues V
  | .nodes values => .nodes (assignNodes value target values)
  | .select query => .select (query.assign value target)

def assignNodes (value target : P → V) : List (Node P) → List (Node V)
  | [] => []
  | node :: rest => node.assign value target :: assignNodes value target rest

def assignOption (value target : P → V) : Option (Node P) → Option (Node V)
  | none => none
  | some node => some (node.assign value target)

def assignNamed (value target : P → V) : List (String × Node P) → List (String × Node V)
  | [] => []
  | (name, node) :: rest => (name, node.assign value target) :: assignNamed value target rest

def assignRows (value target : P → V) :
    List (List (String × Node P)) → List (List (String × Node V))
  | [] => []
  | row :: rest => assignNamed value target row :: assignRows value target rest

def assignBranches (value target : P → V) : List (Node P × Node P) → List (Node V × Node V)
  | [] => []
  | (condition, node) :: rest =>
      (condition.assign value target, node.assign value target) :: assignBranches value target rest

def assignOrders (value target : P → V) : List (OrderNode P) → List (OrderNode V)
  | [] => []
  | ⟨expression, direction, nulls⟩ :: rest =>
      ⟨expression.assign value target, direction, nulls⟩ :: assignOrders value target rest

def SourceNode.assign (value target : P → V) : SourceNode P → SourceNode V
  | .table table => .table table
  | .derived query aliasName => .derived (query.assign value target) aliasName
  | .cte name => .cte name

def assignSource (value target : P → V) : Option (SourceNode P) → Option (SourceNode V)
  | none => none
  | some source => some (source.assign value target)

def assignJoins (value target : P → V) : List (JoinNode P) → List (JoinNode V)
  | [] => []
  | ⟨source, predicate, kind⟩ :: rest =>
      ⟨source.assign value target, predicate.assign value target, kind⟩ ::
        assignJoins value target rest

def assignCtes (value target : P → V) : List (CteNode P) → List (CteNode V)
  | [] => []
  | ⟨name, query, recursive, materialized⟩ :: rest =>
      ⟨name, query.assign value target, recursive, materialized⟩ :: assignCtes value target rest

def assignCompounds (value target : P → V) : List (CompoundNode P) → List (CompoundNode V)
  | [] => []
  | ⟨operator, query⟩ :: rest =>
      ⟨operator, query.assign value target⟩ :: assignCompounds value target rest

def SelectNode.assign (value target : P → V) : SelectNode P → SelectNode V
  | ⟨selections, fromSource, joins, whereNode, groupBy, having, orderBy, limit, offset, distinct,
      ctes, compounds, locks⟩ =>
      ⟨assignNodes value target selections, assignSource value target fromSource,
        assignJoins value target joins, assignOption value target whereNode,
        assignNodes value target groupBy, assignOption value target having,
        assignOrders value target orderBy, limit, offset, distinct, assignCtes value target ctes,
        assignCompounds value target compounds, locks⟩

def InsertSourceNode.assign (value target : P → V) : InsertSourceNode P → InsertSourceNode V
  | .values values => .values (assignNamed value target values)
  | .rows rows => .rows (assignRows value target rows)
  | .select query columns => .select (query.assign value target) columns
  | .defaultValues => .defaultValues

def assignInsertSource (value target : P → V) :
    Option (InsertSourceNode P) → Option (InsertSourceNode V)
  | none => none
  | some source => some (source.assign value target)

/-- The predicate of the target takes its payloads from `target` alone. -/
def ConflictNode.assign (value target : P → V) : ConflictNode P → ConflictNode V
  | ⟨columns, action, updateValues, targetWhere, updateWhere⟩ =>
      ⟨columns, action, assignNamed value target updateValues, assignOption target target targetWhere,
        assignOption value target updateWhere⟩

def assignConflict (value target : P → V) : Option (ConflictNode P) → Option (ConflictNode V)
  | none => none
  | some conflict => some (conflict.assign value target)

def QueryNode.assign (value target : P → V) : QueryNode P → QueryNode V
  | .select query => .select (query.assign value target)
  | .insert ⟨table, source, conflict, returning⟩ =>
      .insert ⟨table, assignInsertSource value target source, assignConflict value target conflict,
        assignNodes value target returning⟩
  | .update ⟨table, values, whereNode, bounded, returning⟩ =>
      .update ⟨table, assignNamed value target values, assignOption value target whereNode, bounded,
        assignNodes value target returning⟩
  | .delete ⟨table, whereNode, bounded, returning⟩ =>
      .delete ⟨table, assignOption value target whereNode, bounded,
        assignNodes value target returning⟩

end

end Relq
