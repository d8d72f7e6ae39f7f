/-
Module: Relq.Semantics.Evaluation
Layer: Semantics
Purpose: The value of an expression on one row. NULL is `none`. The logical operators, the checks with
  IS, CASE, COALESCE, NULLIF, EXISTS, IN and BETWEEN have their SQL meaning; what the operations
  compute from non-NULL operands, and what comes from outside the row, is left to an interpretation.
Imports: Relq.Library.ThreeValued, Relq.Syntax.Ast
Trusted boundary: human-reviewed spec
Main exports: Interpretation, evaluate
-/
import Relq.Library.ThreeValued
import Relq.Syntax.Ast

namespace Relq

open ThreeValued

/-- What a row, the bound values and the database bring to an expression: values of type `D`. -/
structure Interpretation (V D : Type) where
  column : String → String → Option D
  value : V → Option D
  ofBool : Bool → D
  /-- Whether a value counts as true where a condition is expected. -/
  holds : D → Bool
  holds_ofBool : ∀ b, holds (ofBool b) = b
  /-- Comparison of two non-NULL values. -/
  compare : BinaryOperator → D → D → Bool
  /-- What the operation at the root of an expression yields for non-NULL operands. It may be NULL: so
  are a division by zero on SQLite and a field of an infinite timestamp on PostgreSQL. -/
  operate : Node V → List D → Option D
  /-- The first column of the rows of a nested SELECT. -/
  rows : SelectNode V → List (Option D)
  /-- Values that no single row determines: aggregates, window functions and the like. -/
  outside : Node V → Option D

namespace Interpretation

variable {V D : Type} (I : Interpretation V D)

def truth (value : Option D) : Truth :=
  value.map I.holds

def ofTruth (truth : Truth) : Option D :=
  truth.map I.ofBool

@[simp] theorem truth_ofTruth (truth : Truth) : I.truth (I.ofTruth truth) = truth := by
  cases truth with
  | none => rfl
  | some b => simp [Interpretation.truth, ofTruth, I.holds_ofBool]

def compared (operator : BinaryOperator) (left right : Option D) : Truth := do
  return I.compare operator (← left) (← right)

/-- An operation that is NULL as soon as one operand is. -/
def strictly (node : Node V) (operands : List (Option D)) : Option D := do
  I.operate node (← operands.mapM id)

/-- `IN` over a list of values. -/
def member (value : Option D) (values : List (Option D)) : Truth :=
  Truth.any (values.map (I.compared .eq value))

def binary (node : Node V) (operator : BinaryOperator) (left right : Option D) : Option D :=
  match operator with
  | .and => I.ofTruth ((I.truth left).and (I.truth right))
  | .or => I.ofTruth ((I.truth left).or (I.truth right))
  | .add | .subtract | .multiply | .divide => I.strictly node [left, right]
  | .eq | .ne | .lt | .lte | .gt | .gte | .like => I.ofTruth (I.compared operator left right)

def unary (operator : UnaryOperator) (operand : Option D) : Option D :=
  match operator with
  | .isNull => some (I.ofBool operand.isNone)
  | .isNotNull => some (I.ofBool operand.isSome)
  | .isTrue => some (I.ofBool (I.truth operand == some true))
  | .isFalse => some (I.ofBool (I.truth operand == some false))
  | .isNotTrue => some (I.ofBool (I.truth operand != some true))
  | .isNotFalse => some (I.ofBool (I.truth operand != some false))
  | .not => I.ofTruth (I.truth operand).not

/-- `coalesce`, `nullif`, and the window functions, which have no value outside a window. -/
def function (node : Node V) (name : FunctionName) (arguments : List (Option D)) : Option D :=
  match name, arguments with
  | .coalesce, _ => (arguments.find? Option.isSome).join
  | .nullif, [left, right] => if I.compared .eq left right = some true then none else left
  | _, _ => I.outside node

end Interpretation

section

variable {V D : Type} (I : Interpretation V D)

mutual

def evaluate : Node V → Option D
  | .column source name => I.column source name
  | .value value => I.value value
  | .temporalClock kind => I.strictly (.temporalClock kind) []
  | .binary left operator right =>
      I.binary (.binary left operator right) operator (evaluate left) (evaluate right)
  | .unary operator operand => I.unary operator (evaluate operand)
  | .temporalMakeDate year month day =>
      I.strictly (.temporalMakeDate year month day) [evaluate year, evaluate month, evaluate day]
  | .temporalMakeTime hour minute second =>
      I.strictly (.temporalMakeTime hour minute second)
        [evaluate hour, evaluate minute, evaluate second]
  | .temporalMakeTimestamp year month day hour minute second =>
      I.strictly (.temporalMakeTimestamp year month day hour minute second)
        [evaluate year, evaluate month, evaluate day, evaluate hour, evaluate minute, evaluate second]
  | .temporalMakeTimestamptz year month day hour minute second zone =>
      I.strictly (.temporalMakeTimestamptz year month day hour minute second zone)
        ([evaluate year, evaluate month, evaluate day, evaluate hour, evaluate minute,
          evaluate second] ++ evaluateOption zone)
  | .temporalMakeInterval components =>
      I.strictly (.temporalMakeInterval components) (evaluateNamed components)
  | .temporalEpoch seconds => I.strictly (.temporalEpoch seconds) [evaluate seconds]
  | .temporalArithmetic timestamp operator interval =>
      I.strictly (.temporalArithmetic timestamp operator interval)
        [evaluate timestamp, evaluate interval]
  | .temporalDifference left right =>
      I.strictly (.temporalDifference left right) [evaluate left, evaluate right]
  | .temporalIntervalUnary interval =>
      I.strictly (.temporalIntervalUnary interval) [evaluate interval]
  | .temporalIntervalScale interval operator factor =>
      I.strictly (.temporalIntervalScale interval operator factor)
        [evaluate interval, evaluate factor]
  | .temporalTimezone expression zone =>
      I.strictly (.temporalTimezone expression zone) [evaluate expression, evaluate zone]
  | .temporalExtract field expression =>
      I.strictly (.temporalExtract field expression) [evaluate expression]
  | .temporalTrunc unit expression =>
      I.strictly (.temporalTrunc unit expression) [evaluate expression]
  | .temporalTruncTimestamptz unit expression zone =>
      I.strictly (.temporalTruncTimestamptz unit expression zone)
        [evaluate expression, evaluate zone]
  | .temporalBin stride expression origin =>
      I.strictly (.temporalBin stride expression origin)
        [evaluate stride, evaluate expression, evaluate origin]
  | .temporalAge left right => I.strictly (.temporalAge left right) [evaluate left, evaluate right]
  | .temporalJustify kind interval =>
      I.strictly (.temporalJustify kind interval) [evaluate interval]
  | .function name arguments =>
      I.function (.function name arguments) name (evaluateNodes arguments)
  | .case branches otherwise => evaluateBranches branches (evaluate otherwise)
  | .aliased expression _ => evaluate expression
  | .nullableResult expression => evaluate expression
  | .inNode expression (.nodes values) negated =>
      I.ofTruth (Truth.negatedIf negated (I.member (evaluate expression) (evaluateNodes values)))
  | .inNode expression (.select query) negated =>
      I.ofTruth (Truth.negatedIf negated (I.member (evaluate expression) (I.rows query)))
  | .between expression lower upper negated =>
      I.ofTruth (Truth.negatedIf negated
        ((I.compared .gte (evaluate expression) (evaluate lower)).and
          (I.compared .lte (evaluate expression) (evaluate upper))))
  | .scalarSubquery query => (I.rows query).head?.join
  | .exists query negated => some (I.ofBool ((I.rows query).isEmpty == negated))
  | .regexMatch value pattern insensitive =>
      I.strictly (.regexMatch value pattern insensitive) [evaluate value, evaluate pattern]
  | .uuidCast value => I.strictly (.uuidCast value) [evaluate value]
  -- OVERLAPS may know its answer although an end is NULL
  | .temporalOverlaps leftStart leftEnd rightStart rightEnd =>
      I.outside (.temporalOverlaps leftStart leftEnd rightStart rightEnd)
  | .aggregate name arguments filter => I.outside (.aggregate name arguments filter)
  | .window expression partitionBy orderBy frame exclusion =>
      I.outside (.window expression partitionBy orderBy frame exclusion)
  | .jsonText value key => I.outside (.jsonText value key)
  | .star => I.outside .star
  | .excluded source name => I.outside (.excluded source name)

def evaluateNodes : List (Node V) → List (Option D)
  | [] => []
  | node :: rest => evaluate node :: evaluateNodes rest

def evaluateOption : Option (Node V) → List (Option D)
  | none => []
  | some node => [evaluate node]

def evaluateNamed : List (String × Node V) → List (Option D)
  | [] => []
  | (_, node) :: rest => evaluate node :: evaluateNamed rest

/-- The value of the first branch whose condition is true. -/
def evaluateBranches : List (Node V × Node V) → Option D → Option D
  | [], otherwise => otherwise
  | (condition, value) :: rest, otherwise =>
      if I.truth (evaluate condition) = some true then evaluate value
      else evaluateBranches rest otherwise

end

end

end Relq
