/-
Module: Relq.Syntax.Vocabulary
Layer: Syntax
Purpose: The closed token vocabulary of the query AST. Every enumeration lists exactly the tokens
  the public builders can place in the corresponding node field; relq has no caller-supplied
  operator, function name or frame keyword. Fields whose tokens the compiler checks again at run
  time (join kinds, conflict actions, extract fields, truncation units, interval components) stay
  strings in the AST.
Imports: none
Trusted boundary: human-reviewed spec
Main exports: BinaryOperator, UnaryOperator, FunctionName, AggregateName, ClockKind,
  CompoundOperator, WindowExclusion
-/

namespace Relq

/-- Operators of `BinaryNode`. -/
inductive BinaryOperator where
  | eq | ne | lt | lte | gt | gte | like
  | add | subtract | multiply | divide
  | and | or
deriving DecidableEq, Repr

/-- The SQL spelling of a binary operator. -/
def BinaryOperator.text : BinaryOperator → String
  | .eq => "="
  | .ne => "<>"
  | .lt => "<"
  | .lte => "<="
  | .gt => ">"
  | .gte => ">="
  | .like => "like"
  | .add => "+"
  | .subtract => "-"
  | .multiply => "*"
  | .divide => "/"
  | .and => "and"
  | .or => "or"

/-- Operators of `UnaryNode`. -/
inductive UnaryOperator where
  | isNull | isNotNull | isTrue | isFalse | isNotTrue | isNotFalse | not
deriving DecidableEq, Repr

/-- The words of a unary operator, in order. -/
def UnaryOperator.words : UnaryOperator → List String
  | .isNull => ["is", "null"]
  | .isNotNull => ["is", "not", "null"]
  | .isTrue => ["is", "true"]
  | .isFalse => ["is", "false"]
  | .isNotTrue => ["is", "not", "true"]
  | .isNotFalse => ["is", "not", "false"]
  | .not => ["not"]

/-- Names of `FunctionNode`: the scalar functions and the window functions. -/
inductive FunctionName where
  | coalesce | nullif
  | rowNumber | rank | denseRank | percentRank | cumeDist
deriving DecidableEq, Repr

def FunctionName.text : FunctionName → String
  | .coalesce => "coalesce"
  | .nullif => "nullif"
  | .rowNumber => "row_number"
  | .rank => "rank"
  | .denseRank => "dense_rank"
  | .percentRank => "percent_rank"
  | .cumeDist => "cume_dist"

/-- Names of `AggregateNode`. -/
inductive AggregateName where
  | count | sum | avg | min | max
deriving DecidableEq, Repr

def AggregateName.text : AggregateName → String
  | .count => "count"
  | .sum => "sum"
  | .avg => "avg"
  | .min => "min"
  | .max => "max"

/-- The clocks of `TemporalClockNode`. -/
inductive ClockKind where
  | transactionTimestamp | statementTimestamp | clockTimestamp
  | currentDate | currentTime | localTime | localTimestamp
deriving DecidableEq, Repr

/-- The sign of `TemporalArithmeticNode`. -/
inductive ArithmeticOperator where
  | plus | minus
deriving DecidableEq, Repr

def ArithmeticOperator.text : ArithmeticOperator → String
  | .plus => "+"
  | .minus => "-"

/-- The operator of `TemporalIntervalScaleNode`. -/
inductive ScaleOperator where
  | times | divided
deriving DecidableEq, Repr

def ScaleOperator.text : ScaleOperator → String
  | .times => "*"
  | .divided => "/"

/-- The functions of `TemporalJustifyNode`. -/
inductive JustifyKind where
  | days | hours | interval
deriving DecidableEq, Repr

def JustifyKind.text : JustifyKind → String
  | .days => "justify_days"
  | .hours => "justify_hours"
  | .interval => "justify_interval"

inductive Direction where
  | asc | desc
deriving DecidableEq, Repr

def Direction.text : Direction → String
  | .asc => "asc"
  | .desc => "desc"

inductive NullPlacement where
  | first | last
deriving DecidableEq, Repr

def NullPlacement.text : NullPlacement → String
  | .first => "first"
  | .last => "last"

inductive FrameKind where
  | rows | range | groups
deriving DecidableEq, Repr

def FrameKind.text : FrameKind → String
  | .rows => "rows"
  | .range => "range"
  | .groups => "groups"

inductive BoundaryKind where
  | unboundedPreceding | preceding | currentRow | following | unboundedFollowing
deriving DecidableEq, Repr

def BoundaryKind.words : BoundaryKind → List String
  | .unboundedPreceding => ["unbounded", "preceding"]
  | .preceding => ["preceding"]
  | .currentRow => ["current", "row"]
  | .following => ["following"]
  | .unboundedFollowing => ["unbounded", "following"]

inductive WindowExclusion where
  | noOthers | currentRow | group | ties
deriving DecidableEq, Repr

def WindowExclusion.words : WindowExclusion → List String
  | .noOthers => ["no", "others"]
  | .currentRow => ["current", "row"]
  | .group => ["group"]
  | .ties => ["ties"]

/-- Set operators between the arms of a compound query. -/
inductive CompoundOperator where
  | union | unionAll | intersect | except
deriving DecidableEq, Repr

def CompoundOperator.words : CompoundOperator → List String
  | .union => ["union"]
  | .unionAll => ["union", "all"]
  | .intersect => ["intersect"]
  | .except => ["except"]

inductive LockStrength where
  | update | noKeyUpdate | share | keyShare
deriving DecidableEq, Repr

def LockStrength.words : LockStrength → List String
  | .update => ["update"]
  | .noKeyUpdate => ["no", "key", "update"]
  | .share => ["share"]
  | .keyShare => ["key", "share"]

inductive LockWait where
  | nowait | skipLocked
deriving DecidableEq, Repr

def LockWait.words : LockWait → List String
  | .nowait => ["nowait"]
  | .skipLocked => ["skip", "locked"]

end Relq
