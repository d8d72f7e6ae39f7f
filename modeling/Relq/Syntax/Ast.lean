/-
Module: Relq.Syntax.Ast
Layer: Syntax
Purpose: The private immutable SQL syntax tree, one constructor or structure for each node class of
  `_ast.py`. The type of bound values is a parameter: a `ValueNode` holds any Python object, and
  the compiler only ever asks the questions collected in `PyObject` about it.
Imports: Relq.Syntax.Vocabulary
Trusted boundary: human-reviewed spec
Main exports: PyObject, Node, SourceNode, SelectNode, InsertNode, UpdateNode, DeleteNode, QueryNode
-/
import Relq.Syntax.Vocabulary

namespace Relq

/-- What the compiler can see of a bound Python object without looking inside it. -/
inductive PyView where
  | none
  | bool (value : Bool)
  | int (value : Int)
  | str (value : String)
  | interval (months days microseconds : Int)
  | other
deriving DecidableEq, Repr

/-- Python objects as the compiler uses them. Two objects compare equal with `==` exactly when their
`canonical` representatives coincide, so `1`, `True` and `1.0` may share one; `hashable` says
whether `hash()` accepts the object. -/
class PyObject (V : Type) where
  canonical : V → V
  hashable : V → Bool
  view : V → PyView

/-- Python integers. -/
instance : PyObject Int where
  canonical value := value
  hashable _ := true
  view value := .int value

/-- A stored relation, optionally qualified by the schema that owns it. -/
structure TableSourceNode where
  name : String
  aliasName : Option String := none
  schema : Option String := none
deriving DecidableEq, Repr

/-- `self.alias or self.name`: an empty alias counts as absent. -/
def TableSourceNode.reference (table : TableSourceNode) : String :=
  match table.aliasName with
  | some aliasName => if aliasName = "" then table.name else aliasName
  | none => table.name

structure FrameBoundaryNode where
  kind : BoundaryKind
  amount : Option Int := none
deriving DecidableEq, Repr

structure WindowFrameNode where
  kind : FrameKind
  start : FrameBoundaryNode
  «end» : FrameBoundaryNode
deriving DecidableEq, Repr

structure LockClauseNode where
  strength : LockStrength
  of : List TableSourceNode := []
  wait : Option LockWait := none
deriving DecidableEq, Repr

mutual

/-- Scalar expressions. -/
inductive Node (V : Type) where
  | column (source name : String)
  | value (value : V)
  | temporalClock (kind : ClockKind)
  | binary (left : Node V) (operator : BinaryOperator) (right : Node V)
  | temporalMakeDate (year month day : Node V)
  | temporalMakeTime (hour minute second : Node V)
  | temporalMakeTimestamp (year month day hour minute second : Node V)
  | temporalMakeTimestamptz (year month day hour minute second : Node V)
      (zone : Option (Node V))
  | temporalMakeInterval (components : List (String × Node V))
  | temporalEpoch (seconds : Node V)
  | temporalArithmetic (timestamp : Node V) (operator : ArithmeticOperator) (interval : Node V)
  | temporalDifference (left right : Node V)
  | temporalIntervalUnary (interval : Node V)
  | temporalIntervalScale (interval : Node V) (operator : ScaleOperator) (factor : Node V)
  | temporalTimezone (expression zone : Node V)
  | temporalExtract (field : String) (expression : Node V)
  | temporalTrunc (unit : String) (expression : Node V)
  | temporalTruncTimestamptz (unit : String) (expression zone : Node V)
  | temporalBin (stride expression origin : Node V)
  | temporalAge (left right : Node V)
  | temporalOverlaps (leftStart leftEnd rightStart rightEnd : Node V)
  | temporalJustify (kind : JustifyKind) (interval : Node V)
  | unary (operator : UnaryOperator) (operand : Node V)
  | function (name : FunctionName) (arguments : List (Node V))
  | case (branches : List (Node V × Node V)) (otherwise : Node V)
  | aggregate (name : AggregateName) (arguments : List (Node V)) (filter : Option (Node V))
  | window (expression : WindowCall V) (partitionBy : List (Node V))
      (orderBy : List (OrderNode V)) (frame : Option WindowFrameNode)
      (exclusion : Option WindowExclusion)
  | aliased (expression : Node V) (aliasName : String)
  | nullableResult (expression : Node V)
  | star
  | inNode (expression : Node V) (values : InValues V) (negated : Bool)
  | between (expression lower upper : Node V) (negated : Bool)
  | scalarSubquery (query : SelectNode V)
  | exists (query : SelectNode V) (negated : Bool)
  | excluded (source name : String)
  | jsonText (value key : Node V)
  | regexMatch (value pattern : Node V) (insensitive : Bool)
  | uuidCast (value : Node V)

/-- `AggregateNode | FunctionNode`, the only expressions `WindowNode` takes. -/
inductive WindowCall (V : Type) where
  | aggregate (name : AggregateName) (arguments : List (Node V)) (filter : Option (Node V))
  | function (name : FunctionName) (arguments : List (Node V))

/-- `tuple[Node, ...] | SelectNode`, the right side of `InNode`. -/
inductive InValues (V : Type) where
  | nodes (values : List (Node V))
  | select (query : SelectNode V)

structure OrderNode (V : Type) where
  expression : Node V
  direction : Direction
  nulls : Option NullPlacement := none

inductive SourceNode (V : Type) where
  | table (table : TableSourceNode)
  | derived (query : SelectNode V) (aliasName : String)
  | cte (name : String)

structure JoinNode (V : Type) where
  source : SourceNode V
  predicate : Node V
  kind : String

/-- One `WITH` binding. -/
structure CteNode (V : Type) where
  name : String
  query : QueryNode V
  recursive : Bool := false
  materialized : Bool := false

structure CompoundNode (V : Type) where
  operator : CompoundOperator
  query : SelectNode V

structure SelectNode (V : Type) where
  selections : List (Node V)
  fromSource : Option (SourceNode V) := none
  joins : List (JoinNode V) := []
  whereNode : Option (Node V) := none
  groupBy : List (Node V) := []
  having : Option (Node V) := none
  orderBy : List (OrderNode V) := []
  limit : Option Int := none
  offset : Option Int := none
  distinct : Bool := false
  ctes : List (CteNode V) := []
  compounds : List (CompoundNode V) := []
  locks : List LockClauseNode := []

inductive InsertSourceNode (V : Type) where
  | values (values : List (String × Node V))
  | rows (rows : List (List (String × Node V)))
  | select (query : SelectNode V) (columns : List String)
  | defaultValues

/-- An `ON CONFLICT` clause and its two independent predicate slots. -/
structure ConflictNode (V : Type) where
  columns : List String
  action : String
  updateValues : List (String × Node V) := []
  targetWhere : Option (Node V) := none
  updateWhere : Option (Node V) := none

structure InsertNode (V : Type) where
  table : TableSourceNode
  source : Option (InsertSourceNode V) := none
  conflict : Option (ConflictNode V) := none
  returning : List (Node V) := []

structure UpdateNode (V : Type) where
  table : TableSourceNode
  values : List (String × Node V)
  whereNode : Option (Node V) := none
  bounded : Bool := false
  returning : List (Node V) := []

structure DeleteNode (V : Type) where
  table : TableSourceNode
  whereNode : Option (Node V) := none
  bounded : Bool := false
  returning : List (Node V) := []

inductive QueryNode (V : Type) where
  | select (query : SelectNode V)
  | insert (query : InsertNode V)
  | update (query : UpdateNode V)
  | delete (query : DeleteNode V)

end

variable {V : Type}

/-- The name other clauses use for a relation. -/
def SourceNode.reference : SourceNode V → String
  | .table relation => relation.reference
  | .derived _ aliasName => aliasName
  | .cte name => name

/-- A window's call, as the expression node it is. -/
def WindowCall.toNode : WindowCall V → Node V
  | .aggregate name arguments filter => .aggregate name arguments filter
  | .function name arguments => .function name arguments

/-- `(node.from_source, *(join.source for join in node.joins))`, without an absent FROM. -/
def SelectNode.sources (node : SelectNode V) : List (SourceNode V) :=
  node.fromSource.toList ++ node.joins.map (·.source)

end Relq
