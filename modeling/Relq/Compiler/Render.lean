/-
Module: Relq.Compiler.Render
Layer: Compiler
Purpose: Recursive SQL rendering (`_compiler/_render.py`). The renderer threads one parameter list
  through the whole tree, so each function runs in `Renderer`, and its statements stand in the order
  in which the source evaluates them, which is not always the order of the text they return. The
  `outer_sources` argument of the source is only passed along and never read, so it has no
  counterpart here.
Imports: Relq.Compiler.Model
Trusted boundary: human-reviewed spec
Main exports: Renderer, compileNode, compileSelect, compileInsert, compileWindowCall_eq,
  renderStatement, renderQuery
-/
import Relq.Compiler.Model

namespace Relq

variable {V : Type}

/-- A rendering step: it reads and extends the shared parameter list and may raise. -/
abbrev Renderer (V : Type) := StateT (List V) (Except PyError)

/-- `parameters.append(value)`, and the placeholder for it. -/
def bindValue (value : V) : Renderer V Text := do
  modify (· ++ [value])
  return [.placeholder (← get).length]

/-- The rendering of a clock: the four names without parentheses, otherwise a call. -/
def clockText : ClockKind → Text
  | .currentDate => [.word "current_date"]
  | .currentTime => [.word "current_time"]
  | .localTime => [.word "localtime"]
  | .localTimestamp => [.word "localtimestamp"]
  | .transactionTimestamp => call "transaction_timestamp" []
  | .statementTimestamp => call "statement_timestamp" []
  | .clockTimestamp => call "clock_timestamp" []

/-- `isinstance(node, ValueNode)`. -/
def Node.isValue : Node V → Bool
  | .value _ => true
  | _ => false

/-- `interval_sql += "::interval"` for a bound interval. -/
def castInterval (interval : Node V) (text : Text) : Text :=
  if interval.isValue then text ++ [.symbol "::", .word "interval"] else text

def requirePostgresExpression (dialect : Dialect) (name : String) : Except PyError Unit :=
  if dialect.supportsPostgresExpressions then .ok ()
  else .error (.valueError "{} does not support the PostgreSQL-only {} expression"
    [dialect.name, name])

def frameHasOffset (frame : WindowFrameNode) : Bool :=
  frame.start.amount.isSome || frame.end.amount.isSome

def compileFrameBoundary (boundary : FrameBoundaryNode) : Text :=
  match boundary.amount with
  | none => words boundary.kind.words
  | some amount => [.number amount, .space] ++ words boundary.kind.words

def compileWindowFrame (frame : WindowFrameNode) (orderCount : Nat)
    (exclusion : Option WindowExclusion) : Except PyError Text :=
  if frame.kind = .range && frameHasOffset frame && orderCount != 1 then
    .error (.valueError
      "RANGE frames with an offset require exactly one window order_by expression" [])
  else
    let text := [.word frame.kind.text, .space, .word "between", .space] ++
      compileFrameBoundary frame.start ++ spaced ["and"] ++ compileFrameBoundary frame.end
    match exclusion with
    | none => .ok text
    | some exclusion => .ok (text ++ spaced ["exclude"] ++ words exclusion.words)

/-- The frame clause of a window, if it has one. -/
def frameClause (frame : Option WindowFrameNode) (orderCount : Nat)
    (exclusion : Option WindowExclusion) : Except PyError (List Text) :=
  match frame with
  | none => .ok []
  | some frame => do return [← compileWindowFrame frame orderCount exclusion]

def aggregateText (name : AggregateName) (arguments : List Text) (filter : Option Text) : Text :=
  match filter with
  | none => call name.text arguments
  | some filter =>
      call name.text arguments ++ spaced ["filter"] ++ parens ([.word "where", .space] ++ filter)

/-- `nodes` under a keyword clause, absent when there are none. -/
def clause (keywords : List String) (items : List Text) : List Text :=
  if items.isEmpty then [] else [words keywords ++ [.space] ++ commas items]

def orderText (expression : Text) (direction : Direction) (nulls : Option NullPlacement) : Text :=
  match nulls with
  | none => expression ++ [.space, .word direction.text]
  | some placement =>
      expression ++ [.space, .word direction.text] ++ spaced ["nulls"] ++ [.word placement.text]

def compileTable (dialect : Dialect) (table : TableSourceNode) : Except PyError Text := do
  let sql : Text ← match table.schema with
    | none => pure [.identifier table.name]
    | some schema =>
        if dialect.supportsSchemaQualifiedTables then
          pure [.identifier schema, .symbol ".", .identifier table.name]
        else
          .error (.valueError
            "{} does not support schema-qualified tables; {}.{} cannot be compiled for it"
            [dialect.name, schema, table.name])
  match table.aliasName with
  | none => return sql
  | some aliasName => return sql ++ spaced ["as"] ++ [.identifier aliasName]

def identifiers (names : List String) : Text :=
  commas (names.map fun name => [.identifier name])

def limitText (dialect : Dialect) (limit offset : Option Int) : Text :=
  (match limit with
    | some limit => spaced ["limit"] ++ [.number limit]
    | none =>
        if offset.isSome && dialect.offsetRequiresLimit then spaced ["limit"] ++ [.number (-1)]
        else []) ++
  (match offset with
    | some offset => spaced ["offset"] ++ [.number offset]
    | none => [])

def lockText (lock : LockClauseNode) : Text :=
  spaced ["for"] ++ words lock.strength.words ++
  (if lock.of.isEmpty then [] else spaced ["of"] ++ identifiers (lock.of.map (·.reference))) ++
  (match lock.wait with
    | none => []
    | some wait => .space :: words wait.words)

/-! ### Constants of arbiter predicates -/

def constant [PyObject V] (value : V) : Except PyError Text :=
  match PyObject.view value with
  | .none => .ok [.word "null"]
  | .bool value => .ok [.word (if value then "true" else "false")]
  | .int value => .ok [.number value]
  | .str value =>
      if value.contains '\x00' then
        .error (.valueError "a conflict-target predicate text constant cannot contain NUL" [])
      else .ok [.escaped value]
  | _ => .error (.valueError
      "a conflict-target predicate constant must be text, an integer, a boolean, or None: {}" [])

def indexPredicateBinary (operator : BinaryOperator) : Bool :=
  operator ∈ [.eq, .ne, .lt, .lte, .gt, .gte, .and, .or]

def indexPredicateUnary (operator : UnaryOperator) : Bool :=
  operator ∈ [.isNull, .isNotNull, .isTrue, .isFalse, .isNotTrue, .isNotFalse]

def indexPredicateError : PyError :=
  .valueError ("a conflict-target predicate must repeat a partial index predicate using only " ++
    "columns, text/integer/boolean/NULL constants, comparisons, IN, BETWEEN, " ++
    "IS checks, AND, and OR: {}") []

mutual

/-- A conflict arbiter's predicate, with constants and never parameters. -/
def compileIndexPredicate [PyObject V] : Node V → Except PyError Text
  | .column source name => .ok [.identifier source, .symbol ".", .identifier name]
  | .value value => constant value
  | .binary left operator right =>
      if indexPredicateBinary operator then do
        let left ← compileIndexPredicate left
        let right ← compileIndexPredicate right
        return operation left [operator.lexeme] right
      else .error indexPredicateError
  | .unary operator operand =>
      if indexPredicateUnary operator then do
        let operand ← compileIndexPredicate operand
        return parens (operand ++ [.space] ++ words operator.words)
      else .error indexPredicateError
  | .inNode expression (.nodes values) negated => do
      let items ← compileIndexPredicates values
      let expression ← compileIndexPredicate expression
      return operation expression (words (if negated then ["not", "in"] else ["in"]))
        (parens (commas items))
  | .between expression lower upper negated => do
      let expression ← compileIndexPredicate expression
      let lower ← compileIndexPredicate lower
      let upper ← compileIndexPredicate upper
      return operation expression (words (if negated then ["not", "between"] else ["between"]))
        (lower ++ spaced ["and"] ++ upper)
  | _ => .error indexPredicateError

def compileIndexPredicates [PyObject V] : List (Node V) → Except PyError (List Text)
  | [] => .ok []
  | node :: rest => do
      let text ← compileIndexPredicate node
      let texts ← compileIndexPredicates rest
      return text :: texts

end

/-- The columns of a conflict target and its arbiter predicate. -/
def conflictTarget [PyObject V] (columns : List String) (targetWhere : Option (Node V)) :
    Except PyError Text :=
  let columnsText := if columns.isEmpty then [] else .space :: parens (identifiers columns)
  match targetWhere with
  | none => .ok columnsText
  | some predicate =>
      if columns.isEmpty then
        .error (.assertionError "a conflict arbiter predicate requires target columns")
      else do
        let text ← compileIndexPredicate predicate
        return columnsText ++ spaced ["where"] ++ text

def returningError (dialect : Dialect) : PyError :=
  .valueError "{} does not support RETURNING" [dialect.name]

mutual

def compileNode [PyObject V] (dialect : Dialect) : Node V → Renderer V Text
  | .column source name => pure [.identifier source, .symbol ".", .identifier name]
  | .value value => bindValue value
  | .temporalClock kind => pure (clockText kind)
  | .binary left operator right => do
      let left ← compileNode dialect left
      let right ← compileNode dialect right
      return operation left [operator.lexeme] right
  | .temporalMakeDate year month day => do
      let year ← compileNode dialect year
      let month ← compileNode dialect month
      let day ← compileNode dialect day
      return call "make_date" [year, month, day]
  | .temporalMakeTime hour minute second => do
      let hour ← compileNode dialect hour
      let minute ← compileNode dialect minute
      let second ← compileNode dialect second
      return call "make_time" [hour, minute, second]
  | .temporalMakeTimestamp year month day hour minute second => do
      let year ← compileNode dialect year
      let month ← compileNode dialect month
      let day ← compileNode dialect day
      let hour ← compileNode dialect hour
      let minute ← compileNode dialect minute
      let second ← compileNode dialect second
      return call "make_timestamp" [year, month, day, hour, minute, second]
  | .temporalMakeTimestamptz year month day hour minute second zone => do
      let year ← compileNode dialect year
      let month ← compileNode dialect month
      let day ← compileNode dialect day
      let hour ← compileNode dialect hour
      let minute ← compileNode dialect minute
      let second ← compileNode dialect second
      let zone ← compileOption dialect zone
      return call "make_timestamptz" ([year, month, day, hour, minute, second] ++ zone.toList)
  | .temporalMakeInterval components => do
      let components ← compileComponents dialect components
      return call "make_interval" components
  | .temporalEpoch seconds => do
      let seconds ← compileNode dialect seconds
      return call "to_timestamp" [seconds]
  | .temporalArithmetic timestamp operator interval => do
      -- The interval is rendered first, although it stands second in the text.
      let intervalSql ← compileNode dialect interval
      let timestamp ← compileNode dialect timestamp
      return operation timestamp [.symbol operator.text] (castInterval interval intervalSql)
  | .temporalDifference left right => do
      let left ← compileNode dialect left
      let right ← compileNode dialect right
      return operation left [.symbol "-"] right
  | .temporalIntervalUnary interval => do
      let interval ← compileNode dialect interval
      return parens (.symbol "-" :: interval)
  | .temporalIntervalScale interval operator factor => do
      let interval ← compileNode dialect interval
      let factor ← compileNode dialect factor
      return operation interval [.symbol operator.text] factor
  | .temporalTimezone expression zone => do
      let expression ← compileNode dialect expression
      let zone ← compileNode dialect zone
      return operation expression (words ["at", "time", "zone"]) zone
  | .temporalExtract field expression => do
      let expression ← compileNode dialect expression
      return .word "extract" :: parens ([.literal field] ++ spaced ["from"] ++ expression)
  | .temporalTrunc unit expression => do
      let expression ← compileNode dialect expression
      return call "date_trunc" [[.literal unit], expression]
  | .temporalTruncTimestamptz unit expression zone => do
      let expression ← compileNode dialect expression
      let zone ← compileNode dialect zone
      return call "date_trunc" [[.literal unit], expression, zone]
  | .temporalBin stride expression origin => do
      let strideSql ← compileNode dialect stride
      let expression ← compileNode dialect expression
      let origin ← compileNode dialect origin
      return call "date_bin" [castInterval stride strideSql, expression, origin]
  | .temporalAge left right => do
      let left ← compileNode dialect left
      let right ← compileNode dialect right
      return call "age" [left, right]
  | .temporalOverlaps leftStart leftEnd rightStart rightEnd => do
      let leftStart ← compileNode dialect leftStart
      let leftEnd ← compileNode dialect leftEnd
      let rightStart ← compileNode dialect rightStart
      let rightEnd ← compileNode dialect rightEnd
      return operation (parens (commas [leftStart, leftEnd])) [.word "overlaps"]
        (parens (commas [rightStart, rightEnd]))
  | .temporalJustify kind interval => do
      let interval ← compileNode dialect interval
      return call kind.text [interval]
  | .unary operator operand => do
      let operand ← compileNode dialect operand
      return parens (operand ++ [.space] ++ words operator.words)
  | .function name arguments => do
      let arguments ← compileNodes dialect arguments
      return call name.text arguments
  | .case branches otherwise => do
      let branches ← compileBranches dialect branches
      let otherwise ← compileNode dialect otherwise
      return [.word "case", .space] ++ spaces branches ++ spaced ["else"] ++ otherwise ++
        [.space, .word "end"]
  | .aggregate name arguments filter => do
      let arguments ← compileNodes dialect arguments
      let filter ← compileOption dialect filter
      return aggregateText name arguments filter
  | .window expression partitionBy orderBy frame exclusion => do
      if exclusion.isSome && frame.isNone then
        throw (.valueError "window exclusions require an explicit frame" [])
      let partition ← compileNodes dialect partitionBy
      let orders ← compileOrders dialect orderBy
      let frame ← (frameClause frame orderBy.length exclusion : Except _ _)
      -- The call is rendered last, although it stands first in the text.
      let expression ← compileWindowCall dialect expression
      let clauses := clause ["partition", "by"] partition ++ clause ["order", "by"] orders ++ frame
      return expression ++ spaced ["over"] ++ parens (spaces clauses)
  | .aliased expression aliasName => do
      let expression ← compileNode dialect expression
      return expression ++ spaced ["as"] ++ [.identifier aliasName]
  | .nullableResult expression => compileNode dialect expression
  | .star => pure [.symbol "*"]
  | .inNode expression values negated => do
      let left ← compileNode dialect expression
      let values ← compileInValues dialect values
      return operation left (words (if negated then ["not", "in"] else ["in"])) values
  | .between expression lower upper negated => do
      let expression ← compileNode dialect expression
      let lower ← compileNode dialect lower
      let upper ← compileNode dialect upper
      return operation expression (words (if negated then ["not", "between"] else ["between"]))
        (lower ++ spaced ["and"] ++ upper)
  | .scalarSubquery query => do
      let query ← compileSelect dialect query
      return parens query
  | .exists query negated => do
      let query ← compileSelect dialect query
      return words (if negated then ["not", "exists"] else ["exists"]) ++ [.space] ++ parens query
  | .excluded _ name => pure [.word "excluded", .symbol ".", .identifier name]
  | .jsonText value key => do
      requirePostgresExpression dialect "json_text()"
      let value ← compileNode dialect value
      let key ← compileNode dialect key
      return operation value [.symbol "->>"] key
  | .regexMatch value pattern insensitive => do
      requirePostgresExpression dialect "regex_match()"
      let value ← compileNode dialect value
      let pattern ← compileNode dialect pattern
      return operation value [.symbol (if insensitive then "~*" else "~")] pattern
  | .uuidCast value => do
      requirePostgresExpression dialect "cast_uuid()"
      let value ← compileNode dialect value
      return .word "cast" :: parens (value ++ spaced ["as"] ++ [.word "uuid"])
termination_by node => 2 * sizeOf node
decreasing_by all_goals simp +arith

def compileWindowCall [PyObject V] (dialect : Dialect) : WindowCall V → Renderer V Text
  | .aggregate name arguments filter => do
      let arguments ← compileNodes dialect arguments
      let filter ← compileOption dialect filter
      return aggregateText name arguments filter
  | .function name arguments => do
      let arguments ← compileNodes dialect arguments
      return call name.text arguments
termination_by node => 2 * sizeOf node
decreasing_by all_goals simp +arith

def compileInValues [PyObject V] (dialect : Dialect) : InValues V → Renderer V Text
  | .nodes values => do
      let values ← compileNodes dialect values
      return parens (commas values)
  | .select query => do
      let query ← compileSelect dialect query
      return parens query
termination_by node => 2 * sizeOf node
decreasing_by all_goals simp +arith

def compileNodes [PyObject V] (dialect : Dialect) : List (Node V) → Renderer V (List Text)
  | [] => pure []
  | node :: rest => do
      let text ← compileNode dialect node
      let texts ← compileNodes dialect rest
      return text :: texts
termination_by node => 2 * sizeOf node
decreasing_by all_goals simp +arith

def compileOption [PyObject V] (dialect : Dialect) : Option (Node V) → Renderer V (Option Text)
  | none => pure none
  | some node => do
      let text ← compileNode dialect node
      return some text
termination_by node => 2 * sizeOf node
decreasing_by all_goals simp +arith

/-- `name => value` arguments of `make_interval`. -/
def compileComponents [PyObject V] (dialect : Dialect) :
    List (String × Node V) → Renderer V (List Text)
  | [] => pure []
  | (name, value) :: rest => do
      let value ← compileNode dialect value
      let texts ← compileComponents dialect rest
      return ([.word name, .space, .symbol "=>", .space] ++ value) :: texts
termination_by node => 2 * sizeOf node
decreasing_by all_goals simp +arith

def compileBranches [PyObject V] (dialect : Dialect) :
    List (Node V × Node V) → Renderer V (List Text)
  | [] => pure []
  | (condition, value) :: rest => do
      let condition ← compileNode dialect condition
      let value ← compileNode dialect value
      let texts ← compileBranches dialect rest
      return ([.word "when", .space] ++ condition ++ spaced ["then"] ++ value) :: texts
termination_by node => 2 * sizeOf node
decreasing_by all_goals simp +arith

def compileOrders [PyObject V] (dialect : Dialect) : List (OrderNode V) → Renderer V (List Text)
  | [] => pure []
  | ⟨expression, direction, nulls⟩ :: rest => do
      let expression ← compileNode dialect expression
      let texts ← compileOrders dialect rest
      return orderText expression direction nulls :: texts
termination_by node => 2 * sizeOf node
decreasing_by all_goals simp +arith

def compileSource [PyObject V] (dialect : Dialect) : SourceNode V → Renderer V Text
  | .table table => compileTable dialect table
  | .cte name => pure [.identifier name]
  | .derived query aliasName => do
      let query ← compileSelect dialect query
      return parens query ++ spaced ["as"] ++ [.identifier aliasName]
termination_by node => 2 * sizeOf node
decreasing_by all_goals simp +arith

def compileFrom [PyObject V] (dialect : Dialect) : Option (SourceNode V) → Renderer V Text
  | none => throw (.assertionError "attempted to render an unvalidated SELECT")
  | some source => compileSource dialect source
termination_by node => 2 * sizeOf node
decreasing_by all_goals simp +arith

def compileJoins [PyObject V] (dialect : Dialect) : List (JoinNode V) → Renderer V Text
  | [] => pure []
  | ⟨source, predicate, kind⟩ :: rest => do
      let source ← compileSource dialect source
      if kind != "cross" then
        let predicate ← compileNode dialect predicate
        let texts ← compileJoins dialect rest
        return spaced [kind, "join"] ++ source ++ spaced ["on"] ++ predicate ++ texts
      else
        let texts ← compileJoins dialect rest
        return spaced [kind, "join"] ++ source ++ texts
termination_by node => 2 * sizeOf node
decreasing_by all_goals simp +arith

/-- The entries of a WITH clause. -/
def compileCtes [PyObject V] (dialect : Dialect) : List (CteNode V) → Renderer V (List Text)
  | [] => pure []
  | ⟨name, query, _, materialized⟩ :: rest => do
      let body ← compileCteBody dialect query
      let texts ← compileCtes dialect rest
      return ([.identifier name] ++
        (if materialized then spaced ["as"] ++ [.word "materialized", .space] else spaced ["as"]) ++
        parens body) :: texts
termination_by node => 2 * sizeOf node
decreasing_by all_goals simp +arith

def compileCteBody [PyObject V] (dialect : Dialect) : QueryNode V → Renderer V Text
  | .select query => compileSelect dialect query
  | .insert query =>
      if dialect.supportsDataModifyingCtes then compileInsert dialect query
      else throw (.valueError "{} does not support data-modifying common table expressions"
        [dialect.name])
  | .update query =>
      if dialect.supportsDataModifyingCtes then compileUpdate dialect query
      else throw (.valueError "{} does not support data-modifying common table expressions"
        [dialect.name])
  | .delete query =>
      if dialect.supportsDataModifyingCtes then compileDelete dialect query
      else throw (.valueError "{} does not support data-modifying common table expressions"
        [dialect.name])
termination_by node => 2 * sizeOf node
decreasing_by all_goals simp +arith

def compileCompounds [PyObject V] (dialect : Dialect) : List (CompoundNode V) → Renderer V Text
  | [] => pure []
  | ⟨operator, query⟩ :: rest => do
      let query ← compileSelect dialect query
      let texts ← compileCompounds dialect rest
      return spaced operator.words ++ query ++ texts
termination_by node => 2 * sizeOf node
decreasing_by all_goals simp +arith

def compileSelect [PyObject V] (dialect : Dialect) : SelectNode V → Renderer V Text
  | ⟨selections, fromSource, joins, whereNode, groupBy, having, orderBy, limit, offset, distinct,
      ctes, compounds, locks⟩ => do
      if fromSource.isNone then
        throw (.assertionError "attempted to render an unvalidated SELECT")
      let compiledCtes ← compileCtes dialect ctes
      let keyword := if ctes.any (·.recursive) then ["with", "recursive"] else ["with"]
      let pre := if ctes.isEmpty then [] else
        words keyword ++ [.space] ++ commas compiledCtes ++ [.space]
      let selections ← compileNodes dialect selections
      let source ← compileFrom dialect fromSource
      let joins ← compileJoins dialect joins
      let whereText ← compileOption dialect whereNode
      let groupBy ← compileNodes dialect groupBy
      let having ← compileOption dialect having
      let orderBy ← compileOrders dialect orderBy
      let compounds ← compileCompounds dialect compounds
      return pre ++ (words (if distinct then ["select", "distinct"] else ["select"]) ++ [.space] ++
        commas selections ++ spaced ["from"] ++ source ++ joins ++
        (match whereText with
          | none => []
          | some text => spaced ["where"] ++ text) ++
        (if groupBy.isEmpty then [] else spaced ["group", "by"] ++ commas groupBy) ++
        (match having with
          | none => []
          | some text => spaced ["having"] ++ text) ++
        (if orderBy.isEmpty then [] else spaced ["order", "by"] ++ commas orderBy) ++
        limitText dialect limit offset ++ locks.flatMap lockText ++ compounds)
termination_by node => 2 * sizeOf node
decreasing_by all_goals simp +arith

/-- `"column" = value` pairs of an UPDATE. -/
def compileAssignments [PyObject V] (dialect : Dialect) :
    List (String × Node V) → Renderer V (List Text)
  | [] => pure []
  | (column, value) :: rest => do
      let value ← compileNode dialect value
      let texts ← compileAssignments dialect rest
      return ([.identifier column, .space, .symbol "=", .space] ++ value) :: texts
termination_by node => 2 * sizeOf node
decreasing_by all_goals simp +arith

/-- The values of one VALUES row. -/
def compileCells [PyObject V] (dialect : Dialect) :
    List (String × Node V) → Renderer V (List Text)
  | [] => pure []
  | (_, value) :: rest => do
      let value ← compileNode dialect value
      let texts ← compileCells dialect rest
      return value :: texts
termination_by node => 2 * sizeOf node
decreasing_by all_goals simp +arith

def compileRows [PyObject V] (dialect : Dialect) :
    List (List (String × Node V)) → Renderer V (List Text)
  | [] => pure []
  | row :: rest => do
      let cells ← compileCells dialect row
      let texts ← compileRows dialect rest
      return parens (commas cells) :: texts
termination_by node => 2 * sizeOf node
decreasing_by all_goals simp +arith

/-- Target columns and body of an INSERT that does not use DEFAULT VALUES. -/
def compileInsertSource [PyObject V] (dialect : Dialect) :
    InsertSourceNode V → Renderer V (List String × Text)
  | .values values => do
      let cells ← compileCells dialect values
      return (values.map (·.1), [.word "values", .space] ++ parens (commas cells))
  | .rows rows => do
      match rows.head? with
      | none => throw .indexError
      | some first =>
        let texts ← compileRows dialect rows
        return (first.map (·.1), [.word "values", .space] ++ commas texts)
  | .select query columns => do
      let query ← compileSelect dialect query
      return (columns, query)
  | .defaultValues => return ([], words ["default", "values"])
termination_by node => 2 * sizeOf node
decreasing_by all_goals simp +arith

def compileReturning [PyObject V] (dialect : Dialect) (returning : List (Node V)) :
    Renderer V Text :=
  if returning.isEmpty then pure []
  else if !dialect.supportsReturning then throw (returningError dialect)
  else do
    let texts ← compileNodes dialect returning
    return spaced ["returning"] ++ commas texts
termination_by 2 * sizeOf returning + 1
decreasing_by all_goals omega

def compileConflict [PyObject V] (dialect : Dialect) : ConflictNode V → Renderer V Text
  | ⟨columns, action, updateValues, targetWhere, updateWhere⟩ => do
      let target ← (conflictTarget columns targetWhere : Except _ _)
      if action = "nothing" then
        if updateWhere.isSome then
          throw (.assertionError "ON CONFLICT DO NOTHING cannot carry an update predicate")
        return .space :: words ["on", "conflict"] ++ target ++ .space :: words ["do", "nothing"]
      else if action = "update" then
        if updateValues.isEmpty then
          throw (.valueError "ON CONFLICT DO UPDATE requires at least one assignment" [])
        let assignments ← compileAssignments dialect updateValues
        let updateWhere ← compileOption dialect updateWhere
        return .space :: words ["on", "conflict"] ++ target ++ spaced ["do", "update", "set"] ++
          commas assignments ++
          (match updateWhere with
            | none => []
            | some text => spaced ["where"] ++ text)
      else throw (.valueError "unsupported conflict action: {}" [action])
termination_by node => 2 * sizeOf node
decreasing_by all_goals simp +arith

def compileConflictOption [PyObject V] (dialect : Dialect) :
    Option (ConflictNode V) → Renderer V Text
  | none => pure []
  | some conflict => compileConflict dialect conflict
termination_by node => 2 * sizeOf node
decreasing_by all_goals simp +arith

def compileInsert [PyObject V] (dialect : Dialect) : InsertNode V → Renderer V Text
  | ⟨table, source, conflict, returning⟩ =>
      match source with
      | none => throw (.assertionError "attempted to render an INSERT without a source")
      | some .defaultValues => do
          let table ← (compileTable dialect table : Except _ _)
          let returning ← compileReturning dialect returning
          return words ["insert", "into"] ++ [.space] ++ table ++
            .space :: words ["default", "values"] ++ returning
      | some source => do
          let (columns, body) ← compileInsertSource dialect source
          let table ← (compileTable dialect table : Except _ _)
          let conflict ← compileConflictOption dialect conflict
          let returning ← compileReturning dialect returning
          return words ["insert", "into"] ++ [.space] ++ table ++ [.space] ++
            parens (identifiers columns) ++ [.space] ++ body ++ conflict ++ returning
termination_by node => 2 * sizeOf node
decreasing_by all_goals simp +arith

def compileUpdate [PyObject V] (dialect : Dialect) : UpdateNode V → Renderer V Text
  | ⟨table, values, whereNode, _, returning⟩ => do
      let assignments ← compileAssignments dialect values
      let table ← (compileTable dialect table : Except _ _)
      let whereText ← compileOption dialect whereNode
      let returning ← compileReturning dialect returning
      return [.word "update", .space] ++ table ++ spaced ["set"] ++ commas assignments ++
        (match whereText with
          | none => []
          | some text => spaced ["where"] ++ text) ++ returning
termination_by node => 2 * sizeOf node
decreasing_by all_goals simp +arith

def compileDelete [PyObject V] (dialect : Dialect) : DeleteNode V → Renderer V Text
  | ⟨table, whereNode, _, returning⟩ => do
      let table ← (compileTable dialect table : Except _ _)
      let whereText ← compileOption dialect whereNode
      let returning ← compileReturning dialect returning
      return words ["delete", "from"] ++ [.space] ++ table ++
        (match whereText with
          | none => []
          | some text => spaced ["where"] ++ text) ++ returning

termination_by node => 2 * sizeOf node
decreasing_by all_goals simp +arith
end

/-- The call of a window is rendered as the node it is. -/
theorem compileWindowCall_eq [PyObject V] (dialect : Dialect) (call : WindowCall V) :
    compileWindowCall dialect call = compileNode dialect call.toNode := by
  cases call with
  | aggregate name arguments filter => rw [compileWindowCall, WindowCall.toNode, compileNode]
  | function name arguments => rw [compileWindowCall, WindowCall.toNode, compileNode]

def renderStatement [PyObject V] (dialect : Dialect) : QueryNode V → Renderer V Text
  | .select query => compileSelect dialect query
  | .insert query => compileInsert dialect query
  | .update query => compileUpdate dialect query
  | .delete query => compileDelete dialect query

def renderQuery [PyObject V] (node : QueryNode V) (dialect : Dialect) :
    Except PyError (CompiledQuery V) := do
  let (text, parameters) ← (renderStatement dialect node).run []
  match dialect.maxParameters with
  | none => return ⟨text, parameters⟩
  | some ceiling =>
      if parameters.length > ceiling then
        .error (.valueError "{} supports at most {} parameters per statement; this query has {}"
          [dialect.name, toString ceiling, toString parameters.length])
      else return ⟨text, parameters⟩

end Relq
