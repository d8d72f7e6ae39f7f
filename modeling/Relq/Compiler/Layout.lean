/-
Module: Relq.Compiler.Layout
Layer: Compiler
Purpose: The text of every kind of node as a template: fixed lexemes with a hole in the place of
  each `ValueNode`. It is the renderer that would write every value inline, and it records with
  `late` the two places where `_compile_node` renders a part before another one that stands to its
  left.
Imports: Relq.Compiler.Render, Relq.Library.Templates
Trusted boundary: human-reviewed spec (the reference to which the renderer is compared)
Main exports: Layout, layoutNode, layoutSelect, layoutStatement
-/
import Relq.Compiler.Render
import Relq.Library.Templates

namespace Relq

open Templates

variable {V : Type}

/-- SQL text with a hole for every bound value. -/
abbrev Layout (V : Type) := Template Lexeme V

instance : Append (Layout V) := ⟨.append⟩

namespace Layout

/-- The text with placeholders, when `n` values were bound before. -/
abbrev sql (layout : Layout V) (n : Nat) : Text :=
  layout.text .placeholder n

/-! ### Assembly of layouts, as for texts -/

def parens (layout : Layout V) : Layout V :=
  .fixed [.symbol "("] ++ layout ++ .fixed [.symbol ")"]

def commas : List (Layout V) → Layout V
  | [] => .fixed []
  | [layout] => layout
  | layout :: rest => layout ++ .fixed [.symbol ",", .space] ++ commas rest

def spaces : List (Layout V) → Layout V
  | [] => .fixed []
  | [layout] => layout
  | layout :: rest => layout ++ .fixed [.space] ++ spaces rest

theorem commas_eq (layouts : List (Layout V)) :
    commas layouts = .separated [.symbol ",", .space] layouts := by
  fun_induction commas layouts with
  | case1 => rfl
  | case2 layout => rfl
  | case3 layout rest some_ ih =>
      rw [ih]
      cases rest with
      | nil => exact absurd rfl some_
      | cons => rfl

theorem spaces_eq (layouts : List (Layout V)) : spaces layouts = .separated [.space] layouts := by
  fun_induction spaces layouts with
  | case1 => rfl
  | case2 layout => rfl
  | case3 layout rest some_ ih =>
      rw [ih]
      cases rest with
      | nil => exact absurd rfl some_
      | cons => rfl

def call (name : String) (arguments : List (Layout V)) : Layout V :=
  .fixed [.word name] ++ parens (commas arguments)

def operation (left : Layout V) (operator : Text) (right : Layout V) : Layout V :=
  parens (left ++ .fixed ([.space] ++ operator ++ [.space]) ++ right)

/-- A keyword clause, absent when there are no items. -/
def clause (keywords : List String) (items : List (Layout V)) : List (Layout V) :=
  if items.isEmpty then [] else [.fixed (words keywords ++ [.space]) ++ commas items]

/-- A keyword clause behind a space, for one optional part. -/
def optional (keywords : List String) : Option (Layout V) → Layout V
  | none => .fixed []
  | some layout => .fixed (spaced keywords) ++ layout

/-- A keyword clause behind a space, absent when there are no items. -/
def listed (keywords : List String) (items : List (Layout V)) : Layout V :=
  if items.isEmpty then .fixed [] else .fixed (spaced keywords) ++ commas items

def castInterval (interval : Node V) (layout : Layout V) : Layout V :=
  if interval.isValue then layout ++ .fixed [.symbol "::", .word "interval"] else layout

def aggregate (name : AggregateName) (arguments : List (Layout V)) (filter : Option (Layout V)) :
    Layout V :=
  match filter with
  | none => call name.text arguments
  | some filter =>
      call name.text arguments ++ .fixed (spaced ["filter"]) ++
        parens (.fixed [.word "where", .space] ++ filter)

/-- Text that the renderer computes without binding anything, when it does not raise. -/
def plain (text : Except PyError Text) : Layout V :=
  .fixed (text.toOption.getD [])

/-- The frame clause of a window, when the renderer does not raise. -/
def frame (frame : Option WindowFrameNode) (orderCount : Nat) (exclusion : Option WindowExclusion) :
    List (Layout V) :=
  ((frameClause frame orderCount exclusion).toOption.getD []).map .fixed

end Layout

/-- `INSERT ... DEFAULT VALUES`, which takes no conflict clause. -/
def InsertSourceNode.isDefaultValues : InsertSourceNode V → Bool
  | .defaultValues => true
  | _ => false

open Layout (plain)

mutual

def layoutNode [PyObject V] (dialect : Dialect) : Node V → Layout V
  | .column source name => .fixed [.identifier source, .symbol ".", .identifier name]
  | .value value => .hole value
  | .temporalClock kind => .fixed (clockText kind)
  | .binary left operator right =>
      Layout.operation (layoutNode dialect left) [operator.lexeme] (layoutNode dialect right)
  | .temporalMakeDate year month day =>
      Layout.call "make_date"
        [layoutNode dialect year, layoutNode dialect month, layoutNode dialect day]
  | .temporalMakeTime hour minute second =>
      Layout.call "make_time"
        [layoutNode dialect hour, layoutNode dialect minute, layoutNode dialect second]
  | .temporalMakeTimestamp year month day hour minute second =>
      Layout.call "make_timestamp"
        [layoutNode dialect year, layoutNode dialect month, layoutNode dialect day,
          layoutNode dialect hour, layoutNode dialect minute, layoutNode dialect second]
  | .temporalMakeTimestamptz year month day hour minute second zone =>
      Layout.call "make_timestamptz"
        ([layoutNode dialect year, layoutNode dialect month, layoutNode dialect day,
          layoutNode dialect hour, layoutNode dialect minute, layoutNode dialect second] ++
            (layoutOption dialect zone).toList)
  | .temporalMakeInterval components =>
      Layout.call "make_interval" (layoutComponents dialect components)
  | .temporalEpoch seconds => Layout.call "to_timestamp" [layoutNode dialect seconds]
  | .temporalArithmetic timestamp operator interval =>
      Layout.parens (.late (layoutNode dialect timestamp)
        (.fixed [.space, .symbol operator.text, .space] ++
          Layout.castInterval interval (layoutNode dialect interval)))
  | .temporalDifference left right =>
      Layout.operation (layoutNode dialect left) [.symbol "-"] (layoutNode dialect right)
  | .temporalIntervalUnary interval =>
      Layout.parens (.fixed [.symbol "-"] ++ layoutNode dialect interval)
  | .temporalIntervalScale interval operator factor =>
      Layout.operation (layoutNode dialect interval) [.symbol operator.text]
        (layoutNode dialect factor)
  | .temporalTimezone expression zone =>
      Layout.operation (layoutNode dialect expression) (words ["at", "time", "zone"])
        (layoutNode dialect zone)
  | .temporalExtract field expression =>
      .fixed [.word "extract"] ++
        Layout.parens (.fixed ([.literal field] ++ spaced ["from"]) ++ layoutNode dialect expression)
  | .temporalTrunc unit expression =>
      Layout.call "date_trunc" [.fixed [.literal unit], layoutNode dialect expression]
  | .temporalTruncTimestamptz unit expression zone =>
      Layout.call "date_trunc"
        [.fixed [.literal unit], layoutNode dialect expression, layoutNode dialect zone]
  | .temporalBin stride expression origin =>
      Layout.call "date_bin"
        [Layout.castInterval stride (layoutNode dialect stride), layoutNode dialect expression,
          layoutNode dialect origin]
  | .temporalAge left right =>
      Layout.call "age" [layoutNode dialect left, layoutNode dialect right]
  | .temporalOverlaps leftStart leftEnd rightStart rightEnd =>
      Layout.operation
        (Layout.parens (Layout.commas [layoutNode dialect leftStart, layoutNode dialect leftEnd]))
        [.word "overlaps"]
        (Layout.parens (Layout.commas [layoutNode dialect rightStart, layoutNode dialect rightEnd]))
  | .temporalJustify kind interval => Layout.call kind.text [layoutNode dialect interval]
  | .unary operator operand =>
      Layout.parens (layoutNode dialect operand ++ .fixed ([.space] ++ words operator.words))
  | .function name arguments => Layout.call name.text (layoutNodes dialect arguments)
  | .case branches otherwise =>
      .fixed [.word "case", .space] ++ Layout.spaces (layoutBranches dialect branches) ++
        .fixed (spaced ["else"]) ++ layoutNode dialect otherwise ++ .fixed [.space, .word "end"]
  | .aggregate name arguments filter =>
      Layout.aggregate name (layoutNodes dialect arguments) (layoutOption dialect filter)
  | .window expression partitionBy orderBy frame exclusion =>
      .late (layoutWindowCall dialect expression)
        (.fixed (spaced ["over"]) ++ Layout.parens (Layout.spaces
          (Layout.clause ["partition", "by"] (layoutNodes dialect partitionBy) ++
            Layout.clause ["order", "by"] (layoutOrders dialect orderBy) ++
            Layout.frame frame orderBy.length exclusion)))
  | .aliased expression aliasName =>
      layoutNode dialect expression ++ .fixed (spaced ["as"] ++ [.identifier aliasName])
  | .nullableResult expression => layoutNode dialect expression
  | .star => .fixed [.symbol "*"]
  | .inNode expression values negated =>
      Layout.operation (layoutNode dialect expression)
        (words (if negated then ["not", "in"] else ["in"])) (layoutInValues dialect values)
  | .between expression lower upper negated =>
      Layout.operation (layoutNode dialect expression)
        (words (if negated then ["not", "between"] else ["between"]))
        (layoutNode dialect lower ++ .fixed (spaced ["and"]) ++ layoutNode dialect upper)
  | .scalarSubquery query => Layout.parens (layoutSelect dialect query)
  | .exists query negated =>
      .fixed (words (if negated then ["not", "exists"] else ["exists"]) ++ [.space]) ++
        Layout.parens (layoutSelect dialect query)
  | .excluded _ name => .fixed [.word "excluded", .symbol ".", .identifier name]
  | .jsonText value key =>
      Layout.operation (layoutNode dialect value) [.symbol "->>"] (layoutNode dialect key)
  | .regexMatch value pattern insensitive =>
      Layout.operation (layoutNode dialect value)
        [.symbol (if insensitive then "~*" else "~")] (layoutNode dialect pattern)
  | .uuidCast value =>
      .fixed [.word "cast"] ++
        Layout.parens (layoutNode dialect value ++ .fixed (spaced ["as"] ++ [.word "uuid"]))

def layoutWindowCall [PyObject V] (dialect : Dialect) : WindowCall V → Layout V
  | .aggregate name arguments filter =>
      Layout.aggregate name (layoutNodes dialect arguments) (layoutOption dialect filter)
  | .function name arguments => Layout.call name.text (layoutNodes dialect arguments)

def layoutInValues [PyObject V] (dialect : Dialect) : InValues V → Layout V
  | .nodes values => Layout.parens (Layout.commas (layoutNodes dialect values))
  | .select query => Layout.parens (layoutSelect dialect query)

def layoutNodes [PyObject V] (dialect : Dialect) : List (Node V) → List (Layout V)
  | [] => []
  | node :: rest => layoutNode dialect node :: layoutNodes dialect rest

def layoutOption [PyObject V] (dialect : Dialect) : Option (Node V) → Option (Layout V)
  | none => none
  | some node => some (layoutNode dialect node)

def layoutComponents [PyObject V] (dialect : Dialect) : List (String × Node V) → List (Layout V)
  | [] => []
  | (name, value) :: rest =>
      (.fixed [.word name, .space, .symbol "=>", .space] ++ layoutNode dialect value) ::
        layoutComponents dialect rest

def layoutBranches [PyObject V] (dialect : Dialect) : List (Node V × Node V) → List (Layout V)
  | [] => []
  | (condition, value) :: rest =>
      (.fixed [.word "when", .space] ++ layoutNode dialect condition ++ .fixed (spaced ["then"]) ++
        layoutNode dialect value) :: layoutBranches dialect rest

def layoutOrders [PyObject V] (dialect : Dialect) : List (OrderNode V) → List (Layout V)
  | [] => []
  | ⟨expression, direction, nulls⟩ :: rest =>
      (layoutNode dialect expression ++ .fixed (orderText [] direction nulls)) ::
        layoutOrders dialect rest

def layoutSource [PyObject V] (dialect : Dialect) : SourceNode V → Layout V
  | .table table => plain (compileTable dialect table)
  | .cte name => .fixed [.identifier name]
  | .derived query aliasName =>
      Layout.parens (layoutSelect dialect query) ++ .fixed (spaced ["as"] ++ [.identifier aliasName])

def layoutFrom [PyObject V] (dialect : Dialect) : Option (SourceNode V) → Layout V
  | none => .fixed []
  | some source => layoutSource dialect source

def layoutJoins [PyObject V] (dialect : Dialect) : List (JoinNode V) → Layout V
  | [] => .fixed []
  | ⟨source, predicate, kind⟩ :: rest =>
      if kind != "cross" then
        .fixed (spaced [kind, "join"]) ++ layoutSource dialect source ++ .fixed (spaced ["on"]) ++
          layoutNode dialect predicate ++ layoutJoins dialect rest
      else
        .fixed (spaced [kind, "join"]) ++ layoutSource dialect source ++ layoutJoins dialect rest

def layoutCtes [PyObject V] (dialect : Dialect) : List (CteNode V) → List (Layout V)
  | [] => []
  | ⟨name, query, _, materialized⟩ :: rest =>
      (.fixed ([.identifier name] ++
        if materialized then spaced ["as"] ++ [.word "materialized", .space] else spaced ["as"]) ++
          Layout.parens (layoutStatement dialect query)) :: layoutCtes dialect rest

def layoutCompounds [PyObject V] (dialect : Dialect) : List (CompoundNode V) → Layout V
  | [] => .fixed []
  | ⟨operator, query⟩ :: rest =>
      .fixed (spaced operator.words) ++ layoutSelect dialect query ++ layoutCompounds dialect rest

def layoutSelect [PyObject V] (dialect : Dialect) : SelectNode V → Layout V
  | ⟨selections, fromSource, joins, whereNode, groupBy, having, orderBy, limit, offset, distinct,
      ctes, compounds, locks⟩ =>
      (if ctes.isEmpty then .fixed [] else
        .fixed (words (if ctes.any (·.recursive) then ["with", "recursive"] else ["with"]) ++
          [.space]) ++ Layout.commas (layoutCtes dialect ctes) ++ .fixed [.space]) ++
      .fixed (words (if distinct then ["select", "distinct"] else ["select"]) ++ [.space]) ++
      Layout.commas (layoutNodes dialect selections) ++
      .fixed (spaced ["from"]) ++ layoutFrom dialect fromSource ++ layoutJoins dialect joins ++
      Layout.optional ["where"] (layoutOption dialect whereNode) ++
      Layout.listed ["group", "by"] (layoutNodes dialect groupBy) ++
      Layout.optional ["having"] (layoutOption dialect having) ++
      Layout.listed ["order", "by"] (layoutOrders dialect orderBy) ++
      .fixed (limitText dialect limit offset ++ locks.flatMap lockText) ++
      layoutCompounds dialect compounds

def layoutAssignments [PyObject V] (dialect : Dialect) : List (String × Node V) → List (Layout V)
  | [] => []
  | (column, value) :: rest =>
      (.fixed [.identifier column, .space, .symbol "=", .space] ++ layoutNode dialect value) ::
        layoutAssignments dialect rest

def layoutCells [PyObject V] (dialect : Dialect) : List (String × Node V) → List (Layout V)
  | [] => []
  | (_, value) :: rest => layoutNode dialect value :: layoutCells dialect rest

def layoutRows [PyObject V] (dialect : Dialect) : List (List (String × Node V)) → List (Layout V)
  | [] => []
  | row :: rest => Layout.parens (Layout.commas (layoutCells dialect row)) :: layoutRows dialect rest

/-- The target columns and the body of an INSERT. -/
def layoutInsertSource [PyObject V] (dialect : Dialect) : InsertSourceNode V → Layout V
  | .values values =>
      .fixed ([.space] ++ parens (identifiers (values.map (·.1))) ++ [.space, .word "values", .space]) ++
        Layout.parens (Layout.commas (layoutCells dialect values))
  | .rows rows =>
      .fixed ([.space] ++ parens (identifiers ((rows.headD []).map (·.1))) ++
        [.space, .word "values", .space]) ++ Layout.commas (layoutRows dialect rows)
  | .select query columns =>
      .fixed ([.space] ++ parens (identifiers columns) ++ [.space]) ++ layoutSelect dialect query
  | .defaultValues => .fixed (.space :: words ["default", "values"])

def layoutInsertSourceOption [PyObject V] (dialect : Dialect) :
    Option (InsertSourceNode V) → Layout V
  | none => .fixed []
  | some source => layoutInsertSource dialect source

def layoutConflict [PyObject V] (dialect : Dialect) : ConflictNode V → Layout V
  | ⟨columns, action, updateValues, targetWhere, updateWhere⟩ =>
      .fixed (.space :: words ["on", "conflict"]) ++ plain (conflictTarget columns targetWhere) ++
      if action = "nothing" then .fixed (.space :: words ["do", "nothing"])
      else .fixed (spaced ["do", "update", "set"]) ++
        Layout.commas (layoutAssignments dialect updateValues) ++
        Layout.optional ["where"] (layoutOption dialect updateWhere)

def layoutConflictOption [PyObject V] (dialect : Dialect) : Option (ConflictNode V) → Layout V
  | none => .fixed []
  | some conflict => layoutConflict dialect conflict

def layoutInsert [PyObject V] (dialect : Dialect) : InsertNode V → Layout V
  | ⟨table, source, conflict, returning⟩ =>
      .fixed (words ["insert", "into"] ++ [.space]) ++ plain (compileTable dialect table) ++
        layoutInsertSourceOption dialect source ++
        (if source.any (·.isDefaultValues) then .fixed []
          else layoutConflictOption dialect conflict) ++
        Layout.listed ["returning"] (layoutNodes dialect returning)

def layoutUpdate [PyObject V] (dialect : Dialect) : UpdateNode V → Layout V
  | ⟨table, values, whereNode, _, returning⟩ =>
      .fixed [.word "update", .space] ++ plain (compileTable dialect table) ++
        .fixed (spaced ["set"]) ++ Layout.commas (layoutAssignments dialect values) ++
        Layout.optional ["where"] (layoutOption dialect whereNode) ++
        Layout.listed ["returning"] (layoutNodes dialect returning)

def layoutDelete [PyObject V] (dialect : Dialect) : DeleteNode V → Layout V
  | ⟨table, whereNode, _, returning⟩ =>
      .fixed (words ["delete", "from"] ++ [.space]) ++ plain (compileTable dialect table) ++
        Layout.optional ["where"] (layoutOption dialect whereNode) ++
        Layout.listed ["returning"] (layoutNodes dialect returning)

def layoutStatement [PyObject V] (dialect : Dialect) : QueryNode V → Layout V
  | .select query => layoutSelect dialect query
  | .insert query => layoutInsert dialect query
  | .update query => layoutUpdate dialect query
  | .delete query => layoutDelete dialect query

end

end Relq
