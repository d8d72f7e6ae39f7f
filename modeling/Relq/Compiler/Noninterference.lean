/-
Module: Relq.Compiler.Noninterference
Layer: Compiler
Purpose: Bound values never reach SQL text. The layout of a statement is the layout of its shape with
  the payloads in the holes, so one text and one list of positions serve every assignment.
Imports: Relq.Compiler.LayoutSound, Relq.Compiler.Validation, Relq.Syntax.Assign
Trusted boundary: none (fully proved)
Main exports: layoutStatement_assign, boundValues_noninterference
-/
import Relq.Compiler.LayoutSound
import Relq.Compiler.Validation
import Relq.Syntax.Assign

namespace Relq

open Templates

section

variable {P V : Type} (f : P → V)

/-! ### Assembly commutes with the payloads -/

namespace Layout

@[simp] theorem map_fixed (text : Text) : (Template.fixed text : Layout P).map f = .fixed text := rfl

@[simp] theorem map_hole (label : P) : (Template.hole label : Layout P).map f = .hole (f label) := rfl

@[simp] theorem map_late (first second : Layout P) :
    (Template.late first second : Layout P).map f = .late (first.map f) (second.map f) := rfl

@[simp] theorem map_append (first second : Layout P) :
    (first ++ second).map f = first.map f ++ second.map f := rfl

@[simp] theorem map_parens (layout : Layout P) : (parens layout).map f = parens (layout.map f) := rfl

@[simp] theorem map_commas (layouts : List (Layout P)) :
    (commas layouts).map f = commas (layouts.map (·.map f)) := by
  rw [commas_eq, commas_eq, Template.map_separated]

@[simp] theorem map_spaces (layouts : List (Layout P)) :
    (spaces layouts).map f = spaces (layouts.map (·.map f)) := by
  rw [spaces_eq, spaces_eq, Template.map_separated]

@[simp] theorem map_call (name : String) (arguments : List (Layout P)) :
    (call name arguments).map f = call name (arguments.map (·.map f)) := by
  simp [call]

@[simp] theorem map_operation (left : Layout P) (operator : Text) (right : Layout P) :
    (operation left operator right).map f = operation (left.map f) operator (right.map f) := rfl

@[simp] theorem map_clause (keywords : List String) (items : List (Layout P)) :
    (clause keywords items).map (·.map f) = clause keywords (items.map (·.map f)) := by
  cases items <;> simp [clause]

@[simp] theorem map_optional (keywords : List String) (slot : Option (Layout P)) :
    (optional keywords slot).map f = optional keywords (slot.map (·.map f)) := by
  cases slot <;> rfl

@[simp] theorem map_listed (keywords : List String) (items : List (Layout P)) :
    (listed keywords items).map f = listed keywords (items.map (·.map f)) := by
  cases items <;> simp [listed]

@[simp] theorem map_aggregate (name : AggregateName) (arguments : List (Layout P))
    (filter : Option (Layout P)) :
    (aggregate name arguments filter).map f =
      aggregate name (arguments.map (·.map f)) (filter.map (·.map f)) := by
  cases filter <;> simp [aggregate]

@[simp] theorem map_frame (frame_ : Option WindowFrameNode) (orderCount : Nat)
    (exclusion : Option WindowExclusion) :
    (frame frame_ orderCount exclusion : List (Layout P)).map (·.map f) =
      frame frame_ orderCount exclusion := by
  simp [frame, Function.comp_def]

@[simp] theorem map_plain (text : Except PyError Text) :
    (plain text : Layout P).map f = plain text := rfl

end Layout

end

/-! ### Conflict targets -/

section

variable {P V : Type} [PyObject P] [PyObject V] {target : P → V}

/-- A payload is seen as its label is, which only conflict targets depend on. -/
def SameView (target : P → V) : Prop :=
  ∀ label, PyObject.view (target label) = PyObject.view label

mutual

theorem indexPredicate_assign (sameView : SameView target) : (node : Node P) →
    compileIndexPredicate (node.assign target target) = compileIndexPredicate node
  | .column _ _ => by rw [Node.assign, compileIndexPredicate, compileIndexPredicate]
  | .value label => by
      rw [Node.assign, compileIndexPredicate, compileIndexPredicate, constant, constant, sameView]
  | .binary left operator right => by
      rw [Node.assign, compileIndexPredicate, compileIndexPredicate,
        indexPredicate_assign sameView left, indexPredicate_assign sameView right]
  | .unary operator operand => by
      rw [Node.assign, compileIndexPredicate, compileIndexPredicate,
        indexPredicate_assign sameView operand]
  | .inNode expression (.nodes values) negated => by
      rw [Node.assign, InValues.assign, compileIndexPredicate, compileIndexPredicate,
        indexPredicate_assign sameView expression, indexPredicates_assign sameView values]
  | .between expression lower upper negated => by
      rw [Node.assign, compileIndexPredicate, compileIndexPredicate,
        indexPredicate_assign sameView expression, indexPredicate_assign sameView lower,
        indexPredicate_assign sameView upper]
  | .temporalClock _ | .temporalMakeDate _ _ _ | .temporalMakeTime _ _ _
  | .temporalMakeTimestamp _ _ _ _ _ _ | .temporalMakeTimestamptz _ _ _ _ _ _ _
  | .temporalMakeInterval _ | .temporalEpoch _ | .temporalArithmetic _ _ _
  | .temporalDifference _ _ | .temporalIntervalUnary _ | .temporalIntervalScale _ _ _
  | .temporalTimezone _ _ | .temporalExtract _ _ | .temporalTrunc _ _
  | .temporalTruncTimestamptz _ _ _ | .temporalBin _ _ _ | .temporalAge _ _
  | .temporalOverlaps _ _ _ _ | .temporalJustify _ _ | .function _ _ | .case _ _
  | .aggregate _ _ _ | .window _ _ _ _ _ | .aliased _ _ | .nullableResult _ | .star
  | .inNode _ (.select _) _ | .scalarSubquery _ | .exists _ _ | .excluded _ _ | .jsonText _ _
  | .regexMatch _ _ _ | .uuidCast _ => by
      simp [Node.assign, InValues.assign, compileIndexPredicate]

theorem indexPredicates_assign (sameView : SameView target) : (nodes : List (Node P)) →
    compileIndexPredicates (assignNodes target target nodes) = compileIndexPredicates nodes
  | [] => by rw [assignNodes, compileIndexPredicates, compileIndexPredicates]
  | node :: rest => by
      rw [assignNodes, compileIndexPredicates, compileIndexPredicates,
        indexPredicate_assign sameView node, indexPredicates_assign sameView rest]

end

theorem conflictTarget_assign (sameView : SameView target) (columns : List String)
    (targetWhere : Option (Node P)) :
    conflictTarget columns (assignOption target target targetWhere) =
      conflictTarget columns targetWhere := by
  cases targetWhere with
  | none => rfl
  | some predicate =>
      rw [assignOption, conflictTarget, conflictTarget, indexPredicate_assign sameView]

end

/-! ### The layout of an assigned shape -/

section

variable {P V : Type} (dialect : Dialect) (value target : P → V)

theorem isValue_assign (node : Node P) : (node.assign value target).isValue = node.isValue := by
  cases node <;> rfl

theorem castInterval_assign (interval : Node P) (layout : Layout P) :
    (Layout.castInterval interval layout).map value =
      Layout.castInterval (interval.assign value target) (layout.map value) := by
  rw [Layout.castInterval, Layout.castInterval, isValue_assign]
  split <;> rfl

theorem assignOrders_length (orders : List (OrderNode P)) :
    (assignOrders value target orders).length = orders.length := by
  induction orders with
  | nil => rfl
  | cons order rest ih =>
      obtain ⟨expression, direction, nulls⟩ := order
      rw [assignOrders, List.length_cons, List.length_cons, ih]

theorem assignCtes_isEmpty (ctes : List (CteNode P)) :
    (assignCtes value target ctes).isEmpty = ctes.isEmpty := by
  cases ctes with
  | nil => rfl
  | cons cte rest =>
      obtain ⟨name, query, recursive, materialized⟩ := cte
      rw [assignCtes, List.isEmpty_cons, List.isEmpty_cons]

theorem assignCtes_recursive (ctes : List (CteNode P)) :
    (assignCtes value target ctes).any (·.recursive) = ctes.any (·.recursive) := by
  induction ctes with
  | nil => rfl
  | cons cte rest ih =>
      obtain ⟨name, query, recursive, materialized⟩ := cte
      rw [assignCtes, List.any_cons, List.any_cons, ih]

theorem assignNamed_names (pairs : List (String × Node P)) :
    (assignNamed value target pairs).map (·.1) = pairs.map (·.1) := by
  induction pairs with
  | nil => rfl
  | cons pair rest ih => rw [assignNamed, List.map_cons, List.map_cons, ih]

theorem assignRows_names (rows : List (List (String × Node P))) :
    ((assignRows value target rows).headD []).map (·.1) = (rows.headD []).map (·.1) := by
  cases rows with
  | nil => rfl
  | cons row rest => exact assignNamed_names value target row

theorem assignInsertSource_default (slot : Option (InsertSourceNode P)) :
    (assignInsertSource value target slot).any (·.isDefaultValues) =
      slot.any (·.isDefaultValues) := by
  cases slot with
  | none => rfl
  | some source => cases source <;> rfl

variable [PyObject P] [PyObject V]

mutual

theorem layoutNode_assign (sameView : SameView target) : (node : Node P) →
    layoutNode dialect (node.assign value target) = (layoutNode dialect node).map value
  | .column _ _ | .value _ | .temporalClock _ | .star | .excluded _ _ => by
      simp [Node.assign, layoutNode]
  | .binary left operator right => by
      simp [Node.assign, layoutNode, layoutNode_assign sameView left,
        layoutNode_assign sameView right]
  | .temporalMakeDate year month day => by
      simp [Node.assign, layoutNode, layoutNode_assign sameView year,
        layoutNode_assign sameView month, layoutNode_assign sameView day]
  | .temporalMakeTime hour minute second => by
      simp [Node.assign, layoutNode, layoutNode_assign sameView hour,
        layoutNode_assign sameView minute, layoutNode_assign sameView second]
  | .temporalMakeTimestamp year month day hour minute second => by
      simp [Node.assign, layoutNode, layoutNode_assign sameView year,
        layoutNode_assign sameView month, layoutNode_assign sameView day,
        layoutNode_assign sameView hour, layoutNode_assign sameView minute,
        layoutNode_assign sameView second]
  | .temporalMakeTimestamptz year month day hour minute second zone => by
      simp [Node.assign, layoutNode, layoutNode_assign sameView year,
        layoutNode_assign sameView month, layoutNode_assign sameView day,
        layoutNode_assign sameView hour, layoutNode_assign sameView minute,
        layoutNode_assign sameView second, layoutOption_assign sameView zone, Option.toList_map]
  | .temporalMakeInterval components => by
      simp [Node.assign, layoutNode, layoutComponents_assign sameView components]
  | .temporalEpoch seconds => by simp [Node.assign, layoutNode, layoutNode_assign sameView seconds]
  | .temporalArithmetic timestamp operator interval => by
      simp [Node.assign, layoutNode, layoutNode_assign sameView timestamp,
        layoutNode_assign sameView interval, castInterval_assign value target]
  | .temporalDifference left right => by
      simp [Node.assign, layoutNode, layoutNode_assign sameView left,
        layoutNode_assign sameView right]
  | .temporalIntervalUnary interval => by
      simp [Node.assign, layoutNode, layoutNode_assign sameView interval]
  | .temporalIntervalScale interval operator factor => by
      simp [Node.assign, layoutNode, layoutNode_assign sameView interval,
        layoutNode_assign sameView factor]
  | .temporalTimezone expression zone => by
      simp [Node.assign, layoutNode, layoutNode_assign sameView expression,
        layoutNode_assign sameView zone]
  | .temporalExtract field expression => by
      simp [Node.assign, layoutNode, layoutNode_assign sameView expression]
  | .temporalTrunc unit expression => by
      simp [Node.assign, layoutNode, layoutNode_assign sameView expression]
  | .temporalTruncTimestamptz unit expression zone => by
      simp [Node.assign, layoutNode, layoutNode_assign sameView expression,
        layoutNode_assign sameView zone]
  | .temporalBin stride expression origin => by
      simp [Node.assign, layoutNode, layoutNode_assign sameView stride,
        layoutNode_assign sameView expression, layoutNode_assign sameView origin,
        castInterval_assign value target]
  | .temporalAge left right => by
      simp [Node.assign, layoutNode, layoutNode_assign sameView left,
        layoutNode_assign sameView right]
  | .temporalOverlaps leftStart leftEnd rightStart rightEnd => by
      simp [Node.assign, layoutNode, layoutNode_assign sameView leftStart,
        layoutNode_assign sameView leftEnd, layoutNode_assign sameView rightStart,
        layoutNode_assign sameView rightEnd]
  | .temporalJustify kind interval => by
      simp [Node.assign, layoutNode, layoutNode_assign sameView interval]
  | .unary operator operand => by simp [Node.assign, layoutNode, layoutNode_assign sameView operand]
  | .function name arguments => by simp [Node.assign, layoutNode, layoutNodes_assign sameView arguments]
  | .case branches otherwise => by
      simp [Node.assign, layoutNode, layoutBranches_assign sameView branches,
        layoutNode_assign sameView otherwise]
  | .aggregate name arguments filter => by
      simp [Node.assign, layoutNode, layoutNodes_assign sameView arguments,
        layoutOption_assign sameView filter]
  | .window expression partitionBy orderBy frame exclusion => by
      simp [Node.assign, layoutNode, layoutWindowCall_assign sameView expression,
        layoutNodes_assign sameView partitionBy, layoutOrders_assign sameView orderBy,
        assignOrders_length]
  | .aliased expression aliasName => by
      simp [Node.assign, layoutNode, layoutNode_assign sameView expression]
  | .nullableResult expression => by simp [Node.assign, layoutNode, layoutNode_assign sameView expression]
  | .inNode expression values negated => by
      simp [Node.assign, layoutNode, layoutNode_assign sameView expression,
        layoutInValues_assign sameView values]
  | .between expression lower upper negated => by
      simp [Node.assign, layoutNode, layoutNode_assign sameView expression,
        layoutNode_assign sameView lower, layoutNode_assign sameView upper]
  | .scalarSubquery query => by simp [Node.assign, layoutNode, layoutSelect_assign sameView query]
  | .exists query negated => by simp [Node.assign, layoutNode, layoutSelect_assign sameView query]
  | .jsonText left right => by
      simp [Node.assign, layoutNode, layoutNode_assign sameView left,
        layoutNode_assign sameView right]
  | .regexMatch left right insensitive => by
      simp [Node.assign, layoutNode, layoutNode_assign sameView left,
        layoutNode_assign sameView right]
  | .uuidCast inner => by simp [Node.assign, layoutNode, layoutNode_assign sameView inner]

theorem layoutWindowCall_assign (sameView : SameView target) : (call : WindowCall P) →
    layoutWindowCall dialect (call.assign value target) = (layoutWindowCall dialect call).map value
  | .aggregate name arguments filter => by
      simp [WindowCall.assign, layoutWindowCall, layoutNodes_assign sameView arguments,
        layoutOption_assign sameView filter]
  | .function name arguments => by
      simp [WindowCall.assign, layoutWindowCall, layoutNodes_assign sameView arguments]

theorem layoutInValues_assign (sameView : SameView target) : (values : InValues P) →
    layoutInValues dialect (values.assign value target) = (layoutInValues dialect values).map value
  | .nodes values => by simp [InValues.assign, layoutInValues, layoutNodes_assign sameView values]
  | .select query => by simp [InValues.assign, layoutInValues, layoutSelect_assign sameView query]

theorem layoutNodes_assign (sameView : SameView target) : (nodes : List (Node P)) →
    layoutNodes dialect (assignNodes value target nodes) =
      (layoutNodes dialect nodes).map (·.map value)
  | [] => by simp [assignNodes, layoutNodes]
  | node :: rest => by
      simp [assignNodes, layoutNodes, layoutNode_assign sameView node,
        layoutNodes_assign sameView rest]

theorem layoutOption_assign (sameView : SameView target) : (slot : Option (Node P)) →
    layoutOption dialect (assignOption value target slot) =
      (layoutOption dialect slot).map (·.map value)
  | none => by simp [assignOption, layoutOption]
  | some node => by simp [assignOption, layoutOption, layoutNode_assign sameView node]

theorem layoutComponents_assign (sameView : SameView target) : (components : List (String × Node P)) →
    layoutComponents dialect (assignNamed value target components) =
      (layoutComponents dialect components).map (·.map value)
  | [] => by simp [assignNamed, layoutComponents]
  | (name, node) :: rest => by
      simp [assignNamed, layoutComponents, layoutNode_assign sameView node,
        layoutComponents_assign sameView rest]

theorem layoutBranches_assign (sameView : SameView target) : (branches : List (Node P × Node P)) →
    layoutBranches dialect (assignBranches value target branches) =
      (layoutBranches dialect branches).map (·.map value)
  | [] => by simp [assignBranches, layoutBranches]
  | (condition, node) :: rest => by
      simp [assignBranches, layoutBranches, layoutNode_assign sameView condition,
        layoutNode_assign sameView node, layoutBranches_assign sameView rest]

theorem layoutOrders_assign (sameView : SameView target) : (orders : List (OrderNode P)) →
    layoutOrders dialect (assignOrders value target orders) =
      (layoutOrders dialect orders).map (·.map value)
  | [] => by simp [assignOrders, layoutOrders]
  | ⟨expression, direction, nulls⟩ :: rest => by
      simp [assignOrders, layoutOrders, layoutNode_assign sameView expression,
        layoutOrders_assign sameView rest]

theorem layoutSource_assign (sameView : SameView target) : (source : SourceNode P) →
    layoutSource dialect (source.assign value target) = (layoutSource dialect source).map value
  | .table table => by simp [SourceNode.assign, layoutSource]
  | .derived query aliasName => by
      simp [SourceNode.assign, layoutSource, layoutSelect_assign sameView query]
  | .cte name => by simp [SourceNode.assign, layoutSource]

theorem layoutFrom_assign (sameView : SameView target) : (slot : Option (SourceNode P)) →
    layoutFrom dialect (assignSource value target slot) = (layoutFrom dialect slot).map value
  | none => by simp [assignSource, layoutFrom]
  | some source => by simp [assignSource, layoutFrom, layoutSource_assign sameView source]

theorem layoutJoins_assign (sameView : SameView target) : (joins : List (JoinNode P)) →
    layoutJoins dialect (assignJoins value target joins) = (layoutJoins dialect joins).map value
  | [] => by simp [assignJoins, layoutJoins]
  | ⟨source, predicate, kind⟩ :: rest => by
      simp only [assignJoins, layoutJoins, layoutSource_assign sameView source,
        layoutNode_assign sameView predicate, layoutJoins_assign sameView rest]
      split <;> simp

theorem layoutCtes_assign (sameView : SameView target) : (ctes : List (CteNode P)) →
    layoutCtes dialect (assignCtes value target ctes) = (layoutCtes dialect ctes).map (·.map value)
  | [] => by simp [assignCtes, layoutCtes]
  | ⟨name, query, recursive, materialized⟩ :: rest => by
      simp [assignCtes, layoutCtes, layoutStatement_assign sameView query,
        layoutCtes_assign sameView rest]

theorem layoutCompounds_assign (sameView : SameView target) : (compounds : List (CompoundNode P)) →
    layoutCompounds dialect (assignCompounds value target compounds) =
      (layoutCompounds dialect compounds).map value
  | [] => by simp [assignCompounds, layoutCompounds]
  | ⟨operator, query⟩ :: rest => by
      simp [assignCompounds, layoutCompounds, layoutSelect_assign sameView query,
        layoutCompounds_assign sameView rest]

theorem layoutSelect_assign (sameView : SameView target) : (query : SelectNode P) →
    layoutSelect dialect (query.assign value target) = (layoutSelect dialect query).map value
  | ⟨selections, fromSource, joins, whereNode, groupBy, having, orderBy, limit, offset, distinct,
      ctes, compounds, locks⟩ => by
      simp only [SelectNode.assign, layoutSelect, layoutNodes_assign sameView selections,
        layoutFrom_assign sameView fromSource, layoutJoins_assign sameView joins,
        layoutOption_assign sameView whereNode, layoutNodes_assign sameView groupBy,
        layoutOption_assign sameView having, layoutOrders_assign sameView orderBy,
        layoutCtes_assign sameView ctes, layoutCompounds_assign sameView compounds,
        assignCtes_isEmpty, assignCtes_recursive]
      simp [apply_ite (Template.map value)]

theorem layoutAssignments_assign (sameView : SameView target) : (pairs : List (String × Node P)) →
    layoutAssignments dialect (assignNamed value target pairs) =
      (layoutAssignments dialect pairs).map (·.map value)
  | [] => by simp [assignNamed, layoutAssignments]
  | (name, node) :: rest => by
      simp [assignNamed, layoutAssignments, layoutNode_assign sameView node,
        layoutAssignments_assign sameView rest]

theorem layoutCells_assign (sameView : SameView target) : (cells : List (String × Node P)) →
    layoutCells dialect (assignNamed value target cells) =
      (layoutCells dialect cells).map (·.map value)
  | [] => by simp [assignNamed, layoutCells]
  | (name, node) :: rest => by
      simp [assignNamed, layoutCells, layoutNode_assign sameView node,
        layoutCells_assign sameView rest]

theorem layoutRows_assign (sameView : SameView target) : (rows : List (List (String × Node P))) →
    layoutRows dialect (assignRows value target rows) = (layoutRows dialect rows).map (·.map value)
  | [] => by simp [assignRows, layoutRows]
  | row :: rest => by
      simp [assignRows, layoutRows, layoutCells_assign sameView row, layoutRows_assign sameView rest]

theorem layoutInsertSource_assign (sameView : SameView target) : (source : InsertSourceNode P) →
    layoutInsertSource dialect (source.assign value target) =
      (layoutInsertSource dialect source).map value
  | .values values => by
      simp [InsertSourceNode.assign, layoutInsertSource, layoutCells_assign sameView values,
        assignNamed_names]
  | .rows rows => by
      rw [InsertSourceNode.assign, layoutInsertSource, layoutInsertSource, assignRows_names,
        layoutRows_assign sameView rows]
      simp
  | .select query columns => by
      simp [InsertSourceNode.assign, layoutInsertSource, layoutSelect_assign sameView query]
  | .defaultValues => by simp [InsertSourceNode.assign, layoutInsertSource]

theorem layoutInsertSourceOption_assign (sameView : SameView target) : (slot : Option (InsertSourceNode P)) →
    layoutInsertSourceOption dialect (assignInsertSource value target slot) =
      (layoutInsertSourceOption dialect slot).map value
  | none => by simp [assignInsertSource, layoutInsertSourceOption]
  | some source => by
      simp [assignInsertSource, layoutInsertSourceOption, layoutInsertSource_assign sameView source]

theorem layoutConflict_assign (sameView : SameView target) : (conflict : ConflictNode P) →
    layoutConflict dialect (conflict.assign value target) =
      (layoutConflict dialect conflict).map value
  | ⟨columns, action, updateValues, targetWhere, updateWhere⟩ => by
      simp only [ConflictNode.assign, layoutConflict, conflictTarget_assign sameView,
        layoutAssignments_assign sameView updateValues, layoutOption_assign sameView updateWhere]
      split <;> simp

theorem layoutConflictOption_assign (sameView : SameView target) : (slot : Option (ConflictNode P)) →
    layoutConflictOption dialect (assignConflict value target slot) =
      (layoutConflictOption dialect slot).map value
  | none => by simp [assignConflict, layoutConflictOption]
  | some conflict => by
      simp [assignConflict, layoutConflictOption, layoutConflict_assign sameView conflict]

theorem layoutStatement_assign (sameView : SameView target) : (query : QueryNode P) →
    layoutStatement dialect (query.assign value target) = (layoutStatement dialect query).map value
  | .select query => by simp [QueryNode.assign, layoutStatement, layoutSelect_assign sameView query]
  | .insert ⟨table, source, conflict, returning⟩ => by
      simp [QueryNode.assign, layoutStatement, layoutInsert,
        layoutInsertSourceOption_assign sameView source,
        layoutConflictOption_assign sameView conflict, layoutNodes_assign sameView returning,
        assignInsertSource_default, apply_ite (Template.map value)]
  | .update ⟨table, values, whereNode, bounded, returning⟩ => by
      simp [QueryNode.assign, layoutStatement, layoutUpdate, layoutAssignments_assign sameView values,
        layoutOption_assign sameView whereNode, layoutNodes_assign sameView returning]
  | .delete ⟨table, whereNode, bounded, returning⟩ => by
      simp [QueryNode.assign, layoutStatement, layoutDelete, layoutOption_assign sameView whereNode,
        layoutNodes_assign sameView returning]

end

end

/-- Any number of statements that are equal except for the payloads bound outside conflict targets,
given as assignments of their common shape, have one text and bind the same labels in one order. -/
theorem boundValues_noninterference {P V : Type} [DecidableEq V] [PyObject V] (shape : QueryNode P)
    (target : P → V) (dialect : Dialect) :
    ∃ positions : List P, ∀ (left right : P → V) (first second : CompiledQuery V),
      Accepted (shape.assign left target) dialect →
      renderQuery (shape.assign left target) dialect = .ok first →
      Accepted (shape.assign right target) dialect →
      renderQuery (shape.assign right target) dialect = .ok second →
      first.text = second.text ∧ first.parameters.length = second.parameters.length ∧
        first.parameters = positions.map left ∧ second.parameters = positions.map right := by
  -- a label is seen as the payload it has inside conflict targets
  let _ : PyObject P := ⟨id, fun _ => true, fun label => PyObject.view (target label)⟩
  have rendered (value : P → V) (compiled : CompiledQuery V)
      (done : renderQuery (shape.assign value target) dialect = .ok compiled) :
      compiled.text = (layoutStatement dialect shape).sql 0 ∧
        compiled.parameters = (layoutStatement dialect shape).values.map value := by
    obtain ⟨text, parameters⟩ := renderQuery_layout done
    rw [text, parameters, layoutStatement_assign dialect value target fun _ => rfl]
    exact ⟨Template.text_map value Lexeme.placeholder _ 0, Template.values_map value _⟩
  refine ⟨(layoutStatement dialect shape).values, fun left right first second _ done _ done' => ?_⟩
  obtain ⟨text, parameters⟩ := rendered left first done
  obtain ⟨text', parameters'⟩ := rendered right second done'
  refine ⟨text.trans text'.symm, ?_, parameters, parameters'⟩
  rw [parameters, parameters', List.length_map, List.length_map]

/-- `SELECT "t"."a" FROM "t" WHERE "t"."b" BETWEEN … AND …`, with a label in the place of each bound. -/
def boundedShape : QueryNode Bool :=
  .select
    { selections := [.column "t" "a"]
      fromSource := some (.table { name := "t" })
      whereNode := some (.between (.column "t" "b") (.value false) (.value true) false) }

/-- The statement with these bounds. -/
def betweenBounds (lower upper : Int) : QueryNode Int :=
  boundedShape.assign (fun isUpper => if isUpper then upper else lower) fun _ => 0

theorem betweenBounds_compiles (lower upper : Int) :
    ∃ compiled, renderQuery (betweenBounds lower upper) postgres = .ok compiled := by
  simp only [betweenBounds, boundedShape, QueryNode.assign, SelectNode.assign, assignNodes, assignSource,
    SourceNode.assign, assignJoins, assignOption, assignOrders, assignCtes, assignCompounds, Node.assign,
    renderQuery, renderStatement, compileSelect, compileCtes, compileNodes, compileNode, compileFrom,
    compileSource, compileJoins, compileOption, compileOrders, compileCompounds]
  exact ⟨_, rfl⟩

theorem boundValues_noninterference_betweenBounds :
    ∃ (positions : List Bool) (first second : CompiledQuery Int),
      renderQuery (betweenBounds 1 9) postgres = .ok first ∧
        renderQuery (betweenBounds 2 8) postgres = .ok second ∧
        first.text = second.text ∧
        first.parameters = positions.map (fun isUpper => if isUpper then 9 else 1) ∧
        second.parameters = positions.map fun isUpper => if isUpper then 8 else 2 := by
  obtain ⟨positions, agree⟩ :=
    boundValues_noninterference boundedShape (fun _ => (0 : Int)) postgres
  obtain ⟨first, done⟩ := betweenBounds_compiles 1 9
  obtain ⟨second, done'⟩ := betweenBounds_compiles 2 8
  have result := agree _ _ first second (by decide +kernel) done (by decide +kernel) done'
  exact ⟨positions, first, second, done, done', result.1, result.2.2⟩

end Relq
