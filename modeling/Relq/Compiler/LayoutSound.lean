/-
Module: Relq.Compiler.LayoutSound
Layer: Compiler
Purpose: The renderer produces the text of the layout and binds the layout's values: when it does
  not raise, it appends the values in filling order and numbers the placeholders accordingly.
Imports: Relq.Compiler.Layout, Relq.Library.Emission
Trusted boundary: none (fully proved)
Main exports: Layout.texts, emits_node, emits_select, emits_statement, renderQuery_layout
-/
import Relq.Compiler.Layout
import Relq.Library.Emission

namespace Relq

open Templates

variable {V : Type}

/-! ### The assembly of layouts is the assembly of texts -/

namespace Layout

/-- The texts of several layouts, one filled after the other. -/
def texts : List (Layout V) → Nat → List Text
  | [], _ => []
  | layout :: rest, n => layout.sql n :: texts rest (n + layout.values.length)

@[simp] theorem values_add (a b : Layout V) : (a ++ b).values = a.values ++ b.values := rfl

@[simp] theorem sql_add (a b : Layout V) (n : Nat) :
    (a ++ b).sql n = a.sql n ++ b.sql (n + a.values.length) := rfl

@[simp] theorem sql_fixed (items : Text) (n : Nat) :
    Layout.sql (.fixed items : Layout V) n = items := rfl

@[simp] theorem sql_hole (value : V) (n : Nat) :
    Layout.sql (.hole value : Layout V) n = [.placeholder (n + 1)] := rfl

@[simp] theorem sql_late (a b : Layout V) (n : Nat) :
    Layout.sql (.late a b : Layout V) n = a.sql (n + b.values.length) ++ b.sql n := rfl

@[simp] theorem texts_nil (n : Nat) : texts ([] : List (Layout V)) n = [] := rfl

@[simp] theorem texts_cons (layout : Layout V) (rest : List (Layout V)) (n : Nat) :
    texts (layout :: rest) n = layout.sql n :: texts rest (n + layout.values.length) := rfl

@[simp] theorem texts_append (first second : List (Layout V)) (n : Nat) :
    texts (first ++ second) n =
      texts first n ++ texts second (n + (first.flatMap Template.values).length) := by
  induction first generalizing n with
  | nil => simp
  | cons layout rest ih => simp [ih, Nat.add_assoc]

@[simp] theorem texts_isEmpty (layouts : List (Layout V)) (n : Nat) :
    (texts layouts n).isEmpty = layouts.isEmpty := by
  cases layouts <;> rfl

@[simp] theorem values_parens (layout : Layout V) : (parens layout).values = layout.values := by
  simp [parens]

@[simp] theorem sql_parens (layout : Layout V) (n : Nat) :
    (parens layout).sql n = Relq.parens (layout.sql n) := by
  simp [parens, Relq.parens]

@[simp] theorem values_commas (layouts : List (Layout V)) :
    (commas layouts).values = layouts.flatMap Template.values := by
  rw [commas_eq, Template.values_separated]

@[simp] theorem sql_commas (layouts : List (Layout V)) (n : Nat) :
    (commas layouts).sql n = Relq.commas (texts layouts n) := by
  induction layouts generalizing n with
  | nil => rfl
  | cons layout rest ih => cases rest with
    | nil => simp [commas, Relq.commas]
    | cons next rest => simp [commas, Relq.commas, ih]

@[simp] theorem values_spaces (layouts : List (Layout V)) :
    (spaces layouts).values = layouts.flatMap Template.values := by
  rw [spaces_eq, Template.values_separated]

@[simp] theorem sql_spaces (layouts : List (Layout V)) (n : Nat) :
    (spaces layouts).sql n = Relq.spaces (texts layouts n) := by
  induction layouts generalizing n with
  | nil => rfl
  | cons layout rest ih => cases rest with
    | nil => simp [spaces, Relq.spaces]
    | cons next rest => simp [spaces, Relq.spaces, ih]

@[simp] theorem values_call (name : String) (arguments : List (Layout V)) :
    (call name arguments).values = arguments.flatMap Template.values := by
  simp [call]

@[simp] theorem sql_call (name : String) (arguments : List (Layout V)) (n : Nat) :
    (call name arguments).sql n = Relq.call name (texts arguments n) := by
  simp [call, Relq.call]

@[simp] theorem values_operation (left : Layout V) (operator : Text) (right : Layout V) :
    (operation left operator right).values = left.values ++ right.values := by
  simp [operation]

@[simp] theorem sql_operation (left : Layout V) (operator : Text) (right : Layout V) (n : Nat) :
    (operation left operator right).sql n =
      Relq.operation (left.sql n) operator (right.sql (n + left.values.length)) := by
  simp [operation, Relq.operation]

@[simp] theorem values_castInterval (interval : Node V) (layout : Layout V) :
    (castInterval interval layout).values = layout.values := by
  unfold castInterval
  split <;> simp

@[simp] theorem sql_castInterval (interval : Node V) (layout : Layout V) (n : Nat) :
    (castInterval interval layout).sql n = Relq.castInterval interval (layout.sql n) := by
  unfold castInterval Relq.castInterval
  split <;> simp

@[simp] theorem values_aggregate (name : AggregateName) (arguments : List (Layout V))
    (filter : Option (Layout V)) :
    (aggregate name arguments filter).values =
      arguments.flatMap Template.values ++ filter.toList.flatMap Template.values := by
  cases filter <;> simp [aggregate]

@[simp] theorem sql_aggregate (name : AggregateName) (arguments : List (Layout V))
    (filter : Option (Layout V)) (n : Nat) :
    (aggregate name arguments filter).sql n =
      aggregateText name (texts arguments n)
        (filter.map (·.sql (n + (arguments.flatMap Template.values).length))) := by
  cases filter <;> simp [aggregate, aggregateText]

theorem values_clause (keywords : List String) (items : List (Layout V)) :
    (clause keywords items).flatMap Template.values = items.flatMap Template.values := by
  cases items <;> simp [clause]

theorem texts_clause (keywords : List String) (items : List (Layout V)) (n : Nat) :
    texts (clause keywords items) n = Relq.clause keywords (texts items n) := by
  cases items <;> simp [clause, Relq.clause]

@[simp] theorem values_optional (keywords : List String) (slot : Option (Layout V)) :
    (optional keywords slot).values = slot.toList.flatMap Template.values := by
  cases slot <;> simp [optional]

@[simp] theorem values_listed (keywords : List String) (items : List (Layout V)) :
    (listed keywords items).values = items.flatMap Template.values := by
  cases items <;> simp [listed]

@[simp] theorem sql_listed (keywords : List String) (items : List (Layout V)) (n : Nat) :
    (listed keywords items).sql n =
      if items.isEmpty then [] else spaced keywords ++ Relq.commas (texts items n) := by
  cases items <;> simp [listed]

theorem texts_plain (items : List Text) (n : Nat) :
    texts (items.map .fixed : List (Layout V)) n = items := by
  induction items with
  | nil => rfl
  | cons item rest ih => simp [ih]

@[simp] theorem values_frame (frame : Option WindowFrameNode) (orderCount : Nat)
    (exclusion : Option WindowExclusion) :
    (Layout.frame frame orderCount exclusion : List (Layout V)).flatMap Template.values = [] := by
  simp [Layout.frame, List.flatMap_map]

end Layout

open Layout (texts)

/-- The values of several layouts, in filling order. -/
abbrev allValues (layouts : List (Layout V)) : List V :=
  layouts.flatMap Template.values

/-! ### Every step of the renderer -/

theorem emits_bindValue (value : V) :
    Emits (bindValue value : Renderer V Text) (fun n => [.placeholder (n + 1)]) [value] := by
  rintro n before out rfl done
  cases done
  simp

theorem emits_plain (text : Except PyError Text) :
    Emits (liftM text : Renderer V Text) (Layout.plain text : Layout V).sql [] := by
  refine fun n => EmitsAt.lift fun result done => ?_
  rw [done]
  rfl

theorem emits_frame (frame : Option WindowFrameNode) (orderCount : Nat)
    (exclusion : Option WindowExclusion) :
    Emits (liftM (frameClause frame orderCount exclusion) : Renderer V (List Text))
      (texts (Layout.frame frame orderCount exclusion : List (Layout V))) [] := by
  refine fun n => EmitsAt.lift fun result done => ?_
  rw [Layout.frame, done, Layout.texts_plain]
  rfl

theorem emits_require (dialect : Dialect) (name : String) :
    Emits (liftM (requirePostgresExpression dialect name) : Renderer V Unit) (fun _ => ()) [] :=
  fun _ => EmitsAt.lift fun _ _ => rfl

section

variable [PyObject V] (dialect : Dialect)

/-! ### Statements, from what their parts emit -/

section Statements

abbrev EmitsNodes (nodes : List (Node V)) : Prop :=
  Emits (compileNodes dialect nodes) (texts (layoutNodes dialect nodes))
    (allValues (layoutNodes dialect nodes))

abbrev EmitsOption (slot : Option (Node V)) : Prop :=
  Emits (compileOption dialect slot) (fun n => (layoutOption dialect slot).map (·.sql n))
    (allValues (layoutOption dialect slot).toList)

abbrev EmitsAssignments (values : List (String × Node V)) : Prop :=
  Emits (compileAssignments dialect values) (texts (layoutAssignments dialect values))
    (allValues (layoutAssignments dialect values))

theorem emits_select_of (query : SelectNode V)
    (ctes : Emits (compileCtes dialect query.ctes) (texts (layoutCtes dialect query.ctes))
      (allValues (layoutCtes dialect query.ctes)))
    (selections : EmitsNodes dialect query.selections)
    (from_ : Emits (compileFrom dialect query.fromSource) (layoutFrom dialect query.fromSource).sql
      (layoutFrom dialect query.fromSource).values)
    (joins : Emits (compileJoins dialect query.joins) (layoutJoins dialect query.joins).sql
      (layoutJoins dialect query.joins).values)
    (where_ : EmitsOption dialect query.whereNode) (groupBy : EmitsNodes dialect query.groupBy)
    (having : EmitsOption dialect query.having)
    (orderBy : Emits (compileOrders dialect query.orderBy) (texts (layoutOrders dialect query.orderBy))
      (allValues (layoutOrders dialect query.orderBy)))
    (compounds : Emits (compileCompounds dialect query.compounds)
      (layoutCompounds dialect query.compounds).sql
      (layoutCompounds dialect query.compounds).values) :
    Emits (compileSelect dialect query) (layoutSelect dialect query).sql
      (layoutSelect dialect query).values := by
  obtain ⟨selectionNodes, fromSource, joinNodes, whereNode, groupNodes, havingNode, orderNodes, limit,
    offset, distinct, cteNodes, compoundNodes, locks⟩ := query
  rw [compileSelect, layoutSelect]
  refine fun n => EmitsAt.ite (fun _ => .throw_bind _ _ _ _) fun _ => ?_
  refine ((ctes _).bind <| (selections _).bind <| (from_ _).bind <| (joins _).bind <|
    (where_ _).bind <| (groupBy _).bind <| (having _).bind <| (orderBy _).bind <|
    (compounds _).map).congr ?_ ?_
  · cases cteNodes with
    | nil =>
        cases whereNode <;> cases havingNode <;>
          simp [layoutCtes, layoutOption, Layout.optional, Nat.add_assoc]
    | cons cte rest =>
        cases whereNode <;> cases havingNode <;>
          simp [layoutOption, Layout.optional, Nat.add_assoc]
  · cases cteNodes <;> simp [layoutCtes]

theorem emits_returning (returning : List (Node V)) (nodes : EmitsNodes dialect returning) :
    Emits (compileReturning dialect returning)
      (Layout.listed ["returning"] (layoutNodes dialect returning)).sql
      (Layout.listed ["returning"] (layoutNodes dialect returning)).values := by
  rw [compileReturning.eq_def]
  cases returning with
  | nil => exact fun _ => .pure _
  | cons node rest =>
      refine fun n => EmitsAt.ite (fun empty => by simp at empty) fun _ => ?_
      refine EmitsAt.ite (fun _ => .throw _ _ _) fun _ => ?_
      refine ((nodes _).map).congr ?_ ?_
      · simp [layoutNodes]
      · simp

/-- The target columns with the text of an INSERT's body. -/
def insertSourceText (source : InsertSourceNode V) (n : Nat) : List String × Text :=
  match source with
  | .values values =>
      (values.map (·.1), [.word "values", .space] ++ parens (commas (texts (layoutCells dialect values) n)))
  | .rows rows =>
      ((rows.headD []).map (·.1), [.word "values", .space] ++ commas (texts (layoutRows dialect rows) n))
  | .select query columns => (columns, (layoutSelect dialect query).sql n)
  | .defaultValues => ([], words ["default", "values"])

theorem emits_conflict_of (conflict : ConflictNode V)
    (values : EmitsAssignments dialect conflict.updateValues)
    (where_ : EmitsOption dialect conflict.updateWhere) :
    Emits (compileConflict dialect conflict) (layoutConflict dialect conflict).sql
      (layoutConflict dialect conflict).values := by
  obtain ⟨columns, action, updateValues, targetWhere, updateWhere⟩ := conflict
  rw [compileConflict, layoutConflict]
  by_cases nothing : action = "nothing"
  · simp only [nothing, if_true]
    refine fun n => ((emits_plain _ _).bind <| EmitsAt.ite (fun _ => .throw_bind _ _ _ []) fun _ =>
      .pure _).congr ?_ ?_
    · simp [Layout.plain]
    · simp [Layout.plain]
  · simp only [nothing, if_false]
    by_cases update : action = "update"
    · simp only [update, if_true]
      refine fun n => ((emits_plain _ _).bind <| EmitsAt.ite (fun _ => .throw_bind _ _ _ _) fun _ =>
        ((values _).bind <| (where_ _).map)).congr ?_ ?_
      · cases updateWhere <;> simp [layoutOption, Layout.optional, Layout.plain]
      · simp [Layout.plain]
    · simp only [update, if_false]
      exact fun n => ((emits_plain _ _).bind <| EmitsAt.throw _ _ _).congr rfl (List.nil_append _)

theorem emits_insert_of (query : InsertNode V)
    (source_ : ∀ source, query.source = some source →
      Emits (compileInsertSource dialect source) (insertSourceText dialect source)
        (layoutInsertSource dialect source).values)
    (conflict : Emits (compileConflictOption dialect query.conflict)
      (layoutConflictOption dialect query.conflict).sql
      (layoutConflictOption dialect query.conflict).values)
    (returning : EmitsNodes dialect query.returning) :
    Emits (compileInsert dialect query) (layoutInsert dialect query).sql
      (layoutInsert dialect query).values := by
  obtain ⟨table, slot, conflictNode, returningNodes⟩ := query
  rw [compileInsert.eq_def, layoutInsert]
  dsimp only
  split
  · exact fun _ => .throw _ _ _
  · refine fun n => ((emits_plain _ _).bind <| (emits_returning dialect _ returning _).map).congr ?_ ?_
    · simp [layoutInsertSourceOption, layoutInsertSource, InsertSourceNode.isDefaultValues, Layout.plain]
    · simp [layoutInsertSourceOption, layoutInsertSource, InsertSourceNode.isDefaultValues, Layout.plain]
  · rename_i source different
    have renders : source.isDefaultValues = false := by
      cases source <;> first | rfl | exact absurd rfl different
    refine fun n => ((source_ source rfl n).bind <| (emits_plain _ _).bind <| (conflict _).bind <|
      (emits_returning dialect _ returning _).map).congr ?_ ?_
    · cases source <;> first
        | exact absurd rfl different
        | simp [layoutInsertSourceOption, layoutInsertSource, renders, insertSourceText, Layout.plain,
            Nat.add_assoc]
    · simp [layoutInsertSourceOption, renders, Layout.plain]

theorem emits_update_of (query : UpdateNode V) (values : EmitsAssignments dialect query.values)
    (where_ : EmitsOption dialect query.whereNode) (returning : EmitsNodes dialect query.returning) :
    Emits (compileUpdate dialect query) (layoutUpdate dialect query).sql
      (layoutUpdate dialect query).values := by
  obtain ⟨table, assignments, whereNode, bounded, returningNodes⟩ := query
  rw [compileUpdate, layoutUpdate]
  refine fun n => ((values _).bind <| (emits_plain _ _).bind <| (where_ _).bind <|
    (emits_returning dialect _ returning _).map).congr ?_ ?_
  · cases whereNode <;> simp [layoutOption, Layout.optional, Layout.plain, Nat.add_assoc]
  · simp [Layout.plain]

theorem emits_delete_of (query : DeleteNode V) (where_ : EmitsOption dialect query.whereNode)
    (returning : EmitsNodes dialect query.returning) :
    Emits (compileDelete dialect query) (layoutDelete dialect query).sql
      (layoutDelete dialect query).values := by
  obtain ⟨table, whereNode, bounded, returningNodes⟩ := query
  rw [compileDelete, layoutDelete]
  refine fun n => ((emits_plain _ _).bind <| (where_ _).bind <|
    (emits_returning dialect _ returning _).map).congr ?_ ?_
  · cases whereNode <;> simp [layoutOption, Layout.optional, Layout.plain]
  · simp [Layout.plain]

end Statements

/-! ### The whole renderer -/

mutual

theorem emits_node : (node : Node V) →
    Emits (compileNode dialect node) (layoutNode dialect node).sql (layoutNode dialect node).values
  | .column source name => by rw [compileNode, layoutNode]; exact fun _ => .pure _
  | .value value => by rw [compileNode, layoutNode]; exact emits_bindValue value
  | .temporalClock kind => by rw [compileNode, layoutNode]; exact fun _ => .pure _
  | .binary left operator right => by
      rw [compileNode, layoutNode]
      refine fun n => ((emits_node left _).bind <| (emits_node right _).map).congr
        ?_ ?_ <;> simp
  | .temporalMakeDate year month day => by
      rw [compileNode, layoutNode]
      refine fun n => ((emits_node year _).bind <| (emits_node month _).bind <|
        (emits_node day _).map).congr ?_ ?_ <;> simp
  | .temporalMakeTime hour minute second => by
      rw [compileNode, layoutNode]
      refine fun n => ((emits_node hour _).bind <| (emits_node minute _).bind <|
        (emits_node second _).map).congr ?_ ?_ <;> simp
  | .temporalMakeTimestamp year month day hour minute second => by
      rw [compileNode, layoutNode]
      refine fun n => ((emits_node year _).bind <| (emits_node month _).bind <|
        (emits_node day _).bind <| (emits_node hour _).bind <|
        (emits_node minute _).bind <| (emits_node second _).map).congr
        ?_ ?_ <;> simp
  | .temporalMakeTimestamptz year month day hour minute second zone => by
      rw [compileNode, layoutNode]
      refine fun n => ((emits_node year _).bind <| (emits_node month _).bind <|
        (emits_node day _).bind <| (emits_node hour _).bind <|
        (emits_node minute _).bind <| (emits_node second _).bind <|
        (emits_option zone _).map).congr ?_ ?_
      · cases zone <;> simp [layoutOption]
      · simp
  | .temporalMakeInterval components => by
      rw [compileNode, layoutNode]
      refine fun n => ((emits_components components _).map).congr ?_ ?_ <;> simp
  | .temporalEpoch seconds => by
      rw [compileNode, layoutNode]
      refine fun n => ((emits_node seconds _).map).congr ?_ ?_ <;> simp
  | .temporalArithmetic timestamp operator interval => by
      rw [compileNode, layoutNode]
      refine fun n => ((emits_node interval _).bind <| (emits_node timestamp _).map).congr
        ?_ ?_
      · simp [Relq.operation]
      · simp
  | .temporalDifference left right => by
      rw [compileNode, layoutNode]
      refine fun n => ((emits_node left _).bind <| (emits_node right _).map).congr
        ?_ ?_ <;> simp
  | .temporalIntervalUnary interval => by
      rw [compileNode, layoutNode]
      refine fun n => ((emits_node interval _).map).congr ?_ ?_ <;> simp
  | .temporalIntervalScale interval operator factor => by
      rw [compileNode, layoutNode]
      refine fun n => ((emits_node interval _).bind <| (emits_node factor _).map).congr
        ?_ ?_ <;> simp
  | .temporalTimezone expression zone => by
      rw [compileNode, layoutNode]
      refine fun n => ((emits_node expression _).bind <| (emits_node zone _).map).congr
        ?_ ?_ <;> simp
  | .temporalExtract field expression => by
      rw [compileNode, layoutNode]
      refine fun n => ((emits_node expression _).map).congr ?_ ?_ <;> simp
  | .temporalTrunc unit expression => by
      rw [compileNode, layoutNode]
      refine fun n => ((emits_node expression _).map).congr ?_ ?_ <;> simp
  | .temporalTruncTimestamptz unit expression zone => by
      rw [compileNode, layoutNode]
      refine fun n => ((emits_node expression _).bind <| (emits_node zone _).map).congr
        ?_ ?_ <;> simp
  | .temporalBin stride expression origin => by
      rw [compileNode, layoutNode]
      refine fun n => ((emits_node stride _).bind <| (emits_node expression _).bind <|
        (emits_node origin _).map).congr ?_ ?_ <;> simp
  | .temporalAge left right => by
      rw [compileNode, layoutNode]
      refine fun n => ((emits_node left _).bind <| (emits_node right _).map).congr
        ?_ ?_ <;> simp
  | .temporalOverlaps leftStart leftEnd rightStart rightEnd => by
      rw [compileNode, layoutNode]
      refine fun n => ((emits_node leftStart _).bind <| (emits_node leftEnd _).bind <|
        (emits_node rightStart _).bind <| (emits_node rightEnd _).map).congr
        ?_ ?_ <;> simp [Nat.add_assoc]
  | .temporalJustify kind interval => by
      rw [compileNode, layoutNode]
      refine fun n => ((emits_node interval _).map).congr ?_ ?_ <;> simp
  | .unary operator operand => by
      rw [compileNode, layoutNode]
      refine fun n => ((emits_node operand _).map).congr ?_ ?_ <;> simp
  | .function name arguments => by
      rw [compileNode, layoutNode]
      refine fun n => ((emits_nodes arguments _).map).congr ?_ ?_ <;> simp
  | .case branches otherwise => by
      rw [compileNode, layoutNode]
      refine fun n => ((emits_branches branches _).bind <| (emits_node otherwise _).map).congr ?_ ?_ <;> simp
  | .aggregate name arguments filter => by
      rw [compileNode, layoutNode]
      refine fun n => ((emits_nodes arguments _).bind <| (emits_option filter _).map).congr ?_ ?_ <;> simp
  | .window expression partitionBy orderBy frame exclusion => by
      rw [compileNode, layoutNode]
      refine fun n => EmitsAt.ite (fun _ => .throw_bind _ _ _ _) fun _ => ?_
      refine ((emits_nodes partitionBy _).bind <| (emits_orders orderBy _).bind <|
        (emits_frame _ _ _ _).bind <| (emits_windowCall expression _).map).congr ?_ ?_
      · simp [Layout.texts_clause, Layout.values_clause, Nat.add_assoc]
      · simp [Layout.values_clause]
  | .aliased expression aliasName => by
      rw [compileNode, layoutNode]
      refine fun n => ((emits_node expression _).map).congr ?_ ?_ <;> simp
  | .nullableResult expression => by
      rw [compileNode, layoutNode]
      exact emits_node expression
  | .star => by rw [compileNode, layoutNode]; exact fun _ => .pure _
  | .inNode expression values negated => by
      rw [compileNode, layoutNode]
      refine fun n => ((emits_node expression _).bind <| (emits_inValues values _).map).congr ?_ ?_ <;> simp
  | .between expression lower upper negated => by
      rw [compileNode, layoutNode]
      refine fun n => ((emits_node expression _).bind <| (emits_node lower _).bind <|
        (emits_node upper _).map).congr ?_ ?_ <;> simp
  | .scalarSubquery query => by
      rw [compileNode, layoutNode]
      refine fun n => ((emits_select query _).map).congr ?_ ?_ <;> simp
  | .exists query negated => by
      rw [compileNode, layoutNode]
      refine fun n => ((emits_select query _).map).congr ?_ ?_ <;> simp
  | .excluded source name => by rw [compileNode, layoutNode]; exact fun _ => .pure _
  | .jsonText value key => by
      rw [compileNode, layoutNode]
      refine fun n => ((emits_require dialect _ _).bind <| (emits_node value _).bind <|
        (emits_node key _).map).congr ?_ ?_ <;> simp
  | .regexMatch value pattern insensitive => by
      rw [compileNode, layoutNode]
      refine fun n => ((emits_require dialect _ _).bind <| (emits_node value _).bind <|
        (emits_node pattern _).map).congr ?_ ?_ <;> simp
  | .uuidCast value => by
      rw [compileNode, layoutNode]
      refine fun n => ((emits_require dialect _ _).bind <| (emits_node value _).map).congr ?_ ?_ <;> simp

theorem emits_windowCall : (call : WindowCall V) →
    Emits (compileWindowCall dialect call) (layoutWindowCall dialect call).sql
      (layoutWindowCall dialect call).values
  | .aggregate name arguments filter => by
      rw [compileWindowCall, layoutWindowCall]
      refine fun n => ((emits_nodes arguments _).bind <| (emits_option filter _).map).congr ?_ ?_ <;> simp
  | .function name arguments => by
      rw [compileWindowCall, layoutWindowCall]
      refine fun n => ((emits_nodes arguments _).map).congr ?_ ?_ <;> simp

theorem emits_inValues : (values : InValues V) →
    Emits (compileInValues dialect values) (layoutInValues dialect values).sql
      (layoutInValues dialect values).values
  | .nodes values => by
      rw [compileInValues, layoutInValues]
      refine fun n => ((emits_nodes values _).map).congr ?_ ?_ <;> simp
  | .select query => by
      rw [compileInValues, layoutInValues]
      refine fun n => ((emits_select query _).map).congr ?_ ?_ <;> simp

theorem emits_nodes : (nodes : List (Node V)) →
    Emits (compileNodes dialect nodes) (texts (layoutNodes dialect nodes))
      (allValues (layoutNodes dialect nodes))
  | [] => by rw [compileNodes, layoutNodes]; exact fun _ => .pure _
  | node :: rest => by
      rw [compileNodes, layoutNodes]
      refine fun n => ((emits_node node _).bind <| (emits_nodes rest _).map).congr
        ?_ ?_ <;> simp

theorem emits_option : (slot : Option (Node V)) →
    Emits (compileOption dialect slot) (fun n => (layoutOption dialect slot).map (·.sql n))
      (allValues (layoutOption dialect slot).toList)
  | none => by rw [compileOption, layoutOption]; exact fun _ => .pure _
  | some node => by
      rw [compileOption, layoutOption]
      refine fun n => ((emits_node node _).map).congr ?_ ?_ <;> simp

theorem emits_components : (components : List (String × Node V)) →
    Emits (compileComponents dialect components) (texts (layoutComponents dialect components))
      (allValues (layoutComponents dialect components))
  | [] => by rw [compileComponents, layoutComponents]; exact fun _ => .pure _
  | (name, value) :: rest => by
      rw [compileComponents, layoutComponents]
      refine fun n => ((emits_node value _).bind <| (emits_components rest _).map).congr
        ?_ ?_ <;> simp

theorem emits_branches : (branches : List (Node V × Node V)) →
    Emits (compileBranches dialect branches) (texts (layoutBranches dialect branches))
      (allValues (layoutBranches dialect branches))
  | [] => by rw [compileBranches, layoutBranches]; exact fun _ => .pure _
  | (condition, value) :: rest => by
      rw [compileBranches, layoutBranches]
      refine fun n => ((emits_node condition _).bind <| (emits_node value _).bind <|
        (emits_branches rest _).map).congr ?_ ?_ <;> simp [Nat.add_assoc]

theorem emits_orders : (orders : List (OrderNode V)) →
    Emits (compileOrders dialect orders) (texts (layoutOrders dialect orders))
      (allValues (layoutOrders dialect orders))
  | [] => by rw [compileOrders, layoutOrders]; exact fun _ => .pure _
  | ⟨expression, direction, nulls⟩ :: rest => by
      rw [compileOrders, layoutOrders]
      refine fun n => ((emits_node expression _).bind <| (emits_orders rest _).map).congr
        ?_ ?_
      · cases nulls <;> simp [orderText]
      · simp

theorem emits_source : (source : SourceNode V) →
    Emits (compileSource dialect source) (layoutSource dialect source).sql
      (layoutSource dialect source).values
  | .table table => by rw [compileSource, layoutSource]; exact emits_plain _
  | .cte name => by rw [compileSource, layoutSource]; exact fun _ => .pure _
  | .derived query aliasName => by
      rw [compileSource, layoutSource]
      refine fun n => ((emits_select query _).map).congr ?_ ?_ <;> simp

theorem emits_from : (slot : Option (SourceNode V)) →
    Emits (compileFrom dialect slot) (layoutFrom dialect slot).sql (layoutFrom dialect slot).values
  | none => by rw [compileFrom, layoutFrom]; exact fun _ => .throw _ _ _
  | some source => by rw [compileFrom, layoutFrom]; exact emits_source source

theorem emits_joins : (joins : List (JoinNode V)) →
    Emits (compileJoins dialect joins) (layoutJoins dialect joins).sql
      (layoutJoins dialect joins).values
  | [] => by rw [compileJoins, layoutJoins]; exact fun _ => .pure _
  | ⟨source, predicate, kind⟩ :: rest => by
      rw [compileJoins, layoutJoins]
      by_cases crossed : (kind != "cross") = true
      · simp only [crossed, if_true]
        refine fun n => ((emits_source source _).bind <| (emits_node predicate _).bind <|
          (emits_joins rest _).map).congr ?_ ?_ <;> simp [Nat.add_assoc]
      · simp only [crossed]
        refine fun n => ((emits_source source _).bind <| (emits_joins rest _).map).congr
          ?_ ?_ <;> simp

theorem emits_ctes : (ctes : List (CteNode V)) →
    Emits (compileCtes dialect ctes) (texts (layoutCtes dialect ctes))
      (allValues (layoutCtes dialect ctes))
  | [] => by rw [compileCtes, layoutCtes]; exact fun _ => .pure _
  | ⟨name, query, recursive, materialized⟩ :: rest => by
      rw [compileCtes, layoutCtes]
      refine fun n => ((emits_cteBody query _).bind <| (emits_ctes rest _).map).congr
        ?_ ?_ <;> simp

theorem emits_cteBody : (query : QueryNode V) →
    Emits (compileCteBody dialect query) (layoutStatement dialect query).sql
      (layoutStatement dialect query).values
  | .select query => by rw [compileCteBody, layoutStatement]; exact emits_select query
  | .insert query => by
      rw [compileCteBody, layoutStatement]
      exact fun n => EmitsAt.ite (fun _ => emits_insert query n) fun _ => .throw _ _ _
  | .update query => by
      rw [compileCteBody, layoutStatement]
      exact fun n => EmitsAt.ite (fun _ => emits_update query n) fun _ => .throw _ _ _
  | .delete query => by
      rw [compileCteBody, layoutStatement]
      exact fun n => EmitsAt.ite (fun _ => emits_delete query n) fun _ => .throw _ _ _

theorem emits_compounds : (compounds : List (CompoundNode V)) →
    Emits (compileCompounds dialect compounds) (layoutCompounds dialect compounds).sql
      (layoutCompounds dialect compounds).values
  | [] => by rw [compileCompounds, layoutCompounds]; exact fun _ => .pure _
  | ⟨operator, query⟩ :: rest => by
      rw [compileCompounds, layoutCompounds]
      refine fun n => ((emits_select query _).bind <| (emits_compounds rest _).map).congr
        ?_ ?_ <;> simp

theorem emits_select : (query : SelectNode V) →
    Emits (compileSelect dialect query) (layoutSelect dialect query).sql
      (layoutSelect dialect query).values
  | ⟨selections, fromSource, joins, whereNode, groupBy, having, orderBy, _, _, _, ctes, compounds, _⟩ =>
      emits_select_of dialect _ (emits_ctes ctes) (emits_nodes selections) (emits_from fromSource)
        (emits_joins joins) (emits_option whereNode) (emits_nodes groupBy) (emits_option having)
        (emits_orders orderBy) (emits_compounds compounds)

theorem emits_assignments : (values : List (String × Node V)) →
    Emits (compileAssignments dialect values) (texts (layoutAssignments dialect values))
      (allValues (layoutAssignments dialect values))
  | [] => by rw [compileAssignments, layoutAssignments]; exact fun _ => .pure _
  | (column, value) :: rest => by
      rw [compileAssignments, layoutAssignments]
      refine fun n => ((emits_node value _).bind <| (emits_assignments rest _).map).congr
        ?_ ?_ <;> simp

theorem emits_cells : (cells : List (String × Node V)) →
    Emits (compileCells dialect cells) (texts (layoutCells dialect cells))
      (allValues (layoutCells dialect cells))
  | [] => by rw [compileCells, layoutCells]; exact fun _ => .pure _
  | (column, value) :: rest => by
      rw [compileCells, layoutCells]
      refine fun n => ((emits_node value _).bind <| (emits_cells rest _).map).congr
        ?_ ?_ <;> simp

theorem emits_rows : (rows : List (List (String × Node V))) →
    Emits (compileRows dialect rows) (texts (layoutRows dialect rows))
      (allValues (layoutRows dialect rows))
  | [] => by rw [compileRows, layoutRows]; exact fun _ => .pure _
  | row :: rest => by
      rw [compileRows, layoutRows]
      refine fun n => ((emits_cells row _).bind <| (emits_rows rest _).map).congr
        ?_ ?_ <;> simp

theorem emits_insertSource : (source : InsertSourceNode V) →
    Emits (compileInsertSource dialect source) (insertSourceText dialect source)
      (layoutInsertSource dialect source).values
  | .values values => by
      rw [compileInsertSource, layoutInsertSource]
      refine fun n => ((emits_cells values _).map).congr ?_ ?_ <;> simp [insertSourceText]
  | .rows [] => by
      rw [compileInsertSource, layoutInsertSource]
      exact fun n => .throw _ _ _
  | .rows (row :: rest) => by
      rw [compileInsertSource, layoutInsertSource]
      refine fun n => ((emits_rows (row :: rest) _).map).congr ?_ ?_ <;> simp [insertSourceText]
  | .select query columns => by
      rw [compileInsertSource, layoutInsertSource]
      refine fun n => ((emits_select query _).map).congr ?_ ?_ <;> simp [insertSourceText]
  | .defaultValues => by
      rw [compileInsertSource, layoutInsertSource]
      exact fun n => .pure _

theorem emits_insertSourceOption : (slot : Option (InsertSourceNode V)) → (source : InsertSourceNode V) →
    slot = some source → Emits (compileInsertSource dialect source) (insertSourceText dialect source)
      (layoutInsertSource dialect source).values
  | some source, _, rfl => emits_insertSource source

theorem emits_conflict : (conflict : ConflictNode V) →
    Emits (compileConflict dialect conflict) (layoutConflict dialect conflict).sql
      (layoutConflict dialect conflict).values
  | ⟨_, _, updateValues, _, updateWhere⟩ =>
      emits_conflict_of dialect _ (emits_assignments updateValues) (emits_option updateWhere)

theorem emits_conflictOption : (slot : Option (ConflictNode V)) →
    Emits (compileConflictOption dialect slot) (layoutConflictOption dialect slot).sql
      (layoutConflictOption dialect slot).values
  | none => by rw [compileConflictOption, layoutConflictOption]; exact fun n => .pure _
  | some conflict => by
      rw [compileConflictOption, layoutConflictOption]
      exact emits_conflict conflict

theorem emits_insert : (query : InsertNode V) →
    Emits (compileInsert dialect query) (layoutInsert dialect query).sql
      (layoutInsert dialect query).values
  | ⟨_, source, conflict, returning⟩ =>
      emits_insert_of dialect _ (emits_insertSourceOption source) (emits_conflictOption conflict)
        (emits_nodes returning)

theorem emits_update : (query : UpdateNode V) →
    Emits (compileUpdate dialect query) (layoutUpdate dialect query).sql
      (layoutUpdate dialect query).values
  | ⟨_, values, whereNode, _, returning⟩ =>
      emits_update_of dialect _ (emits_assignments values) (emits_option whereNode)
        (emits_nodes returning)

theorem emits_delete : (query : DeleteNode V) →
    Emits (compileDelete dialect query) (layoutDelete dialect query).sql
      (layoutDelete dialect query).values
  | ⟨_, whereNode, _, returning⟩ =>
      emits_delete_of dialect _ (emits_option whereNode) (emits_nodes returning)

end

theorem emits_statement (query : QueryNode V) :
    Emits (renderStatement dialect query) (layoutStatement dialect query).sql
      (layoutStatement dialect query).values := by
  cases query with
  | select query => exact emits_select dialect query
  | insert query => exact emits_insert dialect query
  | update query => exact emits_update dialect query
  | delete query => exact emits_delete dialect query

end

/-- What a rendered query is: the layout's text from the first placeholder on, with the layout's
values as parameters. -/
theorem renderQuery_layout [PyObject V] {root : QueryNode V} {dialect : Dialect}
    {compiled : CompiledQuery V} (rendered : renderQuery root dialect = .ok compiled) :
    compiled.text = (layoutStatement dialect root).sql 0 ∧
      compiled.parameters = (layoutStatement dialect root).values := by
  unfold renderQuery at rendered
  obtain ⟨⟨text, parameters⟩, ran, checked⟩ := Outcome.bind_eq_ok.mp rendered
  have emitted := emits_statement dialect root 0 [] _ rfl ran
  obtain ⟨rfl, rfl⟩ := Prod.mk.inj emitted
  dsimp only at checked
  split at checked
  · rw [← Outcome.pure_eq_ok.mp checked]
    exact ⟨rfl, rfl⟩
  · split at checked
    · exact absurd checked (by simp)
    · rw [← Outcome.pure_eq_ok.mp checked]
      exact ⟨rfl, rfl⟩

end Relq
