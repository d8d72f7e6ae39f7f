/-
Module: Relq.Placement.Aliases
Layer: Placement
Purpose: Where aliases stand in the statements that a program builds. The builders take the result of
  `as_` wherever they take an expression, and the validator rejects one around a GROUP BY expression
  only. A program that hands aliases on to `select`, `returning`, `nullable` and `group_by` alone builds
  tidy statements, however it nests them.
Imports: Relq.Placement.Tidy
Trusted boundary: none
Main exports: Object.Tidy, Call.answer_tidy, aliasesOutermost_of_handsPlain, aliasedOperand_misplaced
-/
import Relq.Placement.Tidy

namespace Relq

open Outcome

variable {V : Type}

/-! ### The SELECT builder -/

/-- The query of a derived table is tidy. -/
def SourceNode.Tidy (source : SourceNode V) : Prop :=
  ∀ query ∈ source.derivedQuery, Relq.Tidy (.select query)

/-- `Tidy` of a SELECT, clause by clause. -/
structure TidySelect (node : SelectNode V) : Prop where
  selections : ∀ item ∈ node.selections, Listed item
  fromSource : ∀ source ∈ node.fromSource, source.Tidy
  joins : ∀ join ∈ node.joins, join.source.Tidy ∧ Clean join.predicate
  whereNode : ∀ predicate ∈ node.whereNode, Clean predicate
  groupBy : ∀ expression ∈ node.groupBy, expression.isAlias = false → Clean expression
  having : ∀ predicate ∈ node.having, Clean predicate
  orderBy : ∀ order ∈ node.orderBy, Clean order.expression
  ctes : ∀ cte ∈ node.ctes, Tidy cte.query
  compounds : ∀ compound ∈ node.compounds, Tidy (.select compound.query)

theorem tidy_select {node : SelectNode V} : Tidy (.select node) ↔ TidySelect node := by
  have sources : (∀ query ∈ node.sources.filterMap SourceNode.derivedQuery, Tidy (.select query)) ↔
      (∀ source ∈ node.fromSource, source.Tidy) ∧ ∀ join ∈ node.joins, join.source.Tidy := by
    simp only [SourceNode.Tidy, SelectNode.sources, List.forall_mem_filterMap, List.forall_mem_append,
      List.forall_mem_map, Option.mem_toList, Option.mem_def]
  rw [tidy_iff]
  simp only [listItems, plainClauses, groupExpressions, heldStatements, List.forall_mem_append,
    List.forall_mem_map, Option.mem_toList, sources]
  constructor
  · rintro ⟨items, ⟨⟨⟨joins, wheres⟩, having⟩, orders⟩, groups, ⟨ctes, first, others⟩, compounds⟩
    exact ⟨items, first, fun join member => ⟨others join member, joins join member⟩, wheres, groups,
      having, orders, ctes, compounds⟩
  · intro tidy
    exact ⟨tidy.selections, ⟨⟨⟨fun join member => (tidy.joins join member).2, tidy.whereNode⟩,
      tidy.having⟩, tidy.orderBy⟩, tidy.groupBy,
      ⟨tidy.ctes, tidy.fromSource, fun join member => (tidy.joins join member).1⟩, tidy.compounds⟩

/-- `Tidy` of an INSERT, clause by clause. -/
structure TidyInsert (node : InsertNode V) : Prop where
  source : ∀ query ∈ node.sourceQuery, Tidy (.select query)
  values : ∀ value ∈ insertValues node.source, Clean value
  conflict : ∀ conflict ∈ node.conflict, (∀ value ∈ conflict.updateValues, Clean value.2) ∧
    (∀ predicate ∈ conflict.targetWhere, Clean predicate) ∧
    ∀ predicate ∈ conflict.updateWhere, Clean predicate
  returning : ∀ item ∈ node.returning, Listed item

theorem tidy_insert {node : InsertNode V} : Tidy (.insert node) ↔ TidyInsert node := by
  rw [tidy_iff]
  simp only [listItems, plainClauses, groupExpressions, heldStatements, InsertNode.assignedValues,
    ConflictNode.predicates, List.forall_mem_append, List.forall_mem_map, List.forall_mem_flatMap,
    Option.mem_toList]
  constructor
  · rintro ⟨items, ⟨⟨values, updates⟩, predicates⟩, -, held⟩
    exact ⟨held, values, fun conflict member =>
      ⟨updates conflict member, (predicates conflict member).1, (predicates conflict member).2⟩, items⟩
  · intro tidy
    exact ⟨tidy.returning, ⟨⟨tidy.values, fun conflict member => (tidy.conflict conflict member).1⟩,
      fun conflict member => (tidy.conflict conflict member).2⟩, List.forall_mem_nil _,
      tidy.source⟩

theorem tidy_update {node : UpdateNode V} : Tidy (.update node) ↔
    (∀ item ∈ node.returning, Listed item) ∧ (∀ predicate ∈ node.whereNode, Clean predicate) ∧
      ∀ value ∈ node.values, Clean value.2 := by
  rw [tidy_iff]
  simp only [listItems, plainClauses, groupExpressions, heldStatements, List.forall_mem_append,
    List.forall_mem_map, Option.mem_toList]
  simp

theorem tidy_delete {node : DeleteNode V} : Tidy (.delete node) ↔
    (∀ item ∈ node.returning, Listed item) ∧ ∀ predicate ∈ node.whereNode, Clean predicate := by
  rw [tidy_iff]
  simp only [listItems, plainClauses, groupExpressions, heldStatements, Option.mem_toList]
  simp

/-- The invariant of an INSERT, UPDATE or DELETE object. -/
def DmlObject.Tidy : DmlObject V → Prop
  | .insert self => Relq.Tidy (.insert self.node)
  | .conflict self =>
      Relq.Tidy (.insert self.query.node) ∧ ∀ predicate ∈ self.targetWhere, Clean predicate
  | .update self => Relq.Tidy (.update self.node)
  | .delete self => Relq.Tidy (.delete self.node)

/-- The invariant of an object of the program. -/
def Object.Tidy : Object V → Prop
  | .expression self => Listed self.node
  | .order self => Clean self.expression
  | .source self => self.Tidy
  | .select self => Relq.Tidy (.select self.node)
  | .dml self => self.Tidy

/-- The invariant of an argument. -/
def Argument.Tidy : Argument V → Prop
  | .object self => self.Tidy
  | .expression node => Listed node
  | .order node => Clean node.expression
  | .source node => node.Tidy
  | .query statement => Relq.Tidy statement

namespace SelectObject

variable {query result : SelectObject V}

theorem selectNode_eq_ok {body : QueryValue V} {inner : SelectNode V}
    (taken : selectNode body = .ok inner) : body.node = .select inner := by
  unfold selectNode at taken
  split at taken
  · obtain rfl := Except.ok.inj taken
    assumption
  · cases taken

theorem modifyingCteNode_same {body : QueryValue V} {inner : QueryNode V}
    (taken : modifyingCteNode body = .ok inner) : inner = body.node := by
  simp only [modifyingCteNode, seq_eq_ok] at taken
  obtain ⟨-, taken⟩ := taken
  split at taken
  · cases taken
  · simp only [seq_eq_ok, pure_eq_ok] at taken
    exact taken.2.symm

/-- One more entry of the WITH clause. -/
theorem withCte_tidy {node extended : SelectNode V} (tidy : TidySelect node) {source : CteRelation}
    {body : QueryNode V} (bodyTidy : Tidy body) {materialized : Bool}
    (done : withCte node source body materialized = .ok extended) : TidySelect extended := by
  simp only [withCte, seq_eq_ok, pure_eq_ok] at done
  obtain ⟨-, rfl⟩ := done
  exact { tidy with
    ctes := List.forall_mem_append.mpr ⟨tidy.ctes, List.forall_mem_singleton.mpr bodyTidy⟩ }

theorem callShared_tidy (tidy : TidySelect query.node) {method : SelectMethod V}
    (given : ∀ argument ∈ method.arguments, argument.Tidy)
    (answered : query.callShared method = some (.ok result)) : TidySelect result.node := by
  cases method with
  | «with» source body materialized =>
      have done := Option.some.inj answered
      simp only [seq_eq_ok] at done
      obtain ⟨inner, isSelect, done⟩ := bind_eq_ok.mp done.2
      obtain ⟨node, extended, same⟩ := bind_eq_ok.mp done
      obtain rfl := pure_eq_ok.mp same
      have bodyTidy : Tidy body.node := given (.query body.node) (List.mem_singleton.mpr rfl)
      exact withCte_tidy tidy (selectNode_eq_ok isSelect ▸ bodyTidy) extended
  | withModifying source body materialized =>
      obtain ⟨inner, taken, done⟩ := bind_eq_ok.mp (Option.some.inj answered)
      obtain ⟨node, extended, same⟩ := bind_eq_ok.mp done
      obtain rfl := pure_eq_ok.mp same
      have bodyTidy : Tidy body.node := given (.query body.node) (List.mem_singleton.mpr rfl)
      exact withCte_tidy tidy (modifyingCteNode_same taken ▸ bodyTidy) extended
  | decode adapter =>
      have done := Option.some.inj answered
      simp only [seq_eq_ok, check_eq_ok, pure_eq_ok] at done
      obtain ⟨-, rfl⟩ := done
      exact tidy
  | _ => cases answered

theorem callSelect_tidy (tidy : TidySelect query.node) {method : SelectMethod V}
    (given : ∀ argument ∈ method.arguments, argument.Tidy)
    (plain : ∀ node ∈ method.handed, node.carriesAlias = false)
    (answered : query.callSelect method = some (.ok result)) : TidySelect result.node := by
  cases method with
  | «from» source =>
      have done := Option.some.inj answered
      simp only [seq_eq_ok, pure_eq_ok] at done
      obtain ⟨-, rfl⟩ := done
      have sourceTidy : source.Tidy := given (.source source) (List.mem_singleton.mpr rfl)
      exact { tidy with fromSource := fun _ same => Option.some.inj same ▸ sourceTidy }
  | join kind source on =>
      have done := Option.some.inj answered
      simp only [seq_eq_ok, pure_eq_ok] at done
      obtain ⟨-, rfl⟩ := done
      simp only [SelectMethod.arguments, List.forall_mem_cons] at given
      have clean : Clean on := given.2.1.clean (plain on (List.mem_singleton.mpr rfl))
      exact { tidy with
        joins := List.forall_mem_append.mpr
          ⟨tidy.joins, List.forall_mem_singleton.mpr ⟨given.1, clean⟩⟩ }
  | crossJoin source =>
      have done := Option.some.inj answered
      simp only [seq_eq_ok, pure_eq_ok] at done
      obtain ⟨-, rfl⟩ := done
      have sourceTidy : source.Tidy := given (.source source) (List.mem_singleton.mpr rfl)
      have star : Clean (.star : Node V) := (clean_plain rfl rfl).mpr (List.forall_mem_nil _)
      exact { tidy with
        joins := List.forall_mem_append.mpr
          ⟨tidy.joins, List.forall_mem_singleton.mpr ⟨sourceTidy, star⟩⟩ }
  | «where» predicate =>
      obtain rfl := Except.ok.inj (Option.some.inj answered)
      have listed : Listed predicate := given (.expression predicate) (List.mem_singleton.mpr rfl)
      have clean := listed.clean (plain predicate (List.mem_singleton.mpr rfl))
      exact { tidy with
        whereNode := fun _ same => Option.some.inj same ▸ clean_conjoin tidy.whereNode clean }
  | having predicate =>
      obtain rfl := Except.ok.inj (Option.some.inj answered)
      have listed : Listed predicate := given (.expression predicate) (List.mem_singleton.mpr rfl)
      have clean := listed.clean (plain predicate (List.mem_singleton.mpr rfl))
      exact { tidy with
        having := fun _ same => Option.some.inj same ▸ clean_conjoin tidy.having clean }
  | groupBy expressions =>
      have done := Option.some.inj answered
      simp only [seq_eq_ok, pure_eq_ok] at done
      obtain ⟨-, rfl⟩ := done
      refine { tidy with
        groupBy := List.forall_mem_append.mpr ⟨tidy.groupBy, fun expression member bare => ?_⟩ }
      have listed : Listed expression := given (.expression expression) (List.mem_map_of_mem member)
      exact listed.clean (plain expression (List.mem_filter.mpr ⟨member, by simpa using bare⟩))
  | orderBy orders =>
      have done := Option.some.inj answered
      simp only [seq_eq_ok, pure_eq_ok] at done
      obtain ⟨-, rfl⟩ := done
      refine { tidy with
        orderBy := List.forall_mem_append.mpr ⟨tidy.orderBy, fun order member => ?_⟩ }
      exact given (.order order) (List.mem_map_of_mem member)
  | compound operator other =>
      have done := Option.some.inj answered
      simp only [seq_eq_ok, pure_eq_ok] at done
      obtain ⟨-, rfl⟩ := done
      have otherTidy : Tidy (.select other) := given (.query (.select other)) (List.mem_singleton.mpr rfl)
      exact { tidy with
        compounds := List.forall_mem_append.mpr
          ⟨tidy.compounds, List.forall_mem_singleton.mpr otherTidy⟩ }
  | withRecursive source body =>
      have done := Option.some.inj answered
      simp only [seq_eq_ok] at done
      obtain ⟨inner, isSelect, done⟩ := bind_eq_ok.mp done.2
      simp only [seq_eq_ok, pure_eq_ok] at done
      obtain ⟨-, rfl⟩ := done
      have bodyTidy : Tidy body.node := given (.query body.node) (List.mem_singleton.mpr rfl)
      exact { tidy with
        ctes := List.forall_mem_append.mpr
          ⟨tidy.ctes, List.forall_mem_singleton.mpr (selectNode_eq_ok isSelect ▸ bodyTidy)⟩ }
  | distinct | lock =>
      obtain rfl := Except.ok.inj (Option.some.inj answered)
      exact { tidy with }
  | limit amount | offset amount =>
      have done := Option.some.inj answered
      simp only [seq_eq_ok] at done
      obtain ⟨count, -, same⟩ := bind_eq_ok.mp done.2
      obtain rfl := pure_eq_ok.mp same
      exact { tidy with }
  | wait policy =>
      have done := Option.some.inj answered
      unfold setWait at done
      split at done
      · cases done
      · simp only [seq_eq_ok, pure_eq_ok] at done
        obtain ⟨-, rfl⟩ := done
        exact { tidy with }
  | «with» | withModifying | decode => cases answered

end SelectObject

/-! ### The other builders -/

theorem returningExpressions_eq_ok {arguments : List (Option (Node V))} {nodes : List (Node V)}
    (done : returningExpressions arguments = .ok nodes) : nodes = arguments.filterMap id := by
  induction arguments generalizing nodes with
  | nil => exact (Except.ok.inj done).symm
  | cons argument rest ih =>
      cases argument with
      | none => cases done
      | some node =>
          obtain ⟨others, later, same⟩ := bind_eq_ok.mp done
          obtain rfl := pure_eq_ok.mp same
          rw [ih later]
          rfl

/-- The items of a RETURNING list are what `returning()` was given. -/
theorem returningNodes_listed {existing nodes : List (Node V)} {first : Option (Node V)}
    {rest : List (Option (Node V))} {named : Bool}
    (given : ∀ argument ∈ (DmlMethod.returning first rest named).arguments, argument.Tidy)
    (done : returningNodes existing first rest named = .ok nodes) : ∀ item ∈ nodes, Listed item := by
  simp only [returningNodes, seq_eq_ok] at done
  obtain ⟨-, -, -, done⟩ := done
  obtain rfl := returningExpressions_eq_ok done
  exact fun item member => given (.expression item) (List.mem_map_of_mem member)

theorem returningAllNodes_listed {existing columns nodes : List (Node V)}
    (given : ∀ argument ∈ (DmlMethod.returningAllFrom columns).arguments, argument.Tidy)
    (done : returningAllNodes existing columns = .ok nodes) : ∀ item ∈ nodes, Listed item := by
  simp only [returningAllNodes, seq_eq_ok, pure_eq_ok] at done
  obtain ⟨-, -, rfl⟩ := done
  exact fun item member => given (.expression item) (List.mem_map_of_mem member)

/-- The cells of a payload without aliases are clean. -/
theorem tableValues_clean {table : TableObject} {entries : Payload V} {values : List (String × Node V)}
    (given : ∀ self ∈ entries.expressions, Listed self.node)
    (plain : ∀ self ∈ entries.expressions, self.node.carriesAlias = false)
    (done : tableValues table entries = .ok values) : ∀ value ∈ values, Clean value.2 := by
  simp only [tableValues, seq_eq_ok, pure_eq_ok] at done
  obtain ⟨-, -, rfl⟩ := done
  have operands := clean_operands.mp fun self member => (given self member).clean (plain self member)
  rw [List.forall_mem_map] at operands ⊢
  exact operands

namespace InsertObject

variable {query result : InsertObject V}

theorem withSource_tidy (tidy : TidyInsert query.node) {source : InsertSourceNode V}
    (done : query.withSource source = .ok result)
    (cells : ∀ value ∈ insertValues (some source), Clean value)
    (queries : ∀ inner columns, source = .select inner columns → Tidy (.select inner)) :
    TidyInsert result.node := by
  simp only [withSource, seq_eq_ok, pure_eq_ok] at done
  obtain ⟨-, rfl⟩ := done
  refine { tidy with values := cells, source := fun inner taken => ?_ }
  unfold InsertNode.sourceQuery at taken
  split at taken
  · next held columns same =>
      obtain rfl := Option.mem_some.mp taken
      exact queries held columns (Option.some.inj same)
  · cases taken

theorem values_tidy (tidy : TidyInsert query.node) {entries : Payload V}
    (given : ∀ self ∈ entries.expressions, Listed self.node)
    (plain : ∀ self ∈ entries.expressions, self.node.carriesAlias = false)
    (done : query.values entries = .ok result) : TidyInsert result.node := by
  obtain ⟨values, prepared, done⟩ := bind_eq_ok.mp done
  refine withSource_tidy tidy done ?_ (by simp)
  exact List.forall_mem_map.mpr (tableValues_clean given plain prepared)

theorem valuesMany_tidy (tidy : TidyInsert query.node) {rows : List (Payload V)}
    (given : ∀ self ∈ rows.flatMap Payload.expressions, Listed self.node)
    (plain : ∀ self ∈ rows.flatMap Payload.expressions, self.node.carriesAlias = false)
    (done : query.valuesMany rows = .ok result) : TidyInsert result.node := by
  obtain ⟨prepared, each, done⟩ := bind_eq_ok.mp done
  have clean : ∀ row ∈ prepared, ∀ value ∈ row, Clean value.2 := by
    intro row member
    have listed : Except.ok row ∈ rows.map (tableValues query.table) := by
      rw [mapM_eq_ok.mp each]
      exact List.mem_map_of_mem member
    obtain ⟨entries, inside, prepared⟩ := List.mem_map.mp listed
    exact tableValues_clean (fun self held => given self (List.mem_flatMap_of_mem inside held))
      (fun self held => plain self (List.mem_flatMap_of_mem inside held)) prepared
  cases prepared with
  | nil => cases done
  | cons first rest =>
      simp only [seq_eq_ok] at done
      refine withSource_tidy tidy done.2 ?_ (by simp)
      simp only [insertValues, List.forall_mem_flatMap, List.forall_mem_map]
      exact clean

theorem call_tidy (tidy : TidyInsert query.node) {method : DmlMethod V} {object : DmlObject V}
    (given : ∀ argument ∈ method.arguments, argument.Tidy)
    (plain : ∀ node ∈ method.handed, node.carriesAlias = false)
    (answered : query.call method = some (.ok object)) : object.Tidy := by
  cases method with
  | values entries =>
      obtain ⟨result, done, rfl⟩ := map_eq_ok.mp (Option.some.inj answered)
      simp only [DmlMethod.arguments, DmlMethod.handed, List.forall_mem_map] at given plain
      exact tidy_insert.mpr (values_tidy tidy given plain done)
  | valuesMany rows =>
      obtain ⟨result, done, rfl⟩ := map_eq_ok.mp (Option.some.inj answered)
      simp only [DmlMethod.arguments, DmlMethod.handed, List.forall_mem_map] at given plain
      exact tidy_insert.mpr (valuesMany_tidy tidy given plain done)
  | fromSelect select columns =>
      obtain ⟨result, done, rfl⟩ := map_eq_ok.mp (Option.some.inj answered)
      obtain ⟨names, -, done⟩ := bind_eq_ok.mp done
      simp only [seq_eq_ok] at done
      have selectTidy : Tidy (.select select) :=
        given (.query (.select select)) (List.mem_singleton.mpr rfl)
      refine tidy_insert.mpr (withSource_tidy tidy done.2 (List.forall_mem_nil _) ?_)
      rintro inner _ ⟨⟩
      exact selectTidy
  | defaultValues =>
      obtain ⟨result, done, rfl⟩ := map_eq_ok.mp (Option.some.inj answered)
      exact tidy_insert.mpr (withSource_tidy tidy done (List.forall_mem_nil _) (by simp))
  | onConflict columns =>
      obtain ⟨builder, done, rfl⟩ := map_eq_ok.mp (Option.some.inj answered)
      unfold onConflict at done
      split at done
      · cases done
      · cases done
      · obtain ⟨names, -, same⟩ := bind_eq_ok.mp done
        obtain rfl := pure_eq_ok.mp same
        exact ⟨tidy_insert.mpr tidy, forall_mem_none⟩
  | «where» predicate =>
      rw [call] at answered
      split at answered
      · obtain ⟨result, done, rfl⟩ := map_eq_ok.mp (Option.some.inj answered)
        have listed : Listed predicate := given (.expression predicate) (List.mem_singleton.mpr rfl)
        have clean := listed.clean (plain predicate (List.mem_singleton.mpr rfl))
        unfold updateWhere at done
        split at done
        · cases done
        · next conflict present =>
            obtain rfl := Except.ok.inj done
            refine tidy_insert.mpr { tidy with conflict := ?_ }
            rintro _ ⟨⟩
            obtain ⟨values, targets, -⟩ := tidy.conflict conflict present
            refine ⟨values, targets, ?_⟩
            rintro _ ⟨⟩
            exact clean
      · cases answered
  | returning first rest named =>
      obtain ⟨result, done, rfl⟩ := map_eq_ok.mp (Option.some.inj answered)
      obtain ⟨nodes, collected, same⟩ := bind_eq_ok.mp done
      obtain rfl := pure_eq_ok.mp same
      exact tidy_insert.mpr { tidy with returning := returningNodes_listed given collected }
  | returningAllFrom columns =>
      obtain ⟨result, done, rfl⟩ := map_eq_ok.mp (Option.some.inj answered)
      obtain ⟨nodes, collected, same⟩ := bind_eq_ok.mp done
      obtain rfl := pure_eq_ok.mp same
      exact tidy_insert.mpr { tidy with returning := returningAllNodes_listed given collected }
  | decode adapter =>
      obtain ⟨result, done, rfl⟩ := map_eq_ok.mp (Option.some.inj answered)
      simp only [decode, seq_eq_ok, pure_eq_ok] at done
      obtain ⟨-, rfl⟩ := done
      exact tidy_insert.mpr tidy
  | doNothing | doUpdate | allRows => cases answered

end InsertObject

namespace ConflictBuilder

/-- The query gets a conflict clause with the predicate that the builder holds. -/
theorem withConflict_tidy {builder : ConflictBuilder V} (tidy : TidyInsert builder.query.node)
    (target : ∀ predicate ∈ builder.targetWhere, Clean predicate) {conflict : ConflictNode V}
    (values : ∀ value ∈ conflict.updateValues, Clean value.2)
    (same : conflict.targetWhere = builder.targetWhere) (none : conflict.updateWhere = none) :
    TidyInsert { builder.query.node with conflict := some conflict } := by
  refine { tidy with conflict := ?_ }
  rintro _ ⟨⟩
  refine ⟨values, ?_, ?_⟩
  · rw [same]
    exact target
  · rw [none]
    exact forall_mem_none

theorem call_tidy {builder : ConflictBuilder V} (tidy : TidyInsert builder.query.node)
    (target : ∀ predicate ∈ builder.targetWhere, Clean predicate) {method : DmlMethod V}
    {object : DmlObject V} (given : ∀ argument ∈ method.arguments, argument.Tidy)
    (plain : ∀ node ∈ method.handed, node.carriesAlias = false)
    (answered : builder.call method = some (.ok object)) : object.Tidy := by
  cases method with
  | «where» predicate =>
      obtain ⟨result, done, rfl⟩ := map_eq_ok.mp (Option.some.inj answered)
      simp only [«where», seq_eq_ok, pure_eq_ok] at done
      obtain ⟨-, -, rfl⟩ := done
      have listed : Listed predicate := given (.expression predicate) (List.mem_singleton.mpr rfl)
      refine ⟨tidy_insert.mpr tidy, ?_⟩
      rintro _ ⟨⟩
      exact listed.clean (plain predicate (List.mem_singleton.mpr rfl))
  | doNothing =>
      obtain rfl := Except.ok.inj (Option.some.inj answered)
      exact tidy_insert.mpr (withConflict_tidy tidy target (List.forall_mem_nil _) rfl rfl)
  | doUpdate entries =>
      obtain ⟨result, done, rfl⟩ := map_eq_ok.mp (Option.some.inj answered)
      simp only [doUpdate, seq_eq_ok] at done
      obtain ⟨values, prepared, same⟩ := bind_eq_ok.mp done.2
      obtain rfl := pure_eq_ok.mp same
      simp only [DmlMethod.arguments, DmlMethod.handed, List.forall_mem_map] at given plain
      have clean := tableValues_clean given plain prepared
      exact tidy_insert.mpr (withConflict_tidy tidy target clean rfl rfl)
  | _ => cases answered

end ConflictBuilder

namespace DmlObject

theorem call_tidy {object result : DmlObject V} {method : DmlMethod V} (tidy : object.Tidy)
    (given : ∀ argument ∈ method.arguments, argument.Tidy)
    (plain : ∀ node ∈ method.handed, node.carriesAlias = false)
    (called : object.call method = .ok result) : result.Tidy := by
  have answered := call_eq_ok called
  clear called
  cases object with
  | insert query => exact InsertObject.call_tidy (tidy_insert.mp tidy) given plain answered
  | conflict builder =>
      exact ConflictBuilder.call_tidy (tidy_insert.mp tidy.1) tidy.2 given plain answered
  | update query =>
      obtain ⟨items, predicate, values⟩ := tidy_update.mp tidy
      cases method with
      | values entries =>
          obtain ⟨result, done, rfl⟩ := map_eq_ok.mp (Option.some.inj answered)
          simp only [UpdateObject.values, seq_eq_ok] at done
          obtain ⟨cells, prepared, same⟩ := bind_eq_ok.mp done.2
          obtain rfl := pure_eq_ok.mp same
          simp only [DmlMethod.arguments, DmlMethod.handed, List.forall_mem_map] at given plain
          exact tidy_update.mpr ⟨items, predicate, tableValues_clean given plain prepared⟩
      | «where» predicate =>
          obtain ⟨result, done, rfl⟩ := map_eq_ok.mp (Option.some.inj answered)
          simp only [UpdateObject.where, seq_eq_ok, pure_eq_ok] at done
          obtain ⟨-, rfl⟩ := done
          have listed : Listed predicate := given (.expression predicate) (List.mem_singleton.mpr rfl)
          refine tidy_update.mpr ⟨items, ?_, values⟩
          rintro _ ⟨⟩
          exact listed.clean (plain predicate (List.mem_singleton.mpr rfl))
      | allRows =>
          obtain rfl := Except.ok.inj (Option.some.inj answered)
          exact tidy_update.mpr ⟨items, predicate, values⟩
      | returning first rest named =>
          obtain ⟨result, done, rfl⟩ := map_eq_ok.mp (Option.some.inj answered)
          obtain ⟨nodes, collected, same⟩ := bind_eq_ok.mp done
          obtain rfl := pure_eq_ok.mp same
          exact tidy_update.mpr ⟨returningNodes_listed given collected, predicate, values⟩
      | returningAllFrom columns =>
          obtain ⟨result, done, rfl⟩ := map_eq_ok.mp (Option.some.inj answered)
          obtain ⟨nodes, collected, same⟩ := bind_eq_ok.mp done
          obtain rfl := pure_eq_ok.mp same
          exact tidy_update.mpr ⟨returningAllNodes_listed given collected, predicate, values⟩
      | decode adapter =>
          obtain ⟨result, done, rfl⟩ := map_eq_ok.mp (Option.some.inj answered)
          simp only [UpdateObject.decode, seq_eq_ok, pure_eq_ok] at done
          obtain ⟨-, rfl⟩ := done
          exact tidy_update.mpr ⟨items, predicate, values⟩
      | _ => cases answered
  | delete query =>
      obtain ⟨items, predicate⟩ := tidy_delete.mp tidy
      cases method with
      | «where» predicate =>
          obtain ⟨result, done, rfl⟩ := map_eq_ok.mp (Option.some.inj answered)
          simp only [DeleteObject.where, seq_eq_ok, pure_eq_ok] at done
          obtain ⟨-, rfl⟩ := done
          have listed : Listed predicate := given (.expression predicate) (List.mem_singleton.mpr rfl)
          refine tidy_delete.mpr ⟨items, ?_⟩
          rintro _ ⟨⟩
          exact listed.clean (plain predicate (List.mem_singleton.mpr rfl))
      | allRows =>
          obtain rfl := Except.ok.inj (Option.some.inj answered)
          exact tidy_delete.mpr ⟨items, predicate⟩
      | returning first rest named =>
          obtain ⟨result, done, rfl⟩ := map_eq_ok.mp (Option.some.inj answered)
          obtain ⟨nodes, collected, same⟩ := bind_eq_ok.mp done
          obtain rfl := pure_eq_ok.mp same
          exact tidy_delete.mpr ⟨returningNodes_listed given collected, predicate⟩
      | returningAllFrom columns =>
          obtain ⟨result, done, rfl⟩ := map_eq_ok.mp (Option.some.inj answered)
          obtain ⟨nodes, collected, same⟩ := bind_eq_ok.mp done
          obtain rfl := pure_eq_ok.mp same
          exact tidy_delete.mpr ⟨returningAllNodes_listed given collected, predicate⟩
      | decode adapter =>
          obtain ⟨result, done, rfl⟩ := map_eq_ok.mp (Option.some.inj answered)
          simp only [DeleteObject.decode, seq_eq_ok, pure_eq_ok] at done
          obtain ⟨-, rfl⟩ := done
          exact tidy_delete.mpr ⟨items, predicate⟩
      | _ => cases answered

end DmlObject

/-! ### Programs -/

theorem mapM_id_eq_some {α : Type} {slots : List (Option α)} {held : List α}
    (taken : slots.mapM id = some held) : slots = held.map some := by
  induction slots generalizing held with
  | nil =>
      obtain rfl := Option.some.inj taken
      rfl
  | cons slot rest ih =>
      simp only [List.mapM_cons, id, Option.bind_eq_bind, Option.bind_eq_some_iff] at taken
      obtain ⟨first, rfl, others, later, same⟩ := taken
      obtain rfl := Option.some.inj same
      rw [ih later, List.map_cons]

theorem tidy_of_selections {selections : List (Node V)} (listed : ∀ item ∈ selections, Listed item) :
    Tidy (.select { selections } : QueryNode V) :=
  tidy_select.mpr
    { selections := listed
      fromSource := forall_mem_none
      joins := List.forall_mem_nil _
      whereNode := forall_mem_none
      groupBy := List.forall_mem_nil _
      having := forall_mem_none
      orderBy := List.forall_mem_nil _
      ctes := List.forall_mem_nil _
      compounds := List.forall_mem_nil _ }

theorem Argument.HeldBy.tidy {argument : Argument V} {object : Object V} (held : argument.HeldBy object)
    (tidy : object.Tidy) : argument.Tidy := by
  cases argument with
  | object self =>
      obtain rfl : object = self := held
      exact tidy
  | expression node =>
      obtain ⟨self, rfl, rfl⟩ := held
      exact tidy
  | order node =>
      obtain rfl : object = .order node := held
      exact tidy
  | source node =>
      obtain rfl : object = .source node := held
      exact tidy
  | query statement =>
      cases object with
      | select self =>
          obtain rfl := Option.some.inj held
          exact tidy
      | dml self =>
          cases self with
          | conflict builder => cases held
          | _ =>
              obtain rfl := Option.some.inj held
              exact tidy
      | _ => cases held

/-- What a call returns is tidy, if its arguments are and it puts no alias where SQL takes none. -/
theorem Call.answer_tidy [PyObject V] {call : Call V} {object : Object V}
    (given : ∀ argument ∈ call.arguments, argument.Tidy) (plain : call.HandsPlain)
    (answer : call.answer = some object) : object.Tidy := by
  cases call with
  | expression call =>
      obtain ⟨result, made, rfl⟩ := Option.map_eq_some_iff.mp answer
      simp only [arguments, ExpressionCall.arguments, List.forall_mem_append, List.forall_mem_map]
        at given
      obtain ⟨⟨operands, queries⟩, others⟩ := given
      refine call.make_listed operands queries ?_ plain made
      rintro self method rfl
      cases method with
      | partitionBy expressions =>
          simp only [WindowMethod.arguments, List.forall_mem_map] at others
          exact fun expression member => (others expression member).clean
            (plain expression (List.mem_cons_of_mem _ member))
      | orderBy orders =>
          simp only [WindowMethod.arguments, List.forall_mem_map] at others
          exact others
      | _ => trivial
  | order self direction =>
      obtain rfl := Option.some.inj answer
      have listed : Listed self.node := given (.object (.expression self)) (List.mem_singleton.mpr rfl)
      exact listed.clean (plain self.node (List.mem_singleton.mpr rfl))
  | nulls self placement =>
      have clean : Clean self.expression := given (.order self) (List.mem_singleton.mpr rfl)
      simp only [Call.answer] at answer
      split at answer
      · obtain rfl := Option.some.inj answer
        exact clean
      · cases answer
  | table node =>
      obtain rfl := Option.some.inj answer
      exact forall_mem_none
  | cteTable name =>
      simp only [Call.answer] at answer
      split at answer
      · cases answer
      · obtain rfl := Option.some.inj answer
        exact forall_mem_none
  | derived query relation aliasName =>
      obtain ⟨source, made, rfl⟩ := Option.map_eq_some_iff.mp answer
      have done := toOption_eq_some.mp made
      simp only [SelectObject.derived, seq_eq_ok, pure_eq_ok] at done
      obtain ⟨-, -, rfl⟩ := done
      have queryTidy : Tidy (.select query.node) :=
        given (.object (.select query)) (List.mem_singleton.mpr rfl)
      rintro _ ⟨⟩
      exact queryTidy
  | select first rest named =>
      obtain ⟨query, made, rfl⟩ := Option.map_eq_some_iff.mp answer
      have done := toOption_eq_some.mp made
      simp only [selectExpressions, seq_eq_ok] at done
      obtain ⟨-, -, done⟩ := done
      split at done
      · next node nodes taken =>
          obtain rfl := pure_eq_ok.mp done
          obtain rfl := mapM_id_eq_some taken
          refine tidy_of_selections fun item member => given (.expression item) ?_
          refine List.mem_map_of_mem (List.mem_filterMap.mpr ⟨some item, ?_, rfl⟩)
          exact List.mem_map_of_mem (f := some) member
      · cases done
  | selectAllFrom columns =>
      obtain ⟨query, made, rfl⟩ := Option.map_eq_some_iff.mp answer
      have done := toOption_eq_some.mp made
      simp only [Relq.selectAllFrom, seq_eq_ok, pure_eq_ok] at done
      obtain ⟨-, rfl⟩ := done
      exact tidy_of_selections fun item member => given (.expression item) (List.mem_map_of_mem member)
  | selectMethod query method =>
      obtain ⟨result, made, rfl⟩ := Option.map_eq_some_iff.mp answer
      obtain ⟨queryTidy, given⟩ := List.forall_mem_cons.mp given
      apply tidy_select.mpr
      rcases SelectObject.call_eq_ok (toOption_eq_some.mp made) with shared | ⟨-, own⟩
      · exact SelectObject.callShared_tidy (tidy_select.mp queryTidy) given shared
      · exact SelectObject.callSelect_tidy (tidy_select.mp queryTidy) given plain own
  | insertInto relation =>
      obtain rfl := Option.some.inj answer
      exact tidy_insert.mpr
        ⟨forall_mem_none, List.forall_mem_nil _, forall_mem_none, List.forall_mem_nil _⟩
  | update relation =>
      obtain rfl := Option.some.inj answer
      exact tidy_update.mpr ⟨List.forall_mem_nil _, forall_mem_none, List.forall_mem_nil _⟩
  | deleteFrom relation =>
      obtain rfl := Option.some.inj answer
      exact tidy_delete.mpr ⟨List.forall_mem_nil _, forall_mem_none⟩
  | dmlMethod object method =>
      obtain ⟨result, made, rfl⟩ := Option.map_eq_some_iff.mp answer
      obtain ⟨objectTidy, given⟩ := List.forall_mem_cons.mp given
      exact DmlObject.call_tidy objectTidy given plain (toOption_eq_some.mp made)

/-- Every object of a program that hands on no alias is tidy. -/
theorem Run.tidy [PyObject V] {calls : List (Call V)} {objects : List (Object V)}
    (run : Run calls objects) (plain : ∀ call ∈ calls, call.HandsPlain) :
    ∀ object ∈ objects, object.Tidy := by
  induction run with
  | start => exact List.forall_mem_nil _
  | answered run call available answer ih =>
      obtain ⟨earlier, last⟩ := List.forall_mem_append.mp plain
      have before := ih earlier
      refine List.forall_mem_cons.mpr ⟨?_, before⟩
      refine Call.answer_tidy (fun argument member => ?_) (List.forall_mem_singleton.mp last) answer
      obtain ⟨object, inside, held⟩ := available argument member
      exact held.tidy (before object inside)
  | raised run call available error ih => exact ih (List.forall_mem_append.mp plain).1

/-! ### Accepted statements -/

theorem mem_cteBodies_query {ctes : List (CteNode V)} {env : Env} {all before : List Entry}
    {isRecursive : Bool} {place : QueryNode V × Env}
    (member : place ∈ cteBodies env all isRecursive before ctes) : place.1 ∈ ctes.map (·.query) := by
  obtain ⟨cte, found, same⟩ := query_of_cteBodies member
  exact List.mem_map.mpr ⟨cte, found, same.symm⟩

/-- A statement inside another one is held by it or stands in one of its expressions. -/
theorem inside_cases {node : QueryNode V} {env : Env} {place : QueryNode V × Env}
    (member : place ∈ inside node env) :
    place.1 ∈ heldStatements node ∨
      ∃ expression ∈ listItems node ++ (plainClauses node ++ groupExpressions node),
        ∃ query ∈ subqueries expression, place.1 = .select query := by
  rcases List.mem_append.mp member with nested | inClause
  · left
    cases node with
    | select node =>
        simp only [nestedStatements, List.mem_append] at nested
        simp only [heldStatements, List.mem_append]
        rcases nested with (body | derived) | arm
        · exact .inl (.inl (mem_cteBodies_query body))
        · obtain ⟨query, taken, rfl⟩ := List.mem_map.mp derived
          exact .inl (.inr (List.mem_map_of_mem taken))
        · obtain ⟨compound, listed, rfl⟩ := List.mem_map.mp arm
          exact .inr (List.mem_map_of_mem listed)
    | insert node =>
        obtain ⟨query, taken, rfl⟩ := List.mem_map.mp nested
        exact List.mem_map_of_mem taken
    | _ => cases nested
  · right
    obtain ⟨clause, standing, inQuery⟩ := List.mem_flatMap.mp inClause
    obtain ⟨query, taken, rfl⟩ := List.mem_map.mp inQuery
    exact ⟨clause.expression, mem_ownClauses_iff.mp ⟨clause, standing, rfl⟩, query, taken, rfl⟩

section
variable [DecidableEq V] [PyObject V]

/-- An accepted GROUP BY expression carries no alias. -/
theorem groupExpressions_isAlias {node : QueryNode V} {dialect : Dialect} {outer : List String}
    (accepted : validateStatement node dialect outer = .ok ()) :
    ∀ expression ∈ groupExpressions node, expression.isAlias = false := by
  intro expression member
  cases node with
  | select node =>
      rw [validateStatement] at accepted
      have analytic := (validateSelect_iff.mp accepted).analytic
      simp only [validateAnalyticClauses, seq_eq_ok, check_eq_ok, forM_eq_ok] at analytic
      exact (analytic.2.1 expression member).1
  | _ => cases member

/-- The statements inside an accepted tidy statement are tidy. -/
theorem Tidy.inside {node : QueryNode V} {dialect : Dialect} {outer : List String} (tidy : Tidy node)
    (accepted : validateStatement node dialect outer = .ok ()) {env : Env} {place : QueryNode V × Env}
    (member : place ∈ inside node env) : Tidy place.1 := by
  obtain ⟨items, clauses, groups, held⟩ := tidy_iff.mp tidy
  rcases inside_cases member with standing | ⟨expression, own, query, taken, same⟩
  · exact held place.1 standing
  · rw [same]
    simp only [List.mem_append] at own
    rcases own with item | clause | grouped
    · exact (items expression item).2 query (mem_subqueries_item.mp taken)
    · exact (clauses expression clause).2 query taken
    · exact (groups expression grouped (groupExpressions_isAlias accepted expression grouped)).2 query taken

theorem Tidy.placement {node : QueryNode V} {dialect : Dialect} {outer : List String} (tidy : Tidy node)
    (accepted : validateStatement node dialect outer = .ok ()) : AliasPlacement node := by
  obtain ⟨items, clauses, groups, -⟩ := tidy_iff.mp tidy
  refine ⟨fun item member => (items item member).1, List.forall_mem_append.mpr ⟨?_, ?_⟩⟩
  · exact fun expression member => (clauses expression member).1
  · intro expression member
    exact (groups expression member (groupExpressions_isAlias accepted expression member)).1

theorem Tidy.aliasesOutermost {root : QueryNode V} {dialect : Dialect} (tidy : Tidy root)
    (accepted : Accepted root dialect) : AliasesOutermost root := by
  have everywhere : ∀ place, Occurs root place → Tidy place.1 := by
    intro place occurs
    induction occurs with
    | refl => exact tidy
    | tail earlier encloses ih =>
        obtain ⟨names, statement, -⟩ := accepted_occurs accepted earlier
        exact ih.inside statement encloses
  intro node env occurs
  obtain ⟨names, statement, -⟩ := accepted_occurs accepted occurs
  exact (everywhere (node, env) occurs).placement statement

/-- In a program that hands no alias to a builder that takes none, every statement that the validator
accepts has its aliases around items of SELECT and RETURNING lists only. -/
theorem aliasesOutermost_of_handsPlain {calls : List (Call V)} {objects : List (Object V)}
    (run : Run calls objects) (plain : ∀ call ∈ calls, call.HandsPlain) {object : Object V}
    (member : object ∈ objects) {statement : QueryNode V} (held : object.statement = some statement)
    {dialect : Dialect} (accepted : Accepted statement dialect) : AliasesOutermost statement := by
  have query : (Argument.query statement).HeldBy object := held
  have tidy : Tidy statement := query.tidy (run.tidy plain object member)
  exact tidy.aliasesOutermost accepted

end

/-! ### An aliased operand -/

/-- `"t"."a"` and `"t"."a" AS "x"`. -/
def bareColumn : Expression Int := .expr (.column "t" "a")
def aliasedColumn : Expression Int := .expr (.aliased (.column "t" "a") "x")

/-- `SELECT shown FROM "t" WHERE compared = "t"."b"`. -/
def columnSearch (shown compared : Expression Int) : SelectNode Int :=
  { selections := [shown.node]
    fromSource := some (.table { name := "t" })
    whereNode := some (.binary compared.node .eq (.column "t" "b")) }

/-- `select(shown).from_(t).where(compared.eq(t.b))`, with `t.a.as_("x")`. -/
def searchCalls (shown compared : Expression Int) : List (Call Int) :=
  [.expression (.column "t" "a"), .expression (.column "t" "b"), .expression (.as bareColumn "x"),
    .expression (.comparison .eq compared (.inl (.expr (.column "t" "b")))),
    .select (some shown.node) [] false, .table { name := "t" },
    .selectMethod { node := { selections := [shown.node] } } (.from (.table { name := "t" })),
    .selectMethod
      { node := { selections := [shown.node], fromSource := some (.table { name := "t" }) } }
      (.where (.binary compared.node .eq (.column "t" "b")))]

theorem available_cons {call : Call V} {objects : List (Object V)} {first : Argument V}
    {rest : List (Argument V)} (same : call.arguments = first :: rest) {object : Object V}
    (inside : object ∈ objects) (held : first.HeldBy object)
    (others : ∀ argument ∈ rest, ∃ object ∈ objects, argument.HeldBy object) :
    call.Available objects := by
  rw [Call.Available, same]
  exact List.forall_mem_cons.mpr ⟨⟨object, inside, held⟩, others⟩

theorem searchCalls_run {shown compared : Expression Int}
    (shownHeld : shown = bareColumn ∨ shown = aliasedColumn)
    (comparedHeld : compared = bareColumn ∨ compared = aliasedColumn) :
    ∃ objects, Run (searchCalls shown compared) objects ∧
      .select { node := columnSearch shown compared } ∈ objects := by
  have one := (Run.start (V := Int)).answered (.expression (.column "t" "a")) (List.forall_mem_nil _) rfl
  have two := one.answered (.expression (.column "t" "b")) (List.forall_mem_nil _) rfl
  have three := two.answered (.expression (.as bareColumn "x"))
    (available_cons rfl (.tail _ (.head _)) rfl (List.forall_mem_nil _)) rfl
  have column : ∀ {expression : Expression Int}, expression = bareColumn ∨ expression = aliasedColumn →
      .expression expression ∈ [Object.expression aliasedColumn,
        .expression (.expr (.column "t" "b")), .expression bareColumn] := by
    rintro _ (rfl | rfl) <;> simp
  have four := three.answered
    (.expression (.comparison .eq compared (.inl (.expr (.column "t" "b")))))
    (available_cons rfl (column comparedHeld) rfl
      (List.forall_mem_singleton.mpr ⟨_, .tail _ (.head _), rfl⟩)) rfl
  have five := four.answered (.select (some shown.node) [] false)
    (available_cons rfl (.tail _ (column shownHeld)) ⟨shown, rfl, rfl⟩ (List.forall_mem_nil _)) rfl
  have six := five.answered (.table { name := "t" }) (List.forall_mem_nil _) rfl
  have seven := six.answered
    (.selectMethod { node := { selections := [shown.node] } } (.from (.table { name := "t" })))
    (available_cons rfl (.tail _ (.head _)) rfl
      (List.forall_mem_singleton.mpr ⟨_, .head _, rfl⟩)) rfl
  have eight := seven.answered
    (.selectMethod
      { node := { selections := [shown.node], fromSource := some (.table { name := "t" }) } }
      (.where (.binary compared.node .eq (.column "t" "b"))))
    (available_cons rfl (.head _) rfl
      (List.forall_mem_singleton.mpr
        ⟨_, .tail _ (.tail _ (.tail _ (.head _))), _, rfl, rfl⟩)) rfl
  exact ⟨_, eight, .head _⟩

/-- A program that compares `t.a.as_("x")` builds an accepted statement with an alias in its WHERE. -/
theorem aliasedOperand_misplaced :
    ∃ objects, Run (searchCalls bareColumn aliasedColumn) objects ∧
      .select { node := columnSearch bareColumn aliasedColumn } ∈ objects ∧
      Accepted (.select (columnSearch bareColumn aliasedColumn)) postgres ∧
      ¬AliasesOutermost (.select (columnSearch bareColumn aliasedColumn)) := by
  obtain ⟨objects, run, held⟩ := searchCalls_run (.inl (Eq.refl bareColumn))
    (.inr (Eq.refl aliasedColumn))
  refine ⟨objects, run, held, by decide +kernel, fun outermost => ?_⟩
  have clause := (outermost _ {} .refl).clauses
    (.binary (.aliased (.column "t" "a") "x") .eq (.column "t" "b"))
    (by simp [plainClauses, columnSearch, aliasedColumn, Expression.node])
  have operand := (unaliased_iff.mp clause).2 (.aliased (.column "t" "a") "x") (by simp [children])
  cases (unaliased_iff.mp operand).1

/-- A program that selects `t.a.as_("x")` instead. -/
theorem aliasesOutermost_of_handsPlain_columnSearch :
    AliasesOutermost (.select (columnSearch aliasedColumn bareColumn)) := by
  obtain ⟨objects, run, held⟩ := searchCalls_run (.inr (Eq.refl aliasedColumn))
    (.inl (Eq.refl bareColumn))
  have plain : ∀ call ∈ searchCalls aliasedColumn bareColumn, call.HandsPlain := by
    simp [searchCalls, Call.HandsPlain, Call.handed, ExpressionCall.handed, ExpressionCall.operands,
      ExpressionCall.expressionsOf, SelectMethod.handed, bareColumn, Expression.node, Node.carriesAlias]
  have accepted : Accepted (.select (columnSearch aliasedColumn bareColumn)) postgres := by
    decide +kernel
  exact aliasesOutermost_of_handsPlain run plain held rfl accepted

end Relq
