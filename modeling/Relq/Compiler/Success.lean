/-
Module: Relq.Compiler.Success
Layer: Compiler
Purpose: A statement whose rendering succeeds renders each of its parts. What the renderer refuses
  anywhere inside a statement it therefore refuses for the whole of it.
Imports: Relq.Compiler.Steady, Relq.Compiler.LayoutParts
Trusted boundary: none (fully proved)
Main exports: compileTerm, succeeds_part, succeeds_rendered
-/
import Relq.Compiler.Steady
import Relq.Compiler.LayoutParts

namespace Relq

variable {V : Type} {dialect : Dialect}

/-- The guard of a PostgreSQL-only expression and what stands behind it. -/
theorem succeeds_guarded {name : String} {α : Type} {m : Renderer V α}
    (done : Succeeds (do requirePostgresExpression dialect name; m : Renderer V α)) :
    dialect.supportsPostgresExpressions = true ∧ Succeeds m := by
  obtain ⟨guard, _, rest⟩ := done.bind
  obtain ⟨_, passed⟩ := guard.of_lift
  refine ⟨?_, rest⟩
  unfold requirePostgresExpression at passed
  split at passed
  · assumption
  · cases passed

variable [PyObject V]

variable (dialect) in
/-- The rendering of a term. -/
def compileTerm : Term V → Renderer V Text
  | .expression node => compileNode dialect node
  | .statement query => renderStatement dialect query

variable (dialect) in
/-- Every one of the terms is rendered successfully at some point. -/
abbrev EachSucceeds (parts : List (Term V)) : Prop :=
  ∀ part ∈ parts, Succeeds (compileTerm dialect part)

theorem eachSucceeds_nil : EachSucceeds dialect ([] : List (Term V)) :=
  fun _ member => absurd member List.not_mem_nil

theorem eachSucceeds_cons {part : Term V} {parts : List (Term V)} :
    EachSucceeds dialect (part :: parts) ↔
      Succeeds (compileTerm dialect part) ∧ EachSucceeds dialect parts :=
  List.forall_mem_cons

theorem eachSucceeds_append {parts parts' : List (Term V)} :
    EachSucceeds dialect (parts ++ parts') ↔
      EachSucceeds dialect parts ∧ EachSucceeds dialect parts' :=
  List.forall_mem_append

/-! ### Lists of parts -/

theorem succeeds_nodes {nodes : List (Node V)} (done : Succeeds (compileNodes dialect nodes)) :
    EachSucceeds dialect (nodes.map .expression) := by
  induction nodes with
  | nil => exact eachSucceeds_nil
  | cons node rest ih =>
      rw [compileNodes] at done
      obtain ⟨first, later⟩ := done.two
      exact eachSucceeds_cons.mpr ⟨first, ih later⟩

theorem succeeds_option {slot : Option (Node V)} (done : Succeeds (compileOption dialect slot)) :
    EachSucceeds dialect (slot.toList.map .expression) := by
  cases slot with
  | none => exact eachSucceeds_nil
  | some node =>
      rw [compileOption] at done
      exact eachSucceeds_cons.mpr ⟨done.one, eachSucceeds_nil⟩

theorem succeeds_components {components : List (String × Node V)}
    (done : Succeeds (compileComponents dialect components)) :
    EachSucceeds dialect (components.map .named) := by
  induction components with
  | nil => exact eachSucceeds_nil
  | cons component rest ih =>
      rw [compileComponents] at done
      obtain ⟨first, later⟩ := done.two
      exact eachSucceeds_cons.mpr ⟨first, ih later⟩

theorem succeeds_branches {branches : List (Node V × Node V)}
    (done : Succeeds (compileBranches dialect branches)) :
    EachSucceeds dialect ((branches.flatMap fun branch => [branch.1, branch.2]).map .expression) := by
  induction branches with
  | nil => exact eachSucceeds_nil
  | cons branch rest ih =>
      rw [compileBranches] at done
      obtain ⟨condition, value, later⟩ := done.three
      exact eachSucceeds_cons.mpr ⟨condition, eachSucceeds_cons.mpr ⟨value, ih later⟩⟩

theorem succeeds_orders {orders : List (OrderNode V)}
    (done : Succeeds (compileOrders dialect orders)) :
    EachSucceeds dialect (orders.map .order) := by
  induction orders with
  | nil => exact eachSucceeds_nil
  | cons order rest ih =>
      obtain ⟨expression, direction, nulls⟩ := order
      rw [compileOrders] at done
      obtain ⟨first, later⟩ := done.two
      exact eachSucceeds_cons.mpr ⟨first, ih later⟩

theorem succeeds_assignments {values : List (String × Node V)}
    (done : Succeeds (compileAssignments dialect values)) :
    EachSucceeds dialect (values.map .named) := by
  induction values with
  | nil => exact eachSucceeds_nil
  | cons pair rest ih =>
      rw [compileAssignments] at done
      obtain ⟨first, later⟩ := done.two
      exact eachSucceeds_cons.mpr ⟨first, ih later⟩

theorem succeeds_cells {cells : List (String × Node V)}
    (done : Succeeds (compileCells dialect cells)) :
    EachSucceeds dialect (cells.map .named) := by
  induction cells with
  | nil => exact eachSucceeds_nil
  | cons cell rest ih =>
      rw [compileCells] at done
      obtain ⟨first, later⟩ := done.two
      exact eachSucceeds_cons.mpr ⟨first, ih later⟩

theorem succeeds_rows {rows : List (List (String × Node V))}
    (done : Succeeds (compileRows dialect rows)) :
    EachSucceeds dialect (rows.flatMap fun row => row.map .named) := by
  induction rows with
  | nil => exact eachSucceeds_nil
  | cons row rest ih =>
      rw [compileRows] at done
      obtain ⟨cells, later⟩ := done.two
      exact eachSucceeds_append.mpr ⟨succeeds_cells cells, ih later⟩

theorem succeeds_inValues {values : InValues V} {expression : Node V} {negated : Bool}
    (first : Succeeds (compileNode dialect expression))
    (done : Succeeds (compileInValues dialect values)) :
    EachSucceeds dialect (renderedParts (.expression (.inNode expression values negated))) := by
  cases values with
  | nodes values =>
      rw [compileInValues] at done
      refine eachSucceeds_append.mpr ⟨eachSucceeds_cons.mpr ⟨first, succeeds_nodes done.one⟩, ?_⟩
      exact eachSucceeds_nil
  | select query =>
      rw [compileInValues] at done
      exact eachSucceeds_cons.mpr ⟨first, eachSucceeds_cons.mpr ⟨done.one, eachSucceeds_nil⟩⟩

/-! ### Expressions -/

theorem succeeds_window {call : WindowCall V} {partitionBy : List (Node V)}
    {orderBy : List (OrderNode V)} {frame : Option WindowFrameNode}
    {exclusion : Option WindowExclusion}
    (done : Succeeds (compileNode dialect (.window call partitionBy orderBy frame exclusion))) :
    EachSucceeds dialect (renderedParts (.expression (.window call partitionBy orderBy frame
      exclusion))) := by
  rw [compileNode] at done
  have guarded := done
  split at guarded
  · exact guarded.bind.1.of_throw.elim
  · obtain ⟨partition, _, rest⟩ := guarded.bind
    obtain ⟨orders, _, rest⟩ := rest.bind
    obtain ⟨_, _, rest⟩ := rest.bind
    have called : Succeeds (compileTerm dialect (.expression call.toNode)) := by
      rw [compileTerm, ← compileWindowCall_eq]
      exact rest.one
    have all := eachSucceeds_cons.mpr ⟨called,
      eachSucceeds_append.mpr ⟨succeeds_nodes partition, succeeds_orders orders⟩⟩
    simpa [renderedParts, children, Node.nestedSelect, Function.comp_def] using all

section
variable {a b c d : Node V}

theorem eachSucceeds_one (first : Succeeds (compileNode dialect a)) :
    EachSucceeds dialect [.expression a] :=
  eachSucceeds_cons.mpr ⟨first, eachSucceeds_nil⟩

theorem eachSucceeds_two
    (both : Succeeds (compileNode dialect a) ∧ Succeeds (compileNode dialect b)) :
    EachSucceeds dialect [.expression a, .expression b] :=
  eachSucceeds_cons.mpr ⟨both.1, eachSucceeds_one both.2⟩

theorem eachSucceeds_three (all : Succeeds (compileNode dialect a) ∧
      Succeeds (compileNode dialect b) ∧ Succeeds (compileNode dialect c)) :
    EachSucceeds dialect [.expression a, .expression b, .expression c] :=
  eachSucceeds_cons.mpr ⟨all.1, eachSucceeds_two all.2⟩

theorem eachSucceeds_four (all : Succeeds (compileNode dialect a) ∧
      Succeeds (compileNode dialect b) ∧ Succeeds (compileNode dialect c) ∧
      Succeeds (compileNode dialect d)) :
    EachSucceeds dialect [.expression a, .expression b, .expression c, .expression d] :=
  eachSucceeds_cons.mpr ⟨all.1, eachSucceeds_three all.2⟩

end

theorem succeeds_expression {node : Node V} (done : Succeeds (compileNode dialect node)) :
    EachSucceeds dialect (renderedParts (.expression node)) := by
  cases node with
  | window call partitionBy orderBy frame exclusion => exact succeeds_window done
  | inNode expression values negated =>
      rw [compileNode] at done
      obtain ⟨first, later⟩ := done.two
      exact succeeds_inValues first later
  | jsonText left right | regexMatch left right =>
      rw [compileNode] at done
      exact eachSucceeds_two (succeeds_guarded done).2.two
  | uuidCast operand =>
      rw [compileNode] at done
      exact eachSucceeds_one (succeeds_guarded done).2.one
  | column source name | value value | temporalClock kind | star | excluded source name =>
      exact eachSucceeds_nil
  | binary left operator right =>
      rw [compileNode] at done
      exact eachSucceeds_two done.two
  | temporalDifference left right | temporalIntervalScale left operator right
  | temporalTimezone left right | temporalTruncTimestamptz unit left right | temporalAge left right =>
      rw [compileNode] at done
      exact eachSucceeds_two done.two
  | temporalArithmetic timestamp operator interval =>
      rw [compileNode] at done
      exact eachSucceeds_two done.two.symm
  | temporalMakeDate year month day =>
      rw [compileNode] at done
      exact eachSucceeds_three done.three
  | temporalMakeTime year month day | temporalBin year month day | between year month day =>
      rw [compileNode] at done
      exact eachSucceeds_three done.three
  | temporalMakeTimestamp year month day hour minute second =>
      rw [compileNode] at done
      obtain ⟨first, _, rest⟩ := done.bind
      obtain ⟨second, _, rest⟩ := rest.bind
      exact eachSucceeds_cons.mpr ⟨first, eachSucceeds_cons.mpr ⟨second,
        eachSucceeds_four rest.four⟩⟩
  | temporalMakeTimestamptz year month day hour minute second zone =>
      rw [compileNode] at done
      obtain ⟨first, _, rest⟩ := done.bind
      obtain ⟨second, _, rest⟩ := rest.bind
      obtain ⟨third, _, rest⟩ := rest.bind
      obtain ⟨fourth, fifth, sixth, zone⟩ := rest.four
      have all := eachSucceeds_append.mpr ⟨eachSucceeds_two ⟨first, second⟩,
        eachSucceeds_append.mpr ⟨eachSucceeds_four ⟨third, fourth, fifth, sixth⟩,
          succeeds_option zone⟩⟩
      simpa [renderedParts, children, Node.nestedSelect] using all
  | temporalOverlaps leftStart leftEnd rightStart rightEnd =>
      rw [compileNode] at done
      exact eachSucceeds_four done.four
  | temporalMakeInterval components =>
      rw [compileNode] at done
      have all := succeeds_components done.one
      simpa [renderedParts, children, Node.nestedSelect, Function.comp_def] using all
  | temporalEpoch operand | temporalIntervalUnary operand | temporalExtract field operand
  | temporalTrunc unit operand | temporalJustify kind operand | unary operator operand
  | aliased operand aliasName =>
      rw [compileNode] at done
      exact eachSucceeds_one done.one
  | nullableResult operand =>
      rw [compileNode] at done
      exact eachSucceeds_one done
  | function name arguments =>
      rw [compileNode] at done
      exact eachSucceeds_append.mpr ⟨succeeds_nodes done.one, eachSucceeds_nil⟩
  | case branches otherwise =>
      rw [compileNode] at done
      obtain ⟨branches, otherwise⟩ := done.two
      have all := eachSucceeds_append.mpr ⟨succeeds_branches branches, eachSucceeds_one otherwise⟩
      simpa [renderedParts, children, Node.nestedSelect] using all
  | aggregate name arguments filter =>
      rw [compileNode] at done
      obtain ⟨arguments, filter⟩ := done.two
      have all := eachSucceeds_append.mpr ⟨succeeds_nodes arguments, succeeds_option filter⟩
      simpa [renderedParts, children, Node.nestedSelect] using all
  | scalarSubquery query | «exists» query negated =>
      rw [compileNode] at done
      exact eachSucceeds_cons.mpr ⟨done.one, eachSucceeds_nil⟩

/-! ### Statements -/

theorem succeeds_source {source : SourceNode V} (done : Succeeds (compileSource dialect source)) :
    EachSucceeds dialect (sourceParts source) := by
  cases source with
  | table table => exact eachSucceeds_nil
  | cte name => exact eachSucceeds_nil
  | derived query aliasName =>
      rw [compileSource] at done
      exact eachSucceeds_cons.mpr ⟨done.one, eachSucceeds_nil⟩

theorem succeeds_from {slot : Option (SourceNode V)} (done : Succeeds (compileFrom dialect slot)) :
    EachSucceeds dialect (slot.toList.flatMap sourceParts) := by
  cases slot with
  | none => exact eachSucceeds_nil
  | some source =>
      rw [compileFrom] at done
      exact eachSucceeds_append.mpr ⟨succeeds_source done, eachSucceeds_nil⟩

theorem succeeds_joins {joins : List (JoinNode V)} (done : Succeeds (compileJoins dialect joins)) :
    EachSucceeds dialect (joins.flatMap joinParts) := by
  induction joins with
  | nil => exact eachSucceeds_nil
  | cons join rest ih =>
      obtain ⟨source, predicate, kind⟩ := join
      rw [compileJoins] at done
      obtain ⟨first, _, done⟩ := done.bind
      rw [List.flatMap_cons, joinParts, eachSucceeds_append, eachSucceeds_append]
      by_cases crossed : (kind != "cross") = true
      · rw [if_pos crossed] at done ⊢
        obtain ⟨predicate, later⟩ := done.two
        exact ⟨⟨succeeds_source first, eachSucceeds_one predicate⟩, ih later⟩
      · rw [if_neg crossed] at done ⊢
        exact ⟨⟨succeeds_source first, eachSucceeds_nil⟩, ih done.one⟩

/-- The statement in a WITH entry is rendered, unless the dialect refuses it. -/
theorem succeeds_cteBody {query : QueryNode V} (done : Succeeds (compileCteBody dialect query)) :
    Succeeds (renderStatement dialect query) ∧
      ((∃ select, query = .select select) ∨ dialect.supportsDataModifyingCtes = true) := by
  cases query with
  | select query =>
      rw [compileCteBody] at done
      exact ⟨done, Or.inl ⟨query, rfl⟩⟩
  | insert query | update query | delete query =>
      rw [compileCteBody] at done
      split at done
      · exact ⟨done, Or.inr ‹_›⟩
      · exact done.of_throw.elim

theorem succeeds_ctes {ctes : List (CteNode V)} (done : Succeeds (compileCtes dialect ctes)) :
    ∀ cte ∈ ctes, Succeeds (compileCteBody dialect cte.query) := by
  induction ctes with
  | nil => exact fun _ member => absurd member List.not_mem_nil
  | cons cte rest ih =>
      obtain ⟨name, query, recursive, materialized⟩ := cte
      rw [compileCtes] at done
      obtain ⟨first, later⟩ := done.two
      exact List.forall_mem_cons.mpr ⟨first, ih later⟩

theorem succeeds_compounds {compounds : List (CompoundNode V)}
    (done : Succeeds (compileCompounds dialect compounds)) :
    EachSucceeds dialect (compounds.map fun compound => .select compound.query) := by
  induction compounds with
  | nil => exact eachSucceeds_nil
  | cons compound rest ih =>
      obtain ⟨operator, query⟩ := compound
      rw [compileCompounds] at done
      obtain ⟨first, later⟩ := done.two
      exact eachSucceeds_cons.mpr ⟨first, ih later⟩

/-- What the renderer goes through in a SELECT. -/
structure SelectRendered (dialect : Dialect) (query : SelectNode V) : Prop where
  ctes : Succeeds (compileCtes dialect query.ctes)
  selections : Succeeds (compileNodes dialect query.selections)
  fromSource : Succeeds (compileFrom dialect query.fromSource)
  joins : Succeeds (compileJoins dialect query.joins)
  whereNode : Succeeds (compileOption dialect query.whereNode)
  groupBy : Succeeds (compileNodes dialect query.groupBy)
  having : Succeeds (compileOption dialect query.having)
  orderBy : Succeeds (compileOrders dialect query.orderBy)
  compounds : Succeeds (compileCompounds dialect query.compounds)

theorem succeeds_select {query : SelectNode V} (done : Succeeds (compileSelect dialect query)) :
    SelectRendered dialect query := by
  obtain ⟨selections, fromSource, joins, whereNode, groupBy, having, orderBy, limit, offset,
    distinct, ctes, compounds, locks⟩ := query
  rw [compileSelect] at done
  split at done
  · exact done.bind.1.of_throw.elim
  · obtain ⟨ctes, _, done⟩ := done.bind
    obtain ⟨selections, _, done⟩ := done.bind
    obtain ⟨fromSource, _, done⟩ := done.bind
    obtain ⟨joins, _, done⟩ := done.bind
    obtain ⟨whereNode, _, done⟩ := done.bind
    obtain ⟨groupBy, having, orderBy, compounds⟩ := done.four
    exact ⟨ctes, selections, fromSource, joins, whereNode, groupBy, having, orderBy, compounds⟩

theorem SelectRendered.parts {query : SelectNode V} (done : SelectRendered dialect query) :
    EachSucceeds dialect (renderedParts (.select query)) := by
  have bodies : EachSucceeds dialect (query.ctes.map fun cte => .statement cte.query) := by
    intro part member
    obtain ⟨cte, inside, rfl⟩ := List.mem_map.mp member
    exact (succeeds_cteBody (succeeds_ctes done.ctes cte inside)).1
  simp only [renderedParts, eachSucceeds_append]
  exact ⟨⟨⟨⟨⟨⟨⟨⟨bodies, succeeds_nodes done.selections⟩, succeeds_from done.fromSource⟩,
    succeeds_joins done.joins⟩, succeeds_option done.whereNode⟩, succeeds_nodes done.groupBy⟩,
    succeeds_option done.having⟩, succeeds_orders done.orderBy⟩, succeeds_compounds done.compounds⟩

theorem succeeds_insertSource {source : InsertSourceNode V}
    (done : Succeeds (compileInsertSource dialect source)) :
    EachSucceeds dialect (insertSourceParts source) := by
  cases source with
  | values values =>
      rw [compileInsertSource] at done
      exact succeeds_cells done.one
  | rows rows =>
      rw [compileInsertSource] at done
      split at done
      · exact done.of_throw.elim
      · exact succeeds_rows done.one
  | select query columns =>
      rw [compileInsertSource] at done
      exact eachSucceeds_cons.mpr ⟨done.one, eachSucceeds_nil⟩
  | defaultValues => exact eachSucceeds_nil

theorem succeeds_conflict {conflict : ConflictNode V}
    (done : Succeeds (compileConflict dialect conflict)) :
    EachSucceeds dialect (if conflict.action = "nothing" then []
      else conflict.updateValues.map .named ++ conflict.updateWhere.toList.map .expression) := by
  obtain ⟨columns, action, updateValues, targetWhere, updateWhere⟩ := conflict
  rw [compileConflict] at done
  obtain ⟨-, _, done⟩ := done.bind
  by_cases nothing : action = "nothing"
  · rw [if_pos nothing]
    exact eachSucceeds_nil
  · rw [if_neg nothing] at done ⊢
    by_cases update : action = "update"
    · rw [if_pos update] at done
      split at done
      · exact done.bind.1.of_throw.elim
      · obtain ⟨values, where_⟩ := done.two
        exact eachSucceeds_append.mpr ⟨succeeds_assignments values, succeeds_option where_⟩
    · rw [if_neg update] at done
      exact done.of_throw.elim

theorem succeeds_returning {returning : List (Node V)}
    (done : Succeeds (compileReturning dialect returning)) :
    EachSucceeds dialect (returning.map .expression) := by
  rw [compileReturning] at done
  split at done
  · rename_i absent
    rw [List.isEmpty_iff.mp absent]
    exact eachSucceeds_nil
  · split at done
    · exact done.of_throw.elim
    · exact succeeds_nodes done.one

/-- What the renderer goes through in an INSERT, UPDATE or DELETE of `table`. -/
structure DmlRendered (dialect : Dialect) (table : TableSourceNode) (query : QueryNode V) : Prop where
  table : ∃ text, compileTable dialect table = .ok text
  parts : EachSucceeds dialect (renderedParts (.statement query))

omit [PyObject V] in
theorem source_given {source : InsertSourceNode V} (other : source = .defaultValues → False) :
    ¬(some source).any (·.isDefaultValues) = true := by
  cases source with
  | defaultValues => exact (other rfl).elim
  | values _ | rows _ | select _ _ => exact Bool.false_ne_true

/-- The conflict action of an INSERT, if it has one. -/
theorem succeeds_conflictOption {slot : Option (ConflictNode V)}
    (done : Succeeds (compileConflictOption dialect slot)) :
    EachSucceeds dialect (slot.toList.flatMap fun conflict =>
      if conflict.action = "nothing" then []
      else conflict.updateValues.map .named ++ conflict.updateWhere.toList.map .expression) := by
  cases slot with
  | none => exact eachSucceeds_nil
  | some conflict =>
      rw [compileConflictOption] at done
      exact eachSucceeds_append.mpr ⟨succeeds_conflict done, eachSucceeds_nil⟩

theorem succeeds_insert {query : InsertNode V} (done : Succeeds (compileInsert dialect query)) :
    DmlRendered dialect query.table (.insert query) := by
  obtain ⟨table, slot, conflict, returning⟩ := query
  rw [compileInsert.eq_def] at done
  dsimp only at done
  split at done
  · exact done.of_throw.elim
  · obtain ⟨table, _, done⟩ := done.bind
    exact ⟨table.of_lift, eachSucceeds_append.mpr ⟨eachSucceeds_nil, succeeds_returning done.one⟩⟩
  · rename_i source other
    obtain ⟨source, table, clause, returned⟩ := done.four
    refine ⟨table.of_lift, ?_⟩
    rw [renderedParts, insertParts_given (source_given other)]
    exact eachSucceeds_append.mpr ⟨eachSucceeds_append.mpr
      ⟨eachSucceeds_append.mpr ⟨succeeds_insertSource source, eachSucceeds_nil⟩,
        succeeds_conflictOption clause⟩, succeeds_returning returned⟩

theorem succeeds_update {query : UpdateNode V} (done : Succeeds (compileUpdate dialect query)) :
    DmlRendered dialect query.table (.update query) := by
  obtain ⟨table, values, whereNode, bounded, returning⟩ := query
  rw [compileUpdate] at done
  obtain ⟨values, table, whereNode, returned⟩ := done.four
  exact ⟨table.of_lift, eachSucceeds_append.mpr ⟨eachSucceeds_append.mpr
    ⟨succeeds_assignments values, succeeds_option whereNode⟩, succeeds_returning returned⟩⟩

theorem succeeds_delete {query : DeleteNode V} (done : Succeeds (compileDelete dialect query)) :
    DmlRendered dialect query.table (.delete query) := by
  obtain ⟨table, whereNode, bounded, returning⟩ := query
  rw [compileDelete] at done
  obtain ⟨table, whereNode, returned⟩ := done.three
  exact ⟨table.of_lift, eachSucceeds_append.mpr
    ⟨succeeds_option whereNode, succeeds_returning returned⟩⟩

/-- The parts of a rendered term are rendered. -/
theorem succeeds_part {term part : Term V} (done : Succeeds (compileTerm dialect term))
    (member : part ∈ renderedParts term) : Succeeds (compileTerm dialect part) := by
  rcases term with node | node | node | node | node
  · exact succeeds_expression done part member
  · exact (succeeds_select done).parts part member
  · exact (succeeds_insert done).parts part member
  · exact (succeeds_update done).parts part member
  · exact (succeeds_delete done).parts part member

theorem succeeds_rendered {root term : Term V} (done : Succeeds (compileTerm dialect root))
    (inside : Rendered root term) : Succeeds (compileTerm dialect term) := by
  induction inside with
  | refl => exact done
  | tail _ member ih => exact succeeds_part ih member

end Relq
