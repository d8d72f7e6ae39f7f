/-
Module: Relq.Compiler.Portability
Layer: Compiler
Purpose: The dialect gate. `Construct` lists what is reserved to PostgreSQL. The validators and the
  guards of the renderer each refuse some of it in some places; together they let a construct pass
  only if the dialect supports it, wherever in the statement it stands.
Imports: Relq.Compiler.Accepted, Relq.Compiler.Success
Trusted boundary: human-reviewed spec (Construct, Dialect.supports, Term.uses)
Main exports: Construct, Term.uses, Vetted, vetted_rendered, uses_supported
-/
import Relq.Compiler.Accepted
import Relq.Compiler.Success

namespace Relq

open Outcome

variable {V : Type}

/-- The constructs reserved to PostgreSQL. -/
inductive Construct where
  | temporal
  | jsonText
  | regexMatch
  | uuidCast
  | rowLock
  | schemaQualified
  | dataModifyingCte
  | conflictPredicate
deriving DecidableEq, Repr

def Dialect.supports (dialect : Dialect) : Construct → Bool
  | .temporal => dialect.supportsTemporalArithmetic
  | .jsonText | .regexMatch | .uuidCast => dialect.supportsPostgresExpressions
  | .rowLock => dialect.supportsRowLocking
  | .schemaQualified => dialect.supportsSchemaQualifiedTables
  | .dataModifyingCte => dialect.supportsDataModifyingCtes
  | .conflictPredicate => dialect.supportsConflictPredicates

/-- The reserved construct that an expression is. -/
def Node.construct (node : Node V) : Option Construct :=
  if node.isTemporal then some .temporal
  else match node with
    | .jsonText _ _ => some .jsonText
    | .regexMatch _ _ _ => some .regexMatch
    | .uuidCast _ => some .uuidCast
    | _ => none

/-- The stored tables that a statement names itself. -/
def QueryNode.tables : QueryNode V → List TableSourceNode
  | .select node => node.sources.filterMap SourceNode.directTable
  | .insert node => [node.table]
  | .update node => [node.table]
  | .delete node => [node.table]

/-- Whether a statement itself, not a part of it, uses a reserved construct. -/
def QueryNode.uses : QueryNode V → Construct → Bool
  | .select node, .rowLock => !node.locks.isEmpty
  | .select node, .dataModifyingCte => node.ctes.any CteNode.isDataModifying
  | .insert node, .conflictPredicate =>
      !(node.conflict.toList.flatMap ConflictNode.predicates).isEmpty
  | query, .schemaQualified => query.tables.any fun table => table.schema.isSome
  | _, _ => false

def Term.uses : Term V → Construct → Bool
  | .expression node, construct => node.construct = some construct
  | .statement query, construct => query.uses construct

/-! ### The parts of an INSERT, UPDATE or DELETE -/

/-- A part of the rows of an INSERT is one of its values or the SELECT they come from. -/
theorem insertSource_parts {query : InsertNode V} {source : InsertSourceNode V} {part : Term V}
    (present : query.source = some source) (member : part ∈ insertSourceParts source) :
    (∃ node ∈ insertValues query.source, part = .expression node) ∨
      ∃ inner ∈ query.sourceQuery, part = .select inner := by
  rw [present, InsertNode.sourceQuery, present]
  cases source with
  | values values =>
      obtain ⟨pair, below, rfl⟩ := List.mem_map.mp member
      exact Or.inl ⟨pair.2, List.mem_map.mpr ⟨pair, below, rfl⟩, rfl⟩
  | rows rows =>
      obtain ⟨row, inRows, below⟩ := List.mem_flatMap.mp member
      obtain ⟨pair, inRow, rfl⟩ := List.mem_map.mp below
      exact Or.inl ⟨pair.2, List.mem_flatMap.mpr
        ⟨row, inRows, List.mem_map.mpr ⟨pair, inRow, rfl⟩⟩, rfl⟩
  | select inner columns => exact Or.inr ⟨inner, rfl, List.mem_singleton.mp member⟩
  | defaultValues => cases member

/-- A part of a conflict action is an assigned value or the predicate of the update. -/
theorem conflict_parts {conflict : ConflictNode V} {part : Term V}
    (member : part ∈ if conflict.action = "nothing" then [] else
      conflict.updateValues.map .named ++ conflict.updateWhere.toList.map .expression) :
    ∃ node, part = .expression node ∧
      (node ∈ conflict.updateValues.map (·.2) ∨ node ∈ conflict.predicates) := by
  split at member
  · cases member
  · rcases List.mem_append.mp member with inside | inside
    · obtain ⟨pair, below, rfl⟩ := List.mem_map.mp inside
      exact ⟨pair.2, rfl, Or.inl (List.mem_map.mpr ⟨pair, below, rfl⟩)⟩
    · obtain ⟨node, below, rfl⟩ := List.mem_map.mp inside
      exact ⟨node, rfl, Or.inr (List.mem_append_right _ below)⟩

/-- A part of an INSERT, UPDATE or DELETE is one of the expressions its validation goes through, or
the SELECT its rows come from. -/
theorem dml_parts {query : QueryNode V} {table : TableSourceNode} {part : Term V}
    (target : query.target = some table) (member : part ∈ renderedParts (.statement query)) :
    (∃ node ∈ dmlExpressions query, part = .expression node) ∨
      ∃ source ∈ query.sourceQuery, part = .select source := by
  cases query with
  | select query => simp [QueryNode.target] at target
  | insert query =>
      rcases List.mem_append.mp member with inside | inside
      · rcases List.mem_append.mp inside with inside | inside
        · obtain ⟨source, present, below⟩ := List.mem_flatMap.mp inside
          rcases insertSource_parts (Option.mem_toList.mp present) below with
            ⟨node, assigned, rfl⟩ | found
          · exact Or.inl ⟨node, by simp [dmlExpressions, InsertNode.assignedValues, assigned], rfl⟩
          · exact Or.inr found
        · split at inside
          · cases inside
          · obtain ⟨conflict, present, below⟩ := List.mem_flatMap.mp inside
            obtain ⟨node, rfl, assigned | predicate⟩ := conflict_parts below
            · refine Or.inl ⟨node, ?_, rfl⟩
              have : node ∈ query.assignedValues :=
                List.mem_append_right _ (List.mem_flatMap.mpr ⟨conflict, present, assigned⟩)
              simp [dmlExpressions, this]
            · exact Or.inl ⟨node, List.mem_append_right _
                (List.mem_flatMap.mpr ⟨conflict, present, predicate⟩), rfl⟩
      · obtain ⟨node, below, rfl⟩ := List.mem_map.mp inside
        exact Or.inl ⟨node, by simp [dmlExpressions, below], rfl⟩
  | update query =>
      simp only [renderedParts, List.mem_append] at member
      rcases member with (inside | inside) | inside
      · obtain ⟨pair, below, rfl⟩ := List.mem_map.mp inside
        refine Or.inl ⟨pair.2, ?_, rfl⟩
        simp only [dmlExpressions, List.mem_append]
        exact Or.inl (Or.inr (List.mem_map.mpr ⟨pair, below, rfl⟩))
      · obtain ⟨node, below, rfl⟩ := List.mem_map.mp inside
        exact Or.inl ⟨node, by simp [dmlExpressions, Option.mem_toList.mp below], rfl⟩
      · obtain ⟨node, below, rfl⟩ := List.mem_map.mp inside
        exact Or.inl ⟨node, by simp [dmlExpressions, below], rfl⟩
  | delete query =>
      rcases List.mem_append.mp member with inside | inside
      · obtain ⟨node, below, rfl⟩ := List.mem_map.mp inside
        exact Or.inl ⟨node, by simp [dmlExpressions, Option.mem_toList.mp below], rfl⟩
      · obtain ⟨node, below, rfl⟩ := List.mem_map.mp inside
        exact Or.inl ⟨node, by simp [dmlExpressions, below], rfl⟩

/-! ### What acceptance says about the parts -/

section
variable [DecidableEq V] [PyObject V]

/-- What the acceptance of a statement says about a term inside it. -/
def Vetted (dialect : Dialect) : Term V → Prop
  | .expression node =>
      (∀ item ∈ walk node, item.isTemporal = true → dialect.supportsTemporalArithmetic = true) ∧
        ∀ query ∈ subqueries node, ∃ outer, validateSelect query dialect outer = .ok ()
  | .statement query => ∃ outer, validateStatement query dialect outer = .ok ()

variable {dialect : Dialect}

omit [DecidableEq V] in
theorem validateExpressionDialect_temporal {expression : Node V}
    (accepted : validateExpressionDialect expression dialect = .ok ()) :
    ∀ item ∈ walk expression, item.isTemporal = true → dialect.supportsTemporalArithmetic = true := by
  intro item inside temporal
  have visited := forM_eq_ok.mp accepted item inside
  rw [if_pos temporal, seq_eq_ok, check_eq_ok] at visited
  exact visited.1

theorem vetted_select {query : SelectNode V} {outer : List String}
    (accepted : validateSelect query dialect outer = .ok ()) : Vetted dialect (.select query) :=
  ⟨outer, by rw [validateStatement]; exact accepted⟩

theorem vetted_expression {node part : Node V} (vetted : Vetted dialect (.expression node))
    (member : part ∈ children node) : Vetted dialect (.expression part) := by
  have within : ∀ item ∈ walk part, item ∈ walk node := fun item inside =>
    mem_walk.mpr (Or.inr ⟨part, member, inside⟩)
  refine ⟨fun item inside => vetted.1 item (within item inside), ?_⟩
  intro query nested
  obtain ⟨item, inside, carried⟩ := mem_subqueries.mp nested
  exact vetted.2 query (mem_subqueries.mpr ⟨item, within item inside, carried⟩)

theorem vetted_ctes {ctes : List (CteNode V)} {outer visible : List String}
    (accepted : validateCtes ctes dialect outer visible = .ok ()) :
    ∀ cte ∈ ctes, Vetted dialect (.statement cte.query) := by
  induction ctes generalizing visible with
  | nil => exact fun _ member => absurd member List.not_mem_nil
  | cons cte rest ih =>
      obtain ⟨name, query, recursive, materialized⟩ := cte
      rw [validateCtes] at accepted
      simp only [seq_eq_ok] at accepted
      obtain ⟨-, body, later⟩ := accepted
      exact List.forall_mem_cons.mpr ⟨⟨_, validateCteBody_statement body⟩, ih later⟩

/-- An expression of an accepted SELECT. -/
theorem SelectRules.vetted {query : SelectNode V} {outer : List String} {expression : Node V}
    (rules : SelectRules query dialect outer) (member : expression ∈ query.scopeExpressions) :
    Vetted dialect (.expression expression) := by
  have checked := rules.dialectNodes
  rw [validateDialectNodes, seq_eq_ok, forM_eq_ok] at checked
  have listed : expression ∈ query.dialectExpressions := by
    simp only [SelectNode.scopeExpressions, SelectNode.dialectExpressions, List.mem_append] at member ⊢
    tauto
  exact ⟨validateExpressionDialect_temporal (checked.1 expression listed),
    fun inner nested => ⟨_, rules.nested expression member inner nested⟩⟩

/-- An expression of an accepted INSERT, UPDATE or DELETE. -/
theorem DmlRules.vetted {query : QueryNode V} {table : TableSourceNode} {outer : List String}
    {expression : Node V} (rules : DmlRules query table dialect outer)
    (member : expression ∈ dmlExpressions query) : Vetted dialect (.expression expression) :=
  ⟨validateExpressionDialect_temporal (rules.dialectNodes expression member),
    fun inner nested => ⟨_, rules.nested expression member inner nested⟩⟩

theorem vetted_sources {query : SelectNode V} {outer : List String} {source : SourceNode V}
    {part : Term V} (rules : SelectRules query dialect outer) (listed : source ∈ query.sources)
    (member : part ∈ sourceParts source) : Vetted dialect part := by
  obtain ⟨inner, derived, rfl⟩ := List.mem_map.mp member
  exact vetted_select (rules.derived inner
    (List.mem_filterMap.mpr ⟨source, listed, Option.mem_toList.mp derived⟩))

/-- Every part of an accepted SELECT is vetted. -/
theorem SelectRules.vetted_part {query : SelectNode V} {outer : List String} {part : Term V}
    (rules : SelectRules query dialect outer) (member : part ∈ renderedParts (.select query)) :
    Vetted dialect part := by
  have expressions {nodes : List (Node V)} (listed : ∀ node ∈ nodes, node ∈ query.scopeExpressions)
      (inside : part ∈ nodes.map Term.expression) : Vetted dialect part := by
    obtain ⟨node, below, rfl⟩ := List.mem_map.mp inside
    exact rules.vetted (listed node below)
  simp only [renderedParts, List.mem_append] at member
  rcases member with (((((((inside | inside) | inside) | inside) | inside) | inside) | inside) |
    inside) | inside
  · obtain ⟨cte, below, rfl⟩ := List.mem_map.mp inside
    exact vetted_ctes rules.ctes cte below
  · exact expressions (fun node below => by simp [SelectNode.scopeExpressions, below]) inside
  · obtain ⟨source, present, below⟩ := List.mem_flatMap.mp inside
    exact vetted_sources rules (List.mem_append_left _ present) below
  · obtain ⟨join, present, below⟩ := List.mem_flatMap.mp inside
    rcases List.mem_append.mp below with below | below
    · exact vetted_sources rules
        (List.mem_append_right _ (List.mem_map.mpr ⟨join, present, rfl⟩)) below
    · split at below
      · obtain rfl := List.mem_singleton.mp below
        apply rules.vetted
        simp only [SelectNode.scopeExpressions, List.mem_append, List.mem_map]
        exact Or.inl (Or.inl (Or.inl (Or.inl (Or.inr ⟨join, present, rfl⟩))))
      · cases below
  · exact expressions (fun node below => by
      simp [SelectNode.scopeExpressions, Option.mem_toList.mp below]) inside
  · exact expressions (fun node below => by simp [SelectNode.scopeExpressions, below]) inside
  · exact expressions (fun node below => by
      simp [SelectNode.scopeExpressions, Option.mem_toList.mp below]) inside
  · obtain ⟨order, below, rfl⟩ := List.mem_map.mp inside
    apply rules.vetted
    simp only [SelectNode.scopeExpressions, List.mem_append, List.mem_map]
    exact Or.inl (Or.inl (Or.inr ⟨order, below, rfl⟩))
  · obtain ⟨compound, below, rfl⟩ := List.mem_map.mp inside
    exact vetted_select (rules.arms compound below).2

theorem vetted_dml_part {query : QueryNode V} {table : TableSourceNode} {outer : List String}
    {part : Term V} (target : query.target = some table)
    (accepted : validateStatement query dialect outer = .ok ())
    (member : part ∈ renderedParts (.statement query)) : Vetted dialect part := by
  have rules := validateStatement_dml accepted target
  rcases dml_parts target member with ⟨node, listed, rfl⟩ | ⟨inner, source, rfl⟩
  · exact rules.vetted listed
  · exact vetted_select (rules.source inner source)

/-- The parts of a vetted term are vetted. -/
theorem vetted_part {term part : Term V} (vetted : Vetted dialect term)
    (member : part ∈ renderedParts term) : Vetted dialect part := by
  rcases term with node | query
  · rcases List.mem_append.mp member with inside | inside
    · obtain ⟨child, below, rfl⟩ := List.mem_map.mp inside
      exact vetted_expression vetted below
    · obtain ⟨query, nested, rfl⟩ := List.mem_map.mp inside
      obtain ⟨outer, accepted⟩ := vetted.2 query
        (mem_subqueries.mpr ⟨node, self_mem_walk node, Option.mem_toList.mp nested⟩)
      exact vetted_select accepted
  · obtain ⟨outer, accepted⟩ := vetted
    cases query with
    | select query =>
        rw [validateStatement] at accepted
        exact (validateSelect_iff.mp accepted).vetted_part member
    | insert query | update query | delete query => exact vetted_dml_part rfl accepted member

theorem vetted_rendered {root term : Term V} (vetted : Vetted dialect root)
    (inside : Rendered root term) : Vetted dialect term := by
  induction inside with
  | refl => exact vetted
  | tail _ member ih => exact vetted_part ih member

end

/-! ### What is used is supported -/

variable {dialect : Dialect}

/-- A table that renders is qualified only where the dialect allows it. -/
theorem compileTable_schema {table : TableSourceNode}
    (done : ∃ text, compileTable dialect table = .ok text) (qualified : table.schema.isSome = true) :
    dialect.supportsSchemaQualifiedTables = true := by
  obtain ⟨schema, present⟩ := Option.isSome_iff_exists.mp qualified
  obtain ⟨text, done⟩ := done
  by_contra unsupported
  simp [compileTable, present, unsupported] at done

section
variable [PyObject V]

theorem succeeds_directTable {source : SourceNode V} {table : TableSourceNode}
    (done : Succeeds (compileSource dialect source)) (named : source.directTable = some table) :
    ∃ text, compileTable dialect table = .ok text := by
  cases source with
  | table relation =>
      obtain rfl : relation = table := Option.some.inj named
      rw [compileSource] at done
      exact done.of_lift
  | cte name | derived query aliasName => cases named

theorem succeeds_joined {joins : List (JoinNode V)} (done : Succeeds (compileJoins dialect joins)) :
    ∀ join ∈ joins, Succeeds (compileSource dialect join.source) := by
  induction joins with
  | nil => exact fun _ member => absurd member List.not_mem_nil
  | cons join rest ih =>
      obtain ⟨source, predicate, kind⟩ := join
      rw [compileJoins] at done
      obtain ⟨first, _, done⟩ := done.bind
      refine List.forall_mem_cons.mpr ⟨first, ih ?_⟩
      split at done
      · exact done.two.2
      · exact done.one

/-- The tables of a rendered SELECT are rendered. -/
theorem SelectRendered.tables {query : SelectNode V} (done : SelectRendered dialect query) :
    ∀ table ∈ query.sources.filterMap SourceNode.directTable,
      ∃ text, compileTable dialect table = .ok text := by
  intro table member
  obtain ⟨source, listed, named⟩ := List.mem_filterMap.mp member
  refine succeeds_directTable ?_ named
  rcases List.mem_append.mp listed with first | joined
  · have rendered := done.fromSource
    rw [Option.mem_toList.mp first, compileFrom] at rendered
    exact rendered
  · obtain ⟨join, inside, rfl⟩ := List.mem_map.mp joined
    exact succeeds_joined done.joins join inside

/-- The tables of a rendered statement are rendered. -/
theorem succeeds_tables {query : QueryNode V} (done : Succeeds (renderStatement dialect query)) :
    ∀ table ∈ query.tables, ∃ text, compileTable dialect table = .ok text := by
  cases query with
  | select query => exact (succeeds_select done).tables
  | insert query => exact List.forall_mem_singleton.mpr (succeeds_insert done).table
  | update query => exact List.forall_mem_singleton.mpr (succeeds_update done).table
  | delete query => exact List.forall_mem_singleton.mpr (succeeds_delete done).table

/-- The guards in the renderer refuse expressions that the dialect lacks. -/
theorem succeeds_construct {node : Node V} {construct : Construct}
    (done : Succeeds (compileNode dialect node)) (used : node.construct = some construct)
    (fixed : node.isTemporal = false) : dialect.supports construct = true := by
  unfold Node.construct at used
  rw [fixed] at used
  cases node with
  | jsonText _ _ | regexMatch _ _ _ | uuidCast _ =>
      obtain rfl := Option.some.inj used
      rw [compileNode] at done
      exact (succeeds_guarded done).1
  | _ => cases used

variable [DecidableEq V]

/-- A conflict predicate passes the validation of an INSERT only if the dialect supports it. -/
theorem validateStatement_predicates {query : InsertNode V} {outer : List String}
    (accepted : validateStatement (.insert query) dialect outer = .ok ()) :
    query.conflict.toList.flatMap ConflictNode.predicates = [] ∨
      dialect.supportsConflictPredicates = true := by
  rw [validateStatement] at accepted
  simp only [seq_eq_ok, supportedConflictPredicates, check_eq_ok] at accepted
  obtain ⟨-, -, -, predicates, -⟩ := accepted
  exact predicates

/-- A statement that is both accepted and rendered uses only what the dialect supports. -/
theorem uses_statement {query : QueryNode V} {construct : Construct} {outer : List String}
    (accepted : validateStatement query dialect outer = .ok ())
    (done : Succeeds (renderStatement dialect query)) (used : query.uses construct = true) :
    dialect.supports construct = true := by
  cases construct with
  | temporal | jsonText | regexMatch | uuidCast => cases query <;> cases used
  | schemaQualified =>
      have qualified : ∃ table ∈ query.tables, table.schema.isSome = true := by
        cases query <;> exact List.any_eq_true.mp used
      obtain ⟨table, named, schema⟩ := qualified
      exact compileTable_schema (succeeds_tables done table named) schema
  | rowLock =>
      cases query with
      | insert _ | update _ | delete _ => cases used
      | select query =>
          rw [validateStatement] at accepted
          have locks := (validateSelect_iff.mp accepted).dialectNodes
          rw [validateDialectNodes, seq_eq_ok, check_eq_ok] at locks
          rcases locks.2 with absent | supported
          · simp [QueryNode.uses, absent] at used
          · exact supported
  | dataModifyingCte =>
      cases query with
      | insert _ | update _ | delete _ => cases used
      | select query =>
          obtain ⟨cte, declared, modifying⟩ := List.any_eq_true.mp used
          rcases (succeeds_cteBody (succeeds_ctes (succeeds_select done).ctes cte declared)).2 with
            ⟨inner, same⟩ | supported
          · simp [CteNode.isDataModifying, same] at modifying
          · exact supported
  | conflictPredicate =>
      cases query with
      | select _ | update _ | delete _ => cases used
      | insert query =>
          rcases validateStatement_predicates accepted with absent | supported
          · simp [QueryNode.uses, absent] at used
          · exact supported

/-- A term that is both vetted and rendered uses only what the dialect supports. -/
theorem uses_supported {term : Term V} {construct : Construct} (vetted : Vetted dialect term)
    (done : Succeeds (compileTerm dialect term)) (used : term.uses construct = true) :
    dialect.supports construct = true := by
  rcases term with node | query
  · have used : node.construct = some construct := of_decide_eq_true used
    cases temporal : node.isTemporal with
    | false => exact succeeds_construct done used temporal
    | true =>
        have clock : node.construct = some .temporal := if_pos temporal
        obtain rfl := Option.some.inj (clock.symm.trans used)
        exact vetted.1 node (self_mem_walk node) temporal
  · obtain ⟨outer, accepted⟩ := vetted
    exact uses_statement accepted done used

/-! ### Whole statements -/

/-- `_compile`: a statement is rendered when its validation did not raise. -/
def compile (node : QueryNode V) (dialect : Dialect) : Except PyError (CompiledQuery V) := do
  validateQuery node dialect
  renderQuery node dialect

def compileSqlite (node : QueryNode V) : Except PyError (CompiledQuery V) :=
  compile node sqlite

theorem compile_eq_ok {node : QueryNode V} {compiled : CompiledQuery V} :
    compile node dialect = .ok compiled ↔
      Accepted node dialect ∧ renderQuery node dialect = .ok compiled := by
  rw [compile, seq_eq_ok, Accepted]

theorem accepted_vetted {node : QueryNode V} (accepted : Accepted node dialect) :
    Vetted dialect (.statement node) := by
  rw [Accepted, validateQuery] at accepted
  simp only [seq_eq_ok] at accepted
  exact ⟨[], accepted.2.2⟩

omit [DecidableEq V] in
theorem renderQuery_succeeds {node : QueryNode V} {compiled : CompiledQuery V}
    (rendered : renderQuery node dialect = .ok compiled) :
    Succeeds (renderStatement dialect node) := by
  obtain ⟨⟨text, parameters⟩, started, -⟩ := bind_eq_ok.mp rendered
  exact ⟨[], _, started⟩

/-- Wherever a construct stands in a compiled statement, the dialect supports it. -/
theorem compile_supported {root : QueryNode V} {compiled : CompiledQuery V}
    (done : compile root dialect = .ok compiled) {term : Term V}
    (inside : Rendered (.statement root) term) {construct : Construct}
    (used : term.uses construct = true) : dialect.supports construct = true := by
  obtain ⟨accepted, rendered⟩ := compile_eq_ok.mp done
  have started : Succeeds (compileTerm dialect (.statement root)) := renderQuery_succeeds rendered
  exact uses_supported (vetted_rendered (accepted_vetted accepted) inside)
    (succeeds_rendered started inside) used

end

end Relq
