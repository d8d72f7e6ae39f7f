/-
Module: Relq.Compiler.Accepted
Layer: Compiler
Purpose: What acceptance means, read backwards from the validator: each check as an equivalence, and
  for a SELECT and for a WITH clause the rules its acceptance amounts to. Later modules use these
  inversions and never unfold the validator.
Imports: Mathlib.Data.List.Nodup, Relq.Library.Outcome, Relq.Compiler.Validation
Trusted boundary: none (fully proved)
Main exports: check_eq_ok, SelectRules, validateSelect_iff,
  validateStatement_dml
-/
import Mathlib.Data.List.Nodup
import Relq.Library.Outcome
import Relq.Compiler.Validation

namespace Relq

open Outcome

variable {V : Type}

@[simp] theorem check_eq_ok {condition : Prop} [Decidable condition] {error : PyError} {u : Unit} :
    check condition error = .ok u ↔ condition := by
  by_cases holds : condition <;> simp [check, holds]

theorem error_ne_ok {α : Type} {error : PyError} {a : α} : (.error error : Except PyError α) ≠ .ok a :=
  nofun

theorem validateDmlSources_eq_ok {table : TableSourceNode} {expressions : List (Node V)} :
    validateDmlSources table expressions = .ok () ↔
      ∀ expression ∈ expressions, ∀ source ∈ referencedSources expression,
        source = table.reference := by
  simp [validateDmlSources, List.filter_eq_nil_iff]
  grind

theorem rejectAggregatesAndWindows_eq_ok {expressions : List (Node V)} {statement : String} :
    rejectAggregatesAndWindows expressions statement = .ok () ↔
      (expressions.flatMap walk).any Node.isAnalytic = false := by
  simp [rejectAggregatesAndWindows]

/-- The body of a recursive WITH entry: a seed that does not read the entry, and UNION ALL arms that do. -/
theorem validateRecursiveCte_eq_ok {node : SelectNode V} {name : String} :
    validateRecursiveCte node name = .ok () ↔
      name ∉ cteReferences { node with compounds := [] } ∧ node.compounds ≠ [] ∧
        ∀ compound ∈ node.compounds, compound.operator = .unionAll ∧
          name ∈ cteReferences compound.query := by
  have arms : node.compounds = (node.compounds.zipIdx 1).map Prod.fst :=
    (List.zipIdx_map_fst 1 node.compounds).symm
  simp only [validateRecursiveCte, seq_eq_ok, check_eq_ok, forM_eq_ok]
  rw [arms, List.forall_mem_map, ← arms]

theorem mem_dmlExpressions_insert {node : InsertNode V} {expression : Node V} :
    expression ∈ dmlExpressions (.insert node) ↔
      expression ∈ (node.conflict.bind (·.targetWhere)).toList ++
        (node.conflict.bind (·.updateWhere)).toList ++ node.assignedValues ++ node.returning := by
  obtain ⟨table, source, conflict, returning⟩ := node
  cases conflict with
  | none =>
      simp [dmlExpressions]
      grind
  | some conflict =>
      simp [dmlExpressions, ConflictNode.predicates]
      grind

theorem addSource_eq_ok {reference : String} {available locals : List String}
    {result : List String × List String} :
    addSource reference available locals = .ok result ↔
      reference ∉ locals ∧ result = (reference :: available, reference :: locals) := by
  simp only [addSource, seq_eq_ok, check_eq_ok, pure_eq_ok]
  grind

theorem validateJoins_cons_eq_ok {join : JoinNode V} {rest : List (JoinNode V)}
    {available locals result : List String} :
    validateJoins (join :: rest) available locals = .ok result ↔
      join.source.reference ∉ locals ∧
      (∀ source ∈ referencedSources join.predicate,
        source ∈ join.source.reference :: available) ∧
      validateJoins rest (join.source.reference :: available)
        (join.source.reference :: locals) = .ok result := by
  rw [validateJoins, bind_eq_ok]
  simp only [addSource_eq_ok, seq_eq_ok, check_eq_ok, List.filter_eq_nil_iff, decide_eq_true_eq,
    Decidable.not_not]
  constructor
  · rintro ⟨_, ⟨fresh, rfl⟩, covered, rest⟩
    exact ⟨fresh, covered, rest⟩
  · rintro ⟨fresh, covered, rest⟩
    exact ⟨_, ⟨fresh, rfl⟩, covered, rest⟩

/-- What `validate_sources` requires of a SELECT that reads from `first`. -/
structure SourceRules (node : SelectNode V) (first : SourceNode V) (outer : List String)
    (available : List String) : Prop where
  fromSource : node.fromSource = some first
  ctes : ∀ name ∈ node.sources.filterMap SourceNode.cteName, name ∈ outer
  joins : validateJoins node.joins (first.reference :: outer) [first.reference] = .ok available
  columns : ∀ expression ∈ node.clauseExpressions, ∀ source ∈ referencedSources expression,
    source ∈ available
  nullability : validateProjectedNullability node = .ok ()

theorem validateSources_rules {node : SelectNode V} {outer : List String}
    (accepted : validateSources node outer = .ok ()) :
    ∃ first available, SourceRules node first outer available := by
  unfold validateSources at accepted
  cases from_ : node.fromSource with
  | none => simp [from_] at accepted
  | some first =>
      simp only [from_, seq_eq_ok, forM_eq_ok] at accepted
      obtain ⟨ctes, accepted⟩ := accepted
      obtain ⟨⟨_, _⟩, added, accepted⟩ := bind_eq_ok.mp accepted
      obtain ⟨-, same⟩ := addSource_eq_ok.mp added
      simp only [Prod.mk.injEq] at same
      obtain ⟨rfl, rfl⟩ := same
      obtain ⟨available, joins, accepted⟩ := bind_eq_ok.mp accepted
      simp only [seq_eq_ok, check_eq_ok, List.filter_eq_nil_iff] at accepted
      refine ⟨first, available, from_, ?_, joins, ?_, accepted.2⟩
      · intro name member
        obtain ⟨source, inside, named⟩ := List.mem_filterMap.mp member
        simpa [named] using ctes source inside
      · intro expression inside source mentioned
        have := accepted.1 source (List.mem_flatMap.mpr ⟨expression, inside, mentioned⟩)
        simpa using this

/-- The references of the sources are pairwise distinct. -/
theorem validateJoins_nodup {joins : List (JoinNode V)} {available locals result : List String}
    (accepted : validateJoins joins available locals = .ok result) (distinct : locals.Nodup) :
    (locals.reverse ++ joins.map (·.source.reference)).Nodup := by
  induction joins generalizing available locals with
  | nil => simpa using distinct
  | cons join rest ih =>
      obtain ⟨fresh, -, later⟩ := validateJoins_cons_eq_ok.mp accepted
      have := ih later (List.nodup_cons.mpr ⟨fresh, distinct⟩)
      simpa using this

theorem SourceRules.nodup {node : SelectNode V} {first : SourceNode V} {outer available : List String}
    (rules : SourceRules node first outer available) : (node.sources.map (·.reference)).Nodup := by
  have distinct := validateJoins_nodup rules.joins (List.nodup_singleton _)
  simpa [SelectNode.sources, rules.fromSource, Function.comp_def] using distinct

section
variable [DecidableEq V] [PyObject V]

/-- The names a SELECT's parts see: its own WITH entries and what encloses it. -/
def SelectNode.bound (node : SelectNode V) (outer : List String) : List String :=
  node.ctes.map (·.name) ++ outer

/-- What the acceptance of a SELECT amounts to. -/
structure SelectRules (node : SelectNode V) (dialect : Dialect) (outer : List String) : Prop where
  shape : validateCompoundShape node = .ok ()
  ctes : validateCtes node.ctes dialect outer [] = .ok ()
  sources : validateSources node (node.bound outer) = .ok ()
  locks : validateLocks node = .ok ()
  dialectNodes : validateDialectNodes node dialect = .ok ()
  analytic : validateAnalyticClauses node = .ok ()
  grouping : validateGrouping node = .ok ()
  arms : ∀ compound ∈ node.compounds, compound.query.locks = [] ∧
    validateSelect compound.query dialect (node.bound outer) = .ok ()
  derived : ∀ query ∈ node.sources.filterMap SourceNode.derivedQuery,
    validateSelect query dialect (node.bound outer) = .ok ()
  nested : ∀ expression ∈ node.scopeExpressions, ∀ query ∈ subqueries expression,
    validateSelect query dialect (localSources node ++ node.bound outer) = .ok ()

theorem validateSelect_iff {node : SelectNode V} {dialect : Dialect} {outer : List String} :
    validateSelect node dialect outer = .ok () ↔ SelectRules node dialect outer := by
  rw [validateSelect]
  simp only [seq_eq_ok, attach_forM_eq_ok, check_eq_ok, List.isEmpty_iff,
    SelectNode.mem_nestedExpressions]
  constructor
  · rintro ⟨shape, ctes, sources, locks, dialectNodes, analytic, grouping, arms, derived, nested⟩
    exact ⟨shape, ctes, sources, locks, dialectNodes, analytic, grouping, arms, derived, nested⟩
  · rintro ⟨shape, ctes, sources, locks, dialectNodes, analytic, grouping, arms, derived, nested⟩
    exact ⟨shape, ctes, sources, locks, dialectNodes, analytic, grouping, arms, derived, nested⟩

/-- The body of an accepted WITH entry is accepted as a statement. -/
theorem validateCteBody_statement {query : QueryNode V} {name : String} {recursive : Bool}
    {dialect : Dialect} {sources : List String}
    (accepted : validateCteBody query name recursive dialect sources = .ok ()) :
    validateStatement query dialect (if recursive then name :: sources else sources) = .ok () := by
  rw [validateCteBody.eq_def] at accepted
  cases query with
  | select query =>
      rw [validateStatement]
      cases recursive with
      | false => exact accepted
      | true => exact (seq_eq_ok.mp accepted).2
  | _ =>
      simp only [seq_eq_ok, check_eq_ok] at accepted
      obtain ⟨plain, -, body⟩ := accepted
      simpa [plain] using body

/-- The names of an accepted WITH clause are pairwise distinct. -/
theorem validateCtes_nodup {ctes : List (CteNode V)} {dialect : Dialect}
    {outer visible : List String}
    (accepted : validateCtes ctes dialect outer visible = .ok ()) :
    (ctes.map (·.name)).Nodup ∧ ∀ name ∈ ctes.map (·.name), name ∉ visible := by
  induction ctes generalizing visible with
  | nil => simp
  | cons cte rest ih =>
      obtain ⟨name, body, recursive, materialized⟩ := cte
      rw [validateCtes] at accepted
      simp only [seq_eq_ok, check_eq_ok] at accepted
      obtain ⟨fresh, -, later⟩ := accepted
      obtain ⟨distinct, disjoint⟩ := ih later
      simp only [List.map_cons, List.nodup_cons, List.mem_cons]
      refine ⟨⟨fun declared => disjoint name declared (by simp), distinct⟩, ?_⟩
      rintro other (rfl | declared)
      · exact fresh
      · exact fun seen => disjoint other declared (by simp [seen])

/-- The table an INSERT, UPDATE or DELETE writes. -/
def QueryNode.target : QueryNode V → Option TableSourceNode
  | .select _ => none
  | .insert query => some query.table
  | .update query => some query.table
  | .delete query => some query.table

/-- The SELECT an INSERT takes its rows from. -/
def QueryNode.sourceQuery : QueryNode V → Option (SelectNode V)
  | .insert query => query.sourceQuery
  | _ => none

/-- What the acceptance of an INSERT, UPDATE or DELETE says about its own columns and about the
queries inside it. -/
structure DmlRules (node : QueryNode V) (table : TableSourceNode) (dialect : Dialect)
    (outer : List String) : Prop where
  columns : ∀ expression ∈ dmlExpressions node, ∀ source ∈ referencedSources expression,
    source = table.reference
  dialectNodes : ∀ expression ∈ dmlExpressions node,
    validateExpressionDialect expression dialect = .ok ()
  plain : ((dmlExpressions node).flatMap walk).any Node.isAnalytic = false
  source : ∀ query ∈ node.sourceQuery, validateSelect query dialect outer = .ok ()
  nested : ∀ expression ∈ dmlExpressions node, ∀ query ∈ subqueries expression,
    validateSelect query dialect (table.reference :: outer) = .ok ()

theorem validateStatement_dml {node : QueryNode V} {table : TableSourceNode} {dialect : Dialect}
    {outer : List String} (accepted : validateStatement node dialect outer = .ok ())
    (target : node.target = some table) : DmlRules node table dialect outer := by
  cases node with
  | select query => simp [QueryNode.target] at target
  | insert query =>
      obtain rfl : query.table = table := by simpa [QueryNode.target] using target
      rw [validateStatement] at accepted
      simp only [seq_eq_ok, attach_forM_eq_ok, rejectAggregatesAndWindows_eq_ok, Option.mem_toList]
        at accepted
      obtain ⟨-, source, clauses, -, plain, nested⟩ := accepted
      refine ⟨?_, fun expression inside => (nested expression inside).1, plain, source,
        fun expression inside => (nested expression inside).2⟩
      simp only [validateInsertClauses] at clauses
      have columns : validateDmlSources query.table
          ((query.conflict.bind (·.targetWhere)).toList ++
            (query.conflict.bind (·.updateWhere)).toList ++ query.assignedValues ++
            query.returning) = .ok () := by
        cases conflict : query.conflict <;> simp only [conflict, seq_eq_ok] at clauses
        · exact clauses.1
        · exact clauses.2.2.1
      intro expression inside
      exact validateDmlSources_eq_ok.mp columns expression (mem_dmlExpressions_insert.mp inside)
  | update query =>
      obtain rfl : query.table = table := by simpa [QueryNode.target] using target
      rw [validateStatement] at accepted
      simp only [seq_eq_ok, attach_forM_eq_ok, rejectAggregatesAndWindows_eq_ok,
        validateDmlSources_eq_ok] at accepted
      obtain ⟨-, -, columns, plain, nested⟩ := accepted
      exact ⟨columns, fun expression inside => (nested expression inside).1, plain,
        by simp [QueryNode.sourceQuery], fun expression inside => (nested expression inside).2⟩
  | delete query =>
      obtain rfl : query.table = table := by simpa [QueryNode.target] using target
      rw [validateStatement] at accepted
      simp only [seq_eq_ok, attach_forM_eq_ok, rejectAggregatesAndWindows_eq_ok,
        validateDmlSources_eq_ok] at accepted
      obtain ⟨-, columns, plain, nested⟩ := accepted
      exact ⟨columns, fun expression inside => (nested expression inside).1, plain,
        by simp [QueryNode.sourceQuery], fun expression inside => (nested expression inside).2⟩

end

end Relq
