/-
Module: Relq.Grouping.Exposure
Layer: Grouping
Purpose: Which local columns of a grouped SELECT are exposed, that is, named outside every grouping
  expression and outside every plain aggregate. `Exposed` follows a reference through every kind of
  expression, the call of a window and nested statements included, and records whether it passed
  only through places that `_ungrouped_local_columns` looks at. `Exempt` are the subexpressions whose
  columns that walk takes for grouped.
Imports: Relq.Scoping.Acceptance
Trusted boundary: human-reviewed spec (PlainAggregate, NestedWithin, Covered, Exposed, Exempt)
Main exports: Covered, PlainAggregate, Exposed, Exempt, ungroupedLocalColumns_empty,
  validateGrouping_items
-/
import Relq.Scoping.Acceptance

namespace Relq

open Outcome

variable {V : Type}

/-! ### Plain aggregates and exposed references -/

/-- The direct children of a node, where a window's call is looked through to its own children. -/
def plainChildren : Node V → List (Node V)
  | .window call partitionBy orderBy _ _ =>
      children call.toNode ++ partitionBy ++ orderBy.map (·.expression)
  | node => children node

/-- An expression contains an aggregate that is not the call of a window. -/
inductive PlainAggregate : Node V → Prop where
  | here (name : AggregateName) (arguments : List (Node V)) (filter : Option (Node V)) :
      PlainAggregate (.aggregate name arguments filter)
  | within {node child : Node V} (member : child ∈ plainChildren node)
      (contains : PlainAggregate child) : PlainAggregate node

/-- A statement stands inside another one, at some depth, without passing through an expression. -/
def NestedWithin (outer inner : QueryNode V) : Prop :=
  Relation.ReflTransGen (fun node child =>
    ∃ env childEnv, (child, childEnv) ∈ nestedStatements node env) outer inner

theorem groupingSet_eq_ok [PyObject V] {groupBy grouped : List (Node V)}
    (accepted : groupingSet groupBy = .ok grouped) : grouped = groupBy := by
  unfold groupingSet at accepted
  split at accepted
  · exact (Except.ok.inj accepted).symm
  · exact absurd accepted error_ne_ok

section
variable [DecidableEq V] [PyObject V]

/-- The expression equals a grouping expression. -/
def Covered (grouped : List (Node V)) (node : Node V) : Prop :=
  grouped.any (pyEqual node) = true

/-- `Exposed grouped locals seen node`: some reference in `node` to a source in `locals` lies
outside all grouping expressions and plain aggregates. Sources of nested statements hide those of
the same name. `seen` tells whether the way to the reference avoids the arguments and filters of
windowed aggregates and nested statements. -/
inductive Exposed (grouped : List (Node V)) : List String → Bool → Node V → Prop where
  | column {locals : List String} {source name : String} (isLocal : source ∈ locals)
      (bare : ¬Covered grouped (.column source name)) :
      Exposed grouped locals true (.column source name)
  | child {locals : List String} {seen : Bool} {node child : Node V}
      (bare : ¬Covered grouped node)
      (plain : ∀ name arguments filter, node ≠ .aggregate name arguments filter)
      (member : child ∈ children node) (exposed : Exposed grouped locals seen child) :
      Exposed grouped locals seen node
  | windowAggregate {locals : List String} {seen : Bool} {name : AggregateName}
      {arguments : List (Node V)} {filter : Option (Node V)} {partitionBy : List (Node V)}
      {orderBy : List (OrderNode V)} {frame : Option WindowFrameNode}
      {exclusion : Option WindowExclusion} {child : Node V}
      (bare : ¬Covered grouped
        (.window (.aggregate name arguments filter) partitionBy orderBy frame exclusion))
      (member : child ∈ children (.aggregate name arguments filter))
      (exposed : Exposed grouped locals seen child) :
      Exposed grouped locals false
        (.window (.aggregate name arguments filter) partitionBy orderBy frame exclusion)
  | nested {locals : List String} {seen : Bool} {node : Node V} {query : SelectNode V}
      {inner : QueryNode V} {clause : Clause V} (bare : ¬Covered grouped node)
      (carries : node.nestedSelect = some query) (within : NestedWithin (.select query) inner)
      (member : clause ∈ ownClauses inner)
      (exposed : Exposed grouped (locals.filter (· ∉ clause.locals)) seen clause.expression) :
      Exposed grouped locals false node

/-- The grouping check reaches `exempt` in an expression and takes no column from it, because it is
equal to a grouping expression. The check does not look into aggregates. -/
inductive Exempt (grouped : List (Node V)) : Node V → Node V → Prop where
  | here {node : Node V} (covered : Covered grouped node) : Exempt grouped node node
  | within {node child exempt : Node V} (bare : ¬Covered grouped node)
      (plain : ∀ name arguments filter, node ≠ .aggregate name arguments filter)
      (member : child ∈ children node) (below : Exempt grouped child exempt) :
      Exempt grouped node exempt

/-- A SELECT `validate_grouping` does not return from early. -/
def SelectNode.examined (node : SelectNode V) : Bool :=
  !node.groupBy.isEmpty || hasAggregate node

/-! ### The walk of the validator -/

theorem inGrouped_eq_ok {grouped : List (Node V)} {node : Node V} {result : Bool} :
    inGrouped grouped node = .ok result ↔
      hashable node = true ∧ grouped.any (pyEqual node) = result := by
  unfold inGrouped
  split <;> simp_all

/-- An empty answer for a node that nothing covers: it is no local column, and unless it is an
aggregate the answer for every child is empty too. -/
theorem ungroupedLocalColumns_empty {grouped : List (Node V)} {locals : List String}
    {node : Node V} (accepted : ungroupedLocalColumns grouped locals node = .ok [])
    (bare : ¬Covered grouped node) :
    (∀ source name, node = .column source name → source ∉ locals) ∧
      ((∀ name arguments filter, node ≠ .aggregate name arguments filter) →
        ∀ child ∈ children node, ungroupedLocalColumns grouped locals child = .ok []) := by
  rw [ungroupedLocalColumns.eq_def] at accepted
  obtain ⟨covered, known, accepted⟩ := bind_eq_ok.mp accepted
  obtain ⟨-, same⟩ := inGrouped_eq_ok.mp known
  have uncovered : covered = false := by
    rw [← same]
    exact Bool.eq_false_iff.mpr bare
  subst uncovered
  simp only [Bool.false_eq_true, if_false] at accepted
  refine ⟨?_, fun plain child member => ?_⟩
  · rintro source name rfl
    by_cases isLocal : source ∈ locals <;> simp [isLocal] at accepted ⊢
  · split at accepted
    · simp [children] at member
    · exact absurd rfl (plain _ _ _)
    · obtain ⟨columns, mapped, flat⟩ := bind_eq_ok.mp accepted
      have result : ungroupedLocalColumns grouped locals child ∈ columns.map .ok := by
        rw [← mapM_eq_ok.mp mapped]
        exact List.mem_map.mpr ⟨⟨child, member⟩, by simp, rfl⟩
      obtain ⟨found, inColumns, same⟩ := List.mem_map.mp result
      have empty : found = [] := List.flatten_eq_nil_iff.mp (pure_eq_ok.mp flat) found inColumns
      rw [← same, empty]

/-- Where the check accepts an expression it has answered `True` to `node in grouped` for every
exempt subexpression. -/
theorem Exempt.answered {grouped : List (Node V)} {locals : List String} {node exempt : Node V}
    (reached : Exempt grouped node exempt)
    (accepted : ungroupedLocalColumns grouped locals node = .ok []) :
    inGrouped grouped exempt = .ok true := by
  induction reached with
  | here covered =>
      rw [ungroupedLocalColumns.eq_def] at accepted
      obtain ⟨answer, known, -⟩ := bind_eq_ok.mp accepted
      have hashed := (inGrouped_eq_ok.mp known).1
      exact inGrouped_eq_ok.mpr ⟨hashed, covered⟩
  | within bare plain member below ih =>
      exact ih ((ungroupedLocalColumns_empty accepted bare).2 plain _ member)

theorem Exempt.covered {grouped : List (Node V)} {node exempt : Node V}
    (reached : Exempt grouped node exempt) : Covered grouped exempt := by
  induction reached with
  | here covered => exact covered
  | within bare plain member below ih => exact ih

/-- What acceptance says about an examined SELECT. -/
theorem validateGrouping_items {node : SelectNode V} (accepted : validateGrouping node = .ok ())
    (examined : node.examined = true) {item : String × Node V}
    (member : item ∈ groupedExpressions node) :
    ungroupedLocalColumns node.groupBy (localSources node) item.2 = .ok [] := by
  unfold validateGrouping at accepted
  obtain ⟨-, accepted⟩ := seq_eq_ok.mp accepted
  have early : (node.groupBy.isEmpty && !hasAggregate node) = false := by
    simp only [SelectNode.examined, Bool.or_eq_true, Bool.not_eq_true'] at examined
    rcases examined with grouped | aggregate
    · simp [grouped]
    · simp [aggregate]
  simp only [early, Bool.false_eq_true, if_false] at accepted
  obtain ⟨grouped, same, accepted⟩ := bind_eq_ok.mp accepted
  obtain rfl := groupingSet_eq_ok same
  obtain ⟨ungrouped, found, none⟩ := bind_eq_ok.mp (forM_eq_ok.mp accepted item member)
  rw [found, check_eq_ok.mp none]

end

end Relq
