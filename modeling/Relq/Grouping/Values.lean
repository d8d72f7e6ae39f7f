/-
Module: Relq.Grouping.Values
Layer: Grouping
Purpose: Whether acceptance depends on the values bound outside GROUP BY. A replacement is a statement
  each of whose bound values comes with the value that takes its place. The grouping check looks every
  expression up in a set, and a lookup hashes the values below the expression, so an accepted statement
  stays accepted exactly when the new values there can be hashed and no `date_bin` gets a stride that
  it may not have.
Imports: Relq.Scoping.Verdict, Relq.Grouping.Exposure
Trusted boundary: human-reviewed spec (Node.before, Node.after, KeepsGroups, StaysCheckable)
Main exports: KeepsGroups, StaysCheckable, replaced_iff, tagSearch_unhashable
-/
import Relq.Scoping.Verdict
import Relq.Grouping.Exposure

namespace Relq

open Outcome

variable {V : Type}

/-! ### Replacements -/

/-- An expression with its old values. -/
def Node.before (node : Node (V × V)) : Node V := node.assign Prod.fst Prod.fst

/-- An expression with its new values. -/
def Node.after (node : Node (V × V)) : Node V := node.assign Prod.snd Prod.snd

def QueryNode.before (root : QueryNode (V × V)) : QueryNode V := root.assign Prod.fst Prod.fst

def QueryNode.after (root : QueryNode (V × V)) : QueryNode V := root.assign Prod.snd Prod.snd

section

variable [DecidableEq V] [PyObject V]

/-- Nothing is replaced in a GROUP BY expression, nor in a part of a SELECT list, HAVING or ORDER BY
expression that is equal to a GROUP BY expression. -/
structure KeepsGroups (root : QueryNode (V × V)) : Prop where
  groupBy : ∀ node env, Occurs root (.select node, env) → ∀ grouping ∈ node.groupBy,
    grouping.before = grouping.after
  covered : ∀ node env, Occurs root (.select node, env) → ∀ item ∈ groupedExpressions node,
    ∀ part ∈ walk item.2, Covered (node.groupBy.map Node.before) part.before →
      part.before = part.after

/-- What the new values must satisfy for the checks that look at them. -/
structure StaysCheckable (root : QueryNode (V × V)) : Prop where
  hashable : ∀ node env, Occurs root (.select node, env) → node.examined = true →
    ∀ item ∈ groupedExpressions node, hashable item.2.after = true
  strides : ∀ statement env, Occurs root (statement, env) → ∀ clause ∈ ownClauses statement,
    StridesLegal clause.expression.after

end

/-! ### Hashing -/

section

variable {related : V → V → Bool}

/-- What holds of all values below an expression holds of those below its children. -/
theorem agree_self_children {node : Node V} (same : node.agree related node = true) :
    ∀ child ∈ children node, child.agree related child = true := by
  intro child member
  cases node with
  | temporalMakeInterval components =>
      rw [Node.agree] at same
      obtain ⟨pair, inside, rfl⟩ := List.mem_map.mp member
      exact agreeNamed_self same pair inside
  | temporalMakeTimestamptz year month day hour minute second zone =>
      simp only [Node.agree, Bool.and_eq_true] at same
      simp only [children, List.mem_append, List.mem_cons, List.not_mem_nil, or_false] at member
      rcases member with (rfl | rfl | rfl | rfl | rfl | rfl) | inside
      · exact same.1.1.1.1.1.1
      · exact same.1.1.1.1.1.2
      · exact same.1.1.1.1.2
      · exact same.1.1.1.2
      · exact same.1.1.2
      · exact same.1.2
      · exact agreeOption_self same.2 child inside
  | function name arguments =>
      rw [Node.agree, Bool.and_eq_true] at same
      exact agreeNodes_self same.2 child member
  | case branches otherwise =>
      rw [Node.agree, Bool.and_eq_true] at same
      simp only [children, List.mem_append, List.mem_flatMap, List.mem_cons, List.not_mem_nil,
        or_false] at member
      rcases member with ⟨branch, inside, rfl | rfl⟩ | rfl
      · exact (agreeBranches_self same.1 branch inside).1
      · exact (agreeBranches_self same.1 branch inside).2
      · exact same.2
  | aggregate name arguments filter =>
      simp only [Node.agree, Bool.and_eq_true] at same
      rcases List.mem_append.mp member with inside | inside
      · exact agreeNodes_self same.1.2 child inside
      · exact agreeOption_self same.2 child inside
  | window call partitionBy orderBy frame exclusion =>
      simp only [Node.agree, Bool.and_eq_true] at same
      simp only [children, List.cons_append, List.mem_cons, List.mem_append, List.mem_map] at member
      rcases member with rfl | inside | ⟨order, inside, rfl⟩
      · exact agreeCall_self same.1.1.1.1
      · exact agreeNodes_self same.1.1.1.2 child inside
      · exact agreeOrders_self same.1.1.2 order inside
  | inNode expression values negated =>
      simp only [Node.agree, Bool.and_eq_true] at same
      cases values with
      | nodes values =>
          rw [InValues.agree] at same
          rcases List.mem_cons.mp member with rfl | inside
          · exact same.1.1
          · exact agreeNodes_self same.1.2 child inside
      | select query =>
          obtain rfl := List.mem_singleton.mp member
          exact same.1.1
  | column _ _ | value _ | temporalClock _ | star | excluded _ _ | scalarSubquery _ | «exists» _ _ =>
      cases member
  | _ =>
      simp only [children, List.mem_cons, List.not_mem_nil, or_false] at member
      simp only [Node.agree, Bool.and_eq_true] at same
      grind

end

/-! ### The grouping check with other values -/

theorem flatten_eq_ok {ε α β : Type} {items : List α} {visit : α → Except ε (List β)}
    (none : ∀ item ∈ items, visit item = .ok []) :
    (do let columns ← items.mapM visit; return columns.flatten) = (.ok [] : Except ε (List β)) := by
  refine bind_eq_ok.mpr ⟨items.map fun _ => [], mapM_eq_ok.mpr ?_, ?_⟩
  · rw [List.map_map]
    exact List.map_congr_left none
  · simp [pure, Except.pure]

section

variable [DecidableEq V] [PyObject V]

omit [DecidableEq V] in
theorem hashable_child {node child : Node V} (whole : hashable node = true)
    (member : child ∈ children node) : hashable child = true :=
  agree_self_children whole child member

/-- When the walk of the grouping check finds nothing. -/
theorem ungroupedLocalColumns_iff {grouped : List (Node V)} {locals : List String} {node : Node V} :
    ungroupedLocalColumns grouped locals node = .ok [] ↔
      hashable node = true ∧ (Covered grouped node ∨
        (∀ source name, node = .column source name → source ∉ locals) ∧
          ((∀ name arguments filter, node ≠ .aggregate name arguments filter) →
            ∀ child ∈ children node, ungroupedLocalColumns grouped locals child = .ok [])) := by
  constructor
  · intro accepted
    have looked := accepted
    rw [ungroupedLocalColumns.eq_def] at looked
    obtain ⟨covered, known, -⟩ := bind_eq_ok.mp looked
    refine ⟨(inGrouped_eq_ok.mp known).1, ?_⟩
    by_cases bare : Covered grouped node
    · exact Or.inl bare
    · exact Or.inr (ungroupedLocalColumns_empty accepted bare)
  · rintro ⟨whole, rest⟩
    rw [ungroupedLocalColumns.eq_def]
    refine bind_eq_ok.mpr ⟨_, inGrouped_eq_ok.mpr ⟨whole, rfl⟩, ?_⟩
    by_cases covered : grouped.any (pyEqual node) = true
    · rw [if_pos covered]
      rfl
    · rw [if_neg covered]
      obtain ⟨bare, below⟩ := rest.resolve_left covered
      cases node with
      | column source name => exact congrArg _ (if_neg (bare source name rfl))
      | aggregate name arguments filter => rfl
      | _ => exact flatten_eq_ok fun child _ => below nofun child.1 child.2

/-- The walk still finds nothing where the new values can be hashed and no covered part changes. -/
theorem ungroupedLocalColumns_after {grouped : List (Node V)} {locals : List String}
    {node : Node (V × V)}
    (accepted : ungroupedLocalColumns grouped locals node.before = .ok [])
    (kept : ∀ part ∈ walk node, Covered grouped part.before → part.before = part.after)
    (whole : hashable node.after = true) :
    ungroupedLocalColumns grouped locals node.after = .ok [] := by
  induction node using children_induction with
  | step node ih =>
      refine ungroupedLocalColumns_iff.mpr ⟨whole, ?_⟩
      rcases (ungroupedLocalColumns_iff.mp accepted).2 with covered | ⟨bare, below⟩
      · rw [← kept node (self_mem_walk node) covered]
        exact Or.inl covered
      · refine Or.inr ⟨?_, fun plain => ?_⟩
        · intro source name same
          cases node with
          | column source' name' => exact bare source name same
          | _ => cases same
        · have plainBefore : ∀ name arguments filter, node.before ≠ .aggregate name arguments filter := by
            intro name arguments filter same
            cases node with
            | aggregate name' arguments' filter' => exact plain _ _ _ rfl
            | _ => cases same
          have visited := below plainBefore
          simp only [Node.before, Node.after, children_assign, List.forall_mem_map] at visited ⊢
          intro child member
          refine ih child member (visited child member) ?_ (hashable_child whole ?_)
          · intro part inside
            exact kept part (mem_walk.mpr (Or.inr ⟨child, member, inside⟩))
          · rw [Node.after, children_assign]
            exact List.mem_map_of_mem member

theorem validateGrouping_iff {node : SelectNode V} :
    validateGrouping node = .ok () ↔
      (node.having.isNone ∨ ¬node.groupBy.isEmpty ∨ hasAggregate node) ∧
        (node.examined = true → node.groupBy.all hashable = true ∧
          ∀ item ∈ groupedExpressions node,
            ungroupedLocalColumns node.groupBy (localSources node) item.2 = .ok []) := by
  unfold validateGrouping
  rw [seq_eq_ok, check_eq_ok]
  refine and_congr_right fun _ => ?_
  cases examined : node.examined with
  | false =>
      have early : (node.groupBy.isEmpty && !hasAggregate node) = true := by
        simpa [SelectNode.examined] using examined
      simp [early]
  | true =>
      have looked : ¬(node.groupBy.isEmpty && !hasAggregate node) = true := by
        simpa [SelectNode.examined, imp_iff_not_or] using examined
      rw [if_neg looked]
      constructor
      · intro accepted _
        obtain ⟨grouped, same, visited⟩ := bind_eq_ok.mp accepted
        obtain rfl := groupingSet_eq_ok same
        refine ⟨?_, fun item member => ?_⟩
        · by_contra unhashable
          rw [groupingSet, if_neg unhashable] at same
          cases same
        · obtain ⟨ungrouped, found, none⟩ := bind_eq_ok.mp (forM_eq_ok.mp visited item member)
          rw [found, check_eq_ok.mp none]
      · intro accepted
        obtain ⟨whole, items⟩ := accepted rfl
        refine bind_eq_ok.mpr ⟨node.groupBy, if_pos whole, forM_eq_ok.mpr fun item member => ?_⟩
        exact bind_eq_ok.mpr ⟨[], items item member, check_eq_ok.mpr rfl⟩

/-- The grouping check of one SELECT with the new values. -/
theorem validateGrouping_after {node : SelectNode (V × V)}
    (accepted : validateGrouping (node.assign Prod.fst Prod.fst) = .ok ())
    (groupBy : ∀ grouping ∈ node.groupBy, grouping.before = grouping.after)
    (covered : ∀ item ∈ groupedExpressions node, ∀ part ∈ walk item.2,
      Covered (node.groupBy.map Node.before) part.before → part.before = part.after) :
    validateGrouping (node.assign Prod.snd Prod.snd) = .ok () ↔
      (node.examined = true → ∀ item ∈ groupedExpressions node, hashable item.2.after = true) := by
  have examined (f : V × V → V) : (node.assign f f).examined = node.examined := by
    simp [SelectNode.examined, hasAggregate_assign]
  have same : node.groupBy.map (Node.assign Prod.snd Prod.snd) = node.groupBy.map Node.before :=
    List.map_congr_left fun grouping member => (groupBy grouping member).symm
  rw [validateGrouping_iff] at accepted ⊢
  simp only [examined, groupBy_assign, having_assign, hasAggregate_assign, Option.isNone_map,
    List.isEmpty_map, groupedExpressions_assign, localSources_assign, List.forall_mem_map,
    namedAssigned] at accepted ⊢
  rw [same]
  obtain ⟨having, items⟩ := accepted
  constructor
  · rintro ⟨-, again⟩ looked item member
    exact (ungroupedLocalColumns_iff.mp ((again looked).2 item member)).1
  · intro whole
    refine ⟨having, fun looked => ⟨(items looked).1, fun item member => ?_⟩⟩
    exact ungroupedLocalColumns_after ((items looked).2 item member) (covered item member)
      (whole looked item member)

/-- An accepted statement stays accepted under a replacement outside GROUP BY exactly when the values
of the expressions that the grouping check looks up can be hashed and the strides stay legal. -/
theorem replaced_iff {root : QueryNode (V × V)} {dialect : Dialect}
    (accepted : Accepted root.before dialect) (keeps : KeepsGroups root) :
    Accepted root.after dialect ↔ StaysCheckable root := by
  have grouping : ∀ node env, Occurs root (.select node, env) →
      (validateGrouping (node.assign Prod.snd Prod.snd) = .ok () ↔
        (node.examined = true → ∀ item ∈ groupedExpressions node, hashable item.2.after = true)) := by
    intro node env occurs
    have passes := (accepted_transfer accepted).mp accepted (.select node, env) occurs
    exact validateGrouping_after (passes.grouping _ rfl) (keeps.groupBy node env occurs)
      (keeps.covered node env occurs)
  refine (accepted_transfer accepted).trans ⟨fun passes => ⟨?_, ?_⟩, fun checkable place occurs => ?_⟩
  · intro node env occurs
    exact (grouping node env occurs).mp ((passes _ occurs).grouping _ rfl)
  · intro statement env occurs clause member
    exact (passes _ occurs).clause member
  · obtain ⟨statement, env⟩ := place
    refine ⟨?_, ?_⟩
    · rw [ownClauses_assign]
      simp only [List.forall_mem_map]
      exact checkable.strides statement env occurs
    · intro node same
      cases statement with
      | select query =>
          rw [assign_select] at same
          cases same
          exact (grouping query env occurs).mpr (checkable.hashable query env occurs)
      | insert query | update query | delete query =>
          simp at same

end

/-- Integers and lists, which Python does not hash. -/
inductive Parameter where
  | int (value : Int)
  | list (items : List Int)
deriving DecidableEq

instance : PyObject Parameter where
  canonical value := value
  hashable
    | .int _ => true
    | .list _ => false
  view
    | .int value => .int value
    | .list _ => .other

/-- `SELECT "t"."tags" = ? FROM "t" GROUP BY "t"."tags"`, where `old` is bound and then `new`. -/
def tagSearch (old new : Parameter) : SelectNode (Parameter × Parameter) :=
  { selections := [.binary (.column "t" "tags") .eq (.value (old, new))]
    fromSource := some (.table { name := "t" })
    groupBy := [.column "t" "tags"] }

theorem tagSearch_occurs {old new : Parameter} {place : QueryNode (Parameter × Parameter) × Env}
    (occurs : Occurs (.select (tagSearch old new)) place) :
    place = (.select (tagSearch old new), {}) := by
  induction occurs with
  | refl => rfl
  | tail _ encloses ih =>
      subst ih
      simp [Encloses, inside, nestedStatements, tagSearch, cteBodies, SelectNode.sources,
        SourceNode.derivedQuery, clauseQueries, ownClauses, SelectNode.clauses, joinClauses,
        SelectNode.clauseExpressions, subqueries, walk_eq, children, Node.nestedSelect] at encloses

theorem tagSearch_keeps (old new : Parameter) : KeepsGroups (.select (tagSearch old new)) := by
  constructor
  · intro node env occurs grouping member
    cases tagSearch_occurs occurs
    obtain rfl := List.mem_singleton.mp member
    rfl
  · intro node env occurs item member part inside covered
    cases tagSearch_occurs occurs
    obtain rfl : item = ("SELECT", .binary (.column "t" "tags") .eq (.value (old, new))) := by
      simpa [groupedExpressions, tagSearch] using member
    simp only [walk_eq, children, List.flatMap_cons, List.flatMap_nil, List.mem_cons,
      List.append_nil, List.singleton_append, List.not_mem_nil, or_false] at inside
    rcases inside with rfl | rfl | rfl
    · simp [Covered, tagSearch, Node.before, Node.assign, pyEqual, Node.agree] at covered
    · rfl
    · simp [Covered, tagSearch, Node.before, Node.assign, pyEqual, Node.agree] at covered

/-- Binding a list makes the grouping check raise a `TypeError`. -/
theorem tagSearch_unhashable :
    Accepted (QueryNode.before (.select (tagSearch (.int 1) (.list [1])))) postgres ∧
      KeepsGroups (.select (tagSearch (.int 1) (.list [1]))) ∧
      ¬Accepted (QueryNode.after (.select (tagSearch (.int 1) (.list [1])))) postgres := by
  refine ⟨by decide +kernel, tagSearch_keeps _ _, by decide +kernel⟩

theorem replaced_iff_tagSearch :
    Accepted (QueryNode.after (.select (tagSearch (.int 1) (.int 2)))) postgres ↔
      StaysCheckable (.select (tagSearch (.int 1) (.int 2))) := by
  have accepted : Accepted (QueryNode.before (.select (tagSearch (.int 1) (.int 2)))) postgres := by
    decide +kernel
  exact replaced_iff accepted (tagSearch_keeps _ _)

end Relq
