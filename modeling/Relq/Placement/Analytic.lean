/-
Module: Relq.Placement.Analytic
Layer: Placement
Purpose: Where aggregates and windows stand in an accepted statement. The validator looks at WHERE,
  GROUP BY, HAVING and at what stands inside aggregates; it looks neither at ON conditions nor for a
  window inside the PARTITION BY or ORDER BY of a window. `analyticPlacement_iff` says that these are
  the only places where it lets something illegal through.
Imports: Relq.Scoping.Acceptance
Trusted boundary: human-reviewed spec (AnalyticPlacement)
Main exports: AnalyticPlacement, UncheckedPlacement, analyticPlacement_iff
-/
import Relq.Scoping.Acceptance

namespace Relq

open Outcome

variable {V : Type}

def Node.isAggregate : Node V → Bool
  | .aggregate _ _ _ => true
  | _ => false

def Node.isWindow : Node V → Bool
  | .window .. => true
  | _ => false

theorem isAnalytic_eq (node : Node V) : node.isAnalytic = (node.isAggregate || node.isWindow) := by
  cases node <;> rfl

/-! ### The rules -/

/-- Where both engines allow the aggregates and windows of one SELECT. A window's call is a child of
the window, so an aggregate that is called over a window stands inside it. -/
structure AnalyticPlacement (node : SelectNode V) : Prop where
  clean : ∀ expression ∈ node.whereNode.toList ++ node.groupBy ++ node.joins.map (·.predicate),
    ∀ inner ∈ walk expression, inner.isAnalytic = false
  having : ∀ expression ∈ node.having.toList, ∀ inner ∈ walk expression, inner.isWindow = false
  aggregates : ∀ expression ∈ node.scopeExpressions, ∀ aggregate ∈ walk expression,
    aggregate.isAggregate = true → ∀ part ∈ children aggregate, ∀ inner ∈ walk part,
      inner.isAnalytic = false
  windows : ∀ expression ∈ node.scopeExpressions, ∀ window ∈ walk expression,
    window.isWindow = true → ∀ part ∈ children window, ∀ inner ∈ walk part, inner.isWindow = false

/-- The parts of a window in which no check looks for another window. -/
def uncheckedParts : Node V → List (Node V)
  | .window (.aggregate _ _ _) partitionBy orderBy _ _ => partitionBy ++ orderBy.map (·.expression)
  | .window (.function _ arguments) partitionBy orderBy _ _ =>
      arguments ++ partitionBy ++ orderBy.map (·.expression)
  | _ => []

/-- The rules for the slots that no check visits. -/
structure UncheckedPlacement (node : SelectNode V) : Prop where
  joins : ∀ join ∈ node.joins, ∀ inner ∈ walk join.predicate, inner.isAnalytic = false
  windows : ∀ expression ∈ node.selections ++ node.orderBy.map (·.expression),
    ∀ window ∈ walk expression, ∀ part ∈ uncheckedParts window, ∀ inner ∈ walk part,
      inner.isWindow = false

/-- Every SELECT at every depth places its aggregates and windows where both engines allow them. -/
def AnalyticsPlaced (root : QueryNode V) : Prop :=
  ∀ node env, Occurs root (.select node, env) → AnalyticPlacement node

def UncheckedSlotsPlaced (root : QueryNode V) : Prop :=
  ∀ node env, Occurs root (.select node, env) → UncheckedPlacement node

theorem mem_children_window {call : WindowCall V} {partitionBy : List (Node V)}
    {orderBy : List (OrderNode V)} {frame : Option WindowFrameNode}
    {exclusion : Option WindowExclusion} {part : Node V} :
    part ∈ children (.window call partitionBy orderBy frame exclusion) ↔
      part = call.toNode ∨ part ∈ partitionBy ++ orderBy.map (·.expression) := by
  simp only [children, List.cons_append, List.mem_cons]

/-! ### The walks of the validator -/

theorem none_of_attach_any {α : Type} {items : List α} {test : α → Bool}
    (none : (items.attach.any fun item => test item.1) = false) :
    ∀ item ∈ items, test item = false := by
  intro item member
  simpa using List.any_eq_false.mp none ⟨item, member⟩ (by simp)

/-- The walk for aggregates and windows finds one exactly when there is one. -/
theorem containsAnalytic_both {node : Node V} (absent : containsAnalytic true true node = false) :
    ∀ inner ∈ walk node, inner.isAnalytic = false := by
  induction node using children_induction with
  | step node ih =>
      have plain : node.isAnalytic = false ∧
          ∀ child ∈ children node, containsAnalytic true true child = false := by
        rw [containsAnalytic.eq_def] at absent
        cases node with
        | aggregate name arguments filter => simp at absent
        | window => simp at absent
        | _ => exact ⟨rfl, fun child member => none_of_attach_any absent child member⟩
      intro inner inside
      rcases mem_walk.mp inside with rfl | ⟨child, member, deeper⟩
      · exact plain.1
      · exact ih child member (plain.2 child member) inner deeper

/-- The walk for windows alone goes through aggregates. -/
theorem containsAnalytic_window {node : Node V} (absent : containsAnalytic false true node = false) :
    ∀ inner ∈ walk node, inner.isWindow = false := by
  induction node using children_induction with
  | step node ih =>
      have plain : node.isWindow = false ∧
          ∀ child ∈ children node, containsAnalytic false true child = false := by
        rw [containsAnalytic.eq_def] at absent
        cases node with
        | aggregate name arguments filter =>
            have absent : ((children (.aggregate name arguments filter)).attach.any fun child =>
                containsAnalytic false true child.1) = false := absent
            exact ⟨rfl, fun child member => none_of_attach_any absent child member⟩
        | window => simp at absent
        | _ => exact ⟨rfl, fun child member => none_of_attach_any absent child member⟩
      intro inner inside
      rcases mem_walk.mp inside with rfl | ⟨child, member, deeper⟩
      · exact plain.1
      · exact ih child member (plain.2 child member) inner deeper

/-- One visit outside an aggregate. -/
theorem visitAggregates_outside {node : Node V} (accepted : visitAggregates false node = .ok ()) :
    ∀ child ∈ children node, visitAggregates node.isAggregate child = .ok () := by
  rw [visitAggregates.eq_def] at accepted
  cases node with
  | aggregate name arguments filter =>
      simp only [seq_eq_ok, attach_forM_eq_ok] at accepted
      exact accepted.2
  | window =>
      simp only [seq_eq_ok, attach_forM_eq_ok] at accepted
      exact accepted.2
  | _ =>
      simp only [attach_forM_eq_ok] at accepted
      exact accepted

/-- Nothing analytic stands inside an aggregate that was visited. -/
theorem visitAggregates_inside {node : Node V} (accepted : visitAggregates true node = .ok ()) :
    ∀ inner ∈ walk node, inner.isAnalytic = false := by
  induction node using children_induction with
  | step node ih =>
      have plain : node.isAnalytic = false ∧
          ∀ child ∈ children node, visitAggregates true child = .ok () := by
        rw [visitAggregates.eq_def] at accepted
        cases node with
        | aggregate name arguments filter => simp at accepted
        | window => simp at accepted
        | _ =>
            simp only [attach_forM_eq_ok] at accepted
            exact ⟨rfl, accepted⟩
      intro inner inside
      rcases mem_walk.mp inside with rfl | ⟨child, member, deeper⟩
      · exact plain.1
      · exact ih child member (plain.2 child member) inner deeper

/-- In an expression that passed the check no aggregate contains anything analytic. -/
theorem validateAggregateNesting_aggregates {node : Node V}
    (accepted : validateAggregateNesting node = .ok ()) :
    ∀ aggregate ∈ walk node, aggregate.isAggregate = true → ∀ part ∈ children aggregate,
      ∀ inner ∈ walk part, inner.isAnalytic = false := by
  unfold validateAggregateNesting at accepted
  induction node using children_induction with
  | step node ih =>
      have visited := visitAggregates_outside accepted
      intro aggregate inside isAggregate
      rcases mem_walk.mp inside with rfl | ⟨child, member, deeper⟩
      · intro part partMember
        have within := visited part partMember
        rw [isAggregate] at within
        exact visitAggregates_inside within
      · have within := visited child member
        cases context : node.isAggregate with
        | false => exact ih child member (context ▸ within) aggregate deeper isAggregate
        | true =>
            rw [context] at within
            have plain := visitAggregates_inside within aggregate deeper
            rw [isAnalytic_eq, isAggregate] at plain
            cases plain

/-! ### What acceptance guarantees -/

/-- What `validate_analytic_clauses` amounts to. -/
structure AnalyticRules (node : SelectNode V) : Prop where
  clean : ∀ expression ∈ node.whereNode.toList ++ node.groupBy, ∀ inner ∈ walk expression,
    inner.isAnalytic = false
  having : ∀ expression ∈ node.having.toList, ∀ inner ∈ walk expression, inner.isWindow = false
  aggregates : ∀ expression ∈ node.selections ++ node.having.toList ++
    node.orderBy.map (·.expression), ∀ aggregate ∈ walk expression, aggregate.isAggregate = true →
      ∀ part ∈ children aggregate, ∀ inner ∈ walk part, inner.isAnalytic = false

theorem validateAnalyticClauses_rules {node : SelectNode V}
    (accepted : validateAnalyticClauses node = .ok ()) : AnalyticRules node := by
  simp only [validateAnalyticClauses, seq_eq_ok, check_eq_ok, forM_eq_ok] at accepted
  obtain ⟨whereClean, groupClean, havingClean, nesting, orderNesting⟩ := accepted
  refine ⟨fun expression member => ?_, fun expression member => ?_, fun expression member => ?_⟩
  · rcases List.mem_append.mp member with inside | inside
    · rw [Option.mem_toList.mp inside] at whereClean
      exact containsAnalytic_both whereClean
    · exact containsAnalytic_both (groupClean expression inside).2
  · rw [Option.mem_toList.mp member] at havingClean
    exact containsAnalytic_window havingClean
  · rcases List.mem_append.mp member with inside | inside
    · exact validateAggregateNesting_aggregates (nesting expression inside)
    · obtain ⟨order, listed, rfl⟩ := List.mem_map.mp inside
      exact validateAggregateNesting_aggregates (orderNesting order listed)

/-- Under the rules, no window stands inside a window where one of the checks looks. -/
theorem windows_of_unchecked {expression window : Node V}
    (aggregates : ∀ aggregate ∈ walk expression, aggregate.isAggregate = true →
      ∀ part ∈ children aggregate, ∀ inner ∈ walk part, inner.isAnalytic = false)
    (unchecked : ∀ part ∈ uncheckedParts window, ∀ inner ∈ walk part, inner.isWindow = false)
    (inside : window ∈ walk expression) (isWindow : window.isWindow = true) :
    ∀ part ∈ children window, ∀ inner ∈ walk part, inner.isWindow = false := by
  cases window with
  | window call partitionBy orderBy frame exclusion =>
      have called : call.toNode ∈ walk expression :=
        child_mem_walk inside (mem_children_window.mpr (.inl rfl))
      intro part member inner deeper
      rcases mem_children_window.mp member with rfl | rest
      · cases call with
        | aggregate name arguments filter =>
            rcases mem_walk.mp deeper with rfl | ⟨child, childMember, deepest⟩
            · rfl
            · have plain := aggregates _ called rfl child childMember inner deepest
              rw [isAnalytic_eq, Bool.or_eq_false_iff] at plain
              exact plain.2
        | function name arguments =>
            rcases mem_walk.mp deeper with rfl | ⟨child, childMember, deepest⟩
            · rfl
            · refine unchecked child ?_ inner deepest
              simp only [WindowCall.toNode, children] at childMember
              simp [uncheckedParts, childMember]
      · refine unchecked part ?_ inner deeper
        cases call with
        | aggregate => exact rest
        | function name arguments =>
            rw [uncheckedParts, List.append_assoc]
            exact List.mem_append_right _ rest
  | _ => cases isWindow

theorem AnalyticRules.placement {node : SelectNode V} (rules : AnalyticRules node)
    (unchecked : UncheckedPlacement node) : AnalyticPlacement node := by
  have clean : ∀ expression ∈ node.whereNode.toList ++ node.groupBy ++
      node.joins.map (·.predicate), ∀ inner ∈ walk expression, inner.isAnalytic = false := by
    intro expression member
    rcases List.mem_append.mp member with inside | inside
    · exact rules.clean expression inside
    · obtain ⟨join, listed, rfl⟩ := List.mem_map.mp inside
      exact unchecked.joins join listed
  have split : ∀ expression ∈ node.scopeExpressions,
      expression ∈ node.whereNode.toList ++ node.groupBy ++ node.joins.map (·.predicate) ∨
        expression ∈ node.having.toList ∨
        expression ∈ node.selections ++ node.orderBy.map (·.expression) := by
    intro expression member
    simp only [SelectNode.scopeExpressions, List.mem_append] at member ⊢
    grind
  have aggregates : ∀ expression ∈ node.scopeExpressions, ∀ aggregate ∈ walk expression,
      aggregate.isAggregate = true → ∀ part ∈ children aggregate, ∀ inner ∈ walk part,
        inner.isAnalytic = false := by
    intro expression member aggregate inside isAggregate
    have checked : expression ∈ node.selections ++ node.having.toList ++
        node.orderBy.map (·.expression) → ∀ part ∈ children aggregate, ∀ inner ∈ walk part,
          inner.isAnalytic = false := fun listed =>
      rules.aggregates expression listed aggregate inside isAggregate
    rcases split expression member with plain | having | listed
    · have none := clean expression plain aggregate inside
      rw [isAnalytic_eq, isAggregate] at none
      cases none
    · exact checked (by simp only [List.mem_append]; exact .inl (.inr having))
    · refine checked ?_
      simp only [List.mem_append] at listed ⊢
      exact listed.elim (fun selected => .inl (.inl selected)) .inr
  refine ⟨clean, rules.having, aggregates, fun expression member window inside isWindow => ?_⟩
  rcases split expression member with plain | having | listed
  · have none := clean expression plain window inside
    rw [isAnalytic_eq, isWindow, Bool.or_true] at none
    cases none
  · have none := rules.having expression having window inside
    rw [isWindow] at none
    cases none
  · exact windows_of_unchecked (aggregates expression member)
      (unchecked.windows expression listed window inside) inside isWindow

theorem AnalyticPlacement.unchecked {node : SelectNode V} (placed : AnalyticPlacement node) :
    UncheckedPlacement node := by
  refine ⟨fun join listed => placed.clean _ ?_, fun expression listed window inside part member => ?_⟩
  · simp only [List.mem_append, List.mem_map]
    exact .inr ⟨join, listed, rfl⟩
  · have visited : expression ∈ node.scopeExpressions := by
      simp only [SelectNode.scopeExpressions, List.mem_append] at listed ⊢
      grind
    cases window with
    | window call partitionBy orderBy frame exclusion =>
        have below := placed.windows expression visited _ inside rfl
        intro inner deeper
        cases call with
        | aggregate name arguments filter =>
            exact below part (mem_children_window.mpr (.inr member)) inner deeper
        | function name arguments =>
            rw [uncheckedParts, List.append_assoc] at member
            rcases List.mem_append.mp member with argument | rest
            · refine below _ (mem_children_window.mpr (.inl rfl)) inner ?_
              exact mem_walk.mpr (.inr ⟨part, by simpa [WindowCall.toNode, children] using argument,
                deeper⟩)
            · exact below part (mem_children_window.mpr (.inr rest)) inner deeper
    | _ => simp [uncheckedParts] at member

section
variable [DecidableEq V] [PyObject V]

/-- In an accepted statement aggregates and windows are placed rightly everywhere exactly when they
are in ON conditions and inside windows. -/
theorem analyticPlacement_iff {root : QueryNode V} {dialect : Dialect}
    (accepted : Accepted root dialect) : AnalyticsPlaced root ↔ UncheckedSlotsPlaced root := by
  constructor
  · intro placed node env occurs
    exact (placed node env occurs).unchecked
  · intro unchecked node env occurs
    obtain ⟨names, statement, -⟩ := accepted_occurs accepted occurs
    rw [validateStatement] at statement
    have rules := validateAnalyticClauses_rules (validateSelect_iff.mp statement).analytic
    exact rules.placement (unchecked node env occurs)

end

/-! ### An aggregate in an ON condition -/

/-- `SELECT "t"."a" FROM "t" INNER JOIN "u" ON count("u"."x") = 1`. -/
def countedJoin : QueryNode Int :=
  .select
    { selections := [.column "t" "a"]
      fromSource := some (.table { name := "t" })
      joins := [
        { source := .table { name := "u" }
          predicate := .binary (.aggregate .count [.column "u" "x"] none) .eq (.value 1)
          kind := "inner" }] }

theorem countedJoin_misplaced : Accepted countedJoin postgres ∧ ¬AnalyticsPlaced countedJoin := by
  refine ⟨by decide +kernel, fun placed => ?_⟩
  have clean := (placed _ {} .refl).clean
    (.binary (.aggregate .count [.column "u" "x"] none) .eq (.value 1)) (by simp)
    (.aggregate .count [.column "u" "x"] none)
    (mem_walk.mpr (.inr ⟨_, by simp [children], self_mem_walk _⟩))
  cases clean

theorem analyticPlacement_iff_countedJoin :
    Accepted countedJoin postgres ∧
      (AnalyticsPlaced countedJoin ↔ UncheckedSlotsPlaced countedJoin) := by
  have accepted : Accepted countedJoin postgres := by decide +kernel
  exact ⟨accepted, analyticPlacement_iff accepted⟩

end Relq
