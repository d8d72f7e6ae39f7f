/-
Module: Relq.Grouping.Soundness
Layer: Grouping
Purpose: The grouping check against the groups. For an accepted query every local reference of a grouped
  SELECT is covered, and each group yields the same values whichever of its rows represents it, exactly
  if no reference varies where the check does not look.
Imports: Relq.Grouping.Marking
Trusted boundary: human-reviewed spec (SelectNode.IsGrouped, GroupingSound, GroupsDetermined,
  BlindSpotsSteady)
Main exports: GroupingSound, GroupsDetermined, BlindSpotsSteady, groupsDetermined_iff,
  windowedAggregate_exposed
-/
import Relq.Grouping.Marking

namespace Relq

open Outcome

variable {V : Type}

section
variable [DecidableEq V] [PyObject V]

theorem Covered.of_mem {grouped : List (Node V)} {node : Node V} (member : node ∈ grouped) :
    Covered grouped node :=
  List.any_eq_true.mpr ⟨node, member, pyEqual_self node⟩

theorem not_fixed_of_bare {grouped : List (Node V)} {hidden : List String} {node : Node V}
    (bare : ¬Covered grouped node) : ¬Fixed grouped hidden node :=
  fun fixed => bare (.of_mem fixed.1)

/-- An exposed reference varies. -/
theorem Exposed.varies {grouped : List (Node V)} {locals shown hidden : List String} {seen : Bool}
    {node : Node V} (exposed : Exposed grouped shown seen node)
    (ofLocals : ∀ source ∈ shown, source ∈ locals ∧ source ∉ hidden) :
    Varies grouped locals hidden seen node := by
  induction exposed generalizing hidden with
  | column isLocal bare =>
      obtain ⟨inLocals, unhidden⟩ := ofLocals _ isLocal
      exact .column inLocals unhidden (not_fixed_of_bare bare)
  | child bare plain member exposed ih =>
      exact .child (not_fixed_of_bare bare) plain member (ih ofLocals)
  | windowAggregate bare member exposed ih =>
      exact .windowAggregate (not_fixed_of_bare bare) member (ih ofLocals)
  | nested bare carries within member exposed ih =>
      refine .nested (not_fixed_of_bare bare) carries within member (ih fun source inside => ?_)
      obtain ⟨kept, free⟩ := List.mem_filter.mp inside
      obtain ⟨inLocals, unhidden⟩ := ofLocals source kept
      refine ⟨inLocals, fun hides => ?_⟩
      rcases List.mem_append.mp hides with own | outer
      · exact absurd own (of_decide_eq_true free)
      · exact unhidden outer

/-- A reference that varies in an exempt subexpression varies in the whole. -/
theorem Exempt.varies {grouped : List (Node V)} {locals hidden : List String} {seen : Bool}
    {node exempt : Node V} (reached : Exempt grouped node exempt)
    (varies : Varies grouped locals hidden seen exempt) : Varies grouped locals hidden seen node := by
  induction reached with
  | here covered => exact varies
  | within bare plain member below ih => exact .child (not_fixed_of_bare bare) plain member (ih varies)

/-- Where the check finds nothing, a reference on its way varies only in an exempt subexpression. -/
theorem not_varies_of_empty {grouped : List (Node V)} {locals : List String} {node : Node V}
    (accepted : ungroupedLocalColumns grouped locals node = .ok [])
    (exempt : ∀ inner, Exempt grouped node inner → ¬Varies grouped locals [] true inner) :
    ¬Varies grouped locals [] true node := by
  induction node using children_induction with
  | step node ih =>
      by_cases bare : Covered grouped node
      · exact exempt node (.here bare)
      · obtain ⟨foreign, below⟩ := ungroupedLocalColumns_empty accepted bare
        intro varies
        cases varies with
        | column isLocal shown free => exact foreign _ _ rfl isLocal
        | child free plain member varies =>
            refine ih _ member (below plain _ member) (fun inner reached => ?_) varies
            exact exempt inner (.within bare plain member reached)
        | innerAggregate named member varies =>
            obtain ⟨source, inside, -⟩ := named
            cases inside

/-- A SELECT the grouping rule is about: it has GROUP BY, or it contains an aggregate that is not the
call of a window, or a nested statement contains one that belongs to the SELECT. -/
def SelectNode.IsGrouped (node : SelectNode V) : Prop :=
  node.groupBy ≠ [] ∨ ∃ clause ∈ node.clauses,
    PlainAggregate clause.expression ∨ OwnAggregate (localSources node) none clause.expression

/-- In every grouped SELECT every reference to a local column in the SELECT list, HAVING or ORDER BY
is covered by a grouping expression or a plain aggregate. -/
def GroupingSound (root : QueryNode V) : Prop :=
  ∀ node env, Occurs root (.select node, env) → node.IsGrouped →
    ∀ item ∈ groupedExpressions node, ∀ seen,
      ¬Exposed node.groupBy (localSources node) seen item.2

/-- In every grouped SELECT each group yields the same values whichever of its rows represents it. -/
def GroupsDetermined (root : QueryNode V) : Prop :=
  ∀ node env, Occurs root (.select node, env) → node.IsGrouped → node.Determined

/-- No reference varies that the check does not look at: none in the arguments and filters of windowed
aggregates and in nested statements, none in a subexpression that equals a GROUP BY expression, and none
at all in a SELECT that is not examined. -/
structure SelectNode.BlindSpotsSteady (node : SelectNode V) : Prop where
  unseen : ∀ item ∈ groupedExpressions node, ¬Varies node.groupBy (localSources node) [] false item.2
  exempt : ∀ item ∈ groupedExpressions node, ∀ inner, Exempt node.groupBy item.2 inner →
    ¬Varies node.groupBy (localSources node) [] true inner
  unexamined : node.examined = false → ∀ item ∈ groupedExpressions node,
    ¬Varies node.groupBy (localSources node) [] true item.2

theorem SelectNode.BlindSpotsSteady.of_steady {node : SelectNode V}
    (steady : ∀ item ∈ groupedExpressions node, ∀ seen,
      ¬Varies node.groupBy (localSources node) [] seen item.2) : node.BlindSpotsSteady where
  unseen := fun item member => steady item member false
  exempt := fun item member _ reached varies => steady item member true (reached.varies varies)
  unexamined := fun _ item member => steady item member true

def BlindSpotsSteady (root : QueryNode V) : Prop :=
  ∀ node env, Occurs root (.select node, env) → node.IsGrouped → node.BlindSpotsSteady

/-- No GROUP BY expression of an accepted query contains an aggregate or a window. -/
theorem accepted_direct {root : QueryNode V} {dialect : Dialect} (accepted : Accepted root dialect)
    {node : SelectNode V} {env : Env} (occurs : Occurs root (.select node, env)) :
    ∀ grouping ∈ node.groupBy, containsAnalytic true true grouping = false := by
  intro grouping member
  obtain ⟨outer, statement, -⟩ := accepted_occurs accepted occurs
  rw [validateStatement] at statement
  have analytic := (validateSelect_iff.mp statement).analytic
  simp only [validateAnalyticClauses, seq_eq_ok, check_eq_ok, forM_eq_ok] at analytic
  exact (analytic.2.1 grouping member).2

/-- The grouping check of an accepted query is sound, and its groups are determined, exactly if no
reference varies in the blind spots of the check. -/
theorem groupsDetermined_iff {root : QueryNode V} {dialect : Dialect}
    (accepted : Accepted root dialect) :
    GroupingSound root ∧ GroupsDetermined root ↔ BlindSpotsSteady root := by
  constructor
  · rintro ⟨-, determined⟩ node env occurs grouped
    exact .of_steady ((SelectNode.determined_iff (accepted_direct accepted occurs)).mp
      (determined node env occurs grouped))
  · intro steady
    have noneVaries : ∀ node env, Occurs root (.select node, env) → node.IsGrouped →
        ∀ item ∈ groupedExpressions node, ∀ seen,
          ¬Varies node.groupBy (localSources node) [] seen item.2 := by
      intro node env occurs grouped item member seen
      have ofNode := steady node env occurs grouped
      cases seen with
      | false => exact ofNode.unseen item member
      | true =>
          cases examined : node.examined with
          | false => exact ofNode.unexamined examined item member
          | true =>
              obtain ⟨outer, statement, -⟩ := accepted_occurs accepted occurs
              rw [validateStatement] at statement
              have rules := validateSelect_iff.mp statement
              exact not_varies_of_empty (validateGrouping_items rules.grouping examined member)
                (ofNode.exempt item member)
    constructor
    · intro node env occurs grouped item member seen exposed
      exact noneVaries node env occurs grouped item member seen
        (exposed.varies fun source inside => ⟨inside, List.not_mem_nil⟩)
    · intro node env occurs grouped
      exact (SelectNode.determined_iff (accepted_direct accepted occurs)).mpr
        (noneVaries node env occurs grouped)

end

/-- `SELECT sum("t"."x") OVER () FROM "t" GROUP BY "t"."y"`. -/
def windowedAggregate : SelectNode Int :=
  { selections := [.window (.aggregate .sum [.column "t" "x"] none) [] [] none none]
    fromSource := some (.table { name := "t" })
    groupBy := [.column "t" "y"] }

/-- The argument of a windowed aggregate is exempt although no plain aggregate surrounds it, and it is
read from the row that represents the group. -/
theorem windowedAggregate_exposed :
    Accepted (.select windowedAggregate) sqlite ∧ ¬GroupingSound (.select windowedAggregate) ∧
      ¬GroupsDetermined (.select windowedAggregate) := by
  have grouped : windowedAggregate.IsGrouped := .inl (List.cons_ne_nil _ _)
  have member : ("SELECT", .window (.aggregate .sum [.column "t" "x"] none) [] [] none none) ∈
      groupedExpressions windowedAggregate := List.mem_cons_self
  have bare : ¬Covered windowedAggregate.groupBy (.column "t" "x") := by
    simp [Covered, windowedAggregate, pyEqual, Node.agree]
  have bareWindow : ¬Covered windowedAggregate.groupBy
      (.window (.aggregate .sum [.column "t" "x"] none) [] [] none none) := by
    simp [Covered, windowedAggregate, pyEqual, Node.agree]
  have argument : Exposed windowedAggregate.groupBy (localSources windowedAggregate) true
      (.column "t" "x") := .column (by decide) bare
  have exposed : Exposed windowedAggregate.groupBy (localSources windowedAggregate) false
      (.window (.aggregate .sum [.column "t" "x"] none) [] [] none none) :=
    .windowAggregate bareWindow (by simp [children]) argument
  have accepted : Accepted (.select windowedAggregate) sqlite := by decide +kernel
  refine ⟨accepted, fun sound => ?_, fun determined => ?_⟩
  · exact sound windowedAggregate {} .refl grouped _ member false exposed
  · have steady := (SelectNode.determined_iff (accepted_direct accepted .refl)).mp
      (determined windowedAggregate {} .refl grouped)
    exact steady _ member false (exposed.varies fun source inside => ⟨inside, List.not_mem_nil⟩)

/-- `SELECT "t"."y", (SELECT sum("t"."x" + "u"."a") FROM "u") FROM "t" GROUP BY "t"."y"`. -/
def nestedTotal : SelectNode Int :=
  { selections := [.column "t" "y", .scalarSubquery
      { selections := [.aggregate .sum [.binary (.column "t" "x") .add (.column "u" "a")] none]
        fromSource := some (.table { name := "u" }) }]
    fromSource := some (.table { name := "t" })
    groupBy := [.column "t" "y"] }

/-- The aggregate is one of the nested SELECT, which reads `x` from the row that represents the group. -/
theorem nestedTotal_undetermined :
    Accepted (.select nestedTotal) sqlite ∧ ¬GroupsDetermined (.select nestedTotal) := by
  have ungrouped : ∀ {hidden : List String} {node : Node Int}, node ≠ .column "t" "y" →
      ¬Fixed nestedTotal.groupBy hidden node :=
    fun other fixed => other (List.mem_singleton.mp fixed.1)
  have summand : Varies nestedTotal.groupBy (localSources nestedTotal) ["u"] true
      (.binary (.column "t" "x") .add (.column "u" "a")) :=
    .child (ungrouped (by simp)) (by simp) List.mem_cons_self
      (.column List.mem_cons_self (by decide) (ungrouped (by simp)))
  have inner : Names "u" (.binary (.column "t" "x") .add (.column "u" "a") : Node Int) :=
    .child (List.mem_cons_of_mem _ List.mem_cons_self) (.column "a")
  have total : Varies nestedTotal.groupBy (localSources nestedTotal) ["u"] true
      (.aggregate .sum [.binary (.column "t" "x") .add (.column "u" "a")] none) :=
    .innerAggregate ⟨"u", List.mem_cons_self, .child List.mem_cons_self inner⟩ List.mem_cons_self summand
  have accepted : Accepted (.select nestedTotal) sqlite := by decide +kernel
  refine ⟨accepted, fun determined => ?_⟩
  have steady := (SelectNode.determined_iff (accepted_direct accepted .refl)).mp
    (determined nestedTotal {} .refl (.inl (List.cons_ne_nil _ _)))
  exact steady _ (List.mem_cons_of_mem _ List.mem_cons_self) false
    (.nested (ungrouped (by simp)) rfl .refl List.mem_cons_self total)

/-- `SELECT max("u"."a") FROM "u" WHERE "u"."b" = "t"."y"`. -/
def latestMatch : SelectNode Int :=
  { selections := [.aggregate .max [.column "u" "a"] none]
    fromSource := some (.table { name := "u" })
    whereNode := some (.binary (.column "u" "b") .eq (.column "t" "y")) }

/-- `SELECT "t"."y", sum("t"."x"), (SELECT …) FROM "t" GROUP BY "t"."y"`, with `latestMatch` nested. -/
def groupedSum : SelectNode Int :=
  { selections := [.column "t" "y", .aggregate .sum [.column "t" "x"] none, .scalarSubquery latestMatch]
    fromSource := some (.table { name := "t" })
    groupBy := [.column "t" "y"] }

theorem occurs_groupedSum {node : SelectNode Int} {env : Env}
    (occurs : Occurs (.select groupedSum) (.select node, env)) :
    node = groupedSum ∨ node = latestMatch := by
  have inGrouped : ∀ place ∈ inside (.select groupedSum) {}, place.1 = .select latestMatch := by
    simp [inside, groupedSum, nestedStatements, clauseQueries, ownClauses, SelectNode.clauses,
      SelectNode.clauseExpressions, joinClauses, subqueries, walk_eq, children, Node.nestedSelect,
      cteBodies, SelectNode.sources, SourceNode.derivedQuery, List.filterMap_cons]
  have inMatch : ∀ env, inside (.select latestMatch) env = [] := by
    simp [inside, latestMatch, nestedStatements, clauseQueries, ownClauses, SelectNode.clauses,
      SelectNode.clauseExpressions, joinClauses, subqueries, walk_eq, children, Node.nestedSelect,
      cteBodies, SelectNode.sources, SourceNode.derivedQuery, List.filterMap_cons]
  rcases Relation.ReflTransGen.cases_head occurs with same | ⟨⟨next, nextEnv⟩, step, rest⟩
  · cases same
    exact .inl rfl
  · obtain rfl : next = .select latestMatch := inGrouped _ step
    rcases Relation.ReflTransGen.cases_head rest with same | ⟨further, step, -⟩
    · cases same
      exact .inr rfl
    · rw [Encloses, inMatch] at step
      cases step

/-- What `latestMatch` reads from the SELECT around it is grouped by. -/
theorem steady_latestMatch {seen : Bool} :
    ¬Varies groupedSum.groupBy ["t"] [] seen (.scalarSubquery latestMatch) := by
  have ofMatch : ∀ {seen : Bool} {name : String},
      ¬Varies groupedSum.groupBy ["t"] ["u"] seen (.column "u" name) := by
    intro seen name
    exact not_varies_column fun isLocal => absurd isLocal (by decide)
  have fixed : Fixed groupedSum.groupBy ["u"] (.column "t" "y") := by
    refine ⟨List.mem_cons_self, fun source inside names => ?_⟩
    obtain rfl := List.mem_singleton.mp inside
    exact absurd (names_column.mp names) (by decide)
  intro varies
  cases varies with
  | child bare plain member below => cases member
  | @nested _ _ _ query inner clause bare carries within member below =>
      obtain rfl := Option.some.inj carries
      rcases Relation.ReflTransGen.cases_head within with rfl | ⟨next, ⟨env, childEnv, step⟩, -⟩
      · have clauses : clause = ⟨["u"], [], .aggregate .max [.column "u" "a"] none⟩ ∨
            clause = ⟨["u"], [], .binary (.column "u" "b") .eq (.column "t" "y")⟩ := by
          simpa [ownClauses, SelectNode.clauses, latestMatch, SelectNode.clauseExpressions, joinClauses,
            localSources, SourceNode.reference, TableSourceNode.reference] using member
        rcases clauses with rfl | rfl
        · cases below with
          | child bare plain member below => exact plain _ _ _ rfl
          | innerAggregate named member below =>
              obtain rfl := List.mem_singleton.mp member
              exact ofMatch below
          | nested bare carries within member below => cases carries
        · cases below with
          | child bare plain member below =>
              rcases List.mem_cons.mp member with rfl | last
              · exact ofMatch below
              · obtain rfl := List.mem_singleton.mp last
                exact not_varies_column (fun _ => fixed) below
          | nested bare carries within member below => cases carries
      · simp [nestedStatements, latestMatch, cteBodies, SelectNode.sources,
          SourceNode.derivedQuery] at step

theorem blindSpotsSteady_groupedSum : BlindSpotsSteady (.select groupedSum) := by
  intro node env occurs grouped
  apply SelectNode.BlindSpotsSteady.of_steady
  intro item member seen
  rcases occurs_groupedSum occurs with rfl | rfl
  · have items : item = ("SELECT", .column "t" "y") ∨
        item = ("SELECT", .aggregate .sum [.column "t" "x"] none) ∨
        item = ("SELECT", .scalarSubquery latestMatch) := by
      simpa [groupedExpressions, groupedSum] using member
    rcases items with rfl | rfl | rfl
    · exact not_varies_column fun _ => ⟨List.mem_cons_self, by simp⟩
    · exact not_varies_aggregate
    · exact steady_latestMatch
  · obtain rfl : item = ("SELECT", .aggregate .max [.column "u" "a"] none) := by
      simpa [groupedExpressions, latestMatch] using member
    exact not_varies_aggregate

/-- A correlated subquery may read what the SELECT is grouped by. -/
theorem groupsDetermined_iff_groupedSum :
    GroupingSound (.select groupedSum) ∧ GroupsDetermined (.select groupedSum) := by
  have accepted : Accepted (.select groupedSum) sqlite := by decide +kernel
  exact (groupsDetermined_iff accepted).mpr blindSpotsSteady_groupedSum

end Relq
