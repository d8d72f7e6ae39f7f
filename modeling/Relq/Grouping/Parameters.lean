/-
Module: Relq.Grouping.Parameters
Layer: Grouping
Purpose: Grouped queries as PostgreSQL sees them. The grouping check exempts a subexpression that is
  equal to a GROUP BY expression as a Python value. PostgreSQL compares the two after rendering, when
  every occurrence of a bound value has a number of its own, and `$1` and `$2` are different
  parameters. It also looks where the grouping check does not: into the arguments of windowed
  aggregates, and into a SELECT whose only aggregates stand inside window expressions.
Imports: Relq.Compiler.Likeness, Relq.Compiler.Ordinals, Relq.Compiler.Portability,
  Relq.Grouping.Ownership
Trusted boundary: human-reviewed spec (SelectNode.groupings, SelectNode.restricted, ExemptAt,
  TreeComparison, PrimaryKeys, Complains, SelectNode.Checked, GroupedForPostgres)
Main exports: ExemptAt, TreeComparison, Complains, GroupedForPostgres, exemptRecognised_iff,
  groupedForPostgres_iff, shiftedGroup_ungrouped
-/
import Relq.Compiler.Likeness
import Relq.Compiler.Ordinals
import Relq.Compiler.Portability
import Relq.Grouping.Ownership

namespace Relq

open Templates Offsets Outcome

variable {V : Type}

/-! ### Clauses and their places -/

namespace SelectNode

def withParts (node : SelectNode V) : List (Term V) :=
  node.ctes.map fun cte => .statement cte.query

/-- What a SELECT renders ahead of its GROUP BY clause. -/
def beforeGroups (node : SelectNode V) : List (Term V) :=
  node.withParts ++ node.selections.map .expression ++ node.fromSource.toList.flatMap sourceParts ++
    node.joins.flatMap joinParts ++ node.whereNode.toList.map .expression

/-- What a SELECT renders behind its GROUP BY clause. -/
def afterGroups (node : SelectNode V) : List (Term V) :=
  node.having.toList.map .expression ++ node.orderBy.map .order

variable [PyObject V]

/-- The GROUP BY expressions of a SELECT that is rendered after `k` values, each with the number of
values bound before it. -/
def groupings (node : SelectNode V) (k : Nat) : List (Nat × Term V) :=
  starts postgres (k + total (bindings postgres) node.beforeGroups) (node.groupBy.map .expression)

/-- The SELECT list, HAVING and ORDER BY expressions, in the same way. -/
def restricted (node : SelectNode V) (k : Nat) : List (Nat × Term V) :=
  starts postgres (k + total (bindings postgres) node.withParts) (node.selections.map .expression) ++
    starts postgres (k + total (bindings postgres) (node.beforeGroups ++ node.groupBy.map .expression))
      node.afterGroups

end SelectNode

section

variable [PyObject V]

theorem offsets_items (n : Nat) (parts : List (Term V)) :
    (starts postgres n parts).map (·.2) = parts := by
  induction parts generalizing n with
  | nil => rfl
  | cons part rest ih => simp [starts, offsets, ih]

/-- The restricted expressions are those the grouping check looks at. -/
theorem restricted_items (node : SelectNode V) (k : Nat) :
    (node.restricted k).map (·.2) = (groupedExpressions node).map fun item => .expression item.2 := by
  simp [SelectNode.restricted, offsets_items, SelectNode.afterGroups, groupedExpressions,
    Function.comp_def]

omit [PyObject V] in
theorem fillOrder_select (node : SelectNode V) :
    fillOrder (.select node) = node.beforeGroups ++ node.groupBy.map .expression ++ node.afterGroups ++
      node.compounds.map fun compound => Term.select compound.query := by
  simp [fillOrder, renderedParts, SelectNode.beforeGroups, SelectNode.withParts,
    SelectNode.afterGroups]

theorem restricted_item {node : SelectNode V} {k n : Nat} {item : Node V}
    (member : (n, .expression item) ∈ node.restricted k) :
    ∃ entry ∈ groupedExpressions node, entry.2 = item := by
  have listed := List.mem_map_of_mem (f := (·.2)) member
  rw [restricted_items] at listed
  obtain ⟨entry, inside, same⟩ := List.mem_map.mp listed
  exact ⟨entry, inside, Term.expression.inj same⟩

theorem restricted_exists {node : SelectNode V} {entry : String × Node V}
    (member : entry ∈ groupedExpressions node) (k : Nat) :
    ∃ n, (n, .expression entry.2) ∈ node.restricted k := by
  have listed : Term.expression entry.2 ∈ (node.restricted k).map (·.2) := by
    rw [restricted_items]
    exact List.mem_map.mpr ⟨entry, member, rfl⟩
  obtain ⟨⟨n, term⟩, inside, rfl⟩ := List.mem_map.mp listed
  exact ⟨n, inside⟩

/-- A restricted expression is rendered where `restricted` says. -/
theorem restricted_placed {node : SelectNode V} {k m : Nat} {term : Term V}
    (member : (m, term) ∈ node.restricted k) : Placed postgres k (.select node) m term := by
  refine .within ?_ (.here m term)
  rw [fillOrder_select]
  simp only [SelectNode.restricted, SelectNode.beforeGroups, offsets_append, List.mem_append]
    at member ⊢
  rcases member with selection | behind
  · exact Or.inl (Or.inl (Or.inl (Or.inl (Or.inl (Or.inl (Or.inr selection))))))
  · exact Or.inl (Or.inr behind)

/-- A restricted expression is rendered in its SELECT. -/
theorem restricted_rendered {node : SelectNode V} {entry : String × Node V}
    (member : entry ∈ groupedExpressions node) : Rendered (.select node) (.expression entry.2) := by
  obtain ⟨m, place⟩ := restricted_exists member 0
  exact (restricted_placed place).rendered

/-- The values of the restricted clauses are bound before or after those of GROUP BY. -/
theorem restricted_apart {node : SelectNode V} {k m j : Nat} {term grouping : Term V}
    (restricted : (m, term) ∈ node.restricted k) (grouped : (j, grouping) ∈ node.groupings k) :
    m + bindings postgres term ≤ j ∨ j + bindings postgres grouping ≤ m := by
  have range := offsets_bounds grouped
  rcases List.mem_append.mp restricted with selection | behind
  · have early := offsets_bounds selection
    left
    simp only [SelectNode.beforeGroups, total_append] at range early ⊢
    omega
  · have late_ := offsets_bounds behind
    right
    simp only [total_append] at range late_ ⊢
    omega

end

/-! ### Exempt subexpressions -/

section

variable [DecidableEq V] [PyObject V]

/-- `Exempt` with places: `n` values are bound before the expression and `m` before `exempt`. -/
inductive ExemptAt (grouped : List (Node V)) : Nat → Node V → Nat → Node V → Prop where
  | here {n : Nat} {node : Node V} (covered : Covered grouped node) : ExemptAt grouped n node n node
  | within {n m k : Nat} {node child exempt : Node V} (bare : ¬Covered grouped node)
      (plain : ∀ name arguments filter, node ≠ .aggregate name arguments filter)
      (member : (m, .expression child) ∈ starts postgres n (fillOrder (.expression node)))
      (below : ExemptAt grouped m child k exempt) : ExemptAt grouped n node k exempt

omit [DecidableEq V] [PyObject V] in
theorem expression_mem_fillOrder {node child : Node V} :
    .expression child ∈ fillOrder (.expression node) ↔ child ∈ children node := by
  rw [mem_fillOrder]
  simp [renderedParts]

theorem ExemptAt.exempt {grouped : List (Node V)} {n m : Nat} {node exempt : Node V}
    (placed : ExemptAt grouped n node m exempt) : Exempt grouped node exempt := by
  induction placed with
  | here covered => exact .here covered
  | within bare plain member below ih =>
      exact .within bare plain (expression_mem_fillOrder.mp (mem_of_offsets member)) ih

theorem Exempt.placed {grouped : List (Node V)} {node exempt : Node V}
    (reached : Exempt grouped node exempt) (n : Nat) : ∃ m, ExemptAt grouped n node m exempt := by
  induction reached generalizing n with
  | here covered => exact ⟨n, .here covered⟩
  | within bare plain member below ih =>
      obtain ⟨m, place⟩ := exists_offset (expression_mem_fillOrder.mpr member) n
      obtain ⟨k, inner⟩ := ih m
      exact ⟨k, .within bare plain place inner⟩

theorem ExemptAt.rendered {grouped : List (Node V)} {n m : Nat} {node exempt : Node V}
    (placed : ExemptAt grouped n node m exempt) :
    Placed postgres n (.expression node) m (.expression exempt) := by
  induction placed with
  | here covered => exact .here _ _
  | within bare plain member below ih => exact .within member ih

theorem Exempt.rendered {grouped : List (Node V)} {node exempt : Node V}
    (reached : Exempt grouped node exempt) : Rendered (.expression node) (.expression exempt) := by
  obtain ⟨m, placed⟩ := reached.placed 0
  exact placed.rendered.rendered

/-! ### The comparison after rendering -/

/-- PostgreSQL's comparison of parse trees, as a relation on the texts they are parsed from: the same
text gives the same tree, and a tree keeps every parameter of its text. -/
structure TreeComparison where
  same : Text → Text → Prop
  refl : ∀ text, same text text
  parameters : ∀ {left right : Text}, same left right →
    ∀ ordinal, .placeholder ordinal ∈ left → .placeholder ordinal ∈ right

/-- The comparison of the texts themselves. -/
def TreeComparison.texts : TreeComparison where
  same left right := left = right
  refl _ := rfl
  parameters equal _ member := equal ▸ member

namespace TreeComparison

variable (trees : TreeComparison)

/-- The expression rendered after `n` values denotes the tree of one of the GROUP BY expressions. -/
def Recognises (groupings : List (Nat × Term V)) (n : Nat) (node : Node V) : Prop :=
  ∃ j grouping, (j, .expression grouping) ∈ groupings ∧
    trees.same ((layoutNode postgres node).sql n) ((layoutNode postgres grouping).sql j)

/-- PostgreSQL finds every exempt subexpression among the GROUP BY expressions. A subexpression with a
data-modifying statement inside denotes no tree, since PostgreSQL takes these only in a top-level
WITH. -/
def ExemptRecognised (root : QueryNode V) : Prop :=
  ∀ k node, Placed postgres 0 (.statement root) k (.select node) →
    ∀ n item, (n, .expression item) ∈ node.restricted k →
      ∀ m exempt, ExemptAt node.groupBy n item m exempt → ReadOnly (.expression exempt) →
        trees.Recognises (node.groupings k) m exempt

end TreeComparison

/-- No exempt subexpression of a SELECT in the statement binds a value. -/
def ExemptBindNothing (root : QueryNode V) : Prop :=
  ∀ node, Rendered (.statement root) (.select node) → ∀ item ∈ groupedExpressions node,
    ∀ exempt, Exempt node.groupBy item.2 exempt → ReadOnly (.expression exempt) →
      ¬Binds (.expression exempt)

/-- A statement that binds no value has none in what is exempt. -/
theorem exemptBindNothing_of_unbound {root : QueryNode V} (unbound : ¬Binds (.statement root)) :
    ExemptBindNothing root := by
  rintro node rendered entry member exempt reached - ⟨value, below⟩
  exact unbound ⟨value,
    ((rendered.trans (restricted_rendered member)).trans reached.rendered).trans below⟩

omit [DecidableEq V] in
/-- The parameters of a text are numbered from its place on. -/
theorem mem_sql_placeholder {node : Node V} {n ordinal : Nat} :
    .placeholder ordinal ∈ (layoutNode postgres node).sql n ↔
      n + 1 ≤ ordinal ∧ ordinal < n + 1 + bindings postgres (.expression node) := by
  have numbers : ((layoutNode postgres node).sql n).filterMap Lexeme.ordinal =
      (layoutNode postgres node).ordinals n :=
    Template.text_ordinals ordinal_placeholder (layout_plain postgres (.expression node)) n
  have listed : ordinal ∈ (layoutNode postgres node).ordinals n ↔
      n + 1 ≤ ordinal ∧ ordinal < n + 1 + bindings postgres (.expression node) := by
    rw [(Template.ordinals_perm _ n).mem_iff, List.mem_range'_1]
    rfl
  rw [← listed, ← numbers, List.mem_filterMap]
  constructor
  · intro member
    exact ⟨_, member, ordinal_placeholder ordinal⟩
  · rintro ⟨lexeme, member, read⟩
    cases lexeme with
    | placeholder k =>
        obtain rfl : k = ordinal := Option.some.inj read
        exact member
    | _ => cases read

omit [DecidableEq V] in
/-- One tree from texts that bind values in disjoint ranges binds no value. -/
theorem TreeComparison.unbound {trees : TreeComparison} {left right : Node V} {m j : Nat}
    (same : trees.same ((layoutNode postgres left).sql m) ((layoutNode postgres right).sql j))
    (apart : m + bindings postgres (.expression left) ≤ j ∨
      j + bindings postgres (.expression right) ≤ m) :
    (layoutNode postgres left).values = [] := by
  cases values : (layoutNode postgres left).values with
  | nil => rfl
  | cons value rest =>
      have some_ : 0 < bindings postgres (.expression left) := by
        simp [bindings, layoutTerm, values]
      have first : .placeholder (m + 1) ∈ (layoutNode postgres left).sql m :=
        mem_sql_placeholder.mpr (by omega)
      have second := mem_sql_placeholder.mp (trees.parameters same _ first)
      omega

/-- PostgreSQL recognises what the grouping check exempts exactly where that binds no values, since each
occurrence of a value is a parameter with a number of its own. -/
theorem exemptRecognised_iff (trees : TreeComparison) (root : QueryNode V) :
    trees.ExemptRecognised root ↔ ExemptBindNothing root := by
  constructor
  · intro grouped node rendered item member exempt reached readOnly
    obtain ⟨k, select⟩ := rendered_placed rendered 0
    obtain ⟨n, place⟩ := restricted_exists member k
    obtain ⟨m, inner⟩ := reached.placed n
    obtain ⟨j, grouping, grouping_, same⟩ := grouped k node select n item.2 place m exempt inner readOnly
    have apart := restricted_apart place grouping_
    have within := inner.rendered.bounds
    rw [← layout_values_eq_nil_iff postgres]
    exact TreeComparison.unbound same (by omega)
  · intro unbound k node select n item place m exempt inner readOnly
    obtain ⟨entry, member, rfl⟩ := restricted_item place
    have bindsNothing := unbound node select.rendered entry member exempt inner.exempt readOnly
    rw [← layout_values_eq_nil_iff postgres] at bindsNothing
    obtain ⟨grouping, listed, same⟩ := List.any_eq_true.mp inner.exempt.covered
    obtain ⟨j, place'⟩ : ∃ j, (j, Term.expression grouping) ∈
        offsets (bindings postgres) (k + total (bindings postgres) node.beforeGroups)
          (node.groupBy.map Term.expression) :=
      exists_offset (List.mem_map_of_mem listed) _
    refine ⟨j, grouping, place', ?_⟩
    have plain := layout_plain postgres (.expression exempt)
    have moved : (layoutNode postgres exempt).sql m = (layoutNode postgres exempt).sql j :=
      (Template.text_eq_iff ordinal_placeholder plain m j).mpr (Or.inr bindsNothing)
    rw [moved, sql_agree same readOnly j]
    exact trees.refl _

/-! ### The check of the groups -/

/-- The columns of the primary key of the table behind a source of a SELECT, where it has one. -/
abbrev PrimaryKeys (V : Type) := SelectNode V → String → Option (List String)

/-- A local source whose rows the GROUP BY columns do not determine: its primary key, if it has one, is
not grouped by as a whole. -/
def PrimaryKeys.Loose (keys : PrimaryKeys V) (node : SelectNode V) (source : String) : Prop :=
  source ∈ localSources node ∧
    ∀ key ∈ keys node source, ∃ name ∈ key, .column source name ∉ node.groupBy

/-- PostgreSQL's check of the groups finds that a column of a loose source "must appear in the GROUP BY
clause or be used in an aggregate function", in an expression that is rendered after `n` values: the
column stands outside everything the check recognises and outside the plain aggregates. A column inside
a nested statement draws another error. `seen` tells whether the way to the column avoids the arguments
and filters of windowed aggregates. -/
inductive Complains (recognised : Nat → Node V → Prop) (loose : String → Prop) :
    Bool → Nat → Node V → Prop where
  | column {n : Nat} {source name : String} (isLoose : loose source)
      (bare : ¬recognised n (.column source name)) :
      Complains recognised loose true n (.column source name)
  | child {seen : Bool} {n m : Nat} {node child : Node V} (bare : ¬recognised n node)
      (plain : ∀ name arguments filter, node ≠ .aggregate name arguments filter)
      (member : (m, .expression child) ∈ starts postgres n (fillOrder (.expression node)))
      (below : Complains recognised loose seen m child) : Complains recognised loose seen n node
  | windowAggregate {seen : Bool} {n m : Nat} {name : AggregateName} {arguments : List (Node V)}
      {filter : Option (Node V)} {partitionBy : List (Node V)} {orderBy : List (OrderNode V)}
      {frame : Option WindowFrameNode} {exclusion : Option WindowExclusion} {child : Node V}
      (bare : ¬recognised n
        (.window (.aggregate name arguments filter) partitionBy orderBy frame exclusion))
      -- the call is rendered behind the window's own clauses
      (member : (m, .expression child) ∈ starts postgres
        (n + total (bindings postgres) (partitionBy.map .expression ++ orderBy.map .order))
        (fillOrder (.expression (.aggregate name arguments filter))))
      (below : Complains recognised loose seen m child) :
      Complains recognised loose false n
        (.window (.aggregate name arguments filter) partitionBy orderBy frame exclusion)

/-- PostgreSQL comes to check the groups of a SELECT: it has GROUP BY, HAVING or an aggregate of its
own, and no expression that PostgreSQL refuses before, for a data-modifying statement inside. -/
structure SelectNode.Checked (node : SelectNode V) : Prop where
  groups : node.groupBy ≠ [] ∨ node.having.isSome ∨
    ∃ item ∈ groupedExpressions node, OwnAggregate (localSources node) none item.2
  readOnly : ∀ item ∈ groupedExpressions node, ReadOnly (.expression item.2)

namespace TreeComparison

variable (trees : TreeComparison) (keys : PrimaryKeys V)

/-- PostgreSQL never rejects a SELECT of the statement because a column must appear in its GROUP BY
clause. -/
def NeverUngrouped (root : QueryNode V) : Prop :=
  ∀ k node, Placed postgres 0 (.statement root) k (.select node) → node.Checked →
    ∀ n item, (n, .expression item) ∈ node.restricted k → ∀ seen,
      ¬Complains (trees.Recognises (node.groupings k)) (keys.Loose node) seen n item

/-- What is grouped for the grouping check is grouped for PostgreSQL. -/
structure GroupedForPostgres (root : QueryNode V) : Prop where
  recognised : trees.ExemptRecognised root
  neverUngrouped : trees.NeverUngrouped keys root

/-- PostgreSQL has nothing against the columns at which the grouping check does not look: those in the
arguments and filters of windowed aggregates, and all columns of a SELECT whose only aggregates stand
inside window expressions and nested statements. -/
def UnseenRecognised (root : QueryNode V) : Prop :=
  ∀ k node, Placed postgres 0 (.statement root) k (.select node) → node.Checked →
    ∀ n item, (n, .expression item) ∈ node.restricted k →
      ¬Complains (trees.Recognises (node.groupings k)) (keys.Loose node) false n item ∧
      (node.examined = false →
        ¬Complains (trees.Recognises (node.groupings k)) (keys.Loose node) true n item)

variable {trees}

/-- Where PostgreSQL recognises what is exempt, it has nothing against the columns that the grouping
check has seen. -/
theorem not_complains_of_empty {groupings : List (Nat × Term V)} {grouped : List (Node V)}
    {locals : List String} {loose : String → Prop} (known : ∀ source, loose source → source ∈ locals)
    {n : Nat} {node : Node V} (accepted : ungroupedLocalColumns grouped locals node = .ok [])
    (recognised : ∀ m exempt, ExemptAt grouped n node m exempt → trees.Recognises groupings m exempt) :
    ¬Complains (trees.Recognises groupings) loose true n node := by
  induction node using children_induction generalizing n with
  | step node ih =>
      intro complains
      have uncovered (bare : ¬trees.Recognises groupings n node) : ¬Covered grouped node :=
        fun covered => bare (recognised n node (.here covered))
      cases complains with
      | column isLoose bare =>
          exact (ungroupedLocalColumns_empty accepted (uncovered bare)).1 _ _ rfl (known _ isLoose)
      | child bare plain member below =>
          have inside := expression_mem_fillOrder.mp (mem_of_offsets member)
          have empty := (ungroupedLocalColumns_empty accepted (uncovered bare)).2 plain _ inside
          exact ih _ inside empty
            (fun k exempt deeper => recognised k exempt (.within (uncovered bare) plain member deeper))
            below

end TreeComparison

/-- A statement accepted for PostgreSQL is grouped for PostgreSQL exactly when no exempt subexpression
binds a value and PostgreSQL has nothing against the columns that the grouping check does not see. -/
theorem groupedForPostgres_iff (trees : TreeComparison) (keys : PrimaryKeys V) {root : QueryNode V}
    (accepted : Accepted root postgres) :
    trees.GroupedForPostgres keys root ↔
      ExemptBindNothing root ∧ trees.UnseenRecognised keys root := by
  rw [← exemptRecognised_iff trees root]
  constructor
  · intro grouped
    exact ⟨grouped.recognised, fun k node select checked n item place =>
      ⟨grouped.neverUngrouped k node select checked n item place false,
        fun _ => grouped.neverUngrouped k node select checked n item place true⟩⟩
  · rintro ⟨recognised, unseen⟩
    refine ⟨recognised, fun k node select checked n item place seen => ?_⟩
    obtain ⟨blind, unexamined⟩ := unseen k node select checked n item place
    cases seen with
    | false => exact blind
    | true =>
        cases examined : node.examined with
        | false => exact unexamined examined
        | true =>
            obtain ⟨entry, member, rfl⟩ := restricted_item place
            obtain ⟨outer, statement⟩ := vetted_rendered (accepted_vetted accepted) select.rendered
            rw [validateStatement] at statement
            have rules := validateSelect_iff.mp statement
            refine TreeComparison.not_complains_of_empty (fun _ isLoose => isLoose.1)
              (validateGrouping_items rules.grouping examined member) fun m exempt inner => ?_
            have readOnly : ReadOnly (.expression exempt) := fun query below =>
              checked.readOnly entry member query (inner.rendered.rendered.trans below)
            exact recognised k node select n entry.2 place m exempt inner readOnly

end

/-- `"t"."x" + 1`. -/
def shifted : Node Int :=
  .binary (.column "t" "x") .add (.value 1)

/-- `SELECT "t"."x" + 1 FROM "t" GROUP BY "t"."x" + 1`. -/
def shiftedGroup : SelectNode Int :=
  { selections := [shifted]
    fromSource := some (.table { name := "t" })
    groupBy := [shifted] }

/-- PostgreSQL is sent `select ("t"."x" + $1) from "t" group by ("t"."x" + $2)`. -/
theorem shiftedGroup_ungrouped :
    Accepted (.select shiftedGroup) postgres ∧
      ∀ (trees : TreeComparison) (keys : PrimaryKeys Int),
        ¬trees.GroupedForPostgres keys (.select shiftedGroup) := by
  refine ⟨by decide +kernel, fun trees keys grouped => ?_⟩
  have place : (0, Term.expression shifted) ∈ shiftedGroup.restricted 0 := List.mem_cons_self
  have covered : Covered shiftedGroup.groupBy shifted := by
    simp [Covered, shiftedGroup, pyEqual, shifted, Node.agree]
  have readOnly : ReadOnly (.expression shifted) := by
    have leaf : ∀ part ∈ renderedParts (.expression shifted), renderedParts part = [] := by
      simp [shifted, renderedParts, children, Node.nestedSelect]
    refine readOnly_expression fun part member query below => ?_
    rcases rendered_iff.mp below with rfl | ⟨inner, inside, -⟩
    · simp [shifted, renderedParts, children, Node.nestedSelect] at member
    · rw [leaf part member] at inside
      cases inside
  obtain ⟨j, grouping, member, same⟩ :=
    grouped.recognised 0 shiftedGroup (.here 0 _) 0 shifted place 0 shifted (.here covered) readOnly
  have second : shiftedGroup.groupings 0 = [(1, .expression shifted)] := rfl
  rw [second, List.mem_singleton] at member
  obtain ⟨rfl, rfl⟩ : j = 1 ∧ grouping = shifted := by simpa using member
  have unbound : (layoutNode postgres shifted).values = [] :=
    TreeComparison.unbound same (Or.inl (by decide))
  exact absurd unbound (by decide)

/-- `SELECT sum("t"."y") OVER () FROM "t" GROUP BY "t"."y"`. -/
def groupedTotal : SelectNode Int :=
  { selections := [.window (.aggregate .sum [.column "t" "y"] none) [] [] none none]
    fromSource := some (.table { name := "t" })
    groupBy := [.column "t" "y"] }

/-- No other statement is inside. -/
theorem rendered_groupedTotal {node : SelectNode Int}
    (rendered : Rendered (.select groupedTotal) (.select node)) : node = groupedTotal := by
  have column : ¬Rendered (.expression (.column "t" "y")) (.select node) := by
    intro below
    rcases rendered_iff.mp below with same | ⟨part, member, -⟩
    · cases same
    · cases member
  have call : ¬Rendered (.expression (.aggregate .sum [.column "t" "y"] none)) (.select node) := by
    intro below
    rcases rendered_iff.mp below with same | ⟨part, member, deeper⟩
    · cases same
    · obtain rfl : part = .expression (.column "t" "y") := by
        simpa [renderedParts, children, Node.nestedSelect] using member
      exact column deeper
  rcases rendered_iff.mp rendered with same | ⟨part, member, below⟩
  · cases same
    rfl
  · have parts : part =
          .expression (.window (.aggregate .sum [.column "t" "y"] none) [] [] none none) ∨
        part = .expression (.column "t" "y") := by
      simpa [renderedParts, groupedTotal, sourceParts, SourceNode.derivedQuery] using member
    rcases parts with rfl | rfl
    · rcases rendered_iff.mp below with same | ⟨inner, inside, deeper⟩
      · cases same
      · obtain rfl : inner = .expression (.aggregate .sum [.column "t" "y"] none) := by
          simpa [renderedParts, children, Node.nestedSelect, WindowCall.toNode] using inside
        exact absurd deeper call
    · exact absurd below column

/-- The argument of the windowed aggregate is grouped by. -/
theorem unseen_groupedTotal (trees : TreeComparison) (keys : PrimaryKeys Int) :
    trees.UnseenRecognised keys (.select groupedTotal) := by
  intro k node select checked n item place
  obtain rfl := rendered_groupedTotal select.rendered
  refine ⟨fun complains => ?_, fun unexamined => absurd unexamined (by decide)⟩
  have column (m : Nat) : trees.Recognises (groupedTotal.groupings k) m (.column "t" "y") :=
    ⟨_, _, List.mem_cons_self, trees.refl _⟩
  have argument {seen : Bool} {m : Nat} : ¬Complains (trees.Recognises (groupedTotal.groupings k))
      (keys.Loose groupedTotal) seen m (.column "t" "y") := by
    intro below
    cases below with
    | column isLoose bare => exact bare (column m)
    | child bare => exact bare (column m)
  obtain ⟨entry, member, rfl⟩ := restricted_item place
  have item : entry.2 = .window (.aggregate .sum [.column "t" "y"] none) [] [] none none := by
    simp [groupedExpressions, groupedTotal] at member
    rw [member]
  rw [item] at complains
  cases complains with
  | windowAggregate bare inside below =>
      obtain rfl := Term.expression.inj (List.mem_singleton.mp (mem_of_offsets inside))
      exact argument below
  | child bare plain inside below =>
      obtain rfl := Term.expression.inj (List.mem_singleton.mp (mem_of_offsets inside))
      cases below with
      | child bare plain inside below => exact absurd rfl (plain _ _ _)

theorem groupedForPostgres_groupedTotal :
    TreeComparison.texts.GroupedForPostgres (fun _ _ => some ["id"]) (.select groupedTotal) := by
  have accepted : Accepted (.select groupedTotal) postgres := by decide +kernel
  have unbound : ¬Binds (.statement (.select groupedTotal)) :=
    (layout_values_eq_nil_iff postgres _).mp (by decide)
  exact (groupedForPostgres_iff TreeComparison.texts _ accepted).mpr
    ⟨exemptBindNothing_of_unbound unbound, unseen_groupedTotal _ _⟩

end Relq
