/-
Module: Relq.Compiler.ClauseText
Layer: Compiler
Purpose: The clause keywords of rendered terms. An expression shows none outside its parentheses, the
  parentheses of a statement match, and a SELECT shows the keywords of its own clauses, in their
  order, followed by those of its compound arms.
Imports: Relq.Compiler.Bracketing
Trusted boundary: human-reviewed spec (SelectNode.ownClauses)
Main exports: Shaped, shaped_term, SelectNode.ownClauses, spelled_select, spelled_compounds
-/
import Relq.Compiler.Bracketing

namespace Relq

open Templates Brackets

variable {V : Type} [PyObject V] {dialect : Dialect}

/-! ### Expressions -/

/-- How a term is written: an expression hides every clause keyword in parentheses, and the
parentheses of a statement match. -/
def Shaped (dialect : Dialect) : Term V → Prop
  | .expression node => (layoutNode dialect node).Spelled []
  | .statement query => (layoutStatement dialect query).Closed

abbrev EachShaped (dialect : Dialect) (parts : List (Term V)) : Prop :=
  ∀ part ∈ parts, Shaped dialect part

theorem shaped_nodes {nodes : List (Node V)} (each : EachShaped dialect (nodes.map .expression)) :
    ∀ layout ∈ layoutNodes dialect nodes, layout.Spelled [] :=
  forall_layoutNodes dialect (fun _ shaped => shaped) each

theorem shaped_option {slot : Option (Node V)}
    (each : EachShaped dialect (slot.toList.map .expression)) :
    ∀ layout ∈ layoutOption dialect slot, layout.Spelled [] :=
  forall_layoutOption dialect (fun _ shaped => shaped) each

theorem shaped_components {components : List (String × Node V)}
    (each : EachShaped dialect (components.map .named)) :
    ∀ layout ∈ layoutComponents dialect components, layout.Closed := by
  induction components with
  | nil => exact fun _ member => absurd member (by simp [layoutComponents])
  | cons component rest ih =>
      obtain ⟨name, value⟩ := component
      obtain ⟨first, later⟩ := List.forall_mem_cons.mp each
      have arrow : Layout.Closed (.fixed [.word name, .space, .symbol "=>", .space] : Layout V) :=
        Layout.closed_fixed (by simp [Lexeme.side])
      exact List.forall_mem_cons.mpr ⟨Layout.closed_add arrow first.closed, ih later⟩

theorem shaped_branches {branches : List (Node V × Node V)} (each : EachShaped dialect
      ((branches.flatMap fun branch => [branch.1, branch.2]).map .expression)) :
    ∀ layout ∈ layoutBranches dialect branches, layout.Spelled [] := by
  induction branches with
  | nil => exact fun _ member => absurd member (by simp [layoutBranches])
  | cons branch rest ih =>
      obtain ⟨condition, value⟩ := branch
      obtain ⟨first, later⟩ := List.forall_mem_cons.mp each
      obtain ⟨second, later⟩ := List.forall_mem_cons.mp later
      have when_ : Layout.Spelled (.fixed [.word "when", .space] : Layout V) [] :=
        Layout.spelled_fixed (by decide)
      have then_ : Layout.Spelled (.fixed (spaced ["then"]) : Layout V) [] :=
        Layout.spelled_fixed (by decide)
      refine List.forall_mem_cons.mpr ⟨?_, ih later⟩
      exact Layout.spelled_add (Layout.spelled_add (Layout.spelled_add when_ first) then_) second

theorem shaped_orders {orders : List (OrderNode V)}
    (each : EachShaped dialect (orders.map .order)) :
    ∀ layout ∈ layoutOrders dialect orders, layout.Spelled [] := by
  induction orders with
  | nil => exact fun _ member => absurd member (by simp [layoutOrders])
  | cons order rest ih =>
      obtain ⟨expression, direction, nulls⟩ := order
      obtain ⟨first, later⟩ := List.forall_mem_cons.mp each
      exact List.forall_mem_cons.mpr
        ⟨Layout.spelled_add first (Layout.spelled_fixed (flat_order direction nulls)), ih later⟩

/-- An expression hides its clause keywords if the expressions in it do. -/
theorem shaped_node {node : Node V} (each : EachShaped dialect (renderedParts (.expression node))) :
    Shaped dialect (.expression node) := by
  have part {inner : Node V} (member : inner ∈ children node) :
      (layoutNode dialect inner).Spelled [] :=
    each (.expression inner) (List.mem_append_left _ (List.mem_map.mpr ⟨inner, member, rfl⟩))
  have closed {inner : Node V} (member : inner ∈ children node) : (layoutNode dialect inner).Closed :=
    (part member).closed
  have query {inner : SelectNode V} (nested : node.nestedSelect = some inner) :
      (layoutSelect dialect inner).Closed :=
    each (.select inner) (List.mem_append_right _
      (List.mem_map.mpr ⟨inner, Option.mem_toList.mpr nested, rfl⟩))
  have fixed {text : Text} (plain : Flat text []) : Layout.Spelled (.fixed text : Layout V) [] :=
    Layout.spelled_fixed plain
  have listed (nodes : List (Node V)) (within : ∀ inner ∈ nodes, inner ∈ children node) :
      ∀ layout ∈ nodes.map (layoutNode dialect), layout.Spelled [] := by
    intro layout member
    obtain ⟨inner, inside, rfl⟩ := List.mem_map.mp member
    exact part (within inner inside)
  have called {name : String} (plain : name ∉ clauseKeywords) (nodes : List (Node V))
      (within : ∀ inner ∈ nodes, inner ∈ children node) :
      (Layout.call name (nodes.map (layoutNode dialect))).Spelled [] :=
    Layout.spelled_call plain fun layout member => (listed nodes within layout member).closed
  change (layoutNode dialect node).Spelled []
  cases node with
  | column source name =>
      have dot : Flat [.symbol "."] [] := by decide
      exact fixed (((flat_identifier source).append dot).append (flat_identifier name))
  | excluded source name =>
      have dot : Flat [.word "excluded", .symbol "."] [] := by decide
      exact fixed (dot.append (flat_identifier name))
  | value value => exact Layout.spelled_hole value
  | star => exact fixed (by decide)
  | temporalClock kind => exact Layout.spelled_text (spells_clockText kind)
  | binary left operator right =>
      exact Layout.spelled_operation (closed (by simp [children])) (flat_lexeme operator)
        (closed (by simp [children]))
  | temporalMakeDate year month day =>
      exact called (by decide) [year, month, day] fun _ member => member
  | temporalMakeTime hour minute second =>
      exact called (by decide) [hour, minute, second] fun _ member => member
  | temporalMakeTimestamp year month day hour minute second =>
      exact called (by decide) [year, month, day, hour, minute, second] fun _ member => member
  | temporalMakeTimestamptz year month day hour minute second zone =>
      rw [layoutNode, layoutOption_eq]
      have plain : "make_timestamptz" ∉ clauseKeywords := by decide
      cases zone with
      | none => exact called plain [year, month, day, hour, minute, second] fun _ member => member
      | some zone =>
          exact called plain [year, month, day, hour, minute, second, zone] fun _ member => member
  | temporalMakeInterval components =>
      have inside : EachShaped dialect (components.map .named) := fun _ member => each _ (by
        obtain ⟨component, listed, rfl⟩ := List.mem_map.mp member
        exact List.mem_append_left _
          (List.mem_map.mpr ⟨component.2, List.mem_map.mpr ⟨component, listed, rfl⟩, rfl⟩))
      rw [layoutNode]
      exact Layout.spelled_call (by decide) (shaped_components inside)
  | temporalEpoch seconds => exact called (by decide) [seconds] fun _ member => member
  | temporalArithmetic timestamp operator interval =>
      have space : Layout.Spelled (.fixed [.space, .symbol operator.text, .space] : Layout V) [] :=
        fixed (by cases operator <;> decide)
      exact Layout.spelled_parens (Layout.spelled_late (part (by simp [children]))
        (Layout.spelled_add space
          (Layout.spelled_castInterval interval (part (by simp [children]))))).closed
  | temporalDifference left right =>
      exact Layout.spelled_operation (closed (by simp [children])) (by decide)
        (closed (by simp [children]))
  | temporalIntervalUnary interval =>
      have minus : Layout.Spelled (.fixed [.symbol "-"] : Layout V) [] := fixed (by decide)
      exact Layout.spelled_parens (Layout.closed_add minus.closed (closed (by simp [children])))
  | temporalIntervalScale interval operator factor =>
      exact Layout.spelled_operation (closed (by simp [children])) (by cases operator <;> decide)
        (closed (by simp [children]))
  | temporalTimezone expression zone =>
      exact Layout.spelled_operation (closed (by simp [children])) (by decide)
        (closed (by simp [children]))
  | temporalExtract field expression =>
      have extract : Layout.Spelled (.fixed [.word "extract"] : Layout V) [] := fixed (by decide)
      have from_ : Layout.Closed (.fixed ([Lexeme.literal field] ++ spaced ["from"]) : Layout V) :=
        Layout.closed_fixed (List.forall_mem_append.mpr ⟨by simp [Lexeme.side], by decide⟩)
      exact Layout.spelled_add extract
        (Layout.spelled_parens (Layout.closed_add from_ (closed (by simp [children]))))
  | temporalTrunc unit expression =>
      have unit_ : Layout.Spelled (.fixed [.literal unit] : Layout V) [] :=
        fixed (by simp [Flat, Lexeme.side, Lexeme.clause])
      exact Layout.spelled_call (by decide) (List.forall_mem_cons.mpr ⟨unit_.closed,
        fun layout member => (listed [expression] (fun _ member => member) layout member).closed⟩)
  | temporalTruncTimestamptz unit expression zone =>
      have unit_ : Layout.Spelled (.fixed [.literal unit] : Layout V) [] :=
        fixed (by simp [Flat, Lexeme.side, Lexeme.clause])
      exact Layout.spelled_call (by decide) (List.forall_mem_cons.mpr ⟨unit_.closed,
        fun layout member => (listed [expression, zone] (fun _ member => member) layout member).closed⟩)
  | temporalBin stride expression origin =>
      have stride_ : (Layout.castInterval stride (layoutNode dialect stride)).Spelled [] :=
        Layout.spelled_castInterval stride (part (by simp [children]))
      have others := listed [expression, origin] fun _ member => List.mem_cons_of_mem _ member
      exact Layout.spelled_call (by decide) (List.forall_mem_cons.mpr ⟨stride_.closed,
        fun layout member => (others layout member).closed⟩)
  | temporalAge left right => exact called (by decide) [left, right] fun _ member => member
  | temporalOverlaps leftStart leftEnd rightStart rightEnd =>
      have pair (first second : Node V)
          (within : ∀ inner ∈ [first, second], inner ∈ children
            (.temporalOverlaps leftStart leftEnd rightStart rightEnd)) :
          (Layout.parens (Layout.commas [layoutNode dialect first, layoutNode dialect second])).Closed :=
        (Layout.spelled_parens (Layout.spelled_commas (listed [first, second] within)).closed).closed
      exact Layout.spelled_operation (pair leftStart leftEnd (by simp [children])) (by decide)
        (pair rightStart rightEnd (by simp [children]))
  | temporalJustify kind interval =>
      exact called (by cases kind <;> decide) [interval] fun _ member => member
  | unary operator operand =>
      have spelled : Layout.Closed (.fixed ([Lexeme.space] ++ words operator.words) : Layout V) :=
        Layout.closed_fixed (by cases operator <;> decide)
      exact Layout.spelled_parens (Layout.closed_add (closed (by simp [children])) spelled)
  | function name arguments =>
      rw [layoutNode, layoutNodes_eq]
      exact called (by cases name <;> decide) arguments fun _ member => member
  | case branches otherwise =>
      have inside : EachShaped dialect ((branches.flatMap fun branch => [branch.1, branch.2]).map
          .expression) := fun _ member => each _ (by
        rw [renderedParts, children, List.map_append]
        exact List.mem_append_left _ (List.mem_append_left _ member))
      have case_ : Layout.Spelled (.fixed [.word "case", .space] : Layout V) [] := fixed (by decide)
      have else_ : Layout.Spelled (.fixed (spaced ["else"]) : Layout V) [] := fixed (by decide)
      have end_ : Layout.Spelled (.fixed [.space, .word "end"] : Layout V) [] := fixed (by decide)
      exact Layout.spelled_add (Layout.spelled_add (Layout.spelled_add (Layout.spelled_add case_
        (Layout.spelled_spaces (shaped_branches inside))) else_) (part (by simp [children]))) end_
  | aggregate name arguments filter =>
      rw [layoutNode]
      refine Layout.spelled_aggregate (shaped_nodes fun _ member => each _ ?_)
        (shaped_option fun _ member => each _ ?_)
      · rw [renderedParts, children, List.map_append]
        exact List.mem_append_left _ (List.mem_append_left _ member)
      · rw [renderedParts, children, List.map_append]
        exact List.mem_append_left _ (List.mem_append_right _ member)
  | window call partitionBy orderBy frame exclusion =>
      have over_ : Layout.Spelled (.fixed (spaced ["over"]) : Layout V) [] := fixed (by decide)
      have partitions : EachShaped dialect (partitionBy.map .expression) := fun _ member => each _ (by
        obtain ⟨inner, inside, rfl⟩ := List.mem_map.mp member
        exact List.mem_append_left _ (List.mem_map.mpr ⟨inner, by simp [children, inside], rfl⟩))
      have orders : EachShaped dialect (orderBy.map .order) := fun _ member => each _ (by
        obtain ⟨order, inside, rfl⟩ := List.mem_map.mp member
        refine List.mem_append_left _ (List.mem_map.mpr ⟨order.expression, ?_, rfl⟩)
        simp only [children, List.cons_append, List.mem_cons, List.mem_append, List.mem_map]
        exact Or.inr (Or.inr ⟨order, inside, rfl⟩))
      have function : (layoutWindowCall dialect call).Spelled [] := by
        rw [layoutWindowCall_eq]
        exact part (by simp [children])
      refine Layout.spelled_late function (Layout.spelled_add over_
        (Layout.spelled_parens (Layout.closed_spaces ?_)))
      simp only [List.forall_mem_append]
      exact ⟨⟨Layout.closed_clause (by decide) (shaped_nodes partitions),
        Layout.closed_clause (by decide) (shaped_orders orders)⟩,
        Layout.closed_frame frame orderBy.length exclusion⟩
  | aliased operand aliasName =>
      have as_ : Layout.Spelled (.fixed (spaced ["as"] ++ [Lexeme.identifier aliasName]) : Layout V) [] :=
        fixed ((flat_spaced ["as"]).append (flat_identifier aliasName))
      exact Layout.spelled_add (part (by simp [children])) as_
  | nullableResult operand =>
      have inner : (layoutNode dialect operand).Spelled [] := part (by simp [children])
      exact inner
  | inNode expression values negated =>
      have in_ : Flat (words (if negated then ["not", "in"] else ["in"])) [] := by
        cases negated <;> decide
      rw [layoutNode]
      refine Layout.spelled_operation (closed ?_) in_ ?_
      · cases values <;> simp [children]
      · cases values with
        | nodes values =>
            refine (Layout.spelled_parens (Layout.spelled_commas (shaped_nodes ?_)).closed).closed
            exact fun _ member => each _ (List.mem_append_left _ (List.mem_cons_of_mem _ member))
        | select inner => exact (Layout.spelled_parens (query rfl)).closed
  | between expression lower upper negated =>
      have between_ : Flat (words (if negated then ["not", "between"] else ["between"])) [] := by
        cases negated <;> decide
      have and_ : Layout.Spelled (.fixed (spaced ["and"]) : Layout V) [] := fixed (by decide)
      exact Layout.spelled_operation (closed (by simp [children])) between_
        (Layout.closed_add (Layout.closed_add (closed (by simp [children])) and_.closed)
          (closed (by simp [children])))
  | scalarSubquery inner => exact Layout.spelled_parens (query rfl)
  | «exists» inner negated =>
      have exists_ : Layout.Spelled (.fixed (words (if negated then ["not", "exists"] else
          ["exists"]) ++ [Lexeme.space]) : Layout V) [] :=
        fixed (by cases negated <;> decide)
      exact Layout.spelled_add exists_ (Layout.spelled_parens (query rfl))
  | jsonText value key =>
      exact Layout.spelled_operation (closed (by simp [children])) (by decide)
        (closed (by simp [children]))
  | regexMatch value pattern insensitive =>
      exact Layout.spelled_operation (closed (by simp [children]))
        (by cases insensitive <;> decide) (closed (by simp [children]))
  | uuidCast value =>
      have cast_ : Layout.Spelled (.fixed [.word "cast"] : Layout V) [] := fixed (by decide)
      have uuid : Layout.Closed (.fixed (spaced ["as"] ++ [Lexeme.word "uuid"]) : Layout V) :=
        Layout.closed_fixed (by decide)
      exact Layout.spelled_add cast_
        (Layout.spelled_parens (Layout.closed_add (closed (by simp [children])) uuid))

/-! ### Parts of a statement -/

theorem spelled_source {source : SourceNode V} (each : EachShaped dialect (sourceParts source)) :
    (layoutSource dialect source).Spelled [] := by
  cases source with
  | table table => exact spells_plain fun _ done => .flat (flat_table done)
  | cte name => exact Layout.spelled_fixed (flat_identifier name)
  | derived query aliasName =>
      have as_ : Flat (spaced ["as"] ++ [Lexeme.identifier aliasName]) [] :=
        (flat_spaced ["as"]).append (flat_identifier aliasName)
      exact Layout.spelled_add (Layout.spelled_parens (each (.select query) List.mem_cons_self))
        (Layout.spelled_fixed as_)

/-- The clause keywords of a join. -/
def JoinNode.clauses (join : JoinNode V) : List String :=
  [join.kind, "join"].filter (· ∈ clauseKeywords) ++ if join.kind != "cross" then ["on"] else []

theorem spelled_joins {joins : List (JoinNode V)}
    (each : EachShaped dialect (joins.flatMap joinParts)) :
    (layoutJoins dialect joins).Spelled (joins.flatMap JoinNode.clauses) := by
  induction joins with
  | nil => exact Layout.spelled_text .nil
  | cons join rest ih =>
      obtain ⟨source, predicate, kind⟩ := join
      rw [List.flatMap_cons] at each
      obtain ⟨eachFirst, eachLater⟩ := List.forall_mem_append.mp each
      have keyword : Layout.Spelled (.fixed (spaced [kind, "join"]) : Layout V)
          ([kind, "join"].filter (· ∈ clauseKeywords)) :=
        Layout.spelled_fixed (flat_spaced _)
      have on_ : Layout.Spelled (.fixed (spaced ["on"]) : Layout V) ["on"] :=
        Layout.spelled_fixed (flat_spaced ["on"])
      have first : (layoutSource dialect source).Spelled [] :=
        spelled_source fun _ member => eachFirst _ (List.mem_append_left _ member)
      have later := ih eachLater
      rw [layoutJoins, List.flatMap_cons, JoinNode.clauses]
      by_cases crossed : (kind != "cross") = true
      · have condition : (layoutNode dialect predicate).Spelled [] :=
          eachFirst (.expression predicate) (List.mem_append_right _ (by
            rw [if_pos crossed]
            exact List.mem_cons_self))
        rw [if_pos crossed, if_pos crossed]
        have whole := Layout.spelled_add (Layout.spelled_add (Layout.spelled_add
          (Layout.spelled_add keyword first) on_) condition) later
        rwa [List.append_nil, List.append_nil] at whole
      · rw [if_neg crossed, if_neg crossed, List.append_nil]
        have whole := Layout.spelled_add (Layout.spelled_add keyword first) later
        rwa [List.append_nil] at whole

theorem spelled_ctes {ctes : List (CteNode V)}
    (each : EachShaped dialect (ctes.map fun cte => .statement cte.query)) :
    ∀ layout ∈ layoutCtes dialect ctes, layout.Spelled [] := by
  induction ctes with
  | nil => exact fun _ member => absurd member (by simp [layoutCtes])
  | cons cte rest ih =>
      obtain ⟨name, query, recursive, materialized⟩ := cte
      obtain ⟨first, later⟩ := List.forall_mem_cons.mp each
      have as_ : Flat (if materialized then spaced ["as"] ++ [Lexeme.word "materialized", .space]
          else spaced ["as"]) [] := by
        cases materialized <;> decide
      exact List.forall_mem_cons.mpr ⟨Layout.spelled_add
        (Layout.spelled_fixed ((flat_identifier name).append as_)) (Layout.spelled_parens first),
        ih later⟩

/-- What precedes the SELECT of a statement with common table expressions. -/
theorem spelled_with (recursive : Bool) {ctes : List (CteNode V)}
    (each : EachShaped dialect (ctes.map fun cte => .statement cte.query)) :
    (if ctes.isEmpty then .fixed [] else
      .fixed (words (if recursive then ["with", "recursive"] else ["with"]) ++ [Lexeme.space]) ++
        Layout.commas (layoutCtes dialect ctes) ++ .fixed [.space] : Layout V).Spelled [] := by
  have keyword : Flat (words (if recursive then ["with", "recursive"] else ["with"]) ++ [Lexeme.space])
      [] := by
    cases recursive <;> decide
  split
  · exact Layout.spelled_text .nil
  · exact Layout.spelled_add (Layout.spelled_add (Layout.spelled_fixed keyword)
      (Layout.spelled_commas (spelled_ctes each))) (Layout.spelled_fixed (by decide))

/-! ### SELECT -/

/-- The clause keywords of a SELECT without its compound arms. -/
def SelectNode.ownClauses (dialect : Dialect) (query : SelectNode V) : List String :=
  ["select", "from"] ++ query.joins.flatMap JoinNode.clauses ++
    (if query.whereNode.isSome then ["where"] else []) ++
    (if query.groupBy.isEmpty then [] else ["group"]) ++
    (if query.having.isSome then ["having"] else []) ++
    (if query.orderBy.isEmpty then [] else ["order"]) ++
    limitKeywords dialect query.limit query.offset ++ query.locks.map fun _ => "for"

/-- A SELECT with other compound arms. -/
def SelectNode.withArms (query : SelectNode V) (arms : List (CompoundNode V)) : SelectNode V :=
  { query with compounds := arms }

omit [PyObject V] in
theorem SelectNode.withArms_compounds (query : SelectNode V) :
    query.withArms query.compounds = query := by
  cases query
  rfl

/-- A SELECT is written as its own clauses, which show their keywords, and its arms behind them. -/
theorem spelled_head {query : SelectNode V}
    (each : EachShaped dialect (renderedParts (.select query))) :
    ∃ head : Layout V, head.Spelled (query.ownClauses dialect) ∧
      ∀ arms, layoutSelect dialect (query.withArms arms) = head ++ layoutCompounds dialect arms := by
  obtain ⟨selections, fromSource, joins, whereNode, groupBy, having, orderBy, limit, offset,
    distinct, ctes, compounds, locks⟩ := query
  simp only [renderedParts, List.forall_mem_append] at each
  obtain ⟨⟨⟨⟨⟨⟨⟨⟨inCtes, inSelections⟩, inFrom⟩, inJoins⟩, inWhere⟩, inGroup⟩, inHaving⟩, inOrder⟩,
    -⟩ := each
  have select_ : Flat (words (if distinct then ["select", "distinct"] else ["select"]) ++ [Lexeme.space])
      ["select"] := by
    cases distinct <;> decide
  have source : (layoutFrom dialect fromSource).Spelled [] := by
    cases fromSource with
    | none => exact Layout.spelled_text .nil
    | some source => exact spelled_source fun _ member => inFrom _ (List.mem_append_left _ member)
  have tail : Flat (limitText dialect limit offset ++ locks.flatMap lockText)
      (limitKeywords dialect limit offset ++ locks.map fun _ => "for") :=
    (flat_limit dialect limit offset).append (flat_locks locks)
  have head := Layout.spelled_add (Layout.spelled_add (Layout.spelled_add (Layout.spelled_add
    (Layout.spelled_add (spelled_with (ctes.any (·.recursive)) inCtes) (Layout.spelled_fixed select_))
    (Layout.spelled_commas (shaped_nodes inSelections)))
    (Layout.spelled_fixed (flat_spaced ["from"]))) source) (spelled_joins inJoins)
  have filtered := Layout.spelled_add (Layout.spelled_add (Layout.spelled_add head
    (Layout.spelled_optional (flat_spaced ["where"]) (shaped_option inWhere)))
    (Layout.spelled_listed (flat_spaced ["group", "by"]) (shaped_nodes inGroup)))
    (Layout.spelled_optional (flat_spaced ["having"]) (shaped_option inHaving))
  have whole := Layout.spelled_add (Layout.spelled_add filtered
    (Layout.spelled_listed (flat_spaced ["order", "by"]) (shaped_orders inOrder)))
    (Layout.spelled_fixed tail)
  refine ⟨_, whole.of_eq ?_, fun arms => by
    rw [SelectNode.withArms, layoutSelect]⟩
  have filtered_ : (layoutOption dialect whereNode).isSome = whereNode.isSome := by
    cases whereNode <;> rfl
  have kept : (layoutOption dialect having).isSome = having.isSome := by cases having <;> rfl
  have grouped : (layoutNodes dialect groupBy).isEmpty = groupBy.isEmpty := by cases groupBy <;> rfl
  have ordered : (layoutOrders dialect orderBy).isEmpty = orderBy.isEmpty := by
    rcases orderBy with _ | ⟨⟨expression, direction, nulls⟩, rest⟩ <;> rfl
  rw [filtered_, kept, grouped, ordered]
  simp only [SelectNode.ownClauses, List.nil_append, List.append_nil, List.append_assoc]
  rfl

/-- A SELECT shows its own clause keywords and those of the text of its arms. -/
theorem spelled_select {query : SelectNode V}
    (each : EachShaped dialect (renderedParts (.select query))) {keywords : List String}
    (arms : (layoutCompounds dialect query.compounds).Spelled keywords) :
    (layoutSelect dialect query).Spelled (query.ownClauses dialect ++ keywords) := by
  obtain ⟨head, own, split⟩ := spelled_head each
  have whole := split query.compounds
  rw [query.withArms_compounds] at whole
  rw [whole]
  exact Layout.spelled_add own arms

/-- The word of a set operation, then what its arm shows. -/
theorem spelled_compounds {compounds : List (CompoundNode V)} {arms : CompoundNode V → List String}
    (each : ∀ compound ∈ compounds, (layoutSelect dialect compound.query).Spelled (arms compound)) :
    (layoutCompounds dialect compounds).Spelled (compounds.flatMap fun compound =>
      compound.operator.words.filter (· ∈ clauseKeywords) ++ arms compound) := by
  induction compounds with
  | nil => exact Layout.spelled_text .nil
  | cons compound rest ih =>
      obtain ⟨operator, query⟩ := compound
      obtain ⟨first, later⟩ := List.forall_mem_cons.mp each
      exact Layout.spelled_add (Layout.spelled_add
        (Layout.spelled_fixed (flat_spaced operator.words)) first) (ih later)

theorem closed_compounds {compounds : List (CompoundNode V)}
    (each : ∀ compound ∈ compounds, (layoutSelect dialect compound.query).Closed) :
    (layoutCompounds dialect compounds).Closed := by
  induction compounds with
  | nil => exact (Layout.spelled_text .nil).closed
  | cons compound rest ih =>
      obtain ⟨operator, query⟩ := compound
      obtain ⟨first, later⟩ := List.forall_mem_cons.mp each
      exact Layout.closed_add (Layout.closed_add
        (Layout.closed_fixed (flat_spaced operator.words).1) first) (ih later)

/-! ### Statements that modify -/

theorem shaped_assignments {values : List (String × Node V)}
    (each : EachShaped dialect (values.map .named)) :
    ∀ layout ∈ layoutAssignments dialect values, layout.Spelled [] := by
  induction values with
  | nil => exact fun _ member => absurd member (by simp [layoutAssignments])
  | cons pair rest ih =>
      obtain ⟨column, value⟩ := pair
      have equals : Flat ([Lexeme.identifier column] ++ [Lexeme.space, .symbol "=", .space]) [] := by
        simp [Flat, Lexeme.side, Lexeme.clause]
      obtain ⟨first, later⟩ := List.forall_mem_cons.mp each
      exact List.forall_mem_cons.mpr
        ⟨Layout.spelled_add (Layout.spelled_fixed equals) first, ih later⟩

theorem shaped_cells {cells : List (String × Node V)}
    (each : EachShaped dialect (cells.map .named)) :
    ∀ layout ∈ layoutCells dialect cells, layout.Spelled [] := by
  rw [layoutCells_eq]
  intro layout member
  obtain ⟨cell, inside, rfl⟩ := List.mem_map.mp member
  exact each (.named cell) (List.mem_map.mpr ⟨cell, inside, rfl⟩)

theorem shaped_rows {rows : List (List (String × Node V))}
    (each : EachShaped dialect (rows.flatMap fun row => row.map .named)) :
    ∀ layout ∈ layoutRows dialect rows, layout.Spelled [] := by
  induction rows with
  | nil => exact fun _ member => absurd member (by simp [layoutRows])
  | cons row rest ih =>
      rw [List.flatMap_cons] at each
      obtain ⟨first, later⟩ := List.forall_mem_append.mp each
      exact List.forall_mem_cons.mpr
        ⟨Layout.spelled_parens (Layout.spelled_commas (shaped_cells first)).closed, ih later⟩

/-- The target columns of an INSERT in parentheses. -/
theorem spells_columns (columns : List String) :
    Spells ([Lexeme.space] ++ parens (identifiers columns)) [] :=
  have space : Spells [.space] [] := .flat (by decide)
  space.append (.parens (Spells.flat (flat_identifiers columns)).1)

theorem closed_insertSource {source : InsertSourceNode V}
    (each : EachShaped dialect (insertSourceParts source)) :
    (layoutInsertSource dialect source).Closed := by
  have values__ : Flat [.space, .word "values", .space] [] := by decide
  have values_ (columns : List String) : Layout.Spelled (.fixed ([Lexeme.space] ++
      parens (identifiers columns) ++ [Lexeme.space, .word "values", .space]) : Layout V) [] :=
    Layout.spelled_text ((spells_columns columns).append (.flat values__))
  cases source with
  | values values =>
      rw [layoutInsertSource]
      exact Layout.closed_add (values_ _).closed
        (Layout.spelled_parens (Layout.spelled_commas (shaped_cells each)).closed).closed
  | rows rows =>
      exact Layout.closed_add (values_ _).closed (Layout.spelled_commas (shaped_rows each)).closed
  | select query columns =>
      have space : Flat [.space] [] := by decide
      have target : Layout.Spelled
          (.fixed ([Lexeme.space] ++ parens (identifiers columns) ++ [Lexeme.space]) :
          Layout V) [] :=
        Layout.spelled_text ((spells_columns columns).append (.flat space))
      exact Layout.closed_add target.closed (each (.select query) List.mem_cons_self)
  | defaultValues => exact Layout.closed_fixed (by decide)

/-- The conflict clause begins with the words `on conflict`. -/
theorem spelled_conflict {conflict : ConflictNode V}
    (each : EachShaped dialect (if conflict.action = "nothing" then [] else
      conflict.updateValues.map .named ++ conflict.updateWhere.toList.map .expression)) :
    ∃ rest, (layoutConflict dialect conflict).Spelled ("on" :: "conflict" :: rest) := by
  obtain ⟨columns, action, updateValues, targetWhere, updateWhere⟩ := conflict
  have on_ : Layout.Spelled (.fixed (.space :: words ["on", "conflict"]) : Layout V)
      ["on", "conflict"] :=
    Layout.spelled_fixed (by decide)
  have target : ∃ keywords,
      (Layout.plain (conflictTarget columns targetWhere) : Layout V).Spelled keywords := by
    cases done : conflictTarget columns targetWhere with
    | error error => exact ⟨_, Layout.spelled_text .nil⟩
    | ok text => exact ⟨_, Layout.spelled_text (spells_target done)⟩
  obtain ⟨keywords, target⟩ := target
  rw [layoutConflict]
  by_cases nothing : action = "nothing"
  · rw [if_pos nothing]
    have nothing_ : Layout.Spelled (.fixed (.space :: words ["do", "nothing"]) : Layout V) [] :=
      Layout.spelled_fixed (by decide)
    exact ⟨_, Layout.spelled_add (Layout.spelled_add on_ target) nothing_⟩
  · rw [if_neg nothing] at each ⊢
    obtain ⟨values, where_⟩ := List.forall_mem_append.mp each
    have set_ : Layout.Spelled (.fixed (spaced ["do", "update", "set"]) : Layout V) [] :=
      Layout.spelled_fixed (by decide)
    exact ⟨_, Layout.spelled_add (Layout.spelled_add on_ target) (Layout.spelled_add
      (Layout.spelled_add set_ (Layout.spelled_commas (shaped_assignments values)))
      (Layout.spelled_optional (flat_spaced ["where"]) (shaped_option where_)))⟩

theorem spelled_returning {returning : List (Node V)}
    (each : EachShaped dialect (returning.map .expression)) :
    (Layout.listed ["returning"] (layoutNodes dialect returning)).Spelled [] :=
  (Layout.spelled_listed (flat_spaced ["returning"]) (shaped_nodes each)).of_eq (by
    split
    · rfl
    · decide)

omit [PyObject V] in
theorem spelled_table (table : TableSourceNode) :
    (Layout.plain (compileTable dialect table) : Layout V).Spelled [] :=
  spells_plain fun _ done => .flat (flat_table done)

theorem closed_insert {query : InsertNode V}
    (each : EachShaped dialect (renderedParts (.statement (.insert query)))) :
    (layoutInsert dialect query).Closed := by
  obtain ⟨table, slot, conflict, returning⟩ := query
  have insert_ : Layout.Closed (.fixed (words ["insert", "into"] ++ [Lexeme.space]) : Layout V) :=
    Layout.closed_fixed (by decide)
  rw [renderedParts] at each
  obtain ⟨given, returned⟩ := List.forall_mem_append.mp each
  have source : (layoutInsertSourceOption dialect slot).Closed := by
    cases slot with
    | none => exact (Layout.spelled_text .nil).closed
    | some source =>
        exact closed_insertSource fun _ member =>
          given _ (List.mem_append_left _ (List.mem_append_left _ member))
  have clause : (if slot.any (·.isDefaultValues) then .fixed []
      else layoutConflictOption dialect conflict : Layout V).Closed := by
    split
    · exact (Layout.spelled_text .nil).closed
    · rename_i ordinary
      dsimp only at given
      rw [insertParts_given ordinary] at given
      cases conflict with
      | none => exact (Layout.spelled_text .nil).closed
      | some conflict =>
          obtain ⟨rest, spelled⟩ := spelled_conflict fun _ member => given _
            (List.mem_append_right _ (List.mem_append_left _ member))
          exact spelled.closed
  exact Layout.closed_add (Layout.closed_add (Layout.closed_add (Layout.closed_add insert_
    (spelled_table table).closed) source) clause) (spelled_returning returned).closed

theorem closed_update {query : UpdateNode V}
    (each : EachShaped dialect (renderedParts (.statement (.update query)))) :
    (layoutUpdate dialect query).Closed := by
  obtain ⟨table, values, whereNode, bounded, returning⟩ := query
  have update_ : Layout.Closed (.fixed [.word "update", .space] : Layout V) :=
    Layout.closed_fixed (by decide)
  have set_ : Layout.Closed (.fixed (spaced ["set"]) : Layout V) := Layout.closed_fixed (by decide)
  simp only [renderedParts, List.forall_mem_append] at each
  obtain ⟨⟨values, where_⟩, returned⟩ := each
  exact Layout.closed_add (Layout.closed_add (Layout.closed_add (Layout.closed_add
    (Layout.closed_add update_ (spelled_table table).closed) set_)
    (Layout.spelled_commas (shaped_assignments values)).closed)
    (Layout.spelled_optional (flat_spaced ["where"]) (shaped_option where_)).closed)
    (spelled_returning returned).closed

theorem closed_delete {query : DeleteNode V}
    (each : EachShaped dialect (renderedParts (.statement (.delete query)))) :
    (layoutDelete dialect query).Closed := by
  obtain ⟨table, whereNode, bounded, returning⟩ := query
  have delete_ : Layout.Closed (.fixed (words ["delete", "from"] ++ [Lexeme.space]) : Layout V) :=
    Layout.closed_fixed (by decide)
  simp only [renderedParts, List.forall_mem_append] at each
  obtain ⟨where_, returned⟩ := each
  exact Layout.closed_add (Layout.closed_add (Layout.closed_add delete_ (spelled_table table).closed)
    (Layout.spelled_optional (flat_spaced ["where"]) (shaped_option where_)).closed)
    (spelled_returning returned).closed

/-- However deep it is, an expression hides its clause keywords and a statement is balanced. -/
theorem shaped_term (dialect : Dialect) (term : Term V) : Shaped dialect term := by
  induction term using term_induction with
  | step term each =>
      rcases term with node | query | query | query | query
      · exact shaped_node each
      · obtain ⟨head, own, split⟩ := spelled_head each
        have arms : (layoutCompounds dialect query.compounds).Closed :=
          closed_compounds fun compound member => each (.select compound.query)
            (List.mem_append_right _ (List.mem_map.mpr ⟨compound, member, rfl⟩))
        have whole := split query.compounds
        rw [query.withArms_compounds] at whole
        change (layoutSelect dialect query).Closed
        rw [whole]
        exact Layout.closed_add own.closed arms
      · exact closed_insert each
      · exact closed_update each
      · exact closed_delete each

/-! ### Accepted statements -/

omit [PyObject V] in
/-- Every join is one of the five kinds. -/
def KnownKinds (joins : List (JoinNode V)) : Prop :=
  ∀ join ∈ joins, join.kind ∈ ["left", "right", "full", "inner", "cross"]

omit [PyObject V] in
theorem joinClauses_known {join : JoinNode V}
    (known : join.kind ∈ ["left", "right", "full", "inner", "cross"]) :
    join.clauses = "join" :: if join.kind != "cross" then ["on"] else [] := by
  obtain ⟨source, predicate, kind⟩ := join
  have quiet : kind ∉ clauseKeywords := by
    dsimp only at known
    revert kind
    decide
  have join_ : "join" ∈ clauseKeywords := by decide
  simp [JoinNode.clauses, quiet, join_]

/-- The clause keywords of one SELECT. -/
def selectKeywords : List String :=
  ["select", "from", "join", "on", "where", "group", "having", "order", "limit", "offset", "for"]

omit [PyObject V] in
theorem ownClauses_known {query : SelectNode V} (known : KnownKinds query.joins) :
    ∀ word ∈ query.ownClauses dialect, word ∈ selectKeywords := by
  have joined : ∀ join ∈ query.joins, ∀ word ∈ join.clauses, word ∈ selectKeywords := by
    intro join inside
    rw [joinClauses_known (known join inside)]
    cases join.kind != "cross" <;> decide
  have either (present : Bool) (keyword : String) (listed : keyword ∈ selectKeywords) :
      ∀ word ∈ (if present then [keyword] else []), word ∈ selectKeywords := by
    cases present <;> simp [listed]
  have nonempty (absent : Bool) (keyword : String) (listed : keyword ∈ selectKeywords) :
      ∀ word ∈ (if absent then [] else [keyword]), word ∈ selectKeywords := by
    cases absent <;> simp [listed]
  simp only [SelectNode.ownClauses, limitKeywords, List.forall_mem_append, List.forall_mem_map,
    List.mem_flatMap]
  exact ⟨⟨⟨⟨⟨⟨⟨by decide, fun word ⟨join, inside, shown⟩ => joined join inside word shown⟩,
    either _ _ (by decide)⟩, nonempty _ _ (by decide)⟩, either _ _ (by decide)⟩,
    nonempty _ _ (by decide)⟩, either _ _ (by decide), either _ _ (by decide)⟩,
    fun _ _ => by decide⟩

/-- The clause keywords of a SELECT whose arms are not compound themselves. -/
def SelectNode.shownClauses (dialect : Dialect) (query : SelectNode V) : List String :=
  query.ownClauses dialect ++ query.compounds.flatMap fun compound =>
    compound.operator.words.filter (· ∈ clauseKeywords) ++ compound.query.ownClauses dialect

theorem spelled_arm (query : SelectNode V) (simple : query.compounds = []) :
    (layoutSelect dialect query).Spelled (query.ownClauses dialect) := by
  have arms : (layoutCompounds dialect query.compounds).Spelled [] := by
    rw [simple]
    exact Layout.spelled_text .nil
  exact (spelled_select (fun part _ => shaped_term dialect part) arms).of_eq (List.append_nil _)

theorem spelled_compound (query : SelectNode V)
    (simple : ∀ compound ∈ query.compounds, compound.query.compounds = []) :
    (layoutSelect dialect query).Spelled (query.shownClauses dialect) :=
  spelled_select (fun part _ => shaped_term dialect part)
    (spelled_compounds fun compound member => spelled_arm compound.query (simple compound member))

/-- An INSERT of a SELECT with a conflict clause shows the clauses of the SELECT, then the words
`on conflict`. -/
theorem spelled_insertSelect {node : InsertNode V} {query : SelectNode V} {columns : List String}
    {conflict : ConflictNode V} (source : node.source = some (.select query columns))
    (upsert : node.conflict = some conflict)
    (simple : ∀ compound ∈ query.compounds, compound.query.compounds = []) :
    ∃ rest, (layoutInsert dialect node).Spelled
      (query.shownClauses dialect ++ "on" :: "conflict" :: rest) := by
  obtain ⟨table, slot, upsert_, returning⟩ := node
  obtain rfl : slot = _ := source
  obtain rfl : upsert_ = _ := upsert
  have insert_ : Layout.Spelled (.fixed (words ["insert", "into"] ++ [Lexeme.space]) : Layout V) [] :=
    Layout.spelled_fixed (by decide)
  have space : Spells [.space] [] := .flat (by decide)
  have target : Layout.Spelled
      (.fixed ([Lexeme.space] ++ parens (identifiers columns) ++ [Lexeme.space]) :
      Layout V) [] :=
    Layout.spelled_text ((spells_columns columns).append space)
  have body : (layoutSelect dialect query).Spelled (query.shownClauses dialect) :=
    spelled_compound query simple
  have table_ : (Layout.plain (compileTable dialect table) : Layout V).Spelled [] :=
    spelled_table table
  have returned : (Layout.listed ["returning"] (layoutNodes dialect returning)).Spelled [] :=
    spelled_returning fun part _ => shaped_term dialect part
  have clause : ∃ rest, (layoutConflict dialect conflict).Spelled ("on" :: "conflict" :: rest) :=
    spelled_conflict fun part _ => shaped_term dialect part
  obtain ⟨rest, clause⟩ := clause
  have whole := Layout.spelled_add (Layout.spelled_add (Layout.spelled_add (Layout.spelled_add insert_
    table_) (Layout.spelled_add target body)) clause) returned
  exact ⟨rest, whole.of_eq (by simp)⟩

end Relq
