/-
Module: Relq.Grouping.Representatives
Layer: Grouping
Purpose: What the expressions of a grouped SELECT yield on a group of rows, with the column values of
  the row that represents the group. The operations, the aggregates, the windows and what nested
  statements make of their expressions are parameters; which rows each part of an expression is
  evaluated on is not. A SELECT is determined if no choice of representatives changes a value.
Imports: Relq.Grouping.Ownership, Relq.Scoping.Verdict
Trusted boundary: human-reviewed spec (RowGroup, Scope, GroupInterpretation, Node.Holds, windowOperands,
  columnValue, aggregateScopes, groupValue, RowGroups, Scope.Represents, Settled,
  SelectNode.Determined)
Main exports: GroupInterpretation, groupValue, Settled, SelectNode.Determined, aggregateScopes_cases,
  groupValue_insert
-/
import Relq.Grouping.Ownership
import Relq.Scoping.Verdict

namespace Relq

variable {V D : Type}

/-! ### Groups of rows -/

/-- A row of the joined sources of a SELECT: a value for each column of each source. -/
abbrev SourceRow (D : Type) := String → String → D

/-- A group of rows, with the one that stands for it. -/
structure RowGroup (D : Type) where
  representative : SourceRow D
  rows : List (SourceRow D)

/-- A SELECT while its expressions are evaluated: its sources, its groups, and the group at hand. -/
structure Scope (D : Type) where
  sources : List String
  count : Nat
  group : Nat → RowGroup D
  current : Nat

namespace Scope

def row (scope : Scope D) : SourceRow D :=
  (scope.group scope.current).representative

def rows (scope : Scope D) : List (SourceRow D) :=
  (scope.group scope.current).rows

/-- The scope on one of its rows, for the arguments of an aggregate. -/
def onRow (scope : Scope D) (row : SourceRow D) : Scope D :=
  { scope with count := 1, group := fun _ => ⟨row, [row]⟩, current := 0 }

end Scope

/-! ### Values -/

/-- The values that the expressions of a statement take, on any rows of its own sources. -/
abbrev Meaning (V D : Type) := QueryNode V → Clause V → Scope D → Option D

/-- What the operations, the tables and the enclosing statements bring to an expression of a grouped
SELECT. What a nested statement yields depends on the values of its expressions, and on nothing else of
the SELECT around it. -/
structure GroupInterpretation (V D : Type) where
  /-- The columns of enclosing statements. -/
  outside : SourceRow D
  /-- The aggregates that belong to enclosing statements. -/
  outerAggregate : Node V → D
  operate : Node V → List D → Meaning V D → D
  /-- An aggregate, from the values of its arguments and filter on each row. -/
  aggregate : Node V → List (List D) → D
  /-- A window function, from the values of its operands on each group and the number of the group. -/
  window : Node V → List (List D) → Nat → D

/-- The statement stands in the query of the node, and the clause is one of its own. -/
def Node.Holds (node : Node V) (statement : QueryNode V) (clause : Clause V) : Prop :=
  ∃ query, node.nestedSelect = some query ∧ NestedWithin (.select query) statement ∧
    clause ∈ ownClauses statement

/-- The operands of an aggregate call, or the call of a function itself. -/
def WindowCall.operands : WindowCall V → List (Node V)
  | .aggregate name arguments filter => children (.aggregate name arguments filter)
  | .function name arguments => [.function name arguments]

/-- What a window reads on each group. -/
def windowOperands (call : WindowCall V) (partitionBy : List (Node V)) (orderBy : List (OrderNode V)) :
    List (Node V) :=
  call.operands ++ (partitionBy ++ orderBy.map (·.expression))

def columnValue (outside : SourceRow D) (source name : String) : List (Scope D) → D
  | [] => outside source name
  | scope :: rest =>
      if source ∈ scope.sources then scope.row source name else columnValue outside source name rest

open Classical in
/-- The scopes on each row that an aggregate ranges over: the rows of the innermost SELECT one of whose
sources it names, or of the innermost one if it names none. There are none if the aggregate belongs to
an enclosing statement. -/
noncomputable def aggregateScopes (node : Node V) : List (Scope D) → Option (List (List (Scope D)))
  | [] => none
  | scope :: rest =>
      if (∃ source ∈ scope.sources, Names source node) ∨ ∀ source, ¬Names source node then
        some (scope.rows.map fun row => scope.onRow row :: rest)
      else (aggregateScopes node rest).map fun rows => rows.map (scope :: ·)

/-- The scopes on another group of the innermost SELECT. -/
def onGroup (scopes : List (Scope D)) (group : Nat) : List (Scope D) :=
  match scopes with
  | [] => []
  | scope :: rest => { scope with current := group } :: rest

def groupCount (scopes : List (Scope D)) : Nat :=
  (scopes.head?.map (·.count)).getD 0

def groupAtHand (scopes : List (Scope D)) : Nat :=
  (scopes.head?.map (·.current)).getD 0

theorem sizeOf_lt_of_mem_windowOperands {call : WindowCall V} {partitionBy : List (Node V)}
    {orderBy : List (OrderNode V)} {frame : Option WindowFrameNode} {exclusion : Option WindowExclusion}
    {operand : Node V} (member : operand ∈ windowOperands call partitionBy orderBy) :
    sizeOf operand < sizeOf (Node.window call partitionBy orderBy frame exclusion) := by
  have direct : ∀ child ∈ children (.window call partitionBy orderBy frame exclusion),
      sizeOf child < sizeOf (Node.window call partitionBy orderBy frame exclusion) :=
    fun child inside => sizeOf_lt_of_mem_children inside
  simp only [children, List.cons_append, List.forall_mem_cons] at direct
  rcases List.mem_append.mp member with ofCall | other
  · cases call with
    | aggregate name arguments filter =>
        have inside : operand ∈ children (.aggregate name arguments filter) := ofCall
        exact Nat.lt_trans (sizeOf_lt_of_mem_children inside) direct.1
    | function name arguments =>
        obtain rfl := List.mem_singleton.mp ofCall
        exact direct.1
  · exact direct.2 operand other

theorem sizeOf_le_of_nestedWithin {outer inner : QueryNode V} (within : NestedWithin outer inner) :
    sizeOf inner ≤ sizeOf outer := by
  induction within with
  | refl => exact Nat.le_refl _
  | tail _ step ih =>
      obtain ⟨env, childEnv, member⟩ := step
      have smaller := sizeOf_lt_of_mem_inside (List.mem_append_left _ member)
      exact Nat.le_trans (Nat.le_of_lt smaller) ih

theorem NestedWithin.sizeOf_lt {node : Node V} {query : SelectNode V} {statement : QueryNode V}
    {clause : Clause V} (within : NestedWithin (.select query) statement)
    (carries : node.nestedSelect = some query) (member : clause ∈ ownClauses statement) :
    sizeOf clause.expression < sizeOf node := by
  have own := ownClauses_size member
  have below := sizeOf_le_of_nestedWithin within
  have inQuery := sizeOf_lt_of_nestedSelect carries
  rw [QueryNode.select.sizeOf_spec] at below
  omega

section
variable (I : GroupInterpretation V D)

open Classical in
/-- The value of an expression in a SELECT and the ones around it, the innermost first. -/
noncomputable def groupValue (scopes : List (Scope D)) (node : Node V) : D :=
  match node with
  | .column source name => columnValue I.outside source name scopes
  | .aggregate name arguments filter =>
      match aggregateScopes (.aggregate name arguments filter) scopes with
      | none => I.outerAggregate (.aggregate name arguments filter)
      | some rows => I.aggregate (.aggregate name arguments filter) <| rows.map fun onRow =>
          (children (.aggregate name arguments filter)).attach.map fun operand =>
            groupValue onRow operand.1
  | .window call partitionBy orderBy frame exclusion =>
      I.window (.window call partitionBy orderBy frame exclusion)
        ((List.range (groupCount scopes)).map fun group =>
          (windowOperands call partitionBy orderBy).attach.map fun operand =>
            groupValue (onGroup scopes group) operand.1)
        (groupAtHand scopes)
  | node =>
      I.operate node ((children node).attach.map fun child => groupValue scopes child.1)
        fun statement clause scope =>
          if _holds : node.Holds statement clause ∧ scope.sources = clause.locals then
            some (groupValue (scope :: scopes) clause.expression)
          else none
termination_by sizeOf node
decreasing_by
  · exact sizeOf_lt_of_mem_children operand.2
  · exact sizeOf_lt_of_mem_windowOperands operand.2
  · exact sizeOf_lt_of_mem_children child.2
  · obtain ⟨⟨query, carries, within, member⟩, -⟩ := _holds
    exact within.sizeOf_lt carries member

/-- What the statements in the query of a node mean, in the scopes around it. -/
noncomputable def groupMeaning (scopes : List (Scope D)) (node : Node V) : Meaning V D :=
  open Classical in
  fun statement clause scope =>
    if node.Holds statement clause ∧ scope.sources = clause.locals then
      some (groupValue I (scope :: scopes) clause.expression)
    else none

variable {I} {scopes : List (Scope D)}

@[simp] theorem groupValue_column {source name : String} :
    groupValue I scopes (.column source name) = columnValue I.outside source name scopes := by
  rw [groupValue]

theorem groupValue_aggregate {name : AggregateName} {arguments : List (Node V)}
    {filter : Option (Node V)} :
    groupValue I scopes (.aggregate name arguments filter) =
      ((aggregateScopes (.aggregate name arguments filter) scopes).elim
        (I.outerAggregate (.aggregate name arguments filter))
        fun rows => I.aggregate (.aggregate name arguments filter) <|
          rows.map fun onRow =>
            (children (.aggregate name arguments filter)).map (groupValue I onRow)) := by
  rw [groupValue]
  cases aggregateScopes (.aggregate name arguments filter) scopes with
  | none => rfl
  | some rows => simp

theorem groupValue_window {call : WindowCall V} {partitionBy : List (Node V)}
    {orderBy : List (OrderNode V)} {frame : Option WindowFrameNode}
    {exclusion : Option WindowExclusion} :
    groupValue I scopes (.window call partitionBy orderBy frame exclusion) =
      I.window (.window call partitionBy orderBy frame exclusion)
        ((List.range (groupCount scopes)).map fun group =>
          (windowOperands call partitionBy orderBy).map (groupValue I (onGroup scopes group)))
        (groupAtHand scopes) := by
  rw [groupValue]
  simp

/-- Neither a column nor an aggregate nor a window. -/
def Node.isPlain : Node V → Bool
  | .column .. | .aggregate .. | .window .. => false
  | _ => true

theorem groupValue_plain {node : Node V} (plain : node.isPlain) :
    groupValue I scopes node =
      I.operate node ((children node).map (groupValue I scopes)) (groupMeaning I scopes node) := by
  have values : ∀ nodes : List (Node V),
      (nodes.attach.map fun child => groupValue I scopes child.1) = nodes.map (groupValue I scopes) := by
    simp
  rw [groupValue.eq_def]
  split
  · cases plain
  · cases plain
  · cases plain
  · rw [values]
    rfl

/-! ### The rows of an aggregate -/

/-- The sources of some SELECTs. -/
def sourcesOf (scopes : List (Scope D)) : List String :=
  scopes.flatMap (·.sources)

/-- An aggregate that names a source ranges over the rows of the innermost SELECT with one it names. -/
theorem aggregateScopes_named {node : Node V} {front back : List (Scope D)} {scope : Scope D}
    (apart : ∀ source ∈ sourcesOf front, ¬Names source node)
    (named : ∃ source ∈ scope.sources, Names source node) :
    aggregateScopes node (front ++ scope :: back) =
      some (scope.rows.map fun row => front ++ scope.onRow row :: back) := by
  induction front with
  | nil => rw [List.nil_append, aggregateScopes, if_pos (.inl named)]; rfl
  | cons first rest ih =>
      obtain ⟨ofFirst, ofRest⟩ := List.forall_mem_append.mp apart
      have unowned : ¬((∃ source ∈ first.sources, Names source node) ∨ ∀ source, ¬Names source node) := by
        rintro (⟨source, member, names⟩ | none)
        · exact ofFirst source member names
        · obtain ⟨source, -, names⟩ := named
          exact none source names
      rw [List.cons_append, aggregateScopes, if_neg unowned, ih ofRest, Option.map_some, List.map_map]
      rfl

theorem aggregateScopes_outer {node : Node V} {scopes : List (Scope D)}
    (apart : ∀ source ∈ sourcesOf scopes, ¬Names source node) (named : ∃ source, Names source node) :
    aggregateScopes node scopes = none := by
  induction scopes with
  | nil => rfl
  | cons first rest ih =>
      obtain ⟨ofFirst, ofRest⟩ := List.forall_mem_append.mp apart
      have unowned : ¬((∃ source ∈ first.sources, Names source node) ∨ ∀ source, ¬Names source node) := by
        rintro (⟨source, member, names⟩ | none)
        · exact ofFirst source member names
        · obtain ⟨source, names⟩ := named
          exact none source names
      rw [aggregateScopes, if_neg unowned, ih ofRest, Option.map_none]

theorem aggregateScopes_unnamed {node : Node V} {scope : Scope D} {rest : List (Scope D)}
    (unnamed : ∀ source, ¬Names source node) :
    aggregateScopes node (scope :: rest) = some (scope.rows.map fun row => scope.onRow row :: rest) := by
  rw [aggregateScopes, if_pos (.inr unnamed)]

/-- The innermost SELECT with a source that the node names, if there is one. -/
theorem innermost (node : Node V) (scopes : List (Scope D)) :
    (∃ front scope back, scopes = front ++ scope :: back ∧
      (∀ source ∈ sourcesOf front, ¬Names source node) ∧ ∃ source ∈ scope.sources, Names source node) ∨
      ∀ source ∈ sourcesOf scopes, ¬Names source node := by
  induction scopes with
  | nil => exact .inr (fun _ inside => absurd inside List.not_mem_nil)
  | cons first rest ih =>
      by_cases named : ∃ source ∈ first.sources, Names source node
      · exact .inl ⟨[], first, rest, rfl, fun _ inside => absurd inside List.not_mem_nil, named⟩
      · have apart : ∀ source ∈ first.sources, ¬Names source node := fun source member names =>
          named ⟨source, member, names⟩
        rcases ih with ⟨front, scope, back, rfl, before, owner⟩ | none
        · exact .inl ⟨first :: front, scope, back, rfl,
            List.forall_mem_append.mpr ⟨apart, before⟩, owner⟩
        · exact .inr (List.forall_mem_append.mpr ⟨apart, none⟩)

/-- An aggregate inside nested statements belongs to the SELECT around them, to an enclosing one, or to a
nested one. -/
theorem aggregateScopes_cases (node : Node V) (inner : List (Scope D)) (locals : List String) :
    ((∀ scope : Scope D, scope.sources = locals → aggregateScopes node (inner ++ [scope]) =
        some (scope.rows.map fun row => inner ++ [scope.onRow row])) ∧
      ∀ source ∈ sourcesOf inner, ¬Names source node) ∨
    ((∀ scope : Scope D, scope.sources = locals → aggregateScopes node (inner ++ [scope]) = none) ∧
      ∀ source ∈ sourcesOf inner, ¬Names source node) ∨
    ∃ front owner back, inner = front ++ owner :: back ∧
      (∀ scope : Scope D, aggregateScopes node (inner ++ [scope]) =
        some (owner.rows.map fun row => (front ++ owner.onRow row :: back) ++ [scope])) ∧
      ((∃ source ∈ sourcesOf inner, Names source node) ∨ ∀ source, ¬Names source node) := by
  by_cases unnamed : ∀ source, ¬Names source node
  · cases inner with
    | nil => exact .inl ⟨fun scope _ => aggregateScopes_unnamed unnamed, by simp [sourcesOf]⟩
    | cons first rest =>
        exact .inr (.inr ⟨[], first, rest, rfl, fun _ => aggregateScopes_unnamed unnamed, .inr unnamed⟩)
  · have named : ∃ source, Names source node := by simpa using unnamed
    rcases innermost node inner with ⟨front, owner, back, rfl, apart, owns⟩ | none
    · refine .inr (.inr ⟨front, owner, back, rfl, fun scope => ?_, .inl ?_⟩)
      · simpa using aggregateScopes_named apart owns
      · obtain ⟨source, member, names⟩ := owns
        exact ⟨source, by simp [sourcesOf, member], names⟩
    · by_cases own : ∃ source ∈ locals, Names source node
      · exact .inl ⟨fun scope same => aggregateScopes_named none (same ▸ own), none⟩
      · refine .inr (.inl ⟨fun scope same => aggregateScopes_outer ?_ named, none⟩)
        simp only [sourcesOf, List.flatMap_append, List.forall_mem_append, List.flatMap_singleton, same]
        exact ⟨none, fun source member names => own ⟨source, member, names⟩⟩

/-! ### SELECTs in between -/

theorem columnValue_append {outside : SourceRow D} {source name : String} {front back : List (Scope D)}
    (apart : source ∉ sourcesOf front) :
    columnValue outside source name (front ++ back) = columnValue outside source name back := by
  induction front with
  | nil => rfl
  | cons first rest ih =>
      simp only [sourcesOf, List.flatMap_cons, List.mem_append, not_or] at apart
      rw [List.cons_append, columnValue, if_neg apart.1]
      exact ih apart.2

theorem columnValue_prefix {outside : SourceRow D} {source name : String}
    {front back back' : List (Scope D)} (inside : source ∈ sourcesOf front) :
    columnValue outside source name (front ++ back) =
      columnValue outside source name (front ++ back') := by
  induction front with
  | nil => cases inside
  | cons first rest ih =>
      rw [List.cons_append, List.cons_append, columnValue, columnValue]
      split
      · rfl
      · next apart =>
          simp only [sourcesOf, List.flatMap_cons, List.mem_append] at inside
          exact ih (inside.resolve_left apart)

/-- Induction along the evaluation of an expression. -/
theorem groupValue_induction {motive : Node V → Prop}
    (column : ∀ source name, motive (.column source name))
    (aggregate : ∀ name arguments filter,
      (∀ child ∈ children (.aggregate name arguments filter), motive child) →
        motive (.aggregate name arguments filter))
    (window : ∀ call partitionBy orderBy frame exclusion,
      (∀ operand ∈ windowOperands call partitionBy orderBy, motive operand) →
        motive (.window call partitionBy orderBy frame exclusion))
    (plain : ∀ node : Node V, node.isPlain → (∀ child ∈ children node, motive child) →
      (∀ statement clause, node.Holds statement clause → motive clause.expression) → motive node)
    (node : Node V) : motive node := by
  induction size : sizeOf node using Nat.strongRecOn generalizing node with
  | ind bound ih =>
      subst size
      have smaller : ∀ part : Node V, sizeOf part < sizeOf node → motive part := fun part less =>
        ih (sizeOf part) less part rfl
      by_cases isPlain : node.isPlain
      · refine plain node isPlain ?_ ?_
        · exact fun child member => smaller child (sizeOf_lt_of_mem_children member)
        · rintro statement clause ⟨query, carries, within, member⟩
          exact smaller clause.expression (within.sizeOf_lt carries member)
      · cases node with
        | column source name => exact column source name
        | aggregate name arguments filter =>
            exact aggregate name arguments filter fun child member =>
              smaller child (sizeOf_lt_of_mem_children member)
        | window call partitionBy orderBy frame exclusion =>
            exact window call partitionBy orderBy frame exclusion fun operand member =>
              smaller operand (sizeOf_lt_of_mem_windowOperands member)
        | _ => exact absurd rfl isPlain

/-! ### Equal values in other scopes -/

variable {scopes' : List (Scope D)}

theorem groupValue_aggregate_congr {β : Type} {name : AggregateName} {arguments : List (Node V)}
    {filter : Option (Node V)} (rows : Option (List β)) (left right : β → List (Scope D))
    (onLeft : aggregateScopes (.aggregate name arguments filter) scopes = rows.map (·.map left))
    (onRight : aggregateScopes (.aggregate name arguments filter) scopes' = rows.map (·.map right))
    (same : ∀ list ∈ rows, ∀ row ∈ list, ∀ child ∈ children (.aggregate name arguments filter),
      groupValue I (left row) child = groupValue I (right row) child) :
    groupValue I scopes (.aggregate name arguments filter) =
      groupValue I scopes' (.aggregate name arguments filter) := by
  rw [groupValue_aggregate, groupValue_aggregate, onLeft, onRight]
  cases rows with
  | none => rfl
  | some rows =>
      simp only [Option.map_some, Option.elim_some, List.map_map]
      congr 1
      apply List.map_congr_left
      intro row inside
      exact List.map_congr_left fun child member => same rows rfl row inside child member

theorem groupValue_window_congr {call : WindowCall V} {partitionBy : List (Node V)}
    {orderBy : List (OrderNode V)} {frame : Option WindowFrameNode} {exclusion : Option WindowExclusion}
    (count : groupCount scopes = groupCount scopes') (hand : groupAtHand scopes = groupAtHand scopes')
    (same : ∀ group < groupCount scopes, ∀ operand ∈ windowOperands call partitionBy orderBy,
      groupValue I (onGroup scopes group) operand = groupValue I (onGroup scopes' group) operand) :
    groupValue I scopes (.window call partitionBy orderBy frame exclusion) =
      groupValue I scopes' (.window call partitionBy orderBy frame exclusion) := by
  rw [groupValue_window, groupValue_window, ← count, ← hand]
  congr 1
  apply List.map_congr_left
  intro group member
  exact List.map_congr_left fun operand inside => same group (List.mem_range.mp member) operand inside

theorem groupValue_plain_congr {node : Node V} (plain : node.isPlain)
    (operands : ∀ child ∈ children node, groupValue I scopes child = groupValue I scopes' child)
    (held : ∀ statement clause (scope : Scope D), node.Holds statement clause →
      scope.sources = clause.locals → groupValue I (scope :: scopes) clause.expression =
        groupValue I (scope :: scopes') clause.expression) :
    groupValue I scopes node = groupValue I scopes' node := by
  rw [groupValue_plain plain, groupValue_plain plain, List.map_congr_left operands]
  congr 1
  funext statement clause scope
  unfold groupMeaning
  split
  · next standing => rw [held statement clause scope standing.1 standing.2]
  · rfl

/-! ### SELECTs in between -/

theorem containsAnalytic_child {node child : Node V} (none : containsAnalytic true true node = false)
    (member : child ∈ children node) : containsAnalytic true true child = false := by
  rw [containsAnalytic.eq_def] at none
  split at none
  · cases none
  · cases none
  · simpa using List.any_eq_false.mp none ⟨child, member⟩ (List.mem_attach _ _)

theorem Names.ofOperand {source : String} {call : WindowCall V} {partitionBy : List (Node V)}
    {orderBy : List (OrderNode V)} {frame : Option WindowFrameNode} {exclusion : Option WindowExclusion}
    {operand : Node V} (member : operand ∈ windowOperands call partitionBy orderBy)
    (names : Names source operand) :
    Names source (.window call partitionBy orderBy frame exclusion) := by
  rcases List.mem_append.mp member with ofCall | other
  · have below : Names source call.toNode := by
      cases call with
      | aggregate name arguments filter => exact .child ofCall names
      | function name arguments =>
          obtain rfl := List.mem_singleton.mp ofCall
          exact names
    exact .child List.mem_cons_self below
  · exact .child (List.mem_cons_of_mem _ other) names

/-- The rows of an aggregate where some SELECTs stand in between whose sources it does not name. -/
theorem aggregateScopes_insert {node : Node V} {front between back : List (Scope D)}
    (apart : ∀ source ∈ sourcesOf between, Names source node → source ∈ sourcesOf front)
    (present : front ≠ []) :
    ∃ rows : Option (List (List (Scope D) × List (Scope D))),
      aggregateScopes node (front ++ (between ++ back)) =
        rows.map (·.map fun row => row.1 ++ (between ++ row.2)) ∧
      aggregateScopes node (front ++ back) = rows.map (·.map fun row => row.1 ++ row.2) ∧
      ∀ list ∈ rows, ∀ row ∈ list, sourcesOf row.1 = sourcesOf front ∧ row.1 ≠ [] := by
  by_cases unnamed : ∀ source, ¬Names source node
  · obtain ⟨scope, rest, rfl⟩ := List.exists_cons_of_ne_nil present
    refine ⟨some (scope.rows.map fun row => (scope.onRow row :: rest, back)), ?_, ?_, ?_⟩
    · simpa [Function.comp_def] using aggregateScopes_unnamed unnamed
    · simpa [Function.comp_def] using aggregateScopes_unnamed unnamed
    · rintro _ ⟨⟩ row member
      obtain ⟨values, -, rfl⟩ := List.mem_map.mp member
      exact ⟨rfl, List.cons_ne_nil _ _⟩
  · have named : ∃ source, Names source node := by simpa using unnamed
    rcases innermost node front with ⟨first, scope, last, rfl, before, owner⟩ | none
    · refine ⟨some (scope.rows.map fun row => (first ++ scope.onRow row :: last, back)), ?_, ?_, ?_⟩
      · simpa [Function.comp_def] using aggregateScopes_named before owner
      · simpa [Function.comp_def] using aggregateScopes_named before owner
      · rintro _ ⟨⟩ row member
        obtain ⟨values, -, rfl⟩ := List.mem_map.mp member
        exact ⟨by simp [sourcesOf, Scope.onRow], by simp⟩
    · have noneBetween : ∀ source ∈ sourcesOf between, ¬Names source node := fun source inside names =>
        none source (apart source inside names) names
      rcases innermost node back with ⟨first, scope, last, rfl, before, owner⟩ | noneBack
      · refine ⟨some (scope.rows.map fun row => (front, first ++ scope.onRow row :: last)), ?_, ?_, ?_⟩
        · have apart' : ∀ source ∈ sourcesOf (front ++ (between ++ first)), ¬Names source node := by
            simp only [sourcesOf, List.flatMap_append, List.forall_mem_append]
            exact ⟨none, noneBetween, before⟩
          simpa [Function.comp_def] using aggregateScopes_named apart' owner
        · have apart' : ∀ source ∈ sourcesOf (front ++ first), ¬Names source node := by
            simp only [sourcesOf, List.flatMap_append, List.forall_mem_append]
            exact ⟨none, before⟩
          simpa [Function.comp_def] using aggregateScopes_named apart' owner
        · rintro _ ⟨⟩ row member
          obtain ⟨values, -, rfl⟩ := List.mem_map.mp member
          exact ⟨rfl, present⟩
      · refine ⟨Option.none, ?_, ?_, by simp⟩
        · refine aggregateScopes_outer ?_ named
          simp only [sourcesOf, List.flatMap_append, List.forall_mem_append]
          exact ⟨none, noneBetween, noneBack⟩
        · refine aggregateScopes_outer ?_ named
          simp only [sourcesOf, List.flatMap_append, List.forall_mem_append]
          exact ⟨none, noneBack⟩

/-- SELECTs whose sources an expression does not name have no part in its value. -/
theorem groupValue_insert {node : Node V} {front between back : List (Scope D)}
    (apart : ∀ source ∈ sourcesOf between, Names source node → source ∈ sourcesOf front)
    (direct : front = [] → containsAnalytic true true node = false) :
    groupValue I (front ++ (between ++ back)) node = groupValue I (front ++ back) node := by
  induction node using groupValue_induction generalizing front back with
  | column source name =>
      rw [groupValue_column, groupValue_column]
      by_cases inside : source ∈ sourcesOf front
      · exact columnValue_prefix inside
      · have absent : source ∉ sourcesOf between := fun member =>
          inside (apart source member (.column name))
        rw [columnValue_append inside, columnValue_append inside, columnValue_append absent]
  | aggregate name arguments filter ih =>
      have present : front ≠ [] := fun none => by
        have free := direct none
        simp [containsAnalytic] at free
      obtain ⟨rows, onLeft, onRight, kept⟩ := aggregateScopes_insert apart present
      apply groupValue_aggregate_congr rows _ _ onLeft onRight
      intro list given row inside child member
      obtain ⟨same, nonempty⟩ := kept list given row inside
      refine ih child member (fun source standing names => ?_) fun none => absurd none nonempty
      rw [same]
      exact apart source standing (.child member names)
  | window call partitionBy orderBy frame exclusion ih =>
      have present : front ≠ [] := fun none => by
        have free := direct none
        simp [containsAnalytic] at free
      obtain ⟨scope, rest, rfl⟩ := List.exists_cons_of_ne_nil present
      refine groupValue_window_congr rfl rfl fun group _ operand member => ?_
      have below : ∀ source ∈ sourcesOf between, Names source operand →
          source ∈ sourcesOf ({ scope with current := group } :: rest) :=
        fun source inside names => apart source inside (names.ofOperand member)
      exact ih operand member below (absurd · (List.cons_ne_nil _ _))
  | plain node isPlain operands held =>
      apply groupValue_plain_congr isPlain
      · intro child member
        exact operands child member (fun source inside names => apart source inside (.child member names))
          fun none => containsAnalytic_child (direct none) member
      · intro statement clause scope holds same
        have below : ∀ source ∈ sourcesOf between, Names source clause.expression →
            source ∈ sourcesOf (scope :: front) := by
          intro source inside names
          simp only [sourcesOf, List.flatMap_cons, List.mem_append, same]
          by_cases shown : source ∈ clause.locals
          · exact .inl shown
          · obtain ⟨query, carries, within, member⟩ := holds
            exact .inr (apart source inside (.nested carries within member shown names))
        exact held statement clause holds below (absurd · (List.cons_ne_nil _ _))

end

/-! ### One value for each group -/

/-- The rows of a SELECT in groups. -/
structure RowGroups (D : Type) where
  count : Nat
  rows : Nat → List (SourceRow D)

/-- The SELECT stands on one of the groups, each represented by one of its rows. -/
structure Scope.Represents (scope : Scope D) (locals : List String) (groups : RowGroups D) : Prop where
  sources : scope.sources = locals
  number : scope.count = groups.count
  current : scope.current < groups.count
  rows : ∀ group < groups.count, (scope.group group).rows = groups.rows group
  representative : ∀ group < groups.count, (scope.group group).representative ∈ groups.rows group

/-- An expression has one value on each group, whichever rows represent the groups. -/
def Settled (I : GroupInterpretation V D) (locals : List String) (groups : RowGroups D)
    (expression : Node V) : Prop :=
  ∀ scope scope' : Scope D, scope.Represents locals groups → scope'.Represents locals groups →
    scope.current = scope'.current → groupValue I [scope] expression = groupValue I [scope'] expression

/-- However the rows are grouped, if each GROUP BY expression has one value on each group, then so has
each expression of the SELECT list, HAVING and ORDER BY. -/
def SelectNode.Determined (node : SelectNode V) : Prop :=
  ∀ (D : Type) (I : GroupInterpretation V D) (groups : RowGroups D),
    (∀ grouping ∈ node.groupBy, Settled I (localSources node) groups grouping) →
      ∀ item ∈ groupedExpressions node, Settled I (localSources node) groups item.2

end Relq
