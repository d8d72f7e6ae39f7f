/-
Module: Relq.Grouping.Marking
Layer: Grouping
Purpose: The converse: a reference that varies shows in a value under some interpretation of the
  operations. A mark tells whether a value was read from the representative of the group and from which
  sources of nested statements; operations hand on the marks of their operands, and only the GROUP BY
  expressions of the SELECT drop them.
Imports: Relq.Grouping.Variation
Trusted boundary: none
Main exports: Mark, marking, SelectNode.determined_iff
-/
import Relq.Grouping.Variation

namespace Relq

variable {V : Type}

/-! ### What varies is not determined -/

/-- What a value is read from: whether from the row that represents the group, and from which sources of
nested statements. -/
@[ext] structure Mark where
  varies : Prop
  names : String → Prop

def Mark.blank : Mark := ⟨False, fun _ => False⟩

/-- The one row of a nested statement. -/
def nestedRow : SourceRow Mark := fun source _ => ⟨False, (· = source)⟩

def nestedScope (locals : List String) : Scope Mark :=
  { sources := locals, count := 1, group := fun _ => ⟨nestedRow, [nestedRow]⟩, current := 0 }

/-- A row of the SELECT. Two rows of a group agree in the columns of GROUP BY. -/
def markedRow (grouped : List (Node V)) (varies : Prop) : SourceRow Mark := fun source name =>
  ⟨varies ∧ .column source name ∉ grouped, fun _ => False⟩

/-- The one group of the SELECT. -/
def markedGroups (grouped : List (Node V)) : RowGroups Mark :=
  { count := 1, rows := fun _ => [markedRow grouped True, markedRow grouped False] }

def markedScope (grouped : List (Node V)) (locals : List String) (varies : Prop) : Scope Mark :=
  { sources := locals
    count := 1
    group := fun _ => ⟨markedRow grouped varies, (markedGroups grouped).rows 0⟩
    current := 0 }

/-- Every operation hands on the marks of its operands. Only a GROUP BY expression that is read from no
nested statement drops them, and an aggregate over more than one row. -/
def marking (grouped : List (Node V)) : GroupInterpretation V Mark where
  outside := fun _ _ => .blank
  outerAggregate := fun _ => .blank
  operate := fun node operands meaning =>
    let names := fun source =>
      (∃ operand ∈ operands, operand.names source) ∨
        ∃ statement clause value, meaning statement clause (nestedScope clause.locals) = some value ∧
          source ∉ clause.locals ∧ value.names source
    { varies := ((∃ operand ∈ operands, operand.varies) ∨
        ∃ statement clause value, meaning statement clause (nestedScope clause.locals) = some value ∧
          value.varies) ∧ ¬(node ∈ grouped ∧ ∀ source, ¬names source)
      names := names }
  aggregate := fun _ rows =>
    { varies := ∃ operands, rows = [operands] ∧ ∃ operand ∈ operands, operand.varies
      names := fun source => ∃ operands ∈ rows, ∃ operand ∈ operands, operand.names source }
  window := fun _ groups _ =>
    { varies := ∃ operands ∈ groups, ∃ operand ∈ operands, operand.varies
      names := fun source => ∃ operands ∈ groups, ∃ operand ∈ operands, operand.names source }

/-- The SELECT has one group, and its rows are read from no nested statement. -/
structure Scope.Unmarked (scope : Scope Mark) : Prop where
  count : scope.count = 1
  current : scope.current = 0
  row : ∀ source name inner, ¬(scope.row source name).names inner
  rows : ∀ row ∈ scope.rows, ∀ source name inner, ¬(row source name).names inner

theorem names_iff {source : String} {node : Node V} :
    Names source node ↔ (∃ name, node = .column source name) ∨
      (∃ child ∈ children node, Names source child) ∨
        ∃ statement clause, node.Holds statement clause ∧ source ∉ clause.locals ∧
          Names source clause.expression := by
  constructor
  · intro names
    cases names with
    | column name => exact .inl ⟨name, rfl⟩
    | child member below => exact .inr (.inl ⟨_, member, below⟩)
    | nested carries within member shown below =>
        exact .inr (.inr ⟨_, _, ⟨_, carries, within, member⟩, shown, below⟩)
  · rintro (⟨name, rfl⟩ | ⟨child, member, below⟩ | ⟨statement, clause, holds, shown, below⟩)
    · exact .column name
    · exact .child member below
    · obtain ⟨query, carries, within, member⟩ := holds
      exact .nested carries within member shown below

theorem names_aggregate {source : String} {name : AggregateName} {arguments : List (Node V)}
    {filter : Option (Node V)} :
    Names source (.aggregate name arguments filter) ↔
      ∃ child ∈ children (.aggregate name arguments filter), Names source child := by
  rw [names_iff]
  constructor
  · rintro (⟨name, ⟨⟩⟩ | below | ⟨statement, clause, ⟨query, ⟨⟩, -⟩, -⟩)
    exact below
  · exact fun below => .inr (.inl below)

theorem names_window {source : String} {call : WindowCall V} {partitionBy : List (Node V)}
    {orderBy : List (OrderNode V)} {frame : Option WindowFrameNode}
    {exclusion : Option WindowExclusion} :
    Names source (.window call partitionBy orderBy frame exclusion) ↔
      ∃ operand ∈ windowOperands call partitionBy orderBy, Names source operand := by
  constructor
  · intro names
    rcases names_iff.mp names with ⟨name, ⟨⟩⟩ | ⟨child, member, below⟩ | ⟨_, _, ⟨query, ⟨⟩, -⟩, -⟩
    rcases List.mem_cons.mp member with rfl | other
    · cases call with
      | aggregate name arguments filter =>
          obtain ⟨operand, inside, below⟩ := names_aggregate.mp below
          exact ⟨operand, List.mem_append_left _ inside, below⟩
      | function name arguments =>
          exact ⟨_, List.mem_append_left _ (List.mem_singleton.mpr rfl), below⟩
    · exact ⟨child, List.mem_append_right _ other, below⟩
  · rintro ⟨operand, member, below⟩
    exact below.ofOperand member

theorem groupMeaning_eq_some {I : GroupInterpretation V Mark} {scopes : List (Scope Mark)}
    {node : Node V} {statement : QueryNode V} {clause : Clause V} {value : Mark} :
    groupMeaning I scopes node statement clause (nestedScope clause.locals) = some value ↔
      node.Holds statement clause ∧
        groupValue I (nestedScope clause.locals :: scopes) clause.expression = value := by
  unfold groupMeaning
  split
  · next holds => exact ⟨fun same => ⟨holds.1, Option.some.inj same⟩, fun same => congrArg some same.2⟩
  · next unheld => exact ⟨(absurd · (Option.some_ne_none _).symm), fun same => absurd ⟨same.1, rfl⟩ unheld⟩

section

variable {grouped : List (Node V)} {locals : List String} {inners : List (List String)}
  {scope : Scope Mark}

@[simp] theorem sourcesOf_nested : sourcesOf (inners.map nestedScope) = inners.flatten := by
  simp [sourcesOf, nestedScope, List.flatMap_map, List.flatMap_id']

/-- The scopes of the SELECT with those of nested statements in front. -/
def markedScopes (inners : List (List String)) (scope : Scope Mark) : List (Scope Mark) :=
  inners.map nestedScope ++ [scope]

/-- An aggregate of a nested statement ranges over one row. -/
theorem aggregateScopes_marked (node : Node V) (inners : List (List String)) (scope : Scope Mark) :
    aggregateScopes node (markedScopes inners scope) = some [markedScopes inners scope] ∨
      (∀ source ∈ inners.flatten, ¬Names source node) ∧
        (aggregateScopes node (markedScopes inners scope) = none ∨
          aggregateScopes node (markedScopes inners scope) =
            some (scope.rows.map fun row => markedScopes inners (scope.onRow row))) := by
  unfold markedScopes
  rcases aggregateScopes_cases node (inners.map nestedScope) scope.sources with
    ⟨own, apart⟩ | ⟨outer, apart⟩ | ⟨front, owner, back, split, rows, -⟩
  · exact .inr ⟨sourcesOf_nested ▸ apart, .inr (own scope rfl)⟩
  · exact .inr ⟨sourcesOf_nested ▸ apart, .inl (outer scope rfl)⟩
  · left
    have inside : owner ∈ inners.map nestedScope := by simp [split]
    obtain ⟨locals, -, rfl⟩ := List.mem_map.mp inside
    rw [rows scope, split]
    rfl

theorem groupValue_window_marked {I : GroupInterpretation V Mark} (unmarked : scope.Unmarked)
    {call : WindowCall V} {partitionBy : List (Node V)} {orderBy : List (OrderNode V)}
    {frame : Option WindowFrameNode} {exclusion : Option WindowExclusion} :
    groupValue I (markedScopes inners scope) (.window call partitionBy orderBy frame exclusion) =
      I.window (.window call partitionBy orderBy frame exclusion)
        [(windowOperands call partitionBy orderBy).map (groupValue I (markedScopes inners scope))] 0 := by
  have one : groupCount (markedScopes inners scope) = 1 := by
    cases inners with
    | nil => exact unmarked.count
    | cons first rest => rfl
  have zero : groupAtHand (markedScopes inners scope) = 0 := by
    cases inners with
    | nil => exact unmarked.current
    | cons first rest => rfl
  have same : onGroup (markedScopes inners scope) 0 = markedScopes inners scope := by
    cases inners with
    | nil => rw [markedScopes, List.map_nil, List.nil_append, onGroup, ← unmarked.current]
    | cons first rest => rfl
  rw [groupValue_window, one, zero, List.range_one, List.map_singleton, same]

theorem columnValue_nested {outside : SourceRow Mark} {source name : String}
    (inside : source ∈ inners.flatten) :
    columnValue outside source name (markedScopes inners scope) = nestedRow source name := by
  unfold markedScopes
  induction inners with
  | nil => cases inside
  | cons first rest ih =>
      rw [List.map_cons, List.cons_append, columnValue]
      split
      · rfl
      · next apart => exact ih ((List.mem_append.mp inside).resolve_left apart)

theorem columnValue_marked {outside : SourceRow Mark} {source name : String}
    (apart : source ∉ inners.flatten) :
    columnValue outside source name (markedScopes inners scope) =
      if source ∈ scope.sources then scope.row source name else outside source name := by
  rw [markedScopes, columnValue_append (sourcesOf_nested ▸ apart), columnValue, columnValue]

theorem names_column {source owner name : String} :
    Names source (.column owner name : Node V) ↔ source = owner := by
  constructor
  · intro names
    rcases names_iff.mp names with ⟨name, ⟨⟩⟩ | ⟨child, member, -⟩ | ⟨_, _, ⟨query, ⟨⟩, -⟩, -⟩
    · rfl
    · cases member
  · rintro rfl
    exact .column name

theorem Scope.Unmarked.onRow (unmarked : scope.Unmarked) {row : SourceRow Mark}
    (member : row ∈ scope.rows) : (scope.onRow row).Unmarked where
  count := rfl
  current := rfl
  row := unmarked.rows row member
  rows := fun _ inside => List.mem_singleton.mp inside ▸ unmarked.rows row member

/-- The marks of a value tell which sources of nested statements its expression names. -/
theorem marking_names (unmarked : scope.Unmarked) {node : Node V} {source : String} :
    (groupValue (marking grouped) (markedScopes inners scope) node).names source ↔
      source ∈ inners.flatten ∧ Names source node := by
  induction node using groupValue_induction generalizing inners scope with
  | column owner name =>
      rw [groupValue_column, names_column]
      by_cases inside : owner ∈ inners.flatten
      · rw [columnValue_nested inside]
        exact ⟨fun same => ⟨same ▸ inside, same⟩, And.right⟩
      · have unnamed : ¬(columnValue (marking grouped).outside owner name
            (markedScopes inners scope)).names source := by
          rw [columnValue_marked inside]
          split
          · exact unmarked.row owner name source
          · exact id
        exact ⟨fun named => absurd named unnamed, fun named => absurd (named.2 ▸ named.1) inside⟩
  | aggregate name arguments filter ih =>
      rw [groupValue_aggregate]
      rcases aggregateScopes_marked (.aggregate name arguments filter) inners scope with
        inner | ⟨apart, outer | own⟩
      · have marks : ((marking grouped).aggregate (.aggregate name arguments filter)
            [(children (.aggregate name arguments filter)).map
              (groupValue (marking grouped) (markedScopes inners scope))]).names source ↔
            ∃ child ∈ children (.aggregate name arguments filter),
              (groupValue (marking grouped) (markedScopes inners scope) child).names source := by
          simp [marking]
        rw [inner, Option.elim_some, List.map_singleton, marks, names_aggregate]
        constructor
        · rintro ⟨child, member, named⟩
          obtain ⟨inFlat, names⟩ := (ih child member unmarked).mp named
          exact ⟨inFlat, child, member, names⟩
        · rintro ⟨inFlat, child, member, names⟩
          exact ⟨child, member, (ih child member unmarked).mpr ⟨inFlat, names⟩⟩
      · rw [outer]
        exact ⟨False.elim, fun named => absurd named.2 (apart source named.1)⟩
      · rw [own]
        refine ⟨?_, fun named => absurd named.2 (apart source named.1)⟩
        rintro ⟨operands, given, operand, member, named⟩
        simp only [List.map_map, List.mem_map] at given
        obtain ⟨row, inside, rfl⟩ := given
        obtain ⟨child, below, rfl⟩ := List.mem_map.mp member
        obtain ⟨inFlat, names⟩ := (ih child below (unmarked.onRow inside)).mp named
        exact ⟨inFlat, names_aggregate.mpr ⟨child, below, names⟩⟩
  | window call partitionBy orderBy frame exclusion ih =>
      have marks : ((marking grouped).window (.window call partitionBy orderBy frame exclusion)
          [(windowOperands call partitionBy orderBy).map
            (groupValue (marking grouped) (markedScopes inners scope))] 0).names source ↔
          ∃ operand ∈ windowOperands call partitionBy orderBy,
            (groupValue (marking grouped) (markedScopes inners scope) operand).names source := by
        simp [marking]
      rw [groupValue_window_marked unmarked, marks, names_window]
      constructor
      · rintro ⟨operand, member, named⟩
        obtain ⟨inFlat, names⟩ := (ih operand member unmarked).mp named
        exact ⟨inFlat, operand, member, names⟩
      · rintro ⟨inFlat, operand, member, names⟩
        exact ⟨operand, member, (ih operand member unmarked).mpr ⟨inFlat, names⟩⟩
  | plain node isPlain operands held =>
      rw [groupValue_plain isPlain, names_iff]
      constructor
      · rintro (⟨value, member, named⟩ | ⟨statement, clause, value, given, shown, named⟩)
        · obtain ⟨child, below, rfl⟩ := List.mem_map.mp member
          obtain ⟨inFlat, names⟩ := (operands child below unmarked).mp named
          exact ⟨inFlat, .inr (.inl ⟨child, below, names⟩)⟩
        · obtain ⟨holds, rfl⟩ := groupMeaning_eq_some.mp given
          have below := @held statement clause holds (clause.locals :: inners) scope unmarked
          obtain ⟨inFlat, names⟩ := below.mp named
          exact ⟨(List.mem_append.mp inFlat).resolve_left shown,
            .inr (.inr ⟨statement, clause, holds, shown, names⟩)⟩
      · rintro ⟨inFlat, ⟨name, rfl⟩ | ⟨child, member, names⟩ | ⟨statement, clause, holds, shown, names⟩⟩
        · cases isPlain
        · have below := (operands child member unmarked).mpr ⟨inFlat, names⟩
          exact .inl ⟨_, List.mem_map_of_mem member, below⟩
        · have below := @held statement clause holds (clause.locals :: inners) scope unmarked
          exact .inr ⟨statement, clause, _, groupMeaning_eq_some.mpr ⟨holds, rfl⟩, shown,
            below.mpr ⟨List.mem_append_right _ inFlat, names⟩⟩

/-- An aggregate varies only with its operands, and on the rows of a group not even with these. -/
theorem varies_aggregate {varies : Prop} {name : AggregateName} {arguments : List (Node V)}
    {filter : Option (Node V)} :
    (groupValue (marking grouped) (markedScopes inners (markedScope grouped locals varies))
      (.aggregate name arguments filter)).varies ↔
      aggregateScopes (.aggregate name arguments filter)
          (markedScopes inners (markedScope grouped locals varies)) =
        some [markedScopes inners (markedScope grouped locals varies)] ∧
      ∃ child ∈ children (.aggregate name arguments filter),
        (groupValue (marking grouped) (markedScopes inners (markedScope grouped locals varies))
          child).varies := by
  rw [groupValue_aggregate]
  rcases aggregateScopes_marked (.aggregate name arguments filter) inners
      (markedScope grouped locals varies) with inner | ⟨-, outer | own⟩
  · rw [inner]
    simp [marking]
  · rw [outer]
    simp [marking, Mark.blank]
  · rw [own]
    simp [marking, markedScope, markedGroups, Scope.rows]

theorem varies_window (unmarked : scope.Unmarked) {call : WindowCall V}
    {partitionBy : List (Node V)} {orderBy : List (OrderNode V)} {frame : Option WindowFrameNode}
    {exclusion : Option WindowExclusion} :
    (groupValue (marking grouped) (markedScopes inners scope)
      (.window call partitionBy orderBy frame exclusion)).varies ↔
      ∃ operand ∈ windowOperands call partitionBy orderBy,
        (groupValue (marking grouped) (markedScopes inners scope) operand).varies := by
  rw [groupValue_window_marked unmarked]
  simp [marking]

theorem varies_plain (unmarked : scope.Unmarked) {node : Node V} (plain : node.isPlain) :
    (groupValue (marking grouped) (markedScopes inners scope) node).varies ↔
      ((∃ child ∈ children node,
          (groupValue (marking grouped) (markedScopes inners scope) child).varies) ∨
        ∃ statement clause, node.Holds statement clause ∧
          (groupValue (marking grouped) (markedScopes (clause.locals :: inners) scope)
            clause.expression).varies) ∧
      ¬Fixed grouped inners.flatten node := by
  have fixed : (node ∈ grouped ∧ ∀ source,
      ¬(groupValue (marking grouped) (markedScopes inners scope) node).names source) ↔
        Fixed grouped inners.flatten node := by
    simp only [marking_names unmarked, not_and, Fixed]
  rw [← fixed, groupValue_plain plain]
  refine and_congr_left fun _ => or_congr (by simp) ?_
  constructor
  · rintro ⟨statement, clause, value, given, varies⟩
    obtain ⟨holds, rfl⟩ := groupMeaning_eq_some.mp given
    exact ⟨statement, clause, holds, varies⟩
  · rintro ⟨statement, clause, holds, varies⟩
    exact ⟨statement, clause, _, groupMeaning_eq_some.mpr ⟨holds, rfl⟩, varies⟩

theorem markedScope_unmarked {varies : Prop} : (markedScope grouped locals varies).Unmarked where
  count := rfl
  current := rfl
  row := fun _ _ _ => id
  rows := by
    intro row member
    rcases List.mem_cons.mp member with rfl | other
    · exact fun _ _ _ => id
    · obtain rfl := List.mem_singleton.mp other
      exact fun _ _ _ => id

/-- On a row that does not vary no value does. -/
theorem not_varies_alike {node : Node V} :
    ¬(groupValue (marking grouped) (markedScopes inners (markedScope grouped locals False))
      node).varies := by
  induction node using groupValue_induction generalizing inners with
  | column source name =>
      rw [groupValue_column]
      by_cases inside : source ∈ inners.flatten
      · rw [columnValue_nested inside]
        exact id
      · rw [columnValue_marked inside]
        split
        · exact And.left
        · exact id
  | aggregate name arguments filter ih =>
      rw [varies_aggregate]
      rintro ⟨-, child, member, varies⟩
      exact ih child member varies
  | window call partitionBy orderBy frame exclusion ih =>
      rw [varies_window markedScope_unmarked]
      rintro ⟨operand, member, varies⟩
      exact ih operand member varies
  | plain node isPlain operands held =>
      rw [varies_plain markedScope_unmarked isPlain]
      rintro ⟨⟨child, member, varies⟩ | ⟨statement, clause, holds, varies⟩, -⟩
      · exact operands child member varies
      · exact held statement clause holds varies

/-- On a row that varies the value of an expression with a reference that varies does. -/
theorem Varies.marked {hidden : List String} {seen : Bool} {node : Node V}
    (varies : Varies grouped locals hidden seen node) (same : inners.flatten = hidden) :
    (groupValue (marking grouped) (markedScopes inners (markedScope grouped locals True))
      node).varies := by
  induction varies generalizing inners with
  | @column hidden source name isLocal shown bare =>
      subst same
      have ungrouped : .column source name ∉ grouped := fun member =>
        bare ⟨member, fun other inside names => shown (names_column.mp names ▸ inside)⟩
      have own : source ∈ (markedScope grouped locals True).sources := isLocal
      rw [groupValue_column, columnValue_marked shown, if_pos own]
      exact ⟨trivial, ungrouped⟩
  | @child hidden seen node child bare plain member below ih =>
      subst same
      by_cases isPlain : node.isPlain
      · exact (varies_plain markedScope_unmarked isPlain).mpr ⟨.inl ⟨child, member, ih rfl⟩, bare⟩
      · cases node with
        | column source name => cases member
        | aggregate name arguments filter => exact absurd rfl (plain name arguments filter)
        | window call partitionBy orderBy frame exclusion =>
            apply (varies_window markedScope_unmarked).mpr
            rcases List.mem_cons.mp member with rfl | other
            · cases call with
              | aggregate name arguments filter =>
                  obtain ⟨-, operand, inside, varies⟩ := varies_aggregate.mp (ih rfl)
                  exact ⟨operand, List.mem_append_left _ inside, varies⟩
              | function name arguments =>
                  exact ⟨_, List.mem_append_left _ (List.mem_singleton.mpr rfl), ih rfl⟩
            · exact ⟨child, List.mem_append_right _ other, ih rfl⟩
        | _ => exact absurd rfl isPlain
  | windowAggregate bare member below ih =>
      exact (varies_window markedScope_unmarked).mpr ⟨_, List.mem_append_left _ member, ih same⟩
  | innerAggregate named member below ih =>
      subst same
      refine varies_aggregate.mpr ⟨?_, _, member, ih rfl⟩
      rcases aggregateScopes_marked _ inners (markedScope grouped locals True) with inner | ⟨apart, -⟩
      · exact inner
      · obtain ⟨source, inside, names⟩ := named
        exact absurd names (apart source inside)
  | @nested hidden seen node query inner clause bare carries within member below ih =>
      subst same
      have isPlain : node.isPlain := by
        cases node with
        | column source name => cases carries
        | aggregate name arguments filter => cases carries
        | window call partitionBy orderBy frame exclusion => cases carries
        | _ => rfl
      have holds : node.Holds inner clause := ⟨query, carries, within, member⟩
      have varies := @ih (clause.locals :: inners) rfl
      exact (varies_plain markedScope_unmarked isPlain).mpr ⟨.inr ⟨inner, clause, holds, varies⟩, bare⟩

theorem markedScope_represents {varies : Prop}
    (row : markedRow grouped varies ∈ (markedGroups grouped).rows 0) :
    (markedScope grouped locals varies).Represents locals (markedGroups grouped) where
  sources := rfl
  number := rfl
  current := Nat.zero_lt_one
  rows := fun _ _ => rfl
  representative := fun _ _ => row

/-- Whichever row represents the group, it is one of the two, and it is read from no nested statement. -/
theorem Scope.Represents.marked (represents : scope.Represents locals (markedGroups grouped)) :
    (∃ varies, scope.row = markedRow grouped varies) ∧ scope.Unmarked := by
  have isMarked : ∀ row ∈ (markedGroups grouped).rows scope.current,
      ∃ varies, row = markedRow grouped varies := by
    intro row inside
    rcases List.mem_cons.mp inside with rfl | other
    · exact ⟨True, rfl⟩
    · exact ⟨False, List.mem_singleton.mp other⟩
  obtain ⟨varies, ofRow⟩ := isMarked scope.row (represents.representative _ represents.current)
  refine ⟨⟨varies, ofRow⟩, represents.number, Nat.lt_one_iff.mp represents.current, ?_, ?_⟩
  · intro source name inner
    rw [ofRow]
    exact id
  · intro row inside
    rw [Scope.rows, represents.rows _ represents.current] at inside
    obtain ⟨varies, rfl⟩ := isMarked row inside
    exact fun _ _ _ => id

/-- A GROUP BY expression has no mark. -/
theorem marking_settled (direct : ∀ grouping ∈ grouped, containsAnalytic true true grouping = false)
    {grouping : Node V} (member : grouping ∈ grouped) :
    Settled (marking grouped) locals (markedGroups grouped) grouping := by
  have blank : ∀ scope : Scope Mark, scope.Represents locals (markedGroups grouped) →
      groupValue (marking grouped) [scope] grouping = .blank := by
    intro scope represents
    obtain ⟨⟨varies, ofRow⟩, unmarked⟩ := represents.marked
    have unnamed : ∀ source,
        ¬(groupValue (marking grouped) (markedScopes [] scope) grouping).names source :=
      fun source named => List.not_mem_nil ((marking_names unmarked).mp named).1
    have steady : ¬(groupValue (marking grouped) (markedScopes [] scope) grouping).varies := by
      by_cases isPlain : grouping.isPlain
      · exact fun varies => ((varies_plain unmarked isPlain).mp varies).2 ⟨member, by simp⟩
      · have free := direct grouping member
        cases grouping with
        | column source name =>
            rw [groupValue_column, columnValue_marked List.not_mem_nil, ofRow]
            split
            · exact fun varies => varies.2 member
            · exact id
        | aggregate name arguments filter => simp [containsAnalytic] at free
        | window call partitionBy orderBy frame exclusion => simp [containsAnalytic] at free
        | _ => exact absurd rfl isPlain
    exact Mark.ext (eq_false steady) (funext fun source => eq_false (unnamed source))
  intro scope scope' represents represents' _
  rw [blank scope represents, blank scope' represents']

end

/-- A grouped SELECT is determined exactly if no reference varies. -/
theorem SelectNode.determined_iff {node : SelectNode V}
    (direct : ∀ grouping ∈ node.groupBy, containsAnalytic true true grouping = false) :
    node.Determined ↔ ∀ item ∈ groupedExpressions node, ∀ seen,
      ¬Varies node.groupBy (localSources node) [] seen item.2 := by
  constructor
  · intro determined item member seen varies
    have differing : (markedScope node.groupBy (localSources node) True).Represents (localSources node)
        (markedGroups node.groupBy) := markedScope_represents List.mem_cons_self
    have alike : (markedScope node.groupBy (localSources node) False).Represents (localSources node)
        (markedGroups node.groupBy) :=
      markedScope_represents (List.mem_cons_of_mem _ (List.mem_singleton.mpr rfl))
    have same : groupValue (marking node.groupBy)
          (markedScopes [] (markedScope node.groupBy (localSources node) True)) item.2 =
        groupValue (marking node.groupBy)
          (markedScopes [] (markedScope node.groupBy (localSources node) False)) item.2 :=
      determined Mark (marking node.groupBy) (markedGroups node.groupBy)
        (fun grouping inside => marking_settled direct inside) item member _ _ differing alike rfl
    exact not_varies_alike (same ▸ varies.marked rfl)
  · intro steady D I groups settled item member scope scope' represents represents' same
    have alone : ∀ seen, ¬Varies node.groupBy (localSources node) (sourcesOf ([] : List (Scope D))) seen
        item.2 := steady item member
    have value := groupValue_representatives settled direct represents represents' same alone
    exact value

end Relq
