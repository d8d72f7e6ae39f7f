/-
Module: Relq.Grouping.Variation
Layer: Grouping
Purpose: The references of a grouped SELECT whose value comes from the row that represents the group.
  `Varies` follows a reference through every kind of expression and into nested statements. Where none
  varies the values of the SELECT do not depend on the representatives.
Imports: Relq.Grouping.Representatives
Trusted boundary: human-reviewed spec (Fixed, Varies)
Main exports: Fixed, Varies, groupValue_representatives
-/
import Relq.Grouping.Representatives

namespace Relq

variable {V D : Type}

/-! ### References that vary -/

/-- The expression is one of GROUP BY, and none of the sources in `hidden` is named in it. -/
def Fixed (grouped : List (Node V)) (hidden : List String) (node : Node V) : Prop :=
  node ∈ grouped ∧ ∀ source ∈ hidden, ¬Names source node

/-- `Varies grouped locals hidden seen node`: some reference in `node` to a source in `locals` takes its
value from the row that represents the group. `hidden` lists the sources of the statements in between,
which hide those of the same name and own the aggregates that name them. `seen` tells whether the way to
the reference avoids the arguments and filters of windowed aggregates and nested statements. -/
inductive Varies (grouped : List (Node V)) (locals : List String) :
    List String → Bool → Node V → Prop where
  | column {hidden : List String} {source name : String} (isLocal : source ∈ locals)
      (shown : source ∉ hidden) (bare : ¬Fixed grouped hidden (.column source name)) :
      Varies grouped locals hidden true (.column source name)
  | child {hidden : List String} {seen : Bool} {node child : Node V} (bare : ¬Fixed grouped hidden node)
      (plain : ∀ name arguments filter, node ≠ .aggregate name arguments filter)
      (member : child ∈ children node) (below : Varies grouped locals hidden seen child) :
      Varies grouped locals hidden seen node
  | windowAggregate {hidden : List String} {seen : Bool} {name : AggregateName}
      {arguments : List (Node V)} {filter : Option (Node V)} {partitionBy : List (Node V)}
      {orderBy : List (OrderNode V)} {frame : Option WindowFrameNode}
      {exclusion : Option WindowExclusion} {child : Node V}
      (bare : ¬Fixed grouped hidden
        (.window (.aggregate name arguments filter) partitionBy orderBy frame exclusion))
      (member : child ∈ children (.aggregate name arguments filter))
      (below : Varies grouped locals hidden seen child) :
      Varies grouped locals hidden false
        (.window (.aggregate name arguments filter) partitionBy orderBy frame exclusion)
  | innerAggregate {hidden : List String} {seen : Bool} {name : AggregateName}
      {arguments : List (Node V)} {filter : Option (Node V)} {child : Node V}
      (named : ∃ source ∈ hidden, Names source (.aggregate name arguments filter))
      (member : child ∈ children (.aggregate name arguments filter))
      (below : Varies grouped locals hidden seen child) :
      Varies grouped locals hidden seen (.aggregate name arguments filter)
  | nested {hidden : List String} {seen : Bool} {node : Node V} {query : SelectNode V}
      {inner : QueryNode V} {clause : Clause V} (bare : ¬Fixed grouped hidden node)
      (carries : node.nestedSelect = some query) (within : NestedWithin (.select query) inner)
      (member : clause ∈ ownClauses inner)
      (below : Varies grouped locals (clause.locals ++ hidden) seen clause.expression) :
      Varies grouped locals hidden false node

/-- A reference that varies names a local source. -/
theorem Varies.names {grouped : List (Node V)} {locals hidden : List String} {seen : Bool}
    {node : Node V} (varies : Varies grouped locals hidden seen node) :
    ∃ source ∈ locals, source ∉ hidden ∧ Names source node := by
  induction varies with
  | column isLocal shown bare => exact ⟨_, isLocal, shown, .column _⟩
  | child bare plain member below ih =>
      obtain ⟨source, isLocal, shown, names⟩ := ih
      exact ⟨source, isLocal, shown, .child member names⟩
  | windowAggregate bare member below ih =>
      obtain ⟨source, isLocal, shown, names⟩ := ih
      exact ⟨source, isLocal, shown, .child List.mem_cons_self (.child member names)⟩
  | innerAggregate named member below ih =>
      obtain ⟨source, isLocal, shown, names⟩ := ih
      exact ⟨source, isLocal, shown, .child member names⟩
  | nested bare carries within member below ih =>
      obtain ⟨source, isLocal, shown, names⟩ := ih
      obtain ⟨apart, shown⟩ := not_or.mp (fun inside => shown (List.mem_append.mpr inside))
      exact ⟨source, isLocal, shown, .nested carries within member apart names⟩

/-- An operand of a window that varies makes the window vary. -/
theorem Varies.ofOperand {grouped : List (Node V)} {locals hidden : List String} {seen : Bool}
    {call : WindowCall V} {partitionBy : List (Node V)} {orderBy : List (OrderNode V)}
    {frame : Option WindowFrameNode} {exclusion : Option WindowExclusion} {operand : Node V}
    (bare : ¬Fixed grouped hidden (.window call partitionBy orderBy frame exclusion))
    (member : operand ∈ windowOperands call partitionBy orderBy)
    (varies : Varies grouped locals hidden seen operand) :
    ∃ seen, Varies grouped locals hidden seen (.window call partitionBy orderBy frame exclusion) := by
  have direct : operand ∈ children (.window call partitionBy orderBy frame exclusion) →
      ∃ seen, Varies grouped locals hidden seen (.window call partitionBy orderBy frame exclusion) :=
    fun member => ⟨seen, .child bare (by simp) member varies⟩
  rcases List.mem_append.mp member with ofCall | other
  · cases call with
    | aggregate name arguments filter => exact ⟨false, .windowAggregate bare ofCall varies⟩
    | function name arguments =>
        obtain rfl := List.mem_singleton.mp ofCall
        exact direct List.mem_cons_self
  · exact direct (List.mem_cons_of_mem _ other)

theorem not_varies_column {grouped : List (Node V)} {locals hidden : List String} {seen : Bool}
    {source name : String} (fixed : source ∈ locals → Fixed grouped hidden (.column source name)) :
    ¬Varies grouped locals hidden seen (.column source name) := by
  intro varies
  cases varies with
  | column isLocal shown bare => exact bare (fixed isLocal)
  | child bare plain member below => cases member
  | nested bare carries within member below => cases carries

/-- Outside nested statements the operands of an aggregate take their values from all rows. -/
theorem not_varies_aggregate {grouped : List (Node V)} {locals : List String} {seen : Bool}
    {name : AggregateName} {arguments : List (Node V)} {filter : Option (Node V)} :
    ¬Varies grouped locals [] seen (.aggregate name arguments filter) := by
  intro varies
  cases varies with
  | child bare plain member below => exact plain name arguments filter rfl
  | innerAggregate named member below =>
      obtain ⟨source, inside, -⟩ := named
      cases inside
  | nested bare carries within member below => cases carries

/-! ### What does not vary is determined -/

namespace Scope.Represents

variable {locals : List String} {groups : RowGroups D} {scope scope' : Scope D}

theorem onGroup (represents : scope.Represents locals groups) {group : Nat}
    (valid : group < groups.count) :
    Scope.Represents { scope with current := group } locals groups :=
  { represents with current := valid }

/-- The rows of an aggregate of the SELECT do not depend on the representatives. -/
theorem onRows (represents : scope.Represents locals groups)
    (represents' : scope'.Represents locals groups)
    (same : scope.current = scope'.current) :
    scope.rows = scope'.rows ∧ ∀ row, scope.onRow row = scope'.onRow row := by
  constructor
  · rw [Scope.rows, Scope.rows, ← same, represents.rows _ represents.current,
      represents'.rows _ represents.current]
  · intro row
    simp only [Scope.onRow, represents.sources, represents'.sources]

end Scope.Represents

section

variable {I : GroupInterpretation V D} {grouped : List (Node V)} {locals : List String}
  {groups : RowGroups D}

/-- A GROUP BY expression has its value in nested statements too, unless one of them hides a source. -/
theorem groupValue_fixed
    (settled : ∀ grouping ∈ grouped, Settled I locals groups grouping)
    (direct : ∀ grouping ∈ grouped, containsAnalytic true true grouping = false)
    {scope scope' : Scope D} (represents : scope.Represents locals groups)
    (represents' : scope'.Represents locals groups) (same : scope.current = scope'.current)
    {node : Node V} {inner : List (Scope D)} (fixed : Fixed grouped (sourcesOf inner) node) :
    groupValue I (inner ++ [scope]) node = groupValue I (inner ++ [scope']) node := by
  obtain ⟨member, apart⟩ := fixed
  have alone : ∀ scope : Scope D, groupValue I ([] ++ (inner ++ [scope])) node =
      groupValue I ([] ++ [scope]) node := by
    intro scope
    apply groupValue_insert
    · exact fun source inside names => absurd names (apart source inside)
    · exact fun _ => direct node member
  calc groupValue I (inner ++ [scope]) node = groupValue I [scope] node := alone scope
    _ = groupValue I [scope'] node := settled node member scope scope' represents represents' same
    _ = groupValue I (inner ++ [scope']) node := (alone scope').symm

/-- In the scopes of nested statements an expression that does not vary has one value, whichever rows
represent the groups of the SELECT. -/
theorem groupValue_representatives
    (settled : ∀ grouping ∈ grouped, Settled I locals groups grouping)
    (direct : ∀ grouping ∈ grouped, containsAnalytic true true grouping = false)
    {scope scope' : Scope D} (represents : scope.Represents locals groups)
    (represents' : scope'.Represents locals groups) (same : scope.current = scope'.current)
    {node : Node V} {inner : List (Scope D)}
    (steady : ∀ seen, ¬Varies grouped locals (sourcesOf inner) seen node) :
    groupValue I (inner ++ [scope]) node = groupValue I (inner ++ [scope']) node := by
  induction node using groupValue_induction generalizing inner scope scope' with
  | column source name =>
      by_cases fixed : Fixed grouped (sourcesOf inner) (.column source name)
      · exact groupValue_fixed settled direct represents represents' same fixed
      · rw [groupValue_column, groupValue_column]
        by_cases inside : source ∈ sourcesOf inner
        · exact columnValue_prefix inside
        · have foreign : source ∉ locals := fun isLocal => steady true (.column isLocal inside fixed)
          have fromOutside : ∀ {scope : Scope D}, scope.Represents locals groups →
              columnValue I.outside source name [scope] = I.outside source name := fun represents => by
            rw [columnValue, represents.sources, if_neg foreign, columnValue]
          rw [columnValue_append inside, columnValue_append inside, fromOutside represents,
            fromOutside represents']
  | aggregate name arguments filter ih =>
      rcases aggregateScopes_cases (.aggregate name arguments filter) inner locals with
        ⟨own, -⟩ | ⟨outer, -⟩ | ⟨front, owner, back, rfl, rows, named⟩
      · obtain ⟨sameRows, sameRow⟩ := represents.onRows represents' same
        rw [groupValue_aggregate, groupValue_aggregate, own scope represents.sources,
          own scope' represents'.sources, sameRows]
        simp only [sameRow]
      · rw [groupValue_aggregate, groupValue_aggregate, outer scope represents.sources,
          outer scope' represents'.sources]
      · apply groupValue_aggregate_congr (some owner.rows) _ _ (rows scope) (rows scope')
        rintro _ ⟨⟩ row - child member
        have kept : sourcesOf (front ++ owner.onRow row :: back) =
            sourcesOf (front ++ owner :: back) := by
          simp [sourcesOf, Scope.onRow]
        apply ih child member represents represents' same
        intro seen varies
        rw [kept] at varies
        rcases named with named | unnamed
        · exact steady seen (.innerAggregate named member varies)
        · obtain ⟨source, -, -, names⟩ := varies.names
          exact unnamed source (.child member names)
  | window call partitionBy orderBy frame exclusion ih =>
      by_cases fixed : Fixed grouped (sourcesOf inner) (.window call partitionBy orderBy frame exclusion)
      · exact groupValue_fixed settled direct represents represents' same fixed
      · have operandSteady : ∀ operand ∈ windowOperands call partitionBy orderBy, ∀ seen,
            ¬Varies grouped locals (sourcesOf inner) seen operand := by
          intro operand member seen varies
          obtain ⟨seen, varies⟩ := Varies.ofOperand fixed member varies
          exact steady seen varies
        cases inner with
        | nil =>
            have number : groupCount [scope] = groupCount [scope'] :=
              represents.number.trans represents'.number.symm
            apply groupValue_window_congr number same
            intro group valid operand member
            have valid : group < groups.count := Nat.lt_of_lt_of_eq valid represents.number
            exact ih operand member (represents.onGroup valid) (represents'.onGroup valid) rfl
              (operandSteady operand member)
        | cons first rest =>
            refine groupValue_window_congr rfl rfl fun group _ operand member => ?_
            have inGroup : groupValue I (({ first with current := group } :: rest) ++ [scope]) operand =
                groupValue I (({ first with current := group } :: rest) ++ [scope']) operand :=
              ih operand member represents represents' same (operandSteady operand member)
            exact inGroup
  | plain node isPlain operands held =>
      by_cases fixed : Fixed grouped (sourcesOf inner) node
      · exact groupValue_fixed settled direct represents represents' same fixed
      · have notAggregate : ∀ name arguments filter, node ≠ .aggregate name arguments filter := by
          rintro name arguments filter rfl
          cases isPlain
        apply groupValue_plain_congr isPlain
        · intro child member
          exact operands child member represents represents' same fun seen varies =>
            steady seen (.child fixed notAggregate member varies)
        · intro statement clause first holds own
          have below : groupValue I ((first :: inner) ++ [scope]) clause.expression =
              groupValue I ((first :: inner) ++ [scope']) clause.expression := by
            apply held statement clause holds represents represents' same
            intro seen varies
            obtain ⟨query, carries, within, member⟩ := holds
            rw [sourcesOf, List.flatMap_cons, own] at varies
            exact steady false (.nested fixed carries within member varies)
          exact below

end

end Relq
