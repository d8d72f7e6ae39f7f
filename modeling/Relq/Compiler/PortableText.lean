/-
Module: Relq.Compiler.PortableText
Layer: Compiler
Purpose: The text of a statement that uses no construct reserved to PostgreSQL holds none of the
  words and symbols that only those constructs are written with. Together with the dialect gate this
  is what the SQLite compiler promises about its output.
Imports: Relq.Compiler.Portability, Relq.Compiler.LayoutAssembly
Trusted boundary: human-reviewed spec (postgresWords, postgresSymbols)
Main exports: Lexeme.isReserved, portable_term, compileSqlite_portable
-/
import Relq.Compiler.Portability
import Relq.Compiler.LayoutAssembly

namespace Relq

open Templates Outcome

variable {V : Type}

/-- Words of the temporal functions, of intervals, of the UUID cast and of row locks. -/
def postgresWords : List String :=
  ["current_date", "current_time", "localtime", "localtimestamp", "transaction_timestamp",
    "statement_timestamp", "clock_timestamp", "make_date", "make_time", "make_timestamp",
    "make_timestamptz", "make_interval", "to_timestamp", "interval", "at", "time", "zone", "extract",
    "date_trunc", "date_bin", "age", "overlaps", "justify_days", "justify_hours",
    "justify_interval", "uuid", "for", "share", "nowait", "skip", "locked"]

/-- Casts and named arguments, JSON extraction, and the regular expression operators. -/
def postgresSymbols : List String :=
  ["::", "=>", "->>", "~", "~*"]

/-- Whether a lexeme only occurs in constructs reserved to PostgreSQL. The `E''` constants stand in
arbiter predicates. -/
def Lexeme.isReserved : Lexeme → Bool
  | .word text => text ∈ postgresWords
  | .symbol text => text ∈ postgresSymbols
  | .escaped _ => true
  | _ => false

/-! ### Portable pieces of text -/

def PortableText (text : Text) : Prop :=
  ∀ item ∈ text, item.isReserved = false

instance (text : Text) : Decidable (PortableText text) :=
  inferInstanceAs (Decidable (∀ item ∈ text, _))

@[simp] theorem portable_nil : PortableText [] := fun _ member => absurd member List.not_mem_nil

@[simp] theorem portable_cons {item : Lexeme} {text : Text} :
    PortableText (item :: text) ↔ item.isReserved = false ∧ PortableText text :=
  List.forall_mem_cons

@[simp] theorem portable_append {first second : Text} :
    PortableText (first ++ second) ↔ PortableText first ∧ PortableText second :=
  List.forall_mem_append

@[simp] theorem portable_parens {text : Text} : PortableText (parens text) ↔ PortableText text := by
  have left : (Lexeme.symbol "(").isReserved = false := by decide
  have right : (Lexeme.symbol ")").isReserved = false := by decide
  simp [parens, left, right]

theorem portable_spaces {texts : List Text} (each : ∀ text ∈ texts, PortableText text) :
    PortableText (spaces texts) := by
  induction texts with
  | nil => exact portable_nil
  | cons text rest ih =>
      have first := each text List.mem_cons_self
      have later := ih fun other member => each other (List.mem_cons_of_mem _ member)
      cases rest with
      | nil => exact first
      | cons next rest => simp [spaces, first, later, Lexeme.isReserved]

@[simp] theorem portable_identifiers (names : List String) : PortableText (identifiers names) := by
  have comma : PortableText [.symbol ",", .space] := by decide
  unfold identifiers
  induction names with
  | nil => exact portable_nil
  | cons name rest ih =>
      cases rest with
      | nil => simp [commas, Lexeme.isReserved]
      | cons next rest =>
          rw [List.map_cons, List.map_cons, commas, portable_append, portable_append]
          · exact ⟨⟨by simp [Lexeme.isReserved], comma⟩, ih⟩
          · simp

/-! ### Portable layouts -/

/-- The fixed text of a layout is portable. -/
def Layout.Portable (layout : Layout V) : Prop :=
  PortableText layout.items

namespace Layout

variable {layout layout' : Layout V} {layouts : List (Layout V)}

@[simp] theorem portable_fixed {text : Text} :
    Layout.Portable (.fixed text : Layout V) ↔ PortableText text :=
  Iff.rfl

@[simp] theorem portable_hole (value : V) : Layout.Portable (.hole value : Layout V) :=
  portable_nil

@[simp] theorem portable_add :
    Layout.Portable (layout ++ layout') ↔ layout.Portable ∧ layout'.Portable :=
  portable_append

@[simp] theorem portable_late :
    Layout.Portable (.late layout layout') ↔ layout.Portable ∧ layout'.Portable :=
  portable_append

@[simp] theorem portable_parens : (parens layout).Portable ↔ layout.Portable := by
  have left : PortableText [.symbol "("] := by decide
  have right : PortableText [.symbol ")"] := by decide
  simp only [parens, portable_add, portable_fixed, left, right, true_and, and_true]

theorem portable_separated {separator : Text} (plain : PortableText separator)
    (each : ∀ layout ∈ layouts, layout.Portable) : Layout.Portable (.separated separator layouts) :=
  Template.separated_of_each (P := fun layout : Layout V => layout.Portable) portable_nil plain
    (fun first second => portable_add.mpr ⟨first, second⟩) each

theorem portable_commas (each : ∀ layout ∈ layouts, layout.Portable) : (commas layouts).Portable := by
  rw [commas_eq]
  exact portable_separated (by decide) each

theorem portable_spaces (each : ∀ layout ∈ layouts, layout.Portable) : (spaces layouts).Portable := by
  rw [spaces_eq]
  exact portable_separated (by decide) each

theorem portable_call {name : String} (plain : PortableText [.word name])
    (each : ∀ layout ∈ layouts, layout.Portable) : (call name layouts).Portable :=
  portable_add.mpr ⟨plain, portable_parens.mpr (portable_commas each)⟩

theorem portable_operation {operator : Text} (left : layout.Portable)
    (plain : PortableText operator) (right : layout'.Portable) :
    (operation layout operator layout').Portable := by
  have space : PortableText [.space] := by decide
  exact portable_parens.mpr (portable_add.mpr ⟨portable_add.mpr ⟨left,
    portable_append.mpr ⟨portable_append.mpr ⟨space, plain⟩, space⟩⟩, right⟩)

theorem portable_aggregate {name : AggregateName} {filter : Option (Layout V)}
    (each : ∀ layout ∈ layouts, layout.Portable) (filtered : ∀ layout ∈ filter, layout.Portable) :
    (aggregate name layouts filter).Portable := by
  have called : (call name.text layouts).Portable := by
    apply portable_call _ each
    cases name <;> decide
  cases filter with
  | none => exact called
  | some filter =>
      have keyword : PortableText (spaced ["filter"]) := by decide
      have where_ : PortableText [.word "where", .space] := by decide
      exact portable_add.mpr ⟨portable_add.mpr ⟨called, keyword⟩,
        portable_parens.mpr (portable_add.mpr ⟨where_, filtered filter rfl⟩)⟩

theorem portable_clause {keywords : List String}
    (plain : PortableText (words keywords ++ [Lexeme.space]))
    (each : ∀ layout ∈ layouts, layout.Portable) :
    ∀ layout ∈ clause keywords layouts, layout.Portable := by
  unfold clause
  split
  · exact fun _ member => absurd member List.not_mem_nil
  · exact List.forall_mem_singleton.mpr (portable_add.mpr ⟨plain, portable_commas each⟩)

theorem portable_optional {keywords : List String} {slot : Option (Layout V)}
    (plain : PortableText (spaced keywords)) (each : ∀ layout ∈ slot, layout.Portable) :
    (optional keywords slot).Portable := by
  cases slot with
  | none => exact portable_nil
  | some layout => exact portable_add.mpr ⟨plain, each layout rfl⟩

theorem portable_listed {keywords : List String} (plain : PortableText (spaced keywords))
    (each : ∀ layout ∈ layouts, layout.Portable) : (listed keywords layouts).Portable := by
  unfold listed
  split
  · exact portable_nil
  · exact portable_add.mpr ⟨plain, portable_commas each⟩

end Layout

/-! ### Text the renderer computes by itself -/

theorem portable_boundary (boundary : FrameBoundaryNode) :
    PortableText (compileFrameBoundary boundary) := by
  obtain ⟨kind, amount⟩ := boundary
  have plain : PortableText (words kind.words) := by cases kind <;> decide
  cases amount with
  | none => exact plain
  | some amount => exact portable_append.mpr ⟨by simp [Lexeme.isReserved], plain⟩

theorem portable_frame (frame : Option WindowFrameNode) (orderCount : Nat)
    (exclusion : Option WindowExclusion) :
    ∀ layout ∈ (Layout.frame frame orderCount exclusion : List (Layout V)), layout.Portable := by
  intro layout member
  obtain ⟨text, inside, rfl⟩ := List.mem_map.mp member
  cases frame with
  | none => cases inside
  | some frame =>
      obtain ⟨kind, start, stop⟩ := frame
      have space : PortableText [.space] := by decide
      have head : PortableText ([.word kind.text, .space, .word "between", .space] : Text) := by
        cases kind <;> decide
      have and_ : PortableText (spaced ["and"]) := by decide
      have exclude : PortableText (spaced ["exclude"]) := by decide
      simp only [frameClause, compileWindowFrame] at inside
      split at inside
      · simp [Except.toOption, bind, Except.bind] at inside
      · cases exclusion with
        | none =>
            simp only [Except.toOption, bind, Except.bind, pure, Except.pure, Option.getD_some,
              List.mem_singleton] at inside
            rw [inside]
            simp only [Layout.portable_fixed, portable_append]
            exact ⟨⟨⟨head, portable_boundary start⟩, and_⟩, portable_boundary stop⟩
        | some exclusion =>
            have named : PortableText (words exclusion.words) := by cases exclusion <;> decide
            simp only [Except.toOption, bind, Except.bind, pure, Except.pure, Option.getD_some,
              List.mem_singleton] at inside
            rw [inside]
            simp only [Layout.portable_fixed, portable_append]
            exact ⟨⟨⟨⟨⟨head, portable_boundary start⟩, and_⟩, portable_boundary stop⟩, exclude⟩, named⟩

theorem portable_table {table : TableSourceNode} (plain : table.schema.isSome = false) :
    (Layout.plain (compileTable sqlite table) : Layout V).Portable := by
  obtain ⟨name, aliasName, schema⟩ := table
  obtain rfl : schema = none := Option.not_isSome_iff_eq_none.mp (by simp [plain])
  have as_ : PortableText (spaced ["as"]) := by decide
  cases aliasName <;>
    simp [Layout.plain, compileTable, Except.toOption, bind, Except.bind, pure, Except.pure, as_,
      Lexeme.isReserved]

theorem portable_limit (limit offset : Option Int) : PortableText (limitText sqlite limit offset) := by
  have limit_ : PortableText (spaced ["limit"]) := by decide
  have offset_ : PortableText (spaced ["offset"]) := by decide
  cases limit <;> cases offset <;>
    simp [limitText, limit_, offset_, sqlite, Lexeme.isReserved]

theorem portable_orderText (direction : Direction) (nulls : Option NullPlacement) :
    PortableText (orderText [] direction nulls) := by
  cases direction <;> rcases nulls with _ | _ | _ <;> decide

/-! ### Expressions -/

section
variable [PyObject V]

/-- The layouts of all these terms are portable. -/
abbrev EachPortable (parts : List (Term V)) : Prop :=
  ∀ part ∈ parts, (layoutTerm sqlite part).Portable

theorem portable_nodes {nodes : List (Node V)} (each : EachPortable (nodes.map .expression)) :
    ∀ layout ∈ layoutNodes sqlite nodes, layout.Portable :=
  forall_layoutNodes sqlite (fun _ portable => portable) each

theorem portable_option {slot : Option (Node V)} (each : EachPortable (slot.toList.map .expression)) :
    ∀ layout ∈ layoutOption sqlite slot, layout.Portable :=
  forall_layoutOption sqlite (fun _ portable => portable) each

theorem portable_branches {branches : List (Node V × Node V)} (each : EachPortable
      ((branches.flatMap fun branch => [branch.1, branch.2]).map .expression)) :
    ∀ layout ∈ layoutBranches sqlite branches, layout.Portable := by
  induction branches with
  | nil => exact fun _ member => absurd member (by simp [layoutBranches])
  | cons branch rest ih =>
      obtain ⟨condition, value⟩ := branch
      have when_ : PortableText [.word "when", .space] := by decide
      have then_ : PortableText (spaced ["then"]) := by decide
      obtain ⟨first, later⟩ := List.forall_mem_cons.mp each
      obtain ⟨second, later⟩ := List.forall_mem_cons.mp later
      refine List.forall_mem_cons.mpr ⟨?_, ih later⟩
      simp only [Layout.portable_add, Layout.portable_fixed]
      exact ⟨⟨⟨when_, first⟩, then_⟩, second⟩

theorem portable_orders {orders : List (OrderNode V)} (each : EachPortable (orders.map .order)) :
    ∀ layout ∈ layoutOrders sqlite orders, layout.Portable := by
  induction orders with
  | nil => exact fun _ member => absurd member (by simp [layoutOrders])
  | cons order rest ih =>
      obtain ⟨expression, direction, nulls⟩ := order
      obtain ⟨first, later⟩ := List.forall_mem_cons.mp each
      exact List.forall_mem_cons.mpr
        ⟨Layout.portable_add.mpr ⟨first, portable_orderText direction nulls⟩, ih later⟩

theorem portable_windowCall {call : WindowCall V}
    (inner : (layoutNode sqlite call.toNode).Portable) :
    (layoutWindowCall sqlite call).Portable := by
  rw [layoutWindowCall_eq]
  exact inner

/-- An expression that is no reserved construct is written portably if its parts are. -/
theorem portable_node {node : Node V} (plain : node.construct = none)
    (each : EachPortable (renderedParts (.expression node))) :
    (layoutNode sqlite node).Portable := by
  have part {inner : Node V} (member : inner ∈ children node) : (layoutNode sqlite inner).Portable :=
    each (.expression inner) (List.mem_append_left _ (List.mem_map.mpr ⟨inner, member, rfl⟩))
  have query {inner : SelectNode V} (nested : node.nestedSelect = some inner) :
      (layoutSelect sqlite inner).Portable :=
    each (.select inner) (List.mem_append_right _
      (List.mem_map.mpr ⟨inner, Option.mem_toList.mpr nested, rfl⟩))
  cases node with
  | column source name =>
      rw [layoutNode]
      simp [Lexeme.isReserved, postgresSymbols]
  | excluded source name =>
      rw [layoutNode]
      simp [Lexeme.isReserved, postgresSymbols, postgresWords]
  | value value => exact Layout.portable_hole value
  | star => exact (by decide : PortableText [.symbol "*"])
  | binary left operator right =>
      exact Layout.portable_operation (part (by simp [children])) (by cases operator <;> decide)
        (part (by simp [children]))
  | unary operator operand =>
      have spelled : PortableText ([Lexeme.space] ++ words operator.words) := by
        cases operator <;> decide
      exact Layout.portable_parens.mpr
        (Layout.portable_add.mpr ⟨part (by simp [children]), spelled⟩)
  | function name arguments =>
      rw [layoutNode]
      exact Layout.portable_call (by cases name <;> decide)
        (portable_nodes fun part inside => each part (List.mem_append_left _ inside))
  | case branches otherwise =>
      have case_ : PortableText [.word "case", .space] := by decide
      have else_ : PortableText (spaced ["else"]) := by decide
      have end_ : PortableText [.space, .word "end"] := by decide
      have inside : EachPortable ((branches.flatMap fun branch => [branch.1, branch.2]).map
          .expression) := fun _ member => each _ (by
        rw [renderedParts, children, List.map_append]
        exact List.mem_append_left _ (List.mem_append_left _ member))
      rw [layoutNode]
      simp only [Layout.portable_add, Layout.portable_fixed]
      exact ⟨⟨⟨⟨case_, Layout.portable_spaces (portable_branches inside)⟩, else_⟩,
        part (by simp [children])⟩, end_⟩
  | aggregate name arguments filter =>
      rw [layoutNode]
      refine Layout.portable_aggregate (portable_nodes fun _ member => each _ ?_)
        (portable_option fun _ member => each _ ?_)
      · rw [renderedParts, children, List.map_append]
        exact List.mem_append_left _ (List.mem_append_left _ member)
      · rw [renderedParts, children, List.map_append]
        exact List.mem_append_left _ (List.mem_append_right _ member)
  | window call partitionBy orderBy frame exclusion =>
      have over_ : PortableText (spaced ["over"]) := by decide
      have partitions : EachPortable (partitionBy.map .expression) := fun _ member => each _ (by
        obtain ⟨inner, inside, rfl⟩ := List.mem_map.mp member
        exact List.mem_append_left _ (List.mem_map.mpr ⟨inner, by simp [children, inside], rfl⟩))
      have orders : EachPortable (orderBy.map .order) := fun _ member => each _ (by
        obtain ⟨order, inside, rfl⟩ := List.mem_map.mp member
        refine List.mem_append_left _ (List.mem_map.mpr ⟨order.expression, ?_, rfl⟩)
        simp only [children, List.cons_append, List.mem_cons, List.mem_append, List.mem_map]
        exact Or.inr (Or.inr ⟨order, inside, rfl⟩))
      rw [layoutNode, Layout.portable_late, Layout.portable_add]
      refine ⟨portable_windowCall (part (by simp [children])), over_,
        Layout.portable_parens.mpr (Layout.portable_spaces ?_)⟩
      simp only [List.forall_mem_append]
      exact ⟨⟨Layout.portable_clause (by decide) (portable_nodes partitions),
        Layout.portable_clause (by decide) (portable_orders orders)⟩,
        portable_frame frame orderBy.length exclusion⟩
  | aliased operand aliasName =>
      have as_ : PortableText (spaced ["as"] ++ [Lexeme.identifier aliasName]) := by
        have : PortableText (spaced ["as"]) := by decide
        simp [this, Lexeme.isReserved]
      exact Layout.portable_add.mpr ⟨part (by simp [children]), as_⟩
  | nullableResult operand =>
      have inner : (layoutNode sqlite operand).Portable := part (by simp [children])
      exact inner
  | inNode expression values negated =>
      have in_ : PortableText (words (if negated then ["not", "in"] else ["in"])) := by
        cases negated <;> decide
      rw [layoutNode]
      refine Layout.portable_operation (part ?_) in_ ?_
      · cases values <;> simp [children]
      · cases values with
        | nodes values =>
            refine Layout.portable_parens.mpr (Layout.portable_commas (portable_nodes ?_))
            exact fun _ member => each _ (List.mem_append_left _ (List.mem_cons_of_mem _ member))
        | select inner => exact Layout.portable_parens.mpr (query rfl)
  | between expression lower upper negated =>
      have between_ : PortableText (words (if negated then ["not", "between"] else ["between"])) := by
        cases negated <;> decide
      have and_ : PortableText (spaced ["and"]) := by decide
      exact Layout.portable_operation (part (by simp [children])) between_
        (Layout.portable_add.mpr ⟨Layout.portable_add.mpr ⟨part (by simp [children]), and_⟩,
          part (by simp [children])⟩)
  | scalarSubquery inner => exact Layout.portable_parens.mpr (query rfl)
  | «exists» inner negated =>
      have exists_ : PortableText (words (if negated then ["not", "exists"] else ["exists"]) ++
          [Lexeme.space]) := by
        cases negated <;> decide
      exact Layout.portable_add.mpr ⟨exists_, Layout.portable_parens.mpr (query rfl)⟩
  | jsonText _ _ | regexMatch _ _ _ | uuidCast _ => cases plain
  | temporalClock _ | temporalMakeDate _ _ _ | temporalMakeTime _ _ _
  | temporalMakeTimestamp _ _ _ _ _ _ | temporalMakeTimestamptz _ _ _ _ _ _ _
  | temporalMakeInterval _ | temporalEpoch _ | temporalArithmetic _ _ _ | temporalDifference _ _
  | temporalIntervalUnary _ | temporalIntervalScale _ _ _ | temporalTimezone _ _
  | temporalExtract _ _ | temporalTrunc _ _ | temporalTruncTimestamptz _ _ _ | temporalBin _ _ _
  | temporalAge _ _ | temporalOverlaps _ _ _ _ | temporalJustify _ _ => cases plain

/-! ### Statements -/

theorem portable_source {source : SourceNode V} (each : EachPortable (sourceParts source))
    (plain : ∀ table, source.directTable = some table → table.schema.isSome = false) :
    (layoutSource sqlite source).Portable := by
  cases source with
  | table table => exact portable_table (plain table rfl)
  | cte name => exact Layout.portable_fixed.mpr (by simp [Lexeme.isReserved])
  | derived query aliasName =>
      have as_ : PortableText (spaced ["as"] ++ [Lexeme.identifier aliasName]) := by
        have : PortableText (spaced ["as"]) := by decide
        simp [this, Lexeme.isReserved]
      exact Layout.portable_add.mpr
        ⟨Layout.portable_parens.mpr (each (.select query) List.mem_cons_self), as_⟩

theorem portable_joins {joins : List (JoinNode V)} (each : EachPortable (joins.flatMap joinParts))
    (plain : ∀ join ∈ joins, ∀ table, join.source.directTable = some table →
      table.schema.isSome = false)
    (kinds : ∀ join ∈ joins, PortableText (spaced [join.kind, "join"])) :
    (layoutJoins sqlite joins).Portable := by
  induction joins with
  | nil => exact portable_nil
  | cons join rest ih =>
      obtain ⟨source, predicate, kind⟩ := join
      have on_ : PortableText (spaced ["on"]) := by decide
      obtain ⟨plainFirst, plainLater⟩ := List.forall_mem_cons.mp plain
      obtain ⟨kindFirst, kindLater⟩ := List.forall_mem_cons.mp kinds
      rw [List.flatMap_cons] at each
      obtain ⟨eachFirst, eachLater⟩ := List.forall_mem_append.mp each
      have first := portable_source (fun _ member => eachFirst _ (List.mem_append_left _ member))
        plainFirst
      have later := ih eachLater plainLater kindLater
      rw [layoutJoins]
      split
      · rename_i crossed
        have condition := eachFirst (.expression predicate) (List.mem_append_right _ (by
          rw [if_pos crossed]
          exact List.mem_cons_self))
        simp only [Layout.portable_add, Layout.portable_fixed]
        exact ⟨⟨⟨⟨kindFirst, first⟩, on_⟩, condition⟩, later⟩
      · simp only [Layout.portable_add, Layout.portable_fixed]
        exact ⟨⟨kindFirst, first⟩, later⟩

theorem portable_ctes {ctes : List (CteNode V)}
    (each : EachPortable (ctes.map fun cte => .statement cte.query)) :
    ∀ layout ∈ layoutCtes sqlite ctes, layout.Portable := by
  induction ctes with
  | nil => exact fun _ member => absurd member (by simp [layoutCtes])
  | cons cte rest ih =>
      obtain ⟨name, query, recursive, materialized⟩ := cte
      have as_ : PortableText ([Lexeme.identifier name] ++
          (if materialized then spaced ["as"] ++ [Lexeme.word "materialized", .space]
            else spaced ["as"])) := by
        have plain : PortableText (spaced ["as"]) := by decide
        have word : PortableText [.word "materialized", .space] := by decide
        cases materialized
        · exact portable_append.mpr ⟨by simp [Lexeme.isReserved], plain⟩
        · exact portable_append.mpr ⟨by simp [Lexeme.isReserved], portable_append.mpr ⟨plain, word⟩⟩
      obtain ⟨first, later⟩ := List.forall_mem_cons.mp each
      exact List.forall_mem_cons.mpr
        ⟨Layout.portable_add.mpr ⟨as_, Layout.portable_parens.mpr first⟩, ih later⟩

theorem portable_compounds {compounds : List (CompoundNode V)}
    (each : EachPortable (compounds.map fun compound => .select compound.query)) :
    (layoutCompounds sqlite compounds).Portable := by
  induction compounds with
  | nil => exact portable_nil
  | cons compound rest ih =>
      obtain ⟨operator, query⟩ := compound
      have spelled : PortableText (spaced operator.words) := by cases operator <;> decide
      obtain ⟨first, later⟩ := List.forall_mem_cons.mp each
      exact Layout.portable_add.mpr ⟨Layout.portable_add.mpr ⟨spelled, first⟩, ih later⟩

omit [PyObject V] in
/-- The kinds that pass the outer-join analysis are the five of SQL. -/
theorem nullExtendedJoins_kinds {joins : List (JoinNode V)} {visible nullable result : List String}
    (done : nullExtendedJoins joins visible nullable = .ok result) :
    ∀ join ∈ joins, join.kind ∈ ["left", "right", "full", "inner", "cross"] := by
  induction joins generalizing visible nullable with
  | nil => exact fun _ member => absurd member List.not_mem_nil
  | cons join rest ih =>
      rw [nullExtendedJoins] at done
      obtain ⟨extended, known, done⟩ := bind_eq_ok.mp done
      refine List.forall_mem_cons.mpr ⟨?_, ih done⟩
      by_contra unknown
      simp only [List.mem_cons, List.not_mem_nil, or_false, not_or] at unknown
      obtain ⟨left, right, full, inner, cross⟩ := unknown
      simp [extendedBy, left, right, full, inner, cross] at known

theorem portable_assignments {values : List (String × Node V)}
    (each : EachPortable (values.map .named)) :
    ∀ layout ∈ layoutAssignments sqlite values, layout.Portable := by
  induction values with
  | nil => exact fun _ member => absurd member (by simp [layoutAssignments])
  | cons pair rest ih =>
      obtain ⟨column, value⟩ := pair
      have equals : PortableText [.identifier column, .space, .symbol "=", .space] := by
        simp [Lexeme.isReserved, postgresSymbols]
      obtain ⟨first, later⟩ := List.forall_mem_cons.mp each
      exact List.forall_mem_cons.mpr ⟨Layout.portable_add.mpr ⟨equals, first⟩, ih later⟩

theorem portable_cells {cells : List (String × Node V)} (each : EachPortable (cells.map .named)) :
    ∀ layout ∈ layoutCells sqlite cells, layout.Portable := by
  rw [layoutCells_eq]
  intro layout member
  obtain ⟨cell, inside, rfl⟩ := List.mem_map.mp member
  exact each (.named cell) (List.mem_map.mpr ⟨cell, inside, rfl⟩)

theorem portable_rows {rows : List (List (String × Node V))}
    (each : EachPortable (rows.flatMap fun row => row.map .named)) :
    ∀ layout ∈ layoutRows sqlite rows, layout.Portable := by
  induction rows with
  | nil => exact fun _ member => absurd member (by simp [layoutRows])
  | cons row rest ih =>
      rw [List.flatMap_cons] at each
      obtain ⟨first, later⟩ := List.forall_mem_append.mp each
      exact List.forall_mem_cons.mpr
        ⟨Layout.portable_parens.mpr (Layout.portable_commas (portable_cells first)), ih later⟩

theorem portable_insertSource {source : InsertSourceNode V}
    (each : EachPortable (insertSourceParts source)) :
    (layoutInsertSource sqlite source).Portable := by
  have space : PortableText [.space] := by decide
  have values_ : PortableText [.space, .word "values", .space] := by decide
  cases source with
  | values values =>
      rw [layoutInsertSource]
      simp only [Layout.portable_add, Layout.portable_fixed, Layout.portable_parens, portable_append,
        portable_parens]
      exact ⟨⟨⟨space, portable_identifiers _⟩, values_⟩, Layout.portable_commas (portable_cells each)⟩
  | rows rows =>
      rw [layoutInsertSource]
      simp only [Layout.portable_add, Layout.portable_fixed, portable_append, portable_parens]
      exact ⟨⟨⟨space, portable_identifiers _⟩, values_⟩, Layout.portable_commas (portable_rows each)⟩
  | select query columns =>
      rw [layoutInsertSource]
      simp only [Layout.portable_add, Layout.portable_fixed, portable_append, portable_parens]
      exact ⟨⟨⟨space, portable_identifiers _⟩, space⟩, each (.select query) List.mem_cons_self⟩
  | defaultValues => exact (by decide : PortableText (.space :: words ["default", "values"]))

/-- A conflict clause without predicates. -/
theorem portable_conflict {conflict : ConflictNode V} (plain : conflict.predicates = [])
    (each : EachPortable (if conflict.action = "nothing" then [] else
      conflict.updateValues.map .named ++ conflict.updateWhere.toList.map .expression)) :
    (layoutConflict sqlite conflict).Portable := by
  obtain ⟨columns, action, updateValues, targetWhere, updateWhere⟩ := conflict
  have absent := List.append_eq_nil_iff.mp plain
  obtain rfl : targetWhere = none := Option.toList_eq_nil_iff.mp absent.1
  have on_ : PortableText (.space :: words ["on", "conflict"]) := by decide
  have target : (Layout.plain (conflictTarget columns (none : Option (Node V))) :
      Layout V).Portable := by
    have space : PortableText [.space] := by decide
    cases columns with
    | nil => exact portable_nil
    | cons column rest =>
        exact portable_append.mpr ⟨space, portable_parens.mpr (portable_identifiers _)⟩
  rw [layoutConflict]
  by_cases nothing : action = "nothing"
  · rw [if_pos nothing]
    exact Layout.portable_add.mpr ⟨Layout.portable_add.mpr ⟨on_, target⟩,
      (by decide : PortableText (.space :: words ["do", "nothing"]))⟩
  · rw [if_neg nothing] at each ⊢
    obtain ⟨values, where_⟩ := List.forall_mem_append.mp each
    have set_ : PortableText (spaced ["do", "update", "set"]) := by decide
    simp only [Layout.portable_add, Layout.portable_fixed]
    exact ⟨⟨on_, target⟩, ⟨set_, Layout.portable_commas (portable_assignments values)⟩,
      Layout.portable_optional (by decide) (portable_option where_)⟩

theorem portable_insert {query : InsertNode V}
    (plain : ∀ construct, (QueryNode.insert query).uses construct = false)
    (each : EachPortable (renderedParts (.statement (.insert query)))) :
    (layoutInsert sqlite query).Portable := by
  have unqualified : query.table.schema.isSome = false := by
    simpa [QueryNode.uses, QueryNode.tables] using plain .schemaQualified
  have arbiters : query.conflict.toList.flatMap ConflictNode.predicates = [] := by
    simpa [QueryNode.uses] using plain .conflictPredicate
  obtain ⟨table, slot, conflict, returning⟩ := query
  have insert_ : PortableText (words ["insert", "into"] ++ [Lexeme.space]) := by decide
  rw [renderedParts] at each
  obtain ⟨given, returned⟩ := List.forall_mem_append.mp each
  have source : (layoutInsertSourceOption sqlite slot).Portable := by
    cases slot with
    | none => exact portable_nil
    | some source =>
        exact portable_insertSource fun _ member =>
          given _ (List.mem_append_left _ (List.mem_append_left _ member))
  have clause : (if slot.any (·.isDefaultValues) then .fixed []
      else layoutConflictOption sqlite conflict : Layout V).Portable := by
    split
    · exact portable_nil
    · rename_i ordinary
      dsimp only at given
      rw [insertParts_given ordinary] at given
      cases conflict with
      | none => exact portable_nil
      | some conflict =>
          refine portable_conflict (by simpa using arbiters) fun _ member => given _ ?_
          exact List.mem_append_right _ (List.mem_append_left _ member)
  rw [layoutInsert]
  simp only [Layout.portable_add, Layout.portable_fixed]
  exact ⟨⟨⟨⟨insert_, portable_table unqualified⟩, source⟩, clause⟩,
    Layout.portable_listed (by decide) (portable_nodes returned)⟩

theorem portable_update {query : UpdateNode V}
    (plain : ∀ construct, (QueryNode.update query).uses construct = false)
    (each : EachPortable (renderedParts (.statement (.update query)))) :
    (layoutUpdate sqlite query).Portable := by
  have unqualified : query.table.schema.isSome = false := by
    simpa [QueryNode.uses, QueryNode.tables] using plain .schemaQualified
  obtain ⟨table, values, whereNode, bounded, returning⟩ := query
  have update_ : PortableText [.word "update", .space] := by decide
  have set_ : PortableText (spaced ["set"]) := by decide
  simp only [renderedParts, List.forall_mem_append] at each
  obtain ⟨⟨values, where_⟩, returned⟩ := each
  rw [layoutUpdate]
  simp only [Layout.portable_add, Layout.portable_fixed]
  exact ⟨⟨⟨⟨⟨update_, portable_table unqualified⟩, set_⟩,
    Layout.portable_commas (portable_assignments values)⟩,
    Layout.portable_optional (by decide) (portable_option where_)⟩,
    Layout.portable_listed (by decide) (portable_nodes returned)⟩

theorem portable_delete {query : DeleteNode V}
    (plain : ∀ construct, (QueryNode.delete query).uses construct = false)
    (each : EachPortable (renderedParts (.statement (.delete query)))) :
    (layoutDelete sqlite query).Portable := by
  have unqualified : query.table.schema.isSome = false := by
    simpa [QueryNode.uses, QueryNode.tables] using plain .schemaQualified
  obtain ⟨table, whereNode, bounded, returning⟩ := query
  have delete_ : PortableText (words ["delete", "from"] ++ [Lexeme.space]) := by decide
  simp only [renderedParts, List.forall_mem_append] at each
  obtain ⟨where_, returned⟩ := each
  rw [layoutDelete]
  simp only [Layout.portable_add, Layout.portable_fixed]
  exact ⟨⟨⟨delete_, portable_table unqualified⟩,
    Layout.portable_optional (by decide) (portable_option where_)⟩,
    Layout.portable_listed (by decide) (portable_nodes returned)⟩

variable [DecidableEq V]

theorem SelectRules.kinds {query : SelectNode V} {outer : List String}
    (rules : SelectRules query sqlite outer) :
    ∀ join ∈ query.joins, PortableText (spaced [join.kind, "join"]) := by
  obtain ⟨first, available, sources⟩ := validateSources_rules rules.sources
  have checked := sources.nullability
  rw [validateProjectedNullability, nullExtendedSources, sources.fromSource] at checked
  obtain ⟨nullable, known, -⟩ := bind_eq_ok.mp checked
  intro join member
  have kind := nullExtendedJoins_kinds known join member
  generalize join.kind = text at kind ⊢
  revert text
  decide

theorem portable_select {query : SelectNode V} {outer : List String}
    (rules : SelectRules query sqlite outer)
    (plain : ∀ construct, (QueryNode.select query).uses construct = false)
    (each : EachPortable (renderedParts (.select query))) : (layoutSelect sqlite query).Portable := by
  have kinds := rules.kinds
  have unlocked : query.locks = [] := by simpa [QueryNode.uses] using plain .rowLock
  have unqualified : ∀ source ∈ query.sources, ∀ table, source.directTable = some table →
      table.schema.isSome = false := by
    intro source listed table named
    have none_ := List.any_eq_false.mp (plain .schemaQualified) table
      (List.mem_filterMap.mpr ⟨source, listed, named⟩)
    exact Bool.eq_false_iff.mpr none_
  obtain ⟨selections, fromSource, joins, whereNode, groupBy, having, orderBy, limit, offset,
    distinct, ctes, compounds, locks⟩ := query
  simp only [renderedParts, List.forall_mem_append] at each
  obtain ⟨⟨⟨⟨⟨⟨⟨⟨inCtes, inSelections⟩, inFrom⟩, inJoins⟩, inWhere⟩, inGroup⟩, inHaving⟩, inOrder⟩,
    inCompounds⟩ := each
  obtain rfl : locks = [] := unlocked
  have from_ : (layoutFrom sqlite fromSource).Portable := by
    cases fromSource with
    | none => exact portable_nil
    | some source =>
        exact portable_source (fun _ member => inFrom _ (List.mem_append_left _ member))
          (unqualified source (List.mem_append_left _ List.mem_cons_self))
  have joined : (layoutJoins sqlite joins).Portable :=
    portable_joins inJoins (fun join member => unqualified join.source
      (List.mem_append_right _ (List.mem_map.mpr ⟨join, member, rfl⟩))) kinds
  have with_ : (if ctes.isEmpty then .fixed [] else
      .fixed (words (if ctes.any (·.recursive) then ["with", "recursive"] else ["with"]) ++
        [Lexeme.space]) ++ Layout.commas (layoutCtes sqlite ctes) ++ .fixed [.space] :
      Layout V).Portable := by
    split
    · exact portable_nil
    · have keyword : PortableText (words (if ctes.any (·.recursive) then ["with", "recursive"]
          else ["with"]) ++ [Lexeme.space]) := by
        cases ctes.any (·.recursive) <;> decide
      exact Layout.portable_add.mpr ⟨Layout.portable_add.mpr
        ⟨keyword, Layout.portable_commas (portable_ctes inCtes)⟩,
        (by decide : PortableText [.space])⟩
  have select_ : PortableText (words (if distinct then ["select", "distinct"] else ["select"]) ++
      [Lexeme.space]) := by
    cases distinct <;> decide
  have keyword : PortableText (spaced ["from"]) := by decide
  have limited : PortableText (limitText sqlite limit offset ++ ([] : List LockClauseNode).flatMap
      lockText) :=
    portable_append.mpr ⟨portable_limit limit offset, portable_nil⟩
  rw [layoutSelect]
  simp only [Layout.portable_add, Layout.portable_fixed]
  exact ⟨⟨⟨⟨⟨⟨⟨⟨⟨⟨⟨with_, select_⟩, Layout.portable_commas (portable_nodes inSelections)⟩, keyword⟩,
    from_⟩, joined⟩, Layout.portable_optional (by decide) (portable_option inWhere)⟩,
    Layout.portable_listed (by decide) (portable_nodes inGroup)⟩,
    Layout.portable_optional (by decide) (portable_option inHaving)⟩,
    Layout.portable_listed (by decide) (portable_orders inOrder)⟩, limited⟩,
    portable_compounds inCompounds⟩

/-- A vetted term in which no reserved construct stands is written portably. -/
theorem portable_term (term : Term V) (vetted : Vetted sqlite term)
    (plain : ∀ inner, Rendered term inner → ∀ construct, inner.uses construct = false) :
    (layoutTerm sqlite term).Portable := by
  induction term using term_induction with
  | step term ih =>
      have each : EachPortable (renderedParts term) := fun part member =>
        ih part member (vetted_part vetted member) fun inner inside =>
          plain inner (Relation.ReflTransGen.head member inside)
      have own := plain term (.refl _)
      rcases term with node | node | node | node | node
      · refine portable_node ?_ each
        cases used : node.construct with
        | none => rfl
        | some construct => simpa [Term.uses, used] using own construct
      · obtain ⟨outer, accepted⟩ := vetted
        rw [validateStatement] at accepted
        exact portable_select (validateSelect_iff.mp accepted) own each
      · exact portable_insert own each
      · exact portable_update own each
      · exact portable_delete own each

/-- What the SQLite compiler returns uses no construct reserved to PostgreSQL, at any depth, and no
word or symbol of one. -/
theorem compileSqlite_portable {root : QueryNode V} {compiled : CompiledQuery V}
    (done : compileSqlite root = .ok compiled) :
    (∀ term, Rendered (.statement root) term → ∀ construct, term.uses construct = false) ∧
      ∀ item ∈ compiled.text, item.isReserved = false := by
  obtain ⟨accepted, rendered⟩ := compile_eq_ok.mp done
  have plain : ∀ term, Rendered (.statement root) term →
      ∀ construct, term.uses construct = false := by
    intro term inside construct
    by_contra used
    have supported := compile_supported done inside (eq_true_of_ne_false used)
    cases construct <;> cases supported
  refine ⟨plain, fun item member => ?_⟩
  have portable := portable_term (.statement root) (accepted_vetted accepted) plain
  rw [(renderQuery_layout rendered).1] at member
  rcases Template.mem_text member with fixed | ⟨ordinal, rfl⟩
  · exact portable item fixed
  · rfl

end

/-- `SELECT "t"."a" FROM "t" WHERE EXISTS (SELECT "u"."b" FROM "u" WHERE "u"."b" = "t"."a")`. -/
def correlatedExists : QueryNode Int :=
  .select
    { selections := [.column "t" "a"]
      fromSource := some (.table { name := "t" })
      whereNode := some (.exists
        { selections := [.column "u" "b"]
          fromSource := some (.table { name := "u" })
          whereNode := some (.binary (.column "u" "b") .eq (.column "t" "a")) } false) }

theorem correlatedExists_compiles : ∃ compiled, compileSqlite correlatedExists = .ok compiled := by
  have rendered : ∃ compiled, renderQuery correlatedExists sqlite = .ok compiled := by
    unfold renderQuery correlatedExists
    simp only [renderStatement, compileSelect, compileCtes, compileNodes, compileNode, compileFrom,
      compileSource, compileJoins, compileOption, compileOrders, compileCompounds]
    exact ⟨_, rfl⟩
  obtain ⟨compiled, rendered⟩ := rendered
  exact ⟨compiled, compile_eq_ok.mpr ⟨by decide +kernel, rendered⟩⟩

theorem compileSqlite_portable_correlatedExists :
    ∃ compiled, compileSqlite correlatedExists = .ok compiled ∧
      (∀ term, Rendered (.statement correlatedExists) term →
        ∀ construct, term.uses construct = false) ∧
      ∀ item ∈ compiled.text, item.isReserved = false := by
  obtain ⟨compiled, done⟩ := correlatedExists_compiles
  exact ⟨compiled, done, compileSqlite_portable done⟩

end Relq
