/-
Module: Relq.Compiler.Bracketing
Layer: Compiler
Purpose: The rendered text read as a parser of SQL reads it: which parts are parenthesised, and which
  clause keywords stand outside all parentheses. Every layout is balanced, an expression shows no
  clause keyword, and a SELECT shows those of its own clauses and of its arms.
Imports: Relq.Compiler.LayoutAssembly, Relq.Library.Brackets
Trusted boundary: human-reviewed spec (Lexeme.side, clauseKeywords, clauses)
Main exports: clauses, Spells, Layout.Spelled, spells_indexPredicate, spells_target
-/
import Relq.Compiler.LayoutAssembly
import Relq.Library.Brackets

namespace Relq

open Templates Brackets

variable {V : Type}

/-! ### Clause keywords of a text -/

/-- Parentheses are the brackets of SQL. -/
def Lexeme.side : Lexeme → Option Bool
  | .symbol "(" => some true
  | .symbol ")" => some false
  | _ => none

/-- The words that begin a clause of a SELECT, join two of them, or begin the upsert of an INSERT. -/
def clauseKeywords : List String :=
  ["select", "from", "join", "on", "conflict", "where", "group", "having", "order", "limit",
    "offset", "for", "union", "intersect", "except"]

/-- The clause keyword that a lexeme is. -/
def Lexeme.clause : Lexeme → Option String
  | .word text => if text ∈ clauseKeywords then some text else none
  | _ => none

/-- The clause keywords of a text that stand outside all parentheses. -/
def clauses (text : Text) : List String :=
  (outer Lexeme.side 0 text).filterMap Lexeme.clause

/-- The parentheses of a text match, and these are its clause keywords. -/
def Spells (text : Text) (keywords : List String) : Prop :=
  Balanced Lexeme.side text ∧ clauses text = keywords

/-- Text without parentheses. -/
abbrev Flat (text : Text) (keywords : List String) : Prop :=
  (∀ item ∈ text, item.side = none) ∧ text.filterMap Lexeme.clause = keywords

namespace Spells

variable {first second : Text} {keywords keywords' : List String}

theorem flat (plain : Flat first keywords) : Spells first keywords := by
  refine ⟨balanced_of_plain plain.1, ?_⟩
  rw [clauses, outer_of_plain plain.1]
  exact plain.2

theorem nil : Spells [] [] :=
  flat (by decide)

theorem append (left : Spells first keywords) (right : Spells second keywords') :
    Spells (first ++ second) (keywords ++ keywords') := by
  refine ⟨left.1.append right.1, ?_⟩
  rw [clauses, outer_append left.1, List.filterMap_append]
  exact congrArg₂ _ left.2 right.2

/-- What is parenthesised shows no keyword. -/
theorem parens (within : Balanced Lexeme.side first) : Spells (Relq.parens first) [] := by
  constructor
  · exact .group rfl rfl within .nil
  · have hidden : outer Lexeme.side 0 (Relq.parens first) = [] := outer_group rfl rfl within
    rw [clauses, hidden]
    rfl

theorem commas {texts : List Text} (each : ∀ text ∈ texts, Spells text []) :
    Spells (Relq.commas texts) [] := by
  have comma : Spells [.symbol ",", .space] [] := flat (by decide)
  induction texts with
  | nil => exact nil
  | cons text rest ih =>
      obtain ⟨here, later⟩ := List.forall_mem_cons.mp each
      cases rest with
      | nil => exact here
      | cons next rest => exact (here.append comma).append (ih later)

theorem operation {operator : Text} (left : Spells first []) (plain : Flat operator [])
    (right : Spells second []) : Spells (Relq.operation first operator second) [] := by
  have space : Spells [.space] [] := flat (by decide)
  exact parens ((((left.append space).append (flat plain)).append space).append right).1

end Spells

/-! ### Clause keywords of a layout -/

/-- The text of a layout spells these keywords, however its placeholders are numbered. -/
def Layout.Spelled (layout : Layout V) (keywords : List String) : Prop :=
  ∀ n, Spells (layout.sql n) keywords

/-- The parentheses of a layout match. -/
def Layout.Closed (layout : Layout V) : Prop :=
  ∀ n, Balanced Lexeme.side (layout.sql n)

namespace Layout

variable {layout layout' : Layout V} {layouts : List (Layout V)} {keywords keywords' : List String}

theorem Spelled.closed (spelled : layout.Spelled keywords) : layout.Closed :=
  fun n => (spelled n).1

theorem Spelled.of_eq (spelled : layout.Spelled keywords) (same : keywords = keywords') :
    layout.Spelled keywords' :=
  same ▸ spelled

theorem closed_fixed {text : Text} (plain : ∀ item ∈ text, item.side = none) :
    Layout.Closed (.fixed text : Layout V) :=
  fun _ => balanced_of_plain plain

theorem closed_add (left : layout.Closed) (right : layout'.Closed) : (layout ++ layout').Closed :=
  fun n => (left n).append (right _)

theorem spelled_text {text : Text} (spells : Spells text keywords) :
    Layout.Spelled (.fixed text : Layout V) keywords :=
  fun _ => spells

theorem spelled_fixed {text : Text} (plain : Flat text keywords) :
    Layout.Spelled (.fixed text : Layout V) keywords :=
  spelled_text (.flat plain)

theorem spelled_hole (value : V) : Layout.Spelled (.hole value) [] :=
  fun n => .flat ⟨fun _ member => by rw [List.mem_singleton.mp member]; rfl, rfl⟩

theorem spelled_add (left : layout.Spelled keywords) (right : layout'.Spelled keywords') :
    (layout ++ layout').Spelled (keywords ++ keywords') :=
  fun n => (left n).append (right _)

theorem spelled_late (left : layout.Spelled keywords) (right : layout'.Spelled keywords') :
    Layout.Spelled (.late layout layout') (keywords ++ keywords') :=
  fun n => (left _).append (right n)

theorem spelled_parens (within : layout.Closed) : (parens layout).Spelled [] :=
  fun n => .parens (within n)

/-- Templates that hide their keywords still do behind one another. -/
theorem spelled_separated {separator : Text} (plain : Flat separator [])
    (each : ∀ layout ∈ layouts, layout.Spelled []) : Layout.Spelled (.separated separator layouts) [] :=
  Template.separated_of_each (P := fun layout : Layout V => layout.Spelled []) (spelled_text .nil)
    (spelled_fixed plain) (fun first second => spelled_add first second) each

theorem spelled_commas (each : ∀ layout ∈ layouts, layout.Spelled []) :
    (commas layouts).Spelled [] := by
  rw [commas_eq]
  exact spelled_separated (by decide) each

theorem spelled_spaces (each : ∀ layout ∈ layouts, layout.Spelled []) :
    (spaces layouts).Spelled [] := by
  rw [spaces_eq]
  exact spelled_separated (by decide) each

theorem closed_separated {separator : Text} (plain : ∀ item ∈ separator, item.side = none)
    (each : ∀ layout ∈ layouts, layout.Closed) : Layout.Closed (.separated separator layouts) :=
  Template.separated_of_each (P := fun layout : Layout V => layout.Closed) (closed_fixed (by decide))
    (closed_fixed plain) (fun first second => closed_add first second) each

theorem closed_commas (each : ∀ layout ∈ layouts, layout.Closed) : (commas layouts).Closed := by
  rw [commas_eq]
  exact closed_separated (by decide) each

theorem closed_spaces (each : ∀ layout ∈ layouts, layout.Closed) : (spaces layouts).Closed := by
  rw [spaces_eq]
  exact closed_separated (by decide) each

theorem closed_clause {names : List String}
    (plain : ∀ item ∈ words names ++ [Lexeme.space], item.side = none)
    (each : ∀ layout ∈ layouts, layout.Spelled []) : ∀ layout ∈ clause names layouts, layout.Closed := by
  unfold clause
  split
  · exact fun _ member => absurd member List.not_mem_nil
  · exact List.forall_mem_singleton.mpr (closed_add (closed_fixed plain) (spelled_commas each).closed)

theorem spelled_call {name : String} (plain : name ∉ clauseKeywords)
    (each : ∀ layout ∈ layouts, layout.Closed) : (call name layouts).Spelled [] := by
  have named : Flat [.word name] [] := by
    simp [Flat, Lexeme.side, Lexeme.clause, plain]
  exact spelled_add (spelled_fixed named) (spelled_parens (closed_commas each))

theorem spelled_operation {operator : Text} (left : layout.Closed)
    (plain : Flat operator []) (right : layout'.Closed) :
    (operation layout operator layout').Spelled [] := by
  have space : Spells [.space] [] := .flat (by decide)
  exact spelled_parens (closed_add (closed_add left
    (spelled_text ((space.append (.flat plain)).append space)).closed) right)

theorem spelled_aggregate {name : AggregateName} {filter : Option (Layout V)}
    (each : ∀ layout ∈ layouts, layout.Spelled []) (filtered : ∀ layout ∈ filter, layout.Spelled []) :
    (aggregate name layouts filter).Spelled [] := by
  have called : (call name.text layouts).Spelled [] :=
    spelled_call (by cases name <;> decide) fun layout member => (each layout member).closed
  cases filter with
  | none => exact called
  | some filter =>
      have where_ : Layout.Spelled (.fixed [.word "where", .space] : Layout V) ["where"] :=
        spelled_fixed (by decide)
      have keyword : Layout.Spelled (.fixed (spaced ["filter"]) : Layout V) [] :=
        spelled_fixed (by decide)
      exact spelled_add (spelled_add called keyword)
        (spelled_parens (spelled_add where_ (filtered filter rfl)).closed)

theorem spelled_castInterval (interval : Node V) (inner : layout.Spelled keywords) :
    (castInterval interval layout).Spelled keywords := by
  have cast_ : Layout.Spelled (.fixed [.symbol "::", .word "interval"] : Layout V) [] :=
    spelled_fixed (by decide)
  unfold castInterval
  split
  · have whole := spelled_add inner cast_
    rwa [List.append_nil] at whole
  · exact inner

/-- A clause that may be absent shows its keyword when it is there. -/
theorem spelled_optional {names : List String} {slot : Option (Layout V)}
    (keyword : Flat (spaced names) keywords) (each : ∀ layout ∈ slot, layout.Spelled []) :
    (optional names slot).Spelled (if slot.isSome then keywords else []) := by
  cases slot with
  | none => exact spelled_text .nil
  | some layout =>
      have whole := spelled_add (spelled_fixed (V := V) keyword) (each layout rfl)
      rwa [List.append_nil] at whole

theorem spelled_listed {names : List String} (keyword : Flat (spaced names) keywords)
    (each : ∀ layout ∈ layouts, layout.Spelled []) :
    (listed names layouts).Spelled (if layouts.isEmpty then [] else keywords) := by
  unfold listed
  split
  · exact spelled_text .nil
  · have whole := spelled_add (spelled_fixed (V := V) keyword) (spelled_commas each)
    rwa [List.append_nil] at whole

end Layout

/-! ### Text the renderer computes by itself -/

theorem Flat.append {first second : Text} {keywords keywords' : List String}
    (left : Flat first keywords) (right : Flat second keywords') :
    Flat (first ++ second) (keywords ++ keywords') := by
  refine ⟨List.forall_mem_append.mpr ⟨left.1, right.1⟩, ?_⟩
  rw [List.filterMap_append, left.2, right.2]

theorem flat_word (name : String) : Flat [.word name] ([name].filter (· ∈ clauseKeywords)) := by
  by_cases listed : name ∈ clauseKeywords <;> simp [Flat, Lexeme.side, Lexeme.clause, listed]

theorem flat_identifier (name : String) : Flat [.identifier name] [] := by
  simp [Flat, Lexeme.side, Lexeme.clause]

theorem flat_number (value : Int) : Flat [.number value] [] := by
  simp [Flat, Lexeme.side, Lexeme.clause]

theorem flat_words (names : List String) :
    Flat (words names) (names.filter (· ∈ clauseKeywords)) := by
  have space : Flat [.space] [] := by decide
  induction names with
  | nil => decide
  | cons name rest ih =>
      cases rest with
      | nil => exact flat_word name
      | cons next rest =>
          have whole := ((flat_word name).append space).append ih
          rwa [List.append_nil, ← List.filter_append] at whole

theorem flat_spaced (names : List String) :
    Flat (spaced names) (names.filter (· ∈ clauseKeywords)) := by
  have space : Flat [.space] [] := by decide
  have whole := (space.append (flat_words names)).append space
  rwa [List.append_nil, List.nil_append] at whole

theorem flat_identifiers (names : List String) : Flat (identifiers names) [] := by
  have comma : Flat [.symbol ",", .space] [] := by decide
  unfold identifiers
  induction names with
  | nil => decide
  | cons name rest ih =>
      cases rest with
      | nil => exact flat_identifier name
      | cons next rest => exact ((flat_identifier name).append comma).append ih

theorem flat_boundary (boundary : FrameBoundaryNode) : Flat (compileFrameBoundary boundary) [] := by
  obtain ⟨kind, amount⟩ := boundary
  have plain : Flat (words kind.words) [] := by cases kind <;> decide
  have space : Flat [.space] [] := by decide
  cases amount with
  | none => exact plain
  | some amount => exact ((flat_number amount).append space).append plain

theorem plain_windowFrame {frame : WindowFrameNode} {orderCount : Nat}
    {exclusion : Option WindowExclusion} {text : Text}
    (done : compileWindowFrame frame orderCount exclusion = .ok text) :
    ∀ item ∈ text, item.side = none := by
  obtain ⟨kind, start, stop⟩ := frame
  have head : Flat ([.word kind.text, .space, .word "between", .space] : Text) [] := by
    cases kind <;> decide
  have and_ : Flat (spaced ["and"]) [] := by decide
  have exclude : Flat (spaced ["exclude"]) [] := by decide
  have plain := ((head.append (flat_boundary start)).append and_).append (flat_boundary stop)
  unfold compileWindowFrame at done
  split at done
  · cases done
  · cases exclusion with
    | none =>
        obtain rfl := Except.ok.inj done
        exact plain.1
    | some exclusion =>
        have named := flat_words exclusion.words
        obtain rfl := Except.ok.inj done
        exact ((plain.append exclude).append named).1

theorem Layout.closed_frame (frame : Option WindowFrameNode) (orderCount : Nat)
    (exclusion : Option WindowExclusion) :
    ∀ layout ∈ (Layout.frame frame orderCount exclusion : List (Layout V)), layout.Closed := by
  intro layout member
  obtain ⟨text, inside, rfl⟩ := List.mem_map.mp member
  refine Layout.closed_fixed ?_
  cases frame with
  | none => cases inside
  | some frame =>
      simp only [frameClause] at inside
      cases done : compileWindowFrame frame orderCount exclusion with
      | error error => simp [done, Except.toOption, bind, Except.bind] at inside
      | ok known =>
          have listed : text ∈ [known] := by
            simpa [done, Except.toOption, bind, Except.bind, pure, Except.pure] using inside
          rw [List.mem_singleton.mp listed]
          exact plain_windowFrame done

/-- Text that is empty when the renderer raises. -/
theorem spells_plain {text : Except PyError Text} (spells : ∀ result, text = .ok result →
    Spells result []) : (Layout.plain text : Layout V).Spelled [] := by
  cases text with
  | error error => exact Layout.spelled_text .nil
  | ok result => exact Layout.spelled_text (spells result rfl)

theorem flat_table {dialect : Dialect} {table : TableSourceNode} {text : Text}
    (done : compileTable dialect table = .ok text) : Flat text [] := by
  obtain ⟨name, aliasName, schema⟩ := table
  have as_ : Flat (spaced ["as"]) [] := by decide
  have dot : Flat [.symbol "."] [] := by decide
  have named (sql : Text) (plain : Flat sql []) : Flat (match aliasName with
      | none => sql
      | some aliasName => sql ++ spaced ["as"] ++ [Lexeme.identifier aliasName]) [] := by
    cases aliasName with
    | none => exact plain
    | some aliasName => exact (plain.append as_).append (flat_identifier aliasName)
  cases schema with
  | none =>
      have whole := named _ (flat_identifier name)
      cases aliasName <;> cases done <;> exact whole
  | some schema =>
      have whole := named _ (((flat_identifier schema).append dot).append (flat_identifier name))
      by_cases supported : dialect.supportsSchemaQualifiedTables = true
      · cases aliasName <;> simp only [compileTable, supported, if_pos] at done <;> cases done <;>
          exact whole
      · simp [compileTable, supported, bind, Except.bind] at done

theorem flat_order (direction : Direction) (nulls : Option NullPlacement) :
    Flat (orderText [] direction nulls) [] := by
  cases direction <;> rcases nulls with _ | _ | _ <;> decide

/-- The keywords of `limitText`. -/
def limitKeywords (dialect : Dialect) (limit offset : Option Int) : List String :=
  (if limit.isSome || (offset.isSome && dialect.offsetRequiresLimit) then ["limit"] else []) ++
    if offset.isSome then ["offset"] else []

theorem flat_limit (dialect : Dialect) (limit offset : Option Int) :
    Flat (limitText dialect limit offset) (limitKeywords dialect limit offset) := by
  have limit_ (value : Int) : Flat (spaced ["limit"] ++ [Lexeme.number value]) ["limit"] :=
    (flat_spaced ["limit"]).append (flat_number value)
  have offset_ (value : Int) : Flat (spaced ["offset"] ++ [Lexeme.number value]) ["offset"] :=
    (flat_spaced ["offset"]).append (flat_number value)
  have none_ : Flat [] [] := by decide
  unfold limitText limitKeywords
  cases limit with
  | some limit =>
      cases offset with
      | none => exact (limit_ limit).append none_
      | some offset => exact (limit_ limit).append (offset_ offset)
  | none =>
      cases offset with
      | none => exact none_
      | some offset =>
          cases dialect.offsetRequiresLimit with
          | false => exact none_.append (offset_ offset)
          | true => exact (limit_ (-1)).append (offset_ offset)

theorem flat_lock (lock : LockClauseNode) : Flat (lockText lock) ["for"] := by
  obtain ⟨strength, of_, wait⟩ := lock
  have for_ : Flat (spaced ["for"]) ["for"] := by decide
  have of__ : Flat (spaced ["of"]) [] := by decide
  have strong : Flat (words strength.words) [] := by cases strength <;> decide
  have named : Flat (if of_.isEmpty then [] else
      spaced ["of"] ++ identifiers (of_.map (·.reference))) [] := by
    split
    · decide
    · exact of__.append (flat_identifiers _)
  have unwaited : Flat ([] : Text) [] := by decide
  have waits (policy : LockWait) : Flat (.space :: words policy.words) [] := by
    cases policy <;> decide
  cases wait with
  | none => exact ((for_.append strong).append named).append unwaited
  | some policy => exact ((for_.append strong).append named).append (waits policy)

theorem flat_locks (locks : List LockClauseNode) :
    Flat (locks.flatMap lockText) (locks.map fun _ => "for") := by
  induction locks with
  | nil => decide
  | cons lock rest ih => exact (flat_lock lock).append ih

theorem flat_lexeme (operator : BinaryOperator) : Flat [operator.lexeme] [] := by
  cases operator <;> decide

theorem spells_clockText (kind : ClockKind) : Spells (clockText kind) [] := by
  have call (name : String) (plain : Flat [.word name] []) : Spells (call name []) [] :=
    Spells.append (.flat plain) (.parens .nil)
  cases kind with
  | transactionTimestamp | statementTimestamp | clockTimestamp => exact call _ (by decide)
  | currentDate | currentTime | localTime | localTimestamp => exact .flat (by decide)

theorem flat_constant [PyObject V] {value : V} {text : Text} (done : constant value = .ok text) :
    Flat text [] := by
  unfold constant at done
  split at done
  · cases done
    decide
  · rename_i truth _
    cases done
    cases truth <;> decide
  · cases done
    exact flat_number _
  · split at done
    · cases done
    · cases done
      simp [Flat, Lexeme.side, Lexeme.clause]
  · cases done

mutual

theorem spells_indexPredicate [PyObject V] : (node : Node V) → (text : Text) →
    compileIndexPredicate node = .ok text → Spells text []
  | .column source name, text, done => by
      rw [compileIndexPredicate] at done
      cases done
      have dot : Flat [.symbol "."] [] := by decide
      exact .flat (((flat_identifier source).append dot).append (flat_identifier name))
  | .value value, text, done => by
      rw [compileIndexPredicate] at done
      exact .flat (flat_constant done)
  | .binary left operator right, text, done => by
      rw [compileIndexPredicate] at done
      split at done
      · obtain ⟨first, doneFirst, done⟩ := Outcome.bind_eq_ok.mp done
        obtain ⟨second, doneSecond, done⟩ := Outcome.bind_eq_ok.mp done
        rw [← Outcome.pure_eq_ok.mp done]
        exact (spells_indexPredicate left first doneFirst).operation (flat_lexeme operator)
          (spells_indexPredicate right second doneSecond)
      · cases done
  | .unary operator operand, text, done => by
      rw [compileIndexPredicate] at done
      split at done
      · obtain ⟨inner, doneInner, done⟩ := Outcome.bind_eq_ok.mp done
        rw [← Outcome.pure_eq_ok.mp done]
        have space : Spells [.space] [] := .flat (by decide)
        have spelled : Spells (words operator.words) [] := .flat (by cases operator <;> decide)
        exact .parens (((spells_indexPredicate operand inner doneInner).append space).append
          spelled).1
      · cases done
  | .inNode expression (.nodes values) negated, text, done => by
      rw [compileIndexPredicate] at done
      obtain ⟨items, doneItems, done⟩ := Outcome.bind_eq_ok.mp done
      obtain ⟨inner, doneInner, done⟩ := Outcome.bind_eq_ok.mp done
      rw [← Outcome.pure_eq_ok.mp done]
      exact (spells_indexPredicate expression inner doneInner).operation
        (by cases negated <;> decide)
        (.parens (Spells.commas (spells_indexPredicates values items doneItems)).1)
  | .between expression lower upper negated, text, done => by
      rw [compileIndexPredicate] at done
      obtain ⟨inner, doneInner, done⟩ := Outcome.bind_eq_ok.mp done
      obtain ⟨low, doneLow, done⟩ := Outcome.bind_eq_ok.mp done
      obtain ⟨high, doneHigh, done⟩ := Outcome.bind_eq_ok.mp done
      rw [← Outcome.pure_eq_ok.mp done]
      have and_ : Spells (spaced ["and"]) [] := .flat (by decide)
      exact (spells_indexPredicate expression inner doneInner).operation
        (by cases negated <;> decide)
        (((spells_indexPredicate lower low doneLow).append and_).append
          (spells_indexPredicate upper high doneHigh))
  | .temporalClock _, _, done | .temporalMakeDate _ _ _, _, done
  | .temporalMakeTime _ _ _, _, done | .temporalMakeTimestamp _ _ _ _ _ _, _, done
  | .temporalMakeTimestamptz _ _ _ _ _ _ _, _, done | .temporalMakeInterval _, _, done
  | .temporalEpoch _, _, done | .temporalArithmetic _ _ _, _, done
  | .temporalDifference _ _, _, done | .temporalIntervalUnary _, _, done
  | .temporalIntervalScale _ _ _, _, done | .temporalTimezone _ _, _, done
  | .temporalExtract _ _, _, done | .temporalTrunc _ _, _, done
  | .temporalTruncTimestamptz _ _ _, _, done | .temporalBin _ _ _, _, done
  | .temporalAge _ _, _, done | .temporalOverlaps _ _ _ _, _, done
  | .temporalJustify _ _, _, done | .function _ _, _, done | .case _ _, _, done
  | .aggregate _ _ _, _, done | .window _ _ _ _ _, _, done | .aliased _ _, _, done
  | .nullableResult _, _, done | .star, _, done | .inNode _ (.select _) _, _, done
  | .scalarSubquery _, _, done | .exists _ _, _, done | .excluded _ _, _, done
  | .jsonText _ _, _, done | .regexMatch _ _ _, _, done | .uuidCast _, _, done => by
      simp [compileIndexPredicate] at done

theorem spells_indexPredicates [PyObject V] : (nodes : List (Node V)) → (texts : List Text) →
    compileIndexPredicates nodes = .ok texts → ∀ text ∈ texts, Spells text []
  | [], texts, done => by
      rw [compileIndexPredicates] at done
      cases done
      exact fun _ member => absurd member List.not_mem_nil
  | node :: rest, texts, done => by
      rw [compileIndexPredicates] at done
      obtain ⟨first, doneFirst, done⟩ := Outcome.bind_eq_ok.mp done
      obtain ⟨later, doneLater, done⟩ := Outcome.bind_eq_ok.mp done
      rw [← Outcome.pure_eq_ok.mp done]
      exact List.forall_mem_cons.mpr
        ⟨spells_indexPredicate node first doneFirst, spells_indexPredicates rest later doneLater⟩

end

/-- The keywords of a conflict target: an arbiter predicate shows `where`. -/
theorem spells_target [PyObject V] {columns : List String} {targetWhere : Option (Node V)}
    {text : Text} (done : conflictTarget columns targetWhere = .ok text) :
    Spells text (if targetWhere.isSome then ["where"] else []) := by
  have space : Spells [.space] [] := .flat (by decide)
  have listed : Spells (.space :: parens (identifiers columns)) [] :=
    space.append (.parens (Spells.flat (flat_identifiers columns)).1)
  unfold conflictTarget at done
  cases targetWhere with
  | none =>
      obtain rfl := Except.ok.inj done
      cases columns with
      | nil => exact .nil
      | cons column rest => exact listed
  | some predicate =>
      cases columns with
      | nil => cases done
      | cons column rest =>
          obtain ⟨inner, doneInner, done⟩ := Outcome.bind_eq_ok.mp done
          rw [← Outcome.pure_eq_ok.mp done]
          exact (listed.append (.flat (flat_spaced ["where"]))).append
            (spells_indexPredicate predicate inner doneInner)

end Relq
