/-
Module: Relq.Compiler.Errors
Layer: Compiler
Purpose: The errors of the renderer. It has internal assertions, for a SELECT without FROM, an INSERT
  without source and two shapes of a conflict clause, and it takes the first row of an INSERT. A
  statement is `RenderReady` where these hold; what is rendered from ready terms raises nothing but
  `ValueError`s, and acceptance makes every rendered term ready.
Imports: Relq.Compiler.Portability
Trusted boundary: human-reviewed spec (PyError.IsValueError, RenderReady)
Main exports: PyError.IsValueError, OnlyValueErrors, RenderReady, term_onlyValueErrors,
  accepted_renders_or_valueError
-/
import Relq.Compiler.Portability

namespace Relq

open Outcome

variable {V α β γ δ ε : Type}

def PyError.IsValueError (error : PyError) : Prop :=
  ∃ message names, error = .valueError message names

/-! ### Computations that raise only `ValueError`s -/

/-- Whatever `x` raises is a `ValueError`. -/
def RaisesValueErrors (x : Except PyError α) : Prop :=
  ∀ error, x = .error error → error.IsValueError

namespace RaisesValueErrors

theorem ok (a : α) : RaisesValueErrors (.ok a : Except PyError α) := nofun

theorem valueError (message : String) (names : List String) :
    RaisesValueErrors (.error (.valueError message names) : Except PyError α) := by
  rintro _ ⟨⟩
  exact ⟨message, names, rfl⟩

theorem bind {x : Except PyError α} {f : α → Except PyError β} (first : RaisesValueErrors x)
    (rest : ∀ a, RaisesValueErrors (f a)) : RaisesValueErrors (x >>= f) := by
  intro error raised
  cases x with
  | error error' =>
      obtain rfl := Except.error.inj raised
      exact first _ rfl
  | ok a => exact rest a error raised

theorem ite {c : Prop} [Decidable c] {x y : Except PyError α} (yes : c → RaisesValueErrors x)
    (no : ¬c → RaisesValueErrors y) : RaisesValueErrors (if c then x else y) := by
  split
  · exact yes ‹_›
  · exact no ‹_›

end RaisesValueErrors

/-- The same of a rendering step, whatever was bound before. -/
def OnlyValueErrors (m : Renderer V α) : Prop :=
  ∀ bound, RaisesValueErrors (m bound)

namespace OnlyValueErrors

theorem pure (a : α) : OnlyValueErrors (Pure.pure a : Renderer V α) := fun _ => .ok _

theorem valueError (message : String) (names : List String) :
    OnlyValueErrors (throw (.valueError message names) : Renderer V α) :=
  fun _ => .valueError message names

theorem bind {m : Renderer V α} {f : α → Renderer V β} (first : OnlyValueErrors m)
    (rest : ∀ a, OnlyValueErrors (f a)) : OnlyValueErrors (m >>= f) :=
  fun bound => (first bound).bind fun result => rest result.1 result.2

theorem lift {x : Except PyError α} (raises : RaisesValueErrors x) :
    OnlyValueErrors (liftM x : Renderer V α) :=
  fun _ => raises.bind fun _ => .ok _

theorem ite {c : Prop} [Decidable c] {m m' : Renderer V α} (yes : c → OnlyValueErrors m)
    (no : ¬c → OnlyValueErrors m') : OnlyValueErrors (if c then m else m') := by
  split
  · exact yes ‹_›
  · exact no ‹_›

theorem bindValue (value : V) : OnlyValueErrors (Relq.bindValue value) := fun _ => .ok _

variable {m₁ : Renderer V α} {m₂ : Renderer V β} {m₃ : Renderer V γ} {m₄ : Renderer V δ}

theorem one {f : α → ε} (first : OnlyValueErrors m₁) : OnlyValueErrors (do return f (← m₁)) :=
  first.bind fun _ => .pure _

theorem two {f : α → β → ε} (first : OnlyValueErrors m₁) (second : OnlyValueErrors m₂) :
    OnlyValueErrors
      (do
        let a ← m₁
        let b ← m₂
        return f a b) :=
  first.bind fun _ => second.one

theorem three {f : α → β → γ → ε} (first : OnlyValueErrors m₁) (second : OnlyValueErrors m₂)
    (third : OnlyValueErrors m₃) :
    OnlyValueErrors
      (do
        let a ← m₁
        let b ← m₂
        let c ← m₃
        return f a b c) :=
  first.bind fun _ => second.two third

theorem four {f : α → β → γ → δ → ε} (first : OnlyValueErrors m₁) (second : OnlyValueErrors m₂)
    (third : OnlyValueErrors m₃) (fourth : OnlyValueErrors m₄) :
    OnlyValueErrors
      (do
        let a ← m₁
        let b ← m₂
        let c ← m₃
        let d ← m₄
        return f a b c d) :=
  first.bind fun _ => second.three third fourth

end OnlyValueErrors

/-! ### Pure parts of the renderer -/

theorem requirePostgresExpression_raises (dialect : Dialect) (name : String) :
    RaisesValueErrors (requirePostgresExpression dialect name) := by
  unfold requirePostgresExpression
  exact .ite (fun _ => .ok _) fun _ => .valueError _ _

theorem compileTable_raises (dialect : Dialect) (table : TableSourceNode) :
    RaisesValueErrors (compileTable dialect table) := by
  obtain ⟨name, aliasName, schema⟩ := table
  cases schema with
  | none => cases aliasName <;> exact .bind (.ok _) fun _ => .ok _
  | some schema =>
      rw [compileTable]
      dsimp only
      refine .ite (fun _ => ?_) fun _ => ?_
      · cases aliasName <;> exact .bind (.ok _) fun _ => .ok _
      · cases aliasName <;> exact .bind (.valueError _ _) fun _ => .ok _

theorem compileWindowFrame_raises (frame : WindowFrameNode) (orderCount : Nat)
    (exclusion : Option WindowExclusion) :
    RaisesValueErrors (compileWindowFrame frame orderCount exclusion) := by
  unfold compileWindowFrame
  refine .ite (fun _ => .valueError _ _) fun _ => ?_
  cases exclusion with
  | none => exact .ok _
  | some exclusion => exact .ok _

theorem frameClause_raises (frame : Option WindowFrameNode) (orderCount : Nat)
    (exclusion : Option WindowExclusion) :
    RaisesValueErrors (frameClause frame orderCount exclusion) := by
  cases frame with
  | none => exact .ok _
  | some frame => exact (compileWindowFrame_raises frame orderCount exclusion).bind fun _ => .ok _

theorem guarded_onlyValueErrors {dialect : Dialect} {name : String} {m : Renderer V α}
    (rest : OnlyValueErrors m) :
    OnlyValueErrors (do requirePostgresExpression dialect name; m : Renderer V α) :=
  (OnlyValueErrors.lift (requirePostgresExpression_raises dialect name)).bind fun _ => rest

section

variable [PyObject V]

theorem constant_raises (value : V) : RaisesValueErrors (constant value) := by
  rw [constant]
  cases PyObject.view value with
  | str text => exact .ite (fun _ => .valueError _ _) fun _ => .ok _
  | interval | other => exact .valueError _ _
  | _ => exact .ok _

mutual

theorem compileIndexPredicate_raises : (node : Node V) →
    RaisesValueErrors (compileIndexPredicate node)
  | .column _ _ => .ok _
  | .value value => constant_raises value
  | .binary left _ right =>
      .ite (fun _ => (compileIndexPredicate_raises left).bind fun _ =>
        (compileIndexPredicate_raises right).bind fun _ => .ok _) fun _ => .valueError _ _
  | .unary _ operand =>
      .ite (fun _ => (compileIndexPredicate_raises operand).bind fun _ => .ok _)
        fun _ => .valueError _ _
  | .inNode expression (.nodes values) _ =>
      (compileIndexPredicates_raises values).bind fun _ =>
        (compileIndexPredicate_raises expression).bind fun _ => .ok _
  | .between expression lower upper _ =>
      (compileIndexPredicate_raises expression).bind fun _ =>
        (compileIndexPredicate_raises lower).bind fun _ =>
          (compileIndexPredicate_raises upper).bind fun _ => .ok _
  | .temporalClock _ | .temporalMakeDate _ _ _ | .temporalMakeTime _ _ _
  | .temporalMakeTimestamp _ _ _ _ _ _ | .temporalMakeTimestamptz _ _ _ _ _ _ _
  | .temporalMakeInterval _ | .temporalEpoch _ | .temporalArithmetic _ _ _
  | .temporalDifference _ _ | .temporalIntervalUnary _ | .temporalIntervalScale _ _ _
  | .temporalTimezone _ _ | .temporalExtract _ _ | .temporalTrunc _ _
  | .temporalTruncTimestamptz _ _ _ | .temporalBin _ _ _ | .temporalAge _ _
  | .temporalOverlaps _ _ _ _ | .temporalJustify _ _ | .function _ _ | .case _ _
  | .aggregate _ _ _ | .window _ _ _ _ _ | .aliased _ _ | .nullableResult _ | .star
  | .inNode _ (.select _) _ | .scalarSubquery _ | .exists _ _ | .excluded _ _ | .jsonText _ _
  | .regexMatch _ _ _ | .uuidCast _ => .valueError _ _

theorem compileIndexPredicates_raises : (nodes : List (Node V)) →
    RaisesValueErrors (compileIndexPredicates nodes)
  | [] => .ok _
  | node :: rest =>
      (compileIndexPredicate_raises node).bind fun _ =>
        (compileIndexPredicates_raises rest).bind fun _ => .ok _

end

/-- The conflict target is asserted to have columns where it has a predicate. -/
theorem conflictTarget_raises {columns : List String} {targetWhere : Option (Node V)}
    (ready : targetWhere.isNone ∨ ¬columns.isEmpty) :
    RaisesValueErrors (conflictTarget columns targetWhere) := by
  cases targetWhere with
  | none => exact .ok _
  | some predicate =>
      have columns_ : ¬columns.isEmpty = true := by simpa using ready
      rw [conflictTarget, if_neg columns_]
      exact (compileIndexPredicate_raises predicate).bind fun _ => .ok _

/-! ### Lists of parts -/

variable {dialect : Dialect}

variable (dialect) in
/-- Every one of the terms raises only `ValueError`s when it is rendered. -/
abbrev EachOnlyValueErrors (parts : List (Term V)) : Prop :=
  ∀ part ∈ parts, OnlyValueErrors (compileTerm dialect part)

theorem nodes_onlyValueErrors {nodes : List (Node V)}
    (each : EachOnlyValueErrors dialect (nodes.map .expression)) :
    OnlyValueErrors (compileNodes dialect nodes) := by
  induction nodes with
  | nil =>
      rw [compileNodes]
      exact .pure _
  | cons node rest ih =>
      obtain ⟨first, later⟩ := List.forall_mem_cons.mp each
      rw [compileNodes]
      exact .two first (ih later)

theorem option_onlyValueErrors {slot : Option (Node V)}
    (each : EachOnlyValueErrors dialect (slot.toList.map .expression)) :
    OnlyValueErrors (compileOption dialect slot) := by
  cases slot with
  | none =>
      rw [compileOption]
      exact .pure _
  | some node =>
      rw [compileOption]
      exact .one (each _ List.mem_cons_self)

theorem components_onlyValueErrors {components : List (String × Node V)}
    (each : EachOnlyValueErrors dialect (components.map .named)) :
    OnlyValueErrors (compileComponents dialect components) := by
  induction components with
  | nil =>
      rw [compileComponents]
      exact .pure _
  | cons component rest ih =>
      obtain ⟨first, later⟩ := List.forall_mem_cons.mp each
      rw [compileComponents]
      exact .two first (ih later)

theorem branches_onlyValueErrors {branches : List (Node V × Node V)}
    (each : EachOnlyValueErrors dialect
      ((branches.flatMap fun branch => [branch.1, branch.2]).map .expression)) :
    OnlyValueErrors (compileBranches dialect branches) := by
  induction branches with
  | nil =>
      rw [compileBranches]
      exact .pure _
  | cons branch rest ih =>
      obtain ⟨condition, behind⟩ := List.forall_mem_cons.mp each
      obtain ⟨value, later⟩ := List.forall_mem_cons.mp behind
      rw [compileBranches]
      exact .three condition value (ih later)

theorem orders_onlyValueErrors {orders : List (OrderNode V)}
    (each : EachOnlyValueErrors dialect (orders.map .order)) :
    OnlyValueErrors (compileOrders dialect orders) := by
  induction orders with
  | nil =>
      rw [compileOrders]
      exact .pure _
  | cons order rest ih =>
      obtain ⟨first, later⟩ := List.forall_mem_cons.mp each
      obtain ⟨expression, direction, nulls⟩ := order
      rw [compileOrders]
      exact .two first (ih later)

theorem assignments_onlyValueErrors {values : List (String × Node V)}
    (each : EachOnlyValueErrors dialect (values.map .named)) :
    OnlyValueErrors (compileAssignments dialect values) := by
  induction values with
  | nil =>
      rw [compileAssignments]
      exact .pure _
  | cons pair rest ih =>
      obtain ⟨first, later⟩ := List.forall_mem_cons.mp each
      rw [compileAssignments]
      exact .two first (ih later)

theorem cells_onlyValueErrors {cells : List (String × Node V)}
    (each : EachOnlyValueErrors dialect (cells.map .named)) :
    OnlyValueErrors (compileCells dialect cells) := by
  induction cells with
  | nil =>
      rw [compileCells]
      exact .pure _
  | cons cell rest ih =>
      obtain ⟨first, later⟩ := List.forall_mem_cons.mp each
      rw [compileCells]
      exact .two first (ih later)

theorem rows_onlyValueErrors {rows : List (List (String × Node V))}
    (each : EachOnlyValueErrors dialect (rows.flatMap fun row => row.map .named)) :
    OnlyValueErrors (compileRows dialect rows) := by
  induction rows with
  | nil =>
      rw [compileRows]
      exact .pure _
  | cons row rest ih =>
      obtain ⟨first, later⟩ := List.forall_mem_append.mp each
      rw [compileRows]
      exact .two (cells_onlyValueErrors first) (ih later)

/-! ### Expressions -/

theorem window_onlyValueErrors {call : WindowCall V} {partitionBy : List (Node V)}
    {orderBy : List (OrderNode V)} {frame : Option WindowFrameNode}
    {exclusion : Option WindowExclusion}
    (each : EachOnlyValueErrors dialect
      (renderedParts (.expression (.window call partitionBy orderBy frame exclusion)))) :
    OnlyValueErrors (compileNode dialect (.window call partitionBy orderBy frame exclusion)) := by
  have parts : EachOnlyValueErrors dialect (.expression call.toNode ::
      (partitionBy.map Term.expression ++ orderBy.map Term.order)) := by
    simpa [renderedParts, children, Node.nestedSelect, Function.comp_def] using each
  obtain ⟨called, behind⟩ := List.forall_mem_cons.mp parts
  obtain ⟨partition, orders⟩ := List.forall_mem_append.mp behind
  rw [compileTerm, ← compileWindowCall_eq] at called
  rw [compileNode]
  refine .ite (fun _ => .bind (.valueError _ _) fun _ => ?_) fun _ => ?_
  all_goals
    exact (nodes_onlyValueErrors partition).bind fun _ => (orders_onlyValueErrors orders).bind fun _ =>
      (OnlyValueErrors.lift (frameClause_raises _ _ _)).bind fun _ => .one called

section
variable {a b c d : Node V}

theorem EachOnlyValueErrors.two (each : EachOnlyValueErrors dialect [.expression a, .expression b]) :
    OnlyValueErrors (compileNode dialect a) ∧ OnlyValueErrors (compileNode dialect b) :=
  ⟨each (.expression a) (by simp), each (.expression b) (by simp)⟩

theorem EachOnlyValueErrors.three
    (each : EachOnlyValueErrors dialect [.expression a, .expression b, .expression c]) :
    OnlyValueErrors (compileNode dialect a) ∧ OnlyValueErrors (compileNode dialect b) ∧
      OnlyValueErrors (compileNode dialect c) :=
  ⟨each (.expression a) (by simp), each (.expression b) (by simp), each (.expression c) (by simp)⟩

theorem EachOnlyValueErrors.four
    (each : EachOnlyValueErrors dialect [.expression a, .expression b, .expression c, .expression d]) :
    OnlyValueErrors (compileNode dialect a) ∧ OnlyValueErrors (compileNode dialect b) ∧
      OnlyValueErrors (compileNode dialect c) ∧ OnlyValueErrors (compileNode dialect d) :=
  ⟨each (.expression a) (by simp), each (.expression b) (by simp), each (.expression c) (by simp),
    each (.expression d) (by simp)⟩

end

/-- An expression raises only `ValueError`s if its parts do: it has no assertion of its own. -/
theorem expression_onlyValueErrors {node : Node V}
    (each : EachOnlyValueErrors dialect (renderedParts (.expression node))) :
    OnlyValueErrors (compileNode dialect node) := by
  cases node with
  | window call partitionBy orderBy frame exclusion => exact window_onlyValueErrors each
  | column source name | star | excluded source name =>
      rw [compileNode]
      exact .pure _
  | temporalClock kind =>
      rw [compileNode]
      exact .pure _
  | value value =>
      rw [compileNode]
      exact .bindValue value
  | inNode expression values negated =>
      rw [compileNode]
      cases values with
      | nodes values =>
          obtain ⟨children_, -⟩ := List.forall_mem_append.mp each
          obtain ⟨first, later⟩ := List.forall_mem_cons.mp children_
          rw [compileInValues]
          exact .two first (.one (nodes_onlyValueErrors later))
      | select query =>
          obtain ⟨first, later⟩ := List.forall_mem_cons.mp each
          rw [compileInValues]
          exact .two first (.one (later _ List.mem_cons_self))
  | jsonText left right | regexMatch left right =>
      obtain ⟨first, second⟩ := EachOnlyValueErrors.two each
      rw [compileNode]
      exact guarded_onlyValueErrors (.two first second)
  | uuidCast operand =>
      rw [compileNode]
      exact guarded_onlyValueErrors (.one (each _ List.mem_cons_self))
  | binary left operator right =>
      obtain ⟨first, second⟩ := EachOnlyValueErrors.two each
      rw [compileNode]
      exact .two first second
  | temporalDifference left right | temporalIntervalScale left operator right
  | temporalTimezone left right | temporalTruncTimestamptz unit left right | temporalAge left right =>
      obtain ⟨first, second⟩ := EachOnlyValueErrors.two each
      rw [compileNode]
      exact .two first second
  | temporalArithmetic timestamp operator interval =>
      obtain ⟨first, second⟩ := EachOnlyValueErrors.two each
      rw [compileNode]
      exact .two second first
  | temporalMakeDate year month day =>
      obtain ⟨first, second, third⟩ := EachOnlyValueErrors.three each
      rw [compileNode]
      exact .three first second third
  | temporalMakeTime year month day | temporalBin year month day | between year month day =>
      obtain ⟨first, second, third⟩ := EachOnlyValueErrors.three each
      rw [compileNode]
      exact .three first second third
  | temporalMakeTimestamp year month day hour minute second =>
      obtain ⟨first, behind⟩ := List.forall_mem_cons.mp each
      obtain ⟨next, behind⟩ := List.forall_mem_cons.mp behind
      obtain ⟨third, fourth, fifth, sixth⟩ := EachOnlyValueErrors.four behind
      rw [compileNode]
      exact first.bind fun _ => next.bind fun _ => .four third fourth fifth sixth
  | temporalMakeTimestamptz year month day hour minute second zone =>
      have parts : EachOnlyValueErrors dialect ([Term.expression year, .expression month] ++
          ([Term.expression day, .expression hour, .expression minute, .expression second] ++
            zone.toList.map .expression)) := by
        simpa [renderedParts, children, Node.nestedSelect] using each
      obtain ⟨early, behind⟩ := List.forall_mem_append.mp parts
      obtain ⟨late_, zone⟩ := List.forall_mem_append.mp behind
      obtain ⟨first, next⟩ := EachOnlyValueErrors.two early
      obtain ⟨third, fourth, fifth, sixth⟩ := EachOnlyValueErrors.four late_
      rw [compileNode]
      exact first.bind fun _ => next.bind fun _ => third.bind fun _ =>
        .four fourth fifth sixth (option_onlyValueErrors zone)
  | temporalOverlaps leftStart leftEnd rightStart rightEnd =>
      obtain ⟨first, second, third, fourth⟩ := EachOnlyValueErrors.four each
      rw [compileNode]
      exact .four first second third fourth
  | temporalMakeInterval components =>
      have parts : EachOnlyValueErrors dialect (components.map .named) := by
        simpa [renderedParts, children, Node.nestedSelect, Function.comp_def] using each
      rw [compileNode]
      exact .one (components_onlyValueErrors parts)
  | temporalEpoch operand | temporalIntervalUnary operand | temporalExtract field operand
  | temporalTrunc unit operand | temporalJustify kind operand | unary operator operand
  | aliased operand aliasName =>
      rw [compileNode]
      exact .one (each _ List.mem_cons_self)
  | nullableResult operand =>
      rw [compileNode]
      exact each _ List.mem_cons_self
  | function name arguments =>
      obtain ⟨parts, -⟩ := List.forall_mem_append.mp each
      rw [compileNode]
      exact .one (nodes_onlyValueErrors parts)
  | case branches otherwise =>
      have parts : EachOnlyValueErrors dialect
          ((branches.flatMap fun branch => [branch.1, branch.2]).map .expression ++
            [Term.expression otherwise]) := by
        simpa [renderedParts, children, Node.nestedSelect] using each
      obtain ⟨branches_, otherwise_⟩ := List.forall_mem_append.mp parts
      rw [compileNode]
      exact .two (branches_onlyValueErrors branches_) (otherwise_ _ List.mem_cons_self)
  | aggregate name arguments filter =>
      have parts : EachOnlyValueErrors dialect
          (arguments.map .expression ++ filter.toList.map .expression) := by
        simpa [renderedParts, children, Node.nestedSelect] using each
      obtain ⟨arguments_, filter_⟩ := List.forall_mem_append.mp parts
      rw [compileNode]
      exact .two (nodes_onlyValueErrors arguments_) (option_onlyValueErrors filter_)
  | scalarSubquery query | «exists» query negated =>
      rw [compileNode]
      exact .one (each _ List.mem_cons_self)

/-! ### Statements -/

/-- What the renderer asserts of a term, and the first row it takes from VALUES. -/
def RenderReady : Term V → Prop
  | .statement (.select node) => node.fromSource.isSome = true
  | .statement (.insert node) =>
      node.source.isSome = true ∧ node.source ≠ some (.rows []) ∧
        ∀ conflict ∈ node.conflict, (conflict.targetWhere.isNone ∨ ¬conflict.columns.isEmpty) ∧
          (conflict.updateWhere.isNone ∨ conflict.action = "update")
  | _ => True

theorem source_onlyValueErrors {source : SourceNode V}
    (each : EachOnlyValueErrors dialect (sourceParts source)) :
    OnlyValueErrors (compileSource dialect source) := by
  cases source with
  | table table =>
      rw [compileSource]
      exact .lift (compileTable_raises dialect table)
  | cte name =>
      rw [compileSource]
      exact .pure _
  | derived query aliasName =>
      rw [compileSource]
      exact .one (each _ List.mem_cons_self)

theorem joins_onlyValueErrors {joins : List (JoinNode V)}
    (each : EachOnlyValueErrors dialect (joins.flatMap joinParts)) :
    OnlyValueErrors (compileJoins dialect joins) := by
  induction joins with
  | nil =>
      rw [compileJoins]
      exact .pure _
  | cons join rest ih =>
      obtain ⟨source, predicate, kind⟩ := join
      rw [List.flatMap_cons, joinParts] at each
      obtain ⟨first, later⟩ := List.forall_mem_append.mp each
      obtain ⟨source_, predicate_⟩ := List.forall_mem_append.mp first
      rw [compileJoins]
      refine (source_onlyValueErrors source_).bind fun _ => .ite (fun crossed => ?_) fun _ => ?_
      · rw [if_pos crossed] at predicate_
        exact .two (predicate_ _ List.mem_cons_self) (ih later)
      · exact .one (ih later)

theorem cteBody_onlyValueErrors {query : QueryNode V}
    (body : OnlyValueErrors (renderStatement dialect query)) :
    OnlyValueErrors (compileCteBody dialect query) := by
  cases query with
  | select query =>
      rw [compileCteBody]
      exact body
  | insert query | update query | delete query =>
      rw [compileCteBody]
      exact .ite (fun _ => body) fun _ => .valueError _ _

theorem ctes_onlyValueErrors {ctes : List (CteNode V)}
    (each : EachOnlyValueErrors dialect (ctes.map fun cte => .statement cte.query)) :
    OnlyValueErrors (compileCtes dialect ctes) := by
  induction ctes with
  | nil =>
      rw [compileCtes]
      exact .pure _
  | cons cte rest ih =>
      obtain ⟨first, later⟩ := List.forall_mem_cons.mp each
      obtain ⟨name, query, recursive, materialized⟩ := cte
      rw [compileCtes]
      exact .two (cteBody_onlyValueErrors first) (ih later)

theorem compounds_onlyValueErrors {compounds : List (CompoundNode V)}
    (each : EachOnlyValueErrors dialect (compounds.map fun compound => .select compound.query)) :
    OnlyValueErrors (compileCompounds dialect compounds) := by
  induction compounds with
  | nil =>
      rw [compileCompounds]
      exact .pure _
  | cons compound rest ih =>
      obtain ⟨first, later⟩ := List.forall_mem_cons.mp each
      obtain ⟨operator, query⟩ := compound
      rw [compileCompounds]
      exact .two first (ih later)

theorem select_onlyValueErrors {query : SelectNode V} (ready : RenderReady (.select query))
    (each : EachOnlyValueErrors dialect (renderedParts (.select query))) :
    OnlyValueErrors (compileSelect dialect query) := by
  obtain ⟨selections, fromSource, joins, whereNode, groupBy, having, orderBy, limit, offset,
    distinct, ctes, compounds, locks⟩ := query
  cases fromSource with
  | none => cases ready
  | some source =>
      simp only [renderedParts, List.forall_mem_append] at each
      obtain ⟨⟨⟨⟨⟨⟨⟨⟨ctes_, selections_⟩, from_⟩, joins_⟩, where_⟩, groupBy_⟩, having_⟩, orderBy_⟩,
        compounds_⟩ := each
      have source_ : EachOnlyValueErrors dialect (sourceParts source) := by
        simpa using from_
      rw [compileSelect]
      refine .ite (fun absent => by cases absent) fun _ => ?_
      refine (ctes_onlyValueErrors ctes_).bind fun _ => (nodes_onlyValueErrors selections_).bind fun _ =>
        OnlyValueErrors.bind ?_ fun _ => (joins_onlyValueErrors joins_).bind fun _ =>
          (option_onlyValueErrors where_).bind fun _ => .four (nodes_onlyValueErrors groupBy_)
            (option_onlyValueErrors having_) (orders_onlyValueErrors orderBy_)
            (compounds_onlyValueErrors compounds_)
      rw [compileFrom]
      exact source_onlyValueErrors source_

theorem returning_onlyValueErrors {returning : List (Node V)}
    (each : EachOnlyValueErrors dialect (returning.map .expression)) :
    OnlyValueErrors (compileReturning dialect returning) := by
  rw [compileReturning]
  exact .ite (fun _ => .pure _) fun _ => .ite (fun _ => .valueError _ _) fun _ =>
    .one (nodes_onlyValueErrors each)

theorem conflict_onlyValueErrors {conflict : ConflictNode V}
    (target : conflict.targetWhere.isNone ∨ ¬conflict.columns.isEmpty)
    (action : conflict.updateWhere.isNone ∨ conflict.action = "update")
    (each : EachOnlyValueErrors dialect (if conflict.action = "nothing" then []
      else conflict.updateValues.map .named ++ conflict.updateWhere.toList.map .expression)) :
    OnlyValueErrors (compileConflict dialect conflict) := by
  obtain ⟨columns, kind, updateValues, targetWhere, updateWhere⟩ := conflict
  rw [compileConflict]
  refine (OnlyValueErrors.lift (conflictTarget_raises target)).bind fun _ =>
    .ite (fun nothing => ?_) fun some_ => .ite (fun _ => ?_) fun _ => .valueError _ _
  · refine .ite (fun present => ?_) fun _ => .pure _
    -- DO NOTHING with an action predicate, which the validator excludes
    rcases action with absent | update
    · obtain rfl : updateWhere = none := Option.isNone_iff_eq_none.mp absent
      cases present
    · exact absurd (nothing.symm.trans update) (by decide)
  · rw [if_neg some_] at each
    obtain ⟨values, where_⟩ := List.forall_mem_append.mp each
    refine .ite (fun _ => .bind (.valueError _ _) fun _ => ?_) fun _ => ?_
    all_goals exact .two (assignments_onlyValueErrors values) (option_onlyValueErrors where_)

theorem insertSource_onlyValueErrors {source : InsertSourceNode V} (given : source ≠ .rows [])
    (each : EachOnlyValueErrors dialect (insertSourceParts source)) :
    OnlyValueErrors (compileInsertSource dialect source) := by
  cases source with
  | values values =>
      rw [compileInsertSource]
      exact .one (cells_onlyValueErrors each)
  | rows rows =>
      rw [compileInsertSource]
      cases rows with
      | nil => exact absurd rfl given
      | cons first rest => exact .one (rows_onlyValueErrors each)
  | select query columns =>
      rw [compileInsertSource]
      exact .one (each _ List.mem_cons_self)
  | defaultValues =>
      rw [compileInsertSource]
      exact .pure _

theorem insert_onlyValueErrors {query : InsertNode V} (ready : RenderReady (.statement (.insert query)))
    (each : EachOnlyValueErrors dialect (renderedParts (.statement (.insert query)))) :
    OnlyValueErrors (compileInsert dialect query) := by
  obtain ⟨table, slot, conflict, returning⟩ := query
  obtain ⟨present, rows, clause⟩ := ready
  obtain ⟨parts, returned⟩ := List.forall_mem_append.mp each
  have table_ := OnlyValueErrors.lift (V := V) (compileTable_raises dialect table)
  cases slot with
  | none => cases present
  | some source =>
      have returning_ := returning_onlyValueErrors returned
      by_cases default_ : source = .defaultValues
      · subst default_
        rw [compileInsert.eq_def]
        exact .two table_ returning_
      · have other : source = .defaultValues → False := default_
        rw [insertParts_given (source_given other), List.forall_mem_append] at parts
        have conflict_ : OnlyValueErrors (compileConflictOption dialect conflict) := by
          cases conflict with
          | none =>
              rw [compileConflictOption]
              exact .pure _
          | some conflict =>
              rw [compileConflictOption]
              obtain ⟨target, action⟩ := clause conflict rfl
              refine conflict_onlyValueErrors target action fun part member => parts.2 part ?_
              rw [Option.toList_some, List.flatMap_cons, List.flatMap_nil, List.append_nil]
              exact member
        have source_ : OnlyValueErrors (compileInsertSource dialect source) :=
          insertSource_onlyValueErrors (fun same => rows (congrArg some same)) (by simpa using parts.1)
        rw [compileInsert.eq_def]
        dsimp only
        split
        · contradiction
        · rename_i same
          exact absurd (Option.some.inj same) default_
        · rename_i same
          obtain rfl := Option.some.inj same
          exact .four source_ table_ conflict_ returning_

theorem update_onlyValueErrors {query : UpdateNode V}
    (each : EachOnlyValueErrors dialect (renderedParts (.statement (.update query)))) :
    OnlyValueErrors (compileUpdate dialect query) := by
  obtain ⟨table, values, whereNode, bounded, returning⟩ := query
  obtain ⟨parts, returned⟩ := List.forall_mem_append.mp each
  obtain ⟨values_, where_⟩ := List.forall_mem_append.mp parts
  rw [compileUpdate]
  exact .four (assignments_onlyValueErrors values_) (.lift (compileTable_raises dialect table))
    (option_onlyValueErrors where_) (returning_onlyValueErrors returned)

theorem delete_onlyValueErrors {query : DeleteNode V}
    (each : EachOnlyValueErrors dialect (renderedParts (.statement (.delete query)))) :
    OnlyValueErrors (compileDelete dialect query) := by
  obtain ⟨table, whereNode, bounded, returning⟩ := query
  obtain ⟨where_, returned⟩ := List.forall_mem_append.mp each
  rw [compileDelete]
  exact .three (.lift (compileTable_raises dialect table)) (option_onlyValueErrors where_)
    (returning_onlyValueErrors returned)

/-- One step: a ready term raises only `ValueError`s if its parts do. -/
theorem part_onlyValueErrors {term : Term V} (ready : RenderReady term)
    (each : EachOnlyValueErrors dialect (renderedParts term)) :
    OnlyValueErrors (compileTerm dialect term) := by
  rcases term with node | node | node | node | node
  · exact expression_onlyValueErrors each
  · exact select_onlyValueErrors ready each
  · exact insert_onlyValueErrors ready each
  · exact update_onlyValueErrors each
  · exact delete_onlyValueErrors each

/-- The run: what is rendered from ready terms alone raises only `ValueError`s. -/
theorem term_onlyValueErrors {term : Term V} (ready : ∀ inner, Rendered term inner → RenderReady inner) :
    OnlyValueErrors (compileTerm dialect term) := by
  induction term using term_induction with
  | step term ih =>
      apply part_onlyValueErrors (ready term (.refl term))
      intro part member
      exact ih part member fun inner below => ready inner (rendered_iff.mpr (Or.inr ⟨part, member, below⟩))

end

/-! ### Accepted statements -/

section

variable [DecidableEq V] [PyObject V] {dialect : Dialect}

/-- Each assertion of the renderer repeats a check of the validator. -/
theorem Vetted.ready {term : Term V} (vetted : Vetted dialect term) : RenderReady term := by
  rcases term with node | node | node | node | node
  · trivial
  · obtain ⟨outer, accepted⟩ := vetted
    rw [validateStatement] at accepted
    obtain ⟨first, available, rules⟩ := validateSources_rules (validateSelect_iff.mp accepted).sources
    rw [RenderReady, rules.fromSource]
    rfl
  · obtain ⟨outer, accepted⟩ := vetted
    rw [validateStatement] at accepted
    simp only [seq_eq_ok] at accepted
    obtain ⟨shape, -, clauses, -⟩ := accepted
    refine ⟨?_, ?_, ?_⟩
    · cases source : node.source with
      | none => simp [validateInsertShape, source] at shape
      | some source => rfl
    · intro empty
      simp [validateInsertShape, empty] at shape
    · intro conflict present
      simp only [validateInsertClauses, Option.mem_def.mp present, seq_eq_ok, check_eq_ok] at clauses
      exact ⟨clauses.1, clauses.2.1⟩
  · trivial
  · trivial

/-- An accepted statement is rendered, or a `ValueError` is raised. -/
theorem accepted_renders_or_valueError {root : QueryNode V} (accepted : Accepted root dialect) :
    (∃ compiled, renderQuery root dialect = .ok compiled) ∨
      ∃ message names, renderQuery root dialect = .error (.valueError message names) := by
  have vetted := accepted_vetted accepted
  have only : OnlyValueErrors (renderStatement dialect root) :=
    term_onlyValueErrors fun inner below => (vetted_rendered vetted below).ready
  have raises : RaisesValueErrors (renderQuery root dialect) := by
    refine (only []).bind fun result => ?_
    obtain ⟨text, parameters⟩ := result
    cases dialect.maxParameters with
    | none => exact .ok _
    | some ceiling => exact .ite (fun _ => .valueError _ _) fun _ => .ok _
  cases rendered : renderQuery root dialect with
  | ok compiled => exact Or.inl ⟨compiled, rfl⟩
  | error error =>
      obtain ⟨message, names, rfl⟩ := raises error rendered
      exact Or.inr ⟨message, names, rfl⟩

end

/-- `INSERT INTO "t" ("id") VALUES (1) ON CONFLICT ("id") DO NOTHING`. -/
def insertOnce : InsertNode Int :=
  { table := { name := "t" }
    source := some (.values [("id", .value 1)])
    conflict := some { columns := ["id"], action := "nothing" } }

theorem accepted_renders_or_valueError_insertOnce :
    (∃ compiled, renderQuery (.insert insertOnce) sqlite = .ok compiled) ∨
      ∃ message names,
        renderQuery (.insert insertOnce) sqlite = .error (.valueError message names) := by
  have accepted : Accepted (.insert insertOnce) sqlite := by decide +kernel
  exact accepted_renders_or_valueError accepted

end Relq
