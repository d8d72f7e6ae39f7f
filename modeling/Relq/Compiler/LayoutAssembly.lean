/-
Module: Relq.Compiler.LayoutAssembly
Layer: Compiler
Purpose: The layout of every term is assembled from the layouts of its rendered parts, in their
  order. From this follow, by induction over terms, when a layout binds a value, that its fixed text
  holds no placeholder, and when the text order of its holes is the filling order.
Imports: Relq.Compiler.LayoutParts
Trusted boundary: none (fully proved)
Main exports: built_node, built_late, built_statement, layout_plain, layout_values_eq_nil_iff,
  layout_inOrder_iff
-/
import Relq.Compiler.LayoutParts

namespace Relq

open Templates

variable {V : Type} [PyObject V] (dialect : Dialect)

/-! ### Lists of parts -/

theorem layoutNodes_eq (nodes : List (Node V)) :
    layoutNodes dialect nodes = nodes.map (layoutNode dialect) := by
  induction nodes with
  | nil => rfl
  | cons node rest ih => rw [layoutNodes, ih, List.map_cons]

theorem layoutOption_eq (slot : Option (Node V)) :
    layoutOption dialect slot = slot.map (layoutNode dialect) := by
  cases slot <;> rfl

/-- What holds of every expression of a list as a term holds of the layouts. -/
theorem forall_layoutNodes {P : Layout V → Prop} {Q : Term V → Prop}
    (reads : ∀ node, Q (.expression node) → P (layoutNode dialect node)) {nodes : List (Node V)}
    (each : ∀ part ∈ nodes.map .expression, Q part) : ∀ layout ∈ layoutNodes dialect nodes, P layout := by
  rw [layoutNodes_eq]
  intro layout member
  obtain ⟨node, inside, rfl⟩ := List.mem_map.mp member
  exact reads node (each (.expression node) (List.mem_map.mpr ⟨node, inside, rfl⟩))

theorem forall_layoutOption {P : Layout V → Prop} {Q : Term V → Prop}
    (reads : ∀ node, Q (.expression node) → P (layoutNode dialect node)) {slot : Option (Node V)}
    (each : ∀ part ∈ slot.toList.map .expression, Q part) :
    ∀ layout ∈ layoutOption dialect slot, P layout := by
  rw [layoutOption_eq]
  intro layout member
  obtain ⟨node, rfl, rfl⟩ := Option.map_eq_some_iff.mp (Option.mem_def.mp member)
  exact reads node (each (.expression node) List.mem_cons_self)

theorem layoutCells_eq (cells : List (String × Node V)) :
    layoutCells dialect cells = cells.map fun cell => layoutNode dialect cell.2 := by
  induction cells with
  | nil => rfl
  | cons cell rest ih =>
      obtain ⟨column, value⟩ := cell
      rw [layoutCells, ih, List.map_cons]

theorem builtEach_nodes (nodes : List (Node V)) :
    BuiltEach (nodes.map (layoutNode dialect)) (layoutNodes dialect nodes) := by
  rw [layoutNodes_eq]
  exact .self _

theorem builtEach_components (components : List (String × Node V)) :
    BuiltEach (components.map fun pair => layoutNode dialect pair.2)
      (layoutComponents dialect components) := by
  induction components with
  | nil => exact .nil
  | cons component rest ih =>
      obtain ⟨name, value⟩ := component
      exact .cons (built_before _ (by simp [Lexeme.ordinal]) (.piece _)) ih

theorem builtEach_branches (branches : List (Node V × Node V)) :
    BuiltEach ((branches.flatMap fun branch => [branch.1, branch.2]).map (layoutNode dialect))
      (layoutBranches dialect branches) := by
  induction branches with
  | nil => exact .nil
  | cons branch rest ih =>
      obtain ⟨condition, value⟩ := branch
      exact .cons (built_add (built_behind (built_before _ (by simp [Lexeme.ordinal]) (.piece _)) _
        (by simp)) (.piece _)) ih

theorem builtEach_orders (orders : List (OrderNode V)) :
    BuiltEach (orders.map fun order => layoutNode dialect order.expression)
      (layoutOrders dialect orders) := by
  induction orders with
  | nil => exact .nil
  | cons order rest ih =>
      obtain ⟨expression, direction, nulls⟩ := order
      exact .cons (built_behind (.piece _) _ (bare_order direction nulls)) ih

theorem builtEach_assignments (values : List (String × Node V)) :
    BuiltEach (values.map fun pair => layoutNode dialect pair.2)
      (layoutAssignments dialect values) := by
  induction values with
  | nil => exact .nil
  | cons pair rest ih =>
      obtain ⟨column, value⟩ := pair
      exact .cons (built_before _ (by simp [Lexeme.ordinal]) (.piece _)) ih

theorem builtEach_rows (rows : List (List (String × Node V))) :
    BuiltEach ((rows.flatMap fun row => row.map fun cell => layoutNode dialect cell.2))
      (layoutRows dialect rows) := by
  induction rows with
  | nil => exact .nil
  | cons row rest ih =>
      refine .cons (built_parens (built_commas ?_)) ih
      rw [layoutCells_eq]
      exact .self _

/-! ### Expressions -/

theorem layoutWindowCall_eq (call : WindowCall V) :
    layoutWindowCall dialect call = layoutNode dialect call.toNode := by
  cases call with
  | aggregate name arguments filter => rw [layoutWindowCall, WindowCall.toNode, layoutNode]
  | function name arguments => rw [layoutWindowCall, WindowCall.toNode, layoutNode]

/-- The layout of an expression that is no bound value and has no late part. -/
theorem built_node {node : Node V} (unbound : ∀ value, node ≠ .value value)
    (punctual : lateParts node = none) :
    Built ((renderedParts (.expression node)).map (layoutTerm dialect)) (layoutNode dialect node) := by
  have one (a : Node V) : BuiltEach [layoutNode dialect a] [layoutNode dialect a] := .self _
  cases node with
  | column source name => exact built_fixed (by simp [Lexeme.ordinal])
  | value value => exact absurd rfl (unbound value)
  | temporalClock kind => exact built_fixed (bare_clockText kind)
  | binary left operator right =>
      exact built_operation (.piece _) _ (bare_lexeme operator) (.piece _)
  | temporalMakeDate year month day => exact built_call _ (.self _)
  | temporalMakeTime hour minute second => exact built_call _ (.self _)
  | temporalMakeTimestamp year month day hour minute second => exact built_call _ (.self _)
  | temporalMakeTimestamptz year month day hour minute second zone =>
      rw [layoutNode]
      refine (built_call _ (.self _)).of_eq ?_
      cases zone <;> simp [renderedParts, children, Node.nestedSelect, layoutTerm, layoutOption]
  | temporalMakeInterval components =>
      rw [layoutNode]
      refine (built_call _ (builtEach_components dialect components)).of_eq ?_
      simp [renderedParts, children, Node.nestedSelect, layoutTerm, Function.comp_def]
  | temporalEpoch seconds => exact built_call _ (.self _)
  | temporalArithmetic timestamp operator interval => simp [lateParts] at punctual
  | temporalDifference left right =>
      exact built_operation (.piece _) _ (by simp [Lexeme.ordinal]) (.piece _)
  | temporalIntervalUnary interval =>
      exact built_parens (built_before _ (by simp [Lexeme.ordinal]) (.piece _))
  | temporalIntervalScale interval operator factor =>
      exact built_operation (.piece _) _ (by simp [Lexeme.ordinal]) (.piece _)
  | temporalTimezone expression zone => exact built_operation (.piece _) _ (by simp) (.piece _)
  | temporalExtract field expression =>
      exact built_before _ (by simp [Lexeme.ordinal])
        (built_parens (built_before _ (by simp [Lexeme.ordinal]) (.piece _)))
  | temporalTrunc unit expression =>
      exact built_call _ (.cons (built_fixed (by simp [Lexeme.ordinal])) (.self _))
  | temporalTruncTimestamptz unit expression zone =>
      exact built_call _ (.cons (built_fixed (by simp [Lexeme.ordinal])) (.self _))
  | temporalBin stride expression origin =>
      exact built_call _ (.cons (built_castInterval stride (.piece _)) (.self _))
  | temporalAge left right => exact built_call _ (.self _)
  | temporalOverlaps leftStart leftEnd rightStart rightEnd =>
      rw [layoutNode]
      exact built_operation
        (built_parens (built_commas (.self [layoutNode dialect leftStart, layoutNode dialect leftEnd])))
        [.word "overlaps"] (by simp [Lexeme.ordinal])
        (built_parens (built_commas (.self [layoutNode dialect rightStart, layoutNode dialect rightEnd])))
  | temporalJustify kind interval => exact built_call _ (.self _)
  | unary operator operand =>
      exact built_parens (built_behind (.piece _) _ (by simp [Lexeme.ordinal]))
  | function name arguments =>
      rw [layoutNode]
      refine (built_call _ (builtEach_nodes dialect arguments)).of_eq ?_
      simp [renderedParts, children, Node.nestedSelect, layoutTerm, Function.comp_def]
  | case branches otherwise =>
      rw [layoutNode]
      refine (built_behind (built_add (built_behind (built_before _ (by simp [Lexeme.ordinal])
        (built_spaces (builtEach_branches dialect branches))) _ (by simp)) (.piece _)) _
        (by simp [Lexeme.ordinal])).of_eq ?_
      simp [renderedParts, children, Node.nestedSelect, layoutTerm, List.map_flatMap]
  | aggregate name arguments filter =>
      rw [layoutNode]
      refine (built_aggregate name (builtEach_nodes dialect arguments) _).of_eq ?_
      cases filter <;>
        simp [renderedParts, children, Node.nestedSelect, layoutTerm, layoutOption, Function.comp_def]
  | window call partitionBy orderBy frame exclusion => simp [lateParts] at punctual
  | aliased expression aliasName => exact built_behind (.piece _) _ (by simp [Lexeme.ordinal])
  | nullableResult expression => exact .piece _
  | star => exact built_fixed (by simp [Lexeme.ordinal])
  | inNode expression values negated =>
      cases values with
      | nodes values =>
          rw [layoutNode, layoutInValues]
          refine (built_operation (.piece _) _ (by simp)
            (built_parens (built_commas (builtEach_nodes dialect values)))).of_eq ?_
          simp [renderedParts, children, Node.nestedSelect, layoutTerm, Function.comp_def]
      | select query =>
          exact built_operation (.piece _) _ (by simp) (built_parens (.piece _))
  | between expression lower upper negated =>
      exact built_operation (.piece _) _ (by simp) (built_add (built_behind (.piece _) _ (by simp))
        (.piece _))
  | scalarSubquery query => exact built_parens (.piece _)
  | «exists» query negated => exact built_before _ (by simp [Lexeme.ordinal]) (built_parens (.piece _))
  | excluded source name => exact built_fixed (by simp [Lexeme.ordinal])
  | jsonText value key => exact built_operation (.piece _) _ (by simp [Lexeme.ordinal]) (.piece _)
  | regexMatch value pattern insensitive =>
      exact built_operation (.piece _) _ (by simp [Lexeme.ordinal]) (.piece _)
  | uuidCast value =>
      exact built_before _ (by simp [Lexeme.ordinal])
        (built_parens (built_behind (.piece _) _ (by simp [Lexeme.ordinal])))

/-- The layout of an expression with a late part. -/
theorem built_late {node : Node V} {first second : List (Term V)}
    (late : lateParts node = some (first, second)) :
    ∃ early behind, Built (first.map (layoutTerm dialect)) early ∧
      Built (second.map (layoutTerm dialect)) behind ∧
      Built [.late early behind] (layoutNode dialect node) := by
  cases node with
  | window call partitionBy orderBy frame exclusion =>
      cases late
      refine ⟨_, _, (Template.Assembled.piece _).of_eq ?_, (built_before _ ?_ (built_parens
        (built_spaces (((built_clause ["partition", "by"] (builtEach_nodes dialect partitionBy)).append
          (built_clause ["order", "by"] (builtEach_orders dialect orderBy))).append
          (built_frame frame orderBy.length exclusion))))).of_eq ?_, .piece _⟩
      · rw [layoutWindowCall_eq]
        rfl
      · simp
      · simp [layoutTerm, Function.comp_def]
  | temporalArithmetic timestamp operator interval =>
      cases late
      exact ⟨_, _, .piece _, built_before _ (by simp [Lexeme.ordinal])
        (built_castInterval interval (.piece _)), built_parens (.piece _)⟩
  | _ => simp [lateParts] at late

/-! ### Statements -/

theorem built_source (source : SourceNode V) :
    Built ((sourceParts source).map (layoutTerm dialect)) (layoutSource dialect source) := by
  cases source with
  | table table => exact built_fixed (bare_table dialect table)
  | derived query aliasName =>
      exact built_behind (built_parens (.piece _)) _ (by simp [Lexeme.ordinal])
  | cte name => exact built_fixed (by simp [Lexeme.ordinal])

theorem built_from (slot : Option (SourceNode V)) :
    Built ((slot.toList.flatMap sourceParts).map (layoutTerm dialect)) (layoutFrom dialect slot) := by
  cases slot with
  | none => exact built_fixed bare_nil
  | some source => exact (built_source dialect source).of_eq (by simp)

theorem built_joins (joins : List (JoinNode V)) :
    Built ((joins.flatMap joinParts).map (layoutTerm dialect)) (layoutJoins dialect joins) := by
  induction joins with
  | nil => exact built_fixed bare_nil
  | cons join rest ih =>
      obtain ⟨source, predicate, kind⟩ := join
      rw [layoutJoins]
      by_cases crossed : (kind != "cross") = true
      · rw [if_pos crossed]
        refine (built_add (built_add (built_behind (built_before _ (by simp)
          (built_source dialect source)) _ (by simp)) (.piece _)) ih).of_eq ?_
        simp [joinParts, crossed, layoutTerm]
      · rw [if_neg crossed]
        refine (built_add (built_before _ (by simp) (built_source dialect source)) ih).of_eq ?_
        simp [joinParts, crossed]

theorem builtEach_ctes (ctes : List (CteNode V)) :
    BuiltEach (ctes.map fun cte => layoutStatement dialect cte.query) (layoutCtes dialect ctes) := by
  induction ctes with
  | nil => exact .nil
  | cons cte rest ih =>
      obtain ⟨name, query, recursive, materialized⟩ := cte
      refine .cons (built_before _ ?_ (built_parens (.piece _))) ih
      cases materialized <;> simp [Lexeme.ordinal]

theorem built_compounds (compounds : List (CompoundNode V)) :
    Built (compounds.map fun compound => layoutSelect dialect compound.query)
      (layoutCompounds dialect compounds) := by
  induction compounds with
  | nil => exact built_fixed bare_nil
  | cons compound rest ih =>
      obtain ⟨operator, query⟩ := compound
      exact built_add (built_before _ (by simp) (.piece _)) ih

theorem built_slot (keywords : List String) (slot : Option (Node V)) :
    Built (slot.toList.map (layoutNode dialect))
      (Layout.optional keywords (layoutOption dialect slot)) := by
  refine (built_optional keywords _).of_eq ?_
  cases slot <;> simp [layoutOption]

theorem built_with (recursive : Bool) (ctes : List (CteNode V)) :
    Built (ctes.map fun cte => layoutStatement dialect cte.query)
      (if ctes.isEmpty then .fixed [] else
        .fixed (words (if recursive then ["with", "recursive"] else ["with"]) ++ [Lexeme.space]) ++
          Layout.commas (layoutCtes dialect ctes) ++ .fixed [.space]) := by
  cases ctes with
  | nil => exact built_fixed bare_nil
  | cons cte rest =>
      exact built_behind (built_before _ (by simp [Lexeme.ordinal])
        (built_commas (builtEach_ctes dialect (cte :: rest)))) _ (by simp [Lexeme.ordinal])

theorem built_select (query : SelectNode V) :
    Built ((renderedParts (.select query)).map (layoutTerm dialect)) (layoutSelect dialect query) := by
  obtain ⟨selections, fromSource, joins, whereNode, groupBy, having, orderBy, limit, offset, distinct,
    ctes, compounds, locks⟩ := query
  rw [layoutSelect]
  refine (built_add (built_behind (built_add (built_add (built_add (built_add (built_add (built_add
    (built_behind (built_add (built_behind (built_with dialect _ ctes) _ (by simp [Lexeme.ordinal]))
      (built_commas (builtEach_nodes dialect selections))) _ (by simp))
    (built_from dialect fromSource)) (built_joins dialect joins)) (built_slot dialect _ whereNode))
    (built_listed _ (builtEach_nodes dialect groupBy))) (built_slot dialect _ having))
    (built_listed _ (builtEach_orders dialect orderBy))) _
    (bare_append.mpr ⟨bare_limit dialect limit offset, bare_locks locks⟩))
    (built_compounds dialect compounds)).of_eq ?_
  simp [renderedParts, layoutTerm, layoutStatement, Function.comp_def]

theorem built_insertSource (slot : Option (InsertSourceNode V)) :
    Built ((slot.toList.flatMap insertSourceParts).map (layoutTerm dialect))
      (layoutInsertSourceOption dialect slot) := by
  cases slot with
  | none => exact built_fixed bare_nil
  | some source =>
      rw [layoutInsertSourceOption]
      cases source with
      | values values =>
          rw [layoutInsertSource, layoutCells_eq]
          refine (built_before _ (by simp [Lexeme.ordinal])
            (built_parens (built_commas (.self _)))).of_eq ?_
          simp [insertSourceParts, layoutTerm, Function.comp_def]
      | rows rows =>
          refine (built_before _ (by simp [Lexeme.ordinal])
            (built_commas (builtEach_rows dialect rows))).of_eq ?_
          simp [insertSourceParts, layoutTerm, Function.comp_def, List.map_flatMap]
      | select query columns =>
          exact (built_before _ (by simp [Lexeme.ordinal]) (.piece _)).of_eq (by
            simp [insertSourceParts, layoutTerm, layoutStatement])
      | defaultValues => exact built_fixed (by simp [Lexeme.ordinal])

/-- The terms in the action of a conflict clause. -/
theorem built_conflict (slot : Option (ConflictNode V)) :
    Built ((slot.toList.flatMap fun conflict =>
        if conflict.action = "nothing" then []
        else conflict.updateValues.map Term.named ++
          conflict.updateWhere.toList.map Term.expression).map (layoutTerm dialect))
      (layoutConflictOption dialect slot) := by
  cases slot with
  | none => exact built_fixed bare_nil
  | some conflict =>
      obtain ⟨columns, action, updateValues, targetWhere, updateWhere⟩ := conflict
      rw [layoutConflictOption, layoutConflict]
      have target : Built ([] : List (Layout V)) (Template.fixed (.space :: words ["on", "conflict"]) ++
          Layout.plain (conflictTarget columns targetWhere)) :=
        built_before _ (by simp [Lexeme.ordinal]) (built_fixed (bare_target columns targetWhere))
      by_cases nothing : action = "nothing"
      · rw [if_pos nothing]
        refine (built_add target (built_fixed (by simp [Lexeme.ordinal]))).of_eq ?_
        simp [nothing]
      · rw [if_neg nothing]
        refine (built_add target (built_add (built_before _ (by simp)
          (built_commas (builtEach_assignments dialect updateValues)))
          (built_slot dialect _ updateWhere))).of_eq ?_
        simp [nothing, layoutTerm, Function.comp_def]

theorem built_insert (query : InsertNode V) :
    Built ((renderedParts (.statement (.insert query))).map (layoutTerm dialect))
      (layoutInsert dialect query) := by
  obtain ⟨table, source, conflict, returning⟩ := query
  rw [layoutInsert]
  have returned := built_listed ["returning"] (builtEach_nodes dialect returning)
  have head := built_add (built_before (words ["insert", "into"] ++ [Lexeme.space])
    (by simp [Lexeme.ordinal])
    (built_fixed (bare_table dialect table))) (built_insertSource dialect source)
  by_cases defaulted : source.any (·.isDefaultValues) = true
  · rw [if_pos defaulted]
    refine (built_add (built_behind head _ bare_nil) returned).of_eq ?_
    rw [renderedParts, insertParts_default defaulted]
    simp [layoutTerm, Function.comp_def]
  · rw [if_neg defaulted]
    refine (built_add (built_add head (built_conflict dialect conflict)) returned).of_eq ?_
    rw [renderedParts, insertParts_given defaulted]
    simp only [List.map_append, List.nil_append, List.append_assoc]
    simp [layoutTerm, Function.comp_def]

theorem built_update (query : UpdateNode V) :
    Built ((renderedParts (.statement (.update query))).map (layoutTerm dialect))
      (layoutUpdate dialect query) := by
  obtain ⟨table, values, whereNode, bounded, returning⟩ := query
  rw [layoutUpdate]
  refine (built_add (built_add (built_add (built_behind (built_before _ (by simp [Lexeme.ordinal])
    (built_fixed (bare_table dialect table))) _ (by simp))
    (built_commas (builtEach_assignments dialect values))) (built_slot dialect _ whereNode))
    (built_listed _ (builtEach_nodes dialect returning))).of_eq ?_
  simp [renderedParts, layoutTerm, Function.comp_def]

theorem built_delete (query : DeleteNode V) :
    Built ((renderedParts (.statement (.delete query))).map (layoutTerm dialect))
      (layoutDelete dialect query) := by
  obtain ⟨table, whereNode, bounded, returning⟩ := query
  rw [layoutDelete]
  refine (built_add (built_add (built_before _ (by simp [Lexeme.ordinal])
    (built_fixed (bare_table dialect table))) (built_slot dialect _ whereNode))
    (built_listed _ (builtEach_nodes dialect returning))).of_eq ?_
  simp [renderedParts, layoutTerm, Function.comp_def]

theorem built_statement (query : QueryNode V) :
    Built ((renderedParts (.statement query)).map (layoutTerm dialect))
      (layoutStatement dialect query) := by
  cases query with
  | select query => exact built_select dialect query
  | insert query => exact built_insert dialect query
  | update query => exact built_update dialect query
  | delete query => exact built_delete dialect query

/-! ### What the assembly gives -/

/-- How the layout of a term is made: a bound value is a hole, a late part stands before the text
rendered ahead of it, and every other layout consists of the layouts of the rendered parts. -/
inductive Made : Term V → Layout V → Prop where
  | bound (value : V) : Made (.expression (.value value)) (.hole value)
  | late {node : Node V} {first second : List (Term V)} {early behind layout : Layout V}
      (parts : lateParts node = some (first, second))
      (early_ : Built (first.map (layoutTerm dialect)) early)
      (behind_ : Built (second.map (layoutTerm dialect)) behind)
      (built : Built [.late early behind] layout) : Made (.expression node) layout
  | ordered {term : Term V} {layout : Layout V}
      (punctual : ∀ node, term = .expression node → lateParts node = none)
      (unbound : ∀ value, term ≠ .expression (.value value))
      (built : Built ((renderedParts term).map (layoutTerm dialect)) layout) : Made term layout

theorem layoutTerm_made (term : Term V) : Made dialect term (layoutTerm dialect term) := by
  cases term with
  | statement query =>
      exact .ordered (by simp) (by simp) (built_statement dialect query)
  | expression node =>
      cases parts : lateParts node with
      | some pair =>
          obtain ⟨early, behind, first, second, built⟩ := built_late dialect parts
          exact .late parts first second built
      | none =>
          by_cases bound : ∃ value, node = .value value
          · obtain ⟨value, rfl⟩ := bound
            exact .bound value
          · have unbound : ∀ value, node ≠ .value value := fun value same => bound ⟨value, same⟩
            refine .ordered ?_ (by simpa using unbound) (built_node dialect unbound parts)
            rintro _ ⟨rfl⟩
            exact parts

/-- The fixed text of a layout holds no placeholder. -/
theorem layout_plain (term : Term V) : (layoutTerm dialect term).Plain Lexeme.ordinal := by
  induction term using term_induction with
  | step term ih =>
      have each (parts : List (Term V)) (among : ∀ part ∈ parts, part ∈ renderedParts term) :
          ∀ piece ∈ parts.map (layoutTerm dialect), piece.Plain Lexeme.ordinal := by
        intro piece member
        obtain ⟨part, inside, rfl⟩ := List.mem_map.mp member
        exact ih part (among part inside)
      cases layoutTerm_made dialect term with
      | bound value => trivial
      | late parts early behind built =>
          have all := renderedParts_late parts
          refine built.plain fun piece member => ?_
          obtain rfl := List.mem_singleton.mp member
          refine ⟨early.plain (each _ fun part inside => ?_), behind.plain (each _ fun part inside => ?_)⟩
          · exact all ▸ List.mem_append_left _ inside
          · exact all ▸ List.mem_append_right _ inside
      | ordered punctual unbound built => exact built.plain (each _ fun _ inside => inside)

/-- Assembled pieces bind nothing when none of them does. -/
theorem built_values_eq_nil_iff {parts : List (Term V)} {layout : Layout V}
    (built : Built (parts.map (layoutTerm dialect)) layout) :
    layout.values = [] ↔ ∀ part ∈ parts, (layoutTerm dialect part).values = [] := by
  rw [built.values]
  simp

/-- The layout of a term has a hole exactly when a bound value is rendered in it. -/
theorem layout_values_eq_nil_iff (term : Term V) :
    (layoutTerm dialect term).values = [] ↔ ¬Binds term := by
  induction term using term_induction with
  | step term ih =>
      rw [binds_iff]
      have none_iff (parts : List (Term V)) (among : ∀ part ∈ parts, part ∈ renderedParts term) :
          (∀ part ∈ parts, (layoutTerm dialect part).values = []) ↔ ¬∃ part ∈ parts, Binds part := by
        rw [not_exists]
        refine forall_congr' fun part => ?_
        rw [not_and]
        exact forall_congr' fun member => ih part (among part member)
      cases made : layoutTerm_made dialect term with
      | bound value => simp [layoutTerm, layoutNode]
      | @late node first second early behind layout parts early_ behind_ built =>
          have all := renderedParts_late parts
          have unbound : ¬∃ value, Term.expression node = .expression (.value value) := by
            rintro ⟨value, ⟨rfl⟩⟩
            cases parts
          rw [built.values]
          simp only [List.flatMap_cons, List.flatMap_nil, List.append_nil, Template.values_late,
            List.append_eq_nil_iff, built_values_eq_nil_iff dialect early_,
            built_values_eq_nil_iff dialect behind_, or_iff_right unbound]
          rw [none_iff first fun part inside => all ▸ List.mem_append_left _ inside,
            none_iff second fun part inside => all ▸ List.mem_append_right _ inside, all]
          grind
      | ordered punctual unbound built =>
          rw [built_values_eq_nil_iff dialect built, none_iff _ fun _ inside => inside]
          simp [unbound]

/-- Assembled pieces are in order exactly when each of them is. -/
theorem built_inOrder_iff {parts : List (Term V)} {layout : Layout V}
    (built : Built (parts.map (layoutTerm dialect)) layout) :
    layout.InOrder ↔ ∀ part ∈ parts, (layoutTerm dialect part).InOrder := by
  rw [built.inOrder_iff]
  simp

/-- The holes of a layout are filled in text order exactly when no node rendered in it binds values
both in its late part and ahead of it. -/
theorem layout_inOrder_iff (term : Term V) :
    (layoutTerm dialect term).InOrder ↔ ¬∃ node, Rendered term (.expression node) ∧ Twofold node := by
  induction term using term_induction with
  | step term ih =>
      rw [exists_rendered_iff]
      have ordered_iff (parts : List (Term V)) (among : ∀ part ∈ parts, part ∈ renderedParts term) :
          (∀ part ∈ parts, (layoutTerm dialect part).InOrder) ↔
            ¬∃ part ∈ parts, ∃ node, Rendered part (.expression node) ∧ Twofold node := by
        rw [not_exists]
        refine forall_congr' fun part => ?_
        rw [not_and]
        exact forall_congr' fun member => ih part (among part member)
      cases made : layoutTerm_made dialect term with
      | bound value => simp [layoutTerm, layoutNode, Template.InOrder, Twofold, lateParts, renderedParts,
          children, Node.nestedSelect]
      | @late node first second early behind layout parts early_ behind_ built =>
          have all := renderedParts_late parts
          rw [built.inOrder_iff]
          simp only [List.forall_mem_singleton, Template.InOrder, built_inOrder_iff dialect early_,
            built_inOrder_iff dialect behind_, built_values_eq_nil_iff dialect early_,
            built_values_eq_nil_iff dialect behind_, layout_values_eq_nil_iff]
          rw [ordered_iff first fun part inside => all ▸ List.mem_append_left _ inside,
            ordered_iff second fun part inside => all ▸ List.mem_append_right _ inside, all]
          have here : (∃ other, Term.expression node = .expression other ∧ Twofold other) ↔
              (∃ part ∈ first, Binds part) ∧ ∃ part ∈ second, Binds part := by
            simp [Twofold, parts]
          rw [here]
          grind
      | ordered punctual unbound built =>
          rw [built_inOrder_iff dialect built, ordered_iff _ fun _ inside => inside, or_iff_right]
          rintro ⟨node, rfl, first, second, parts, -⟩
          rw [punctual node rfl] at parts
          cases parts

end Relq
