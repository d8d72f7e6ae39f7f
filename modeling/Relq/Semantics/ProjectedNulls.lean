/-
Module: Relq.Semantics.ProjectedNulls
Layer: Semantics
Purpose: What `validate_projected_nullability` promises about the rows of a SELECT. The builders give an
  expression a result type with or without None; an expression without None that passes the check is
  non-NULL on every joined row on which its operations yield values, and where every operation is strict
  the check rejects only what some such row makes NULL.
Imports: Relq.Analysis.NullExtension, Relq.Builders.Predicates, Relq.Compiler.Accepted,
  Relq.Library.Dictionaries
Trusted boundary: human-reviewed spec (Record, Interpretation.on, Honest, NonOptional, Computes, Strict)
Main exports: Record, Interpretation.on, Honest, NonOptional, Node.backed, Computes, Strict,
  nonOptional_notNull, projectedNullability_exact
-/
import Relq.Analysis.NullExtension
import Relq.Builders.Predicates
import Relq.Compiler.Accepted
import Relq.Library.Dictionaries

namespace Relq

open Outcome
open OuterJoins (Kind Joined)

variable {V D : Type}

/-! ### Expressions on joined rows -/

/-- A row of one source: the value under each column name. -/
abbrev Record (D : Type) : Type := String → Option D

/-- The interpretation of expressions on a joined row: the columns of a joined source come from its row,
or are NULL where an outer join extended it; all others come from the enclosing query. -/
def Interpretation.on (I : Interpretation V D) (row : Joined String (Record D)) :
    Interpretation V D :=
  { I with
    column := fun source name =>
      match row.lookup source with
      | none => I.column source name
      | some none => none
      | some (some own) => own name }

theorem Interpretation.on_column (I : Interpretation V D) (row : Joined String (Record D))
    (source name : String) :
    (I.on row).column source name =
      match row.lookup source with
      | none => I.column source name
      | some none => none
      | some (some own) => own name :=
  rfl

/-- The columns that `required` declares without None are never NULL in the rows of the sources and in
those of the enclosing query, and a bound value is NULL only if it is None. -/
structure Honest [PyObject V] (required : String → String → Prop) (I : Interpretation V D)
    (locals : List String) (contents : String → List (Record D)) : Prop where
  values : ∀ value, PyObject.view value ≠ .none → I.value value ≠ none
  enclosing : ∀ source ∉ locals, ∀ name, required source name → I.column source name ≠ none
  records : ∀ source, ∀ own ∈ contents source, ∀ name, required source name → own name ≠ none

/-! ### The declared types of expressions -/

/-- The operations that are NULL if an operand is. -/
def Node.isStrict : Node V → Bool
  | .binary _ operator _ => operator.isArithmetic
  | .aliased .. | .uuidCast _ => true
  | .temporalClock _ | .temporalArithmetic .. | .temporalDifference .. | .temporalAge .. => true
  | .temporalMakeDate .. | .temporalMakeTime .. | .temporalMakeTimestamp .. => true
  | .temporalMakeTimestamptz .. | .temporalMakeInterval _ | .temporalEpoch _ => true
  | .temporalIntervalUnary _ | .temporalJustify .. | .temporalIntervalScale .. => true
  | .temporalTimezone .. | .temporalExtract .. | .temporalTrunc .. => true
  | .temporalTruncTimestamptz .. | .temporalBin .. => true
  | _ => false

/-- The expressions to which the builders give a result type without None, when `required` tells the
columns declared so. -/
inductive NonOptional [PyObject V] (required : String → String → Prop) : Node V → Prop where
  | column {source name : String} (declared : required source name) :
      NonOptional required (.column source name)
  | value {value : V} (present : PyObject.view value ≠ .none) : NonOptional required (.value value)
  | operation {node : Node V} (strict : node.isStrict)
      (operands : ∀ operand ∈ nullPropagatingOperands node, NonOptional required operand) :
      NonOptional required node
  | coalesce {arguments : List (Node V)}
      (each : ∀ argument ∈ arguments, NonOptional required argument) :
      NonOptional required (.function .coalesce arguments)
  | case {branches : List (Node V × Node V)} {otherwise : Node V}
      (values : ∀ branch ∈ branches, NonOptional required branch.2)
      (last : NonOptional required otherwise) : NonOptional required (.case branches otherwise)
  | predicate {node : Node V} (built : Constructed (.predicate node)) : NonOptional required node

/-- The check does not look into `coalesce`: an argument of it that no outer join makes NULL is left to
the author. This says that every `coalesce` in the value of an expression has one. -/
def Node.backed (extended : List String) : Node V → Bool
  | .function .coalesce arguments =>
      arguments.attach.any fun argument =>
        (nullableResultSources argument.1).all (· ∉ extended) && argument.1.backed extended
  | node =>
      (nullPropagatingOperands node).attach.all fun operand => operand.1.backed extended
termination_by node => sizeOf node
decreasing_by
  · have := List.sizeOf_lt_of_mem argument.2
    simp only [Node.function.sizeOf_spec]
    omega
  · exact sizeOf_lt_of_mem_children (nullPropagatingOperands_subset operand.2)

/-- The operands that give an expression its NULLs: those the validator looks at, and the arguments of
`coalesce`, which it does not look into. -/
def Node.resultOperands : Node V → List (Node V)
  | .function .coalesce arguments => arguments
  | node => nullPropagatingOperands node

/-- The second expression is the first or stands, through such operands, below it. -/
inductive FedBy : Node V → Node V → Prop where
  | self (node : Node V) : FedBy node node
  | operand {node operand inner : Node V} (inside : operand ∈ node.resultOperands)
      (below : FedBy operand inner) : FedBy node inner

/-- Every strict operation that feeds the expression yields a value, unless one of its operands is NULL:
nothing is divided by zero, no field is extracted from an infinite timestamp. -/
def Computes (I : Interpretation V D) (node : Node V) : Prop :=
  ∀ operation, FedBy node operation → operation.isStrict →
    (∀ operand ∈ nullPropagatingOperands operation, evaluate I operand ≠ none) →
      evaluate I operation ≠ none

theorem Computes.operand {I : Interpretation V D} {node operand : Node V} (computes : Computes I node)
    (inside : operand ∈ node.resultOperands) : Computes I operand :=
  fun operation feeds => computes operation (.operand inside feeds)

/-- Only columns, values and strict operations. -/
inductive Strict : Node V → Prop where
  | column (source name : String) : Strict (.column source name)
  | value (value : V) : Strict (.value value)
  | operation {node : Node V} (strict : node.isStrict)
      (operands : ∀ operand ∈ nullPropagatingOperands node, Strict operand) : Strict node

/-! ### NULL through strict operations -/

section
variable {I : Interpretation V D}

theorem Interpretation.strictly_of_null {node : Node V} {operands : List (Option D)}
    (null : none ∈ operands) : I.strictly node operands = none := by
  have collected : operands.mapM id = none := by
    induction operands with
    | nil => cases null
    | cons operand rest ih =>
        cases operand with
        | none => rfl
        | some value =>
            rw [List.mapM_cons, ih ((List.mem_cons.mp null).resolve_left (by simp))]
            rfl
  rw [Interpretation.strictly, collected]
  rfl

theorem evaluateOption_eq (zone : Option (Node V)) :
    evaluateOption I zone = zone.toList.map (evaluate I) := by
  cases zone <;> rfl

theorem evaluateNamed_eq (components : List (String × Node V)) :
    evaluateNamed I components = (components.map (·.2)).map (evaluate I) := by
  induction components with
  | nil => rfl
  | cons component rest ih => rw [evaluateNamed, ih, List.map_cons, List.map_cons]

theorem evaluateNodes_eq (nodes : List (Node V)) : evaluateNodes I nodes = nodes.map (evaluate I) := by
  induction nodes with
  | nil => rfl
  | cons node rest ih => rw [evaluateNodes, ih, List.map_cons]

theorem mem_of_lookup {entries : List (String × Option (Record D))} {key : String}
    {value : Option (Record D)} (found : entries.lookup key = some value) : (key, value) ∈ entries := by
  obtain ⟨before, after, rfl, -⟩ := List.lookup_eq_some_iff.mp found
  simp

theorem mem_map_evaluate {nodes : List (Node V)} :
    none ∈ nodes.map (evaluate I) ↔ ∃ node ∈ nodes, evaluate I node = none :=
  List.mem_map

/-- A strict operation computes its value from those of the operands the validator looks at. -/
theorem evaluate_strictly {node : Node V} (strict : node.isStrict)
    (unaliased : ∀ expression name, node ≠ .aliased expression name) :
    evaluate I node = I.strictly node ((nullPropagatingOperands node).map (evaluate I)) := by
  cases node with
  | binary left operator right =>
      have arithmetic : operator.isArithmetic := strict
      rw [nullPropagatingOperands, if_pos arithmetic, evaluate]
      cases operator <;> first
        | rfl
        | exact absurd arithmetic (by decide)
  | aliased expression name => exact absurd rfl (unaliased expression name)
  | temporalMakeTimestamptz =>
      rw [evaluate, evaluateOption_eq, nullPropagatingOperands, List.map_append]
      rfl
  | temporalMakeInterval components =>
      rw [evaluate, evaluateNamed_eq, nullPropagatingOperands]
  | _ =>
      first
      | exact absurd strict Bool.false_ne_true
      | rw [evaluate]
        rfl

/-- A strict operation is NULL if one of the operands the validator looks at is. -/
theorem evaluate_strict {node : Node V} (strict : node.isStrict)
    (null : ∃ operand ∈ nullPropagatingOperands node, evaluate I operand = none) :
    evaluate I node = none := by
  by_cases aliased : ∃ expression name, node = .aliased expression name
  · obtain ⟨expression, name, rfl⟩ := aliased
    simpa [evaluate, nullPropagatingOperands] using null
  · rw [evaluate_strictly strict (by simpa using aliased)]
    exact Interpretation.strictly_of_null (mem_map_evaluate.mpr null)

theorem evaluateBranches_eq_none {branches : List (Node V × Node V)} {otherwise : Option D}
    (null : evaluateBranches I branches otherwise = none) :
    otherwise = none ∨ ∃ branch ∈ branches, evaluate I branch.2 = none := by
  induction branches with
  | nil => exact .inl null
  | cons branch rest ih =>
      obtain ⟨condition, value⟩ := branch
      rw [evaluateBranches] at null
      split at null
      · exact .inr ⟨_, List.mem_cons_self, null⟩
      · rcases ih null with last | ⟨branch, member, missing⟩
        · exact .inl last
        · exact .inr ⟨branch, List.mem_cons_of_mem _ member, missing⟩

/-- `coalesce` is NULL only if every argument is. -/
theorem evaluate_coalesce {arguments : List (Node V)}
    (null : evaluate I (.function .coalesce arguments) = none) :
    ∀ argument ∈ arguments, evaluate I argument = none := by
  rw [evaluate, evaluateNodes_eq, Interpretation.function] at null
  intro argument member
  by_contra present
  obtain ⟨value, evaluated⟩ := Option.ne_none_iff_exists'.mp present
  have found : ((arguments.map (evaluate I)).find? Option.isSome).isSome := by
    rw [List.find?_isSome]
    exact ⟨some value, List.mem_map.mpr ⟨argument, member, evaluated⟩, rfl⟩
  obtain ⟨first, first_found⟩ := Option.isSome_iff_exists.mp found
  have known := List.find?_some first_found
  rw [first_found] at null
  cases first with
  | none => cases known
  | some _ => cases null

end

/-! ### The operands the validator looks at -/

theorem mem_nullableResultSources {node : Node V} (operation : ∀ source name, node ≠ .column source name)
    {source : String} :
    source ∈ nullableResultSources node ↔
      ∃ operand ∈ nullPropagatingOperands node, source ∈ nullableResultSources operand := by
  rw [nullableResultSources]
  · simp
  · exact operation

theorem isStrict_not_column {node : Node V} (strict : node.isStrict) (source name : String) :
    node ≠ .column source name := by
  rintro rfl
  exact nomatch (strict : false = true)

theorem isStrict_not_coalesce {node : Node V} (strict : node.isStrict)
    (arguments : List (Node V)) : node ≠ .function .coalesce arguments := by
  rintro rfl
  exact nomatch (strict : false = true)

theorem resultOperands_eq {node : Node V} (other : ∀ arguments, node ≠ .function .coalesce arguments) :
    node.resultOperands = nullPropagatingOperands node := by
  rw [Node.resultOperands]
  exact other

theorem backed_operands {extended : List String} {node : Node V} (backed : node.backed extended)
    (operation : ∀ arguments, node ≠ .function .coalesce arguments) :
    ∀ operand ∈ nullPropagatingOperands node, operand.backed extended := by
  intro operand member
  rw [Node.backed] at backed
  · exact List.all_eq_true.mp backed ⟨operand, member⟩ (List.mem_attach _ _)
  · exact operation

theorem backed_coalesce {extended : List String} {arguments : List (Node V)}
    (backed : (Node.function .coalesce arguments).backed extended) :
    ∃ argument ∈ arguments, (∀ source ∈ nullableResultSources argument, source ∉ extended) ∧
      argument.backed extended := by
  rw [Node.backed, List.any_eq_true] at backed
  obtain ⟨⟨argument, member⟩, -, holds⟩ := backed
  obtain ⟨clear, backed⟩ := Bool.and_eq_true_iff.mp holds
  refine ⟨argument, member, fun source mentioned => ?_, backed⟩
  exact of_decide_eq_true (List.all_eq_true.mp clear source mentioned)

/-! ### Soundness -/

section

variable [PyObject V] {required : String → String → Prop} {I : Interpretation V D}
  {first : String} {chain : List (Kind × String)} {contents : String → List (Record D)}
  {on : String → Joined String (Record D) → Bool} {row : Joined String (Record D)}

/-- A column declared without None is NULL only where its source is extended. -/
theorem evaluate_column (honest : Honest required I (first :: chain.map Prod.snd) contents)
    (member : row ∈ OuterJoins.joinAll contents on first chain) {source name : String}
    (declared : required source name) (clear : source ∉ OuterJoins.extendable [first] chain) :
    evaluate (I.on row) (.column source name) ≠ none := by
  rw [evaluate, Interpretation.on_column]
  split
  · next missing =>
      refine honest.enclosing source ?_ name declared
      rw [← OuterJoins.joinAll_sources member]
      intro inside
      obtain ⟨entry, entered, rfl⟩ := List.mem_map.mp inside
      have := List.lookup_eq_none_iff.mp missing entry entered
      simp at this
  · next extended =>
      exact absurd (OuterJoins.extendable_sound member (mem_of_lookup extended)) clear
  · next own found =>
      exact honest.records source own
        (OuterJoins.drawn_joinAll row member source own (mem_of_lookup found)) name declared

/-- An expression declared without None, free of extended sources, is non-NULL on every joined row on
which its operations yield values. -/
theorem evaluate_nonOptional (honest : Honest required I (first :: chain.map Prod.snd) contents)
    (member : row ∈ OuterJoins.joinAll contents on first chain) {node : Node V}
    (typed : NonOptional required node)
    (clear : ∀ source ∈ nullableResultSources node, source ∉ OuterJoins.extendable [first] chain)
    (backed : node.backed (OuterJoins.extendable [first] chain))
    (computes : Computes (I.on row) node) : evaluate (I.on row) node ≠ none := by
  induction typed with
  | column declared => exact evaluate_column honest member declared (clear _ (by simp [nullableResultSources]))
  | value present =>
      rw [evaluate]
      exact honest.values _ present
  | operation strict operands ih =>
      refine computes _ (.self _) strict fun operand inside => ?_
      have other := isStrict_not_coalesce strict
      refine ih operand inside (fun source mentioned => clear source ?_)
        (backed_operands backed other operand inside)
        (computes.operand (by rwa [resultOperands_eq other]))
      exact (mem_nullableResultSources (isStrict_not_column strict)).mpr ⟨operand, inside, mentioned⟩
  | coalesce each ih =>
      intro null
      obtain ⟨argument, inside, free, sound⟩ := backed_coalesce backed
      exact ih argument inside free sound (computes.operand inside)
        (evaluate_coalesce null argument inside)
  | @case branches otherwise values last ihValues ihLast =>
      have below : ∀ operand ∈ nullPropagatingOperands (.case branches otherwise),
          (∀ source ∈ nullableResultSources operand, source ∉ OuterJoins.extendable [first] chain) ∧
            operand.backed (OuterJoins.extendable [first] chain) ∧ Computes (I.on row) operand :=
        fun operand inside => ⟨fun source mentioned => clear source
            ((mem_nullableResultSources (by simp)).mpr ⟨operand, inside, mentioned⟩),
          backed_operands backed (by simp) operand inside, computes.operand inside⟩
      intro null
      rw [evaluate] at null
      rcases evaluateBranches_eq_none null with missing | ⟨branch, inside, missing⟩
      · obtain ⟨free, sound, yields⟩ := below otherwise (by simp [nullPropagatingOperands])
        exact ihLast free sound yields missing
      · obtain ⟨free, sound, yields⟩ :=
          below branch.2 (List.mem_cons_of_mem _ (List.mem_map_of_mem inside))
        exact ihValues branch inside free sound yields missing
  | predicate built =>
      obtain ⟨b, value⟩ := predicate_twoValued (I.on row) built rfl
      rw [value]
      exact Option.some_ne_none _

end

theorem joinKind_of_extendedBy {keyword reference : String} {visible more : List String}
    (done : extendedBy keyword visible reference = .ok more) : ∃ kind, joinKind keyword = some kind := by
  unfold extendedBy at done
  split_ifs at done with left right full kept
  · exact ⟨.left, by rw [left]; rfl⟩
  · exact ⟨.right, by rw [right]; rfl⟩
  · exact ⟨.full, by rw [full]; rfl⟩
  · rcases kept with rfl | rfl <;> exact ⟨_, rfl⟩

/-- The check raises for an unknown kind of join, so the joins of a SELECT that passes form a chain. -/
theorem joinChain_of_nullability {node : SelectNode V} {first : SourceNode V}
    (from_ : node.fromSource = some first) (accepted : validateProjectedNullability node = .ok ()) :
    ∃ chain, joinChain node.joins = some chain := by
  obtain ⟨extended, computed, -⟩ := bind_eq_ok.mp accepted
  simp only [nullExtendedSources, from_] at computed
  have supported : ∀ (joins : List (JoinNode V)) (visible nullable : List String),
      nullExtendedJoins joins visible nullable = .ok extended →
        ∃ chain, joinChain joins = some chain := by
    intro joins
    induction joins with
    | nil => exact fun _ _ _ => ⟨[], rfl⟩
    | cons join rest ih =>
        intro visible nullable done
        rw [nullExtendedJoins] at done
        obtain ⟨more, extends_, later⟩ := bind_eq_ok.mp done
        obtain ⟨chain, chained⟩ := ih _ _ later
        obtain ⟨kind, keyword⟩ := joinKind_of_extendedBy extends_
        refine ⟨(kind, join.source.reference) :: chain, ?_⟩
        rw [joinChain, List.mapM_cons, keyword]
        simp only [joinChain] at chained
        simp [chained]
  exact supported _ _ _ computed

theorem localSources_eq {node : SelectNode V} {first : SourceNode V} {chain : List (Kind × String)}
    (from_ : node.fromSource = some first) (means : joinChain node.joins = some chain) :
    localSources node = first.reference :: chain.map Prod.snd := by
  rw [localSources, from_, joinChain_references means]

theorem nullExtendedSources_eq {node : SelectNode V} {first : SourceNode V}
    {chain : List (Kind × String)} (from_ : node.fromSource = some first)
    (means : joinChain node.joins = some chain) :
    nullExtendedSources node = .ok (OuterJoins.extendable [first.reference] chain) := by
  simp only [nullExtendedSources, from_]
  exact nullExtendedJoins_eq means

/-- The check as a condition on the selected expressions. -/
theorem validateProjectedNullability_iff {node : SelectNode V} {extended : List String}
    (computed : nullExtendedSources node = .ok extended) :
    validateProjectedNullability node = .ok () ↔
      ∀ selection ∈ node.selections, ∀ source ∈ nullableResultSources selection,
        source ∉ extended := by
  rw [validateProjectedNullability, computed]
  change (if extended.isEmpty then _ else _) = _ ↔ _
  split
  · next none =>
      rw [List.isEmpty_iff] at none
      simp [none]
  · change node.selections.forM _ = _ ↔ _
    rw [forM_eq_ok]
    simp [validateSelectionNullability, List.filter_eq_nil_iff]

/-- In a SELECT that the validator accepts, a selected expression that the builders declare without None
is non-NULL on every joined row, for all contents of the sources and all ON conditions, provided each
`coalesce` in it has an argument that no outer join makes NULL and no operation in it is NULL on that row
of its own. -/
theorem nonOptional_notNull [DecidableEq V] [PyObject V] {node : SelectNode V} {dialect : Dialect}
    {outer : List String} (accepted : validateSelect node dialect outer = .ok ()) :
    ∃ first chain extended, node.fromSource = some first ∧ joinChain node.joins = some chain ∧
      nullExtendedSources node = .ok extended ∧
      ∀ (D : Type) (required : String → String → Prop) (I : Interpretation V D)
        (contents : String → List (Record D)) (on : String → Joined String (Record D) → Bool)
        (row : Joined String (Record D)),
        Honest required I (localSources node) contents → JoinedRow first chain contents on row →
          ∀ selection ∈ node.selections, NonOptional required selection →
            selection.backed extended → Computes (I.on row) selection →
              evaluate (I.on row) selection ≠ none := by
  obtain ⟨first, available, rules⟩ := validateSources_rules (validateSelect_iff.mp accepted).sources
  obtain ⟨chain, means⟩ := joinChain_of_nullability rules.fromSource rules.nullability
  have computed := nullExtendedSources_eq rules.fromSource means
  refine ⟨first, chain, _, rules.fromSource, means, computed, ?_⟩
  intro D required I contents on row honest joined selection member typed backed computes
  rw [localSources_eq rules.fromSource means] at honest
  exact evaluate_nonOptional honest joined typed
    ((validateProjectedNullability_iff computed).mp rules.nullability selection member) backed computes

/-- `SELECT a.x, coalesce(b.y, a.x) FROM a LEFT JOIN b ON a.x = b.y`. -/
def leftWithFallback : SelectNode Int :=
  { selections := [.column "a" "x", .function .coalesce [.column "b" "y", .column "a" "x"]]
    fromSource := some (.table { name := "a" })
    joins := [
      { source := .table { name := "b" }
        predicate := .binary (.column "a" "x") .eq (.column "b" "y")
        kind := "left" }] }

theorem nonOptional_notNull_leftWithFallback :
    ∃ first chain extended, leftWithFallback.fromSource = some first ∧
      joinChain leftWithFallback.joins = some chain ∧
      nullExtendedSources leftWithFallback = .ok extended ∧
      ∀ (D : Type) (required : String → String → Prop) (I : Interpretation Int D)
        (contents : String → List (Record D)) (on : String → Joined String (Record D) → Bool)
        (row : Joined String (Record D)),
        Honest required I (localSources leftWithFallback) contents →
          JoinedRow first chain contents on row →
          ∀ selection ∈ leftWithFallback.selections, NonOptional required selection →
            selection.backed extended → Computes (I.on row) selection →
              evaluate (I.on row) selection ≠ none :=
  nonOptional_notNull (show validateSelect leftWithFallback postgres [] = .ok () by decide +kernel)

/-! ### No more is rejected than necessary -/

/-- Every value is present, and every operation yields one. -/
def allPresent (V : Type) : Interpretation V Bool where
  column _ _ := some true
  value _ := some true
  ofBool b := b
  holds b := b
  holds_ofBool _ := rfl
  compare _ _ _ := true
  operate _ _ := some true
  rows _ := []
  outside _ := some true

theorem honest_allPresent [PyObject V] (required : String → String → Prop) (locals : List String) :
    Honest required (allPresent V) locals
      (OuterJoins.oneRow (fun _ => some true : Record Bool)) where
  values _ _ := Option.some_ne_none _
  enclosing _ _ _ _ := Option.some_ne_none _
  records source own member name _ := by
    obtain rfl := List.mem_singleton.mp member
    exact Option.some_ne_none _

theorem allPresent_strictly (row : Joined String (Record Bool)) {node : Node V}
    {operands : List (Option Bool)} (present : none ∉ operands) :
    ((allPresent V).on row).strictly node operands ≠ none := by
  have collected : ∃ values, operands.mapM id = some values := by
    induction operands with
    | nil => exact ⟨[], rfl⟩
    | cons operand rest ih =>
        rw [List.mem_cons, not_or] at present
        obtain ⟨values, collected⟩ := ih present.2
        obtain ⟨value, rfl⟩ := Option.ne_none_iff_exists'.mp (Ne.symm present.1)
        exact ⟨value :: values, by rw [List.mapM_cons, collected]; rfl⟩
  obtain ⟨values, collected⟩ := collected
  rw [Interpretation.strictly, collected]
  exact Option.some_ne_none _

theorem computes_allPresent (row : Joined String (Record Bool)) (node : Node V) :
    Computes ((allPresent V).on row) node := by
  intro operation _ strict present
  by_cases aliased : ∃ expression name, operation = .aliased expression name
  · obtain ⟨expression, name, rfl⟩ := aliased
    rw [evaluate]
    exact present expression (by simp [nullPropagatingOperands])
  · rw [evaluate_strictly strict (by simpa using aliased)]
    refine allPresent_strictly row fun null => ?_
    obtain ⟨operand, inside, missing⟩ := mem_map_evaluate.mp null
    exact present operand inside missing

/-- A strict expression is NULL where one of its sources is extended. -/
theorem evaluate_extended {I : Interpretation V D} {row : Joined String (Record D)}
    (distinct : (row.map Prod.fst).Nodup) {source : String} (extended : (source, none) ∈ row)
    {node : Node V} (strict : Strict node) (mentioned : source ∈ nullableResultSources node) :
    evaluate (I.on row) node = none := by
  induction strict with
  | column own name =>
      obtain rfl : source = own := by simpa [nullableResultSources] using mentioned
      rw [evaluate, Interpretation.on_column, (Dictionaries.mem_iff_lookup distinct).mp extended]
  | value => simp [nullableResultSources, nullPropagatingOperands] at mentioned
  | operation strict operands ih =>
      obtain ⟨operand, inside, below⟩ :=
        (mem_nullableResultSources (isStrict_not_column strict)).mp mentioned
      exact evaluate_strict strict ⟨operand, inside, ih operand inside below⟩

theorem backed_of_strict {extended : List String} {node : Node V} (strict : Strict node) :
    node.backed extended := by
  induction strict with
  | column | value =>
      rw [Node.backed]
      · rfl
      · simp
  | operation strict operands ih =>
      rw [Node.backed]
      · exact List.all_eq_true.mpr fun operand _ => ih operand.1 operand.2
      · exact isStrict_not_coalesce strict

/-- On columns, values and strict operations declared without None the check is exact: it rejects a
SELECT if and only if some contents and ON conditions that respect the declarations make a selected
expression NULL although its operations yield values. -/
theorem projectedNullability_exact [PyObject V] {node : SelectNode V} {first : SourceNode V}
    {chain : List (Kind × String)} (from_ : node.fromSource = some first)
    (means : joinChain node.joins = some chain) (distinct : (localSources node).Nodup)
    {required : String → String → Prop}
    (plain : ∀ selection ∈ node.selections, Strict selection ∧ NonOptional required selection) :
    validateProjectedNullability node = .ok () ↔
      ∀ (D : Type) (I : Interpretation V D) (contents : String → List (Record D))
        (on : String → Joined String (Record D) → Bool) (row : Joined String (Record D)),
        Honest required I (localSources node) contents → JoinedRow first chain contents on row →
          ∀ selection ∈ node.selections, Computes (I.on row) selection →
            evaluate (I.on row) selection ≠ none := by
  have computed := nullExtendedSources_eq from_ means
  rw [validateProjectedNullability_iff computed, localSources_eq from_ means]
  constructor
  · intro clear D I contents on row honest joined selection member computes
    obtain ⟨strict, typed⟩ := plain selection member
    exact evaluate_nonOptional honest joined typed (clear selection member) (backed_of_strict strict)
      computes
  · intro sound selection member source mentioned extendable
    rw [localSources_eq from_ means, List.nodup_cons] at distinct
    obtain ⟨on, row, joined, extended⟩ :=
      OuterJoins.extendable_reached (fun _ => some true : Record Bool) distinct.2 extendable
    have keys : (row.map Prod.fst).Nodup := by
      rw [OuterJoins.joinAll_sources joined]
      exact List.nodup_cons.mpr distinct
    exact sound Bool (allPresent V) _ on row (honest_allPresent required _) joined selection member
      (computes_allPresent row selection)
      (evaluate_extended keys extended (plain selection member).1 mentioned)

theorem projectedNullability_exact_leftWithFallback :
    validateProjectedNullability
        { leftWithFallback with selections := [.binary (.column "a" "x") .add (.column "b" "y")] } =
          .ok () ↔
      ∀ (D : Type) (I : Interpretation Int D) (contents : String → List (Record D))
        (on : String → Joined String (Record D) → Bool) (row : Joined String (Record D)),
        Honest (fun _ _ => True) I ["a", "b"] contents →
          JoinedRow (V := Int) (.table { name := "a" }) [(.left, "b")] contents on row →
          ∀ selection ∈ [Node.binary (.column "a" "x") .add (.column "b" "y")],
            Computes (I.on row) selection → evaluate (I.on row) selection ≠ none :=
  projectedNullability_exact (V := Int) rfl (by decide) (by decide) fun selection member => by
    obtain rfl := List.mem_singleton.mp member
    refine ⟨.operation rfl fun operand inside => ?_, .operation rfl fun operand inside => ?_⟩
    · rcases List.mem_pair.mp inside with rfl | rfl <;> exact .column _ _
    · rcases List.mem_pair.mp inside with rfl | rfl <;> exact .column trivial

end Relq
