/-
Module: Relq.Compiler.Likeness
Layer: Compiler
Purpose: Trees that agree up to their payloads have one text up to their values. The payloads of a
  conflict target are written into the text, so this holds of terms in which no data-modifying
  statement is rendered.
Imports: Relq.Compiler.Noninterference, Relq.Compiler.LayoutAssembly
Trusted boundary: human-reviewed spec (ReadOnly)
Main exports: ReadOnly, skeleton, layoutNode_agree, sql_agree
-/
import Relq.Compiler.Noninterference
import Relq.Compiler.LayoutAssembly

namespace Relq

open Templates

variable {V W : Type}

/-! ### Terms without data-modifying statements -/

/-- Every statement rendered in the term is a SELECT. -/
def ReadOnly (term : Term V) : Prop :=
  ∀ query, Rendered term (.statement query) → ∃ select, query = .select select

theorem ReadOnly.parts {term : Term V} (readOnly : ReadOnly term) :
    ∀ part ∈ renderedParts term, ReadOnly part :=
  fun part member query below => readOnly query (rendered_iff.mpr (Or.inr ⟨part, member, below⟩))

theorem readOnly_expression {node : Node V}
    (each : ∀ part ∈ renderedParts (.expression node), ReadOnly part) :
    ReadOnly (.expression node) := by
  intro query below
  rcases rendered_iff.mp below with same | ⟨part, member, below⟩
  · cases same
  · exact each part member query below

def inValuesParts : InValues V → List (Term V)
  | .nodes values => values.map .expression
  | .select query => [.select query]

theorem renderedParts_inNode (expression : Node V) (values : InValues V) (negated : Bool) :
    renderedParts (.expression (.inNode expression values negated)) =
      .expression expression :: inValuesParts values := by
  cases values <;> simp [renderedParts, children, Node.nestedSelect, inValuesParts]

/-! ### Layouts without their values -/

/-- The layout with its values forgotten. -/
abbrev skeleton (layout : Layout V) : Layout Unit :=
  layout.map fun _ => ()

/-- Layouts that differ at most in their values. -/
def Alike (first : List (Layout V)) (second : List (Layout W)) : Prop :=
  first.map skeleton = second.map skeleton

theorem castInterval_alike {left : Node V} {right : Node W} {first : Layout V} {second : Layout W}
    (bound : left.isValue = right.isValue) (alike : skeleton first = skeleton second) :
    skeleton (Layout.castInterval left first) = skeleton (Layout.castInterval right second) := by
  unfold Layout.castInterval
  rw [bound]
  split
  · simp [alike]
  · exact alike

theorem toList_alike {first : Option (Layout V)} {second : Option (Layout W)}
    (alike : first.map skeleton = second.map skeleton) : Alike first.toList second.toList := by
  rw [Alike, ← Option.toList_map, ← Option.toList_map, alike]

section

variable [PyObject V] [PyObject W] (dialect : Dialect) (related : V → W → Bool)

/-- The layouts of two trees that agree differ only in their values. The induction follows the
comparison, which meets a data-modifying statement only where `ReadOnly` excludes it. -/
theorem layoutNode_agree : (left : Node V) → (right : Node W) → left.agree related right = true →
    left.isValue = right.isValue ∧ (ReadOnly (.expression left) →
    skeleton (layoutNode dialect left) = skeleton (layoutNode dialect right)) := by
  apply Node.agree.induct
    (fun left right => left.agree related right = true →
      left.isValue = right.isValue ∧ (ReadOnly (.expression left) →
        skeleton (layoutNode dialect left) = skeleton (layoutNode dialect right)))
    (fun left right => left.agree related right = true → ReadOnly (.select left) →
        skeleton (layoutSelect dialect left) = skeleton (layoutSelect dialect right))
    (fun left right => agreeCompounds related left right = true →
        (∀ compound ∈ left, ReadOnly (.select compound.query)) →
        skeleton (layoutCompounds dialect left) = skeleton (layoutCompounds dialect right))
    (fun left right => agreeCtes related left right = true →
        (∀ cte ∈ left, ReadOnly (.statement cte.query)) →
        (left.isEmpty = right.isEmpty ∧ left.any (·.recursive) = right.any (·.recursive)) ∧
        Alike (layoutCtes dialect left) (layoutCtes dialect right))
    (fun left right => left.agree related right = true → ReadOnly (.statement left) →
        skeleton (layoutStatement dialect left) = skeleton (layoutStatement dialect right))
    (fun left right => agreeOption related left right = true →
        (∀ node ∈ left, ReadOnly (.expression node)) →
        (layoutOption dialect left).map skeleton = (layoutOption dialect right).map skeleton)
    (fun left right => agreeNamed related left right = true →
        (∀ pair ∈ left, ReadOnly (.named pair)) →
        Alike (layoutComponents dialect left) (layoutComponents dialect right))
    (fun left right => agreeNodes related left right = true →
        (∀ node ∈ left, ReadOnly (.expression node)) →
        Alike (layoutNodes dialect left) (layoutNodes dialect right))
    (fun _ _ => True) (fun _ _ => True) (fun _ _ => True) (fun _ _ => True) (fun _ _ => True)
    (fun left right => agreeOrders related left right = true →
        (∀ order ∈ left, ReadOnly (.order order)) → left.length = right.length ∧
        Alike (layoutOrders dialect left) (layoutOrders dialect right))
    (fun left right => agreeJoins related left right = true →
        (∀ part ∈ left.flatMap joinParts, ReadOnly part) →
        skeleton (layoutJoins dialect left) = skeleton (layoutJoins dialect right))
    (fun left right => left.agree related right = true →
        (∀ part ∈ sourceParts left, ReadOnly part) →
        skeleton (layoutSource dialect left) = skeleton (layoutSource dialect right))
    (fun left right => agreeSource related left right = true →
        (∀ part ∈ left.toList.flatMap sourceParts, ReadOnly part) →
        skeleton (layoutFrom dialect left) = skeleton (layoutFrom dialect right))
    (fun left right => left.agree related right = true →
        (∀ part ∈ inValuesParts left, ReadOnly part) →
        skeleton (layoutInValues dialect left) = skeleton (layoutInValues dialect right))
    (fun left right => left.agree related right = true → ReadOnly (.expression left.toNode) →
        skeleton (layoutWindowCall dialect left) = skeleton (layoutWindowCall dialect right))
    (fun left right => agreeBranches related left right = true →
        (∀ branch ∈ left, ReadOnly (.expression branch.1) ∧ ReadOnly (.expression branch.2)) →
        Alike (layoutBranches dialect left) (layoutBranches dialect right))
  case case39 =>
    intro left right
    intros
    have same : false = true := by
      rename_i same
      rwa [Node.agree] at same <;> assumption
    cases same
  -- trees of different kinds do not agree
  case case42 | case45 | case49 | case61 | case64 | case67 | case70 | case73 | case76 | case79 |
      case82 | case85 | case88 =>
    intro left right
    intros
    have same : false = true := by
      rename_i same _
      first
        | rwa [WindowCall.agree] at same <;> assumption
        | rwa [InValues.agree] at same <;> assumption
        | rwa [agreeNodes] at same <;> assumption
        | rwa [SourceNode.agree] at same <;> assumption
        | rwa [QueryNode.agree] at same <;> assumption
        | rwa [agreeOption] at same <;> assumption
        | rwa [agreeNamed] at same <;> assumption
        | rwa [agreeBranches] at same <;> assumption
        | rwa [agreeOrders] at same <;> assumption
        | rwa [agreeSource] at same <;> assumption
        | rwa [agreeJoins] at same <;> assumption
        | rwa [agreeCtes] at same <;> assumption
        | rwa [agreeCompounds] at same <;> assumption
    cases same
  case case8 =>
    intro year month day hour minute second zone year' month' day' hour' minute' second' zone'
      ihYear ihMonth ihDay ihHour ihMinute ihSecond ihZone same
    refine ⟨rfl, fun readOnly => ?_⟩
    have parts := readOnly.parts
    simp [renderedParts, children, Node.nestedSelect] at parts
    simp [Node.agree] at same
    have zones := toList_alike (ihZone same.2 (by simp_all))
    simp_all [layoutNode, Alike]
  case case9 =>
    intro components components' ih same
    refine ⟨rfl, fun readOnly => ?_⟩
    have parts := readOnly.parts
    simp [renderedParts, children, Node.nestedSelect] at parts
    have each := ih (by rwa [Node.agree] at same) fun pair member => by grind
    simp_all [layoutNode, Alike]
  case case11 =>
    intro timestamp operator interval timestamp' operator' interval' ihTimestamp ihInterval same
    refine ⟨rfl, fun readOnly => ?_⟩
    have parts := readOnly.parts
    simp [renderedParts, children, Node.nestedSelect] at parts
    simp [Node.agree] at same
    obtain ⟨bound, inner⟩ := ihInterval same.2
    have cast := castInterval_alike bound (inner parts.2)
    simp_all [layoutNode]
  case case19 =>
    intro stride expression origin stride' expression' origin' ihStride ihExpression ihOrigin same
    refine ⟨rfl, fun readOnly => ?_⟩
    have parts := readOnly.parts
    simp [renderedParts, children, Node.nestedSelect] at parts
    simp [Node.agree] at same
    obtain ⟨bound, inner⟩ := ihStride same.1.1
    have cast := castInterval_alike bound (inner parts.1)
    simp_all [layoutNode]
  case case25 =>
    intro branches otherwise branches' otherwise' ihBranches ihOtherwise same
    refine ⟨rfl, fun readOnly => ?_⟩
    have parts := readOnly.parts
    simp [renderedParts, children, Node.nestedSelect] at parts
    simp [Node.agree] at same
    have each := ihBranches same.1 fun branch member => by grind
    simp_all [layoutNode, Alike]
  case case27 =>
    intro expression partitionBy orderBy frame exclusion expression' partitionBy' orderBy' frame'
      exclusion' ihCall ihPartition ihOrders same
    refine ⟨rfl, fun readOnly => ?_⟩
    have parts := readOnly.parts
    simp [renderedParts, children, Node.nestedSelect] at parts
    simp [Node.agree] at same
    have called := ihCall same.1.1.1.1 (by grind)
    have partitions := ihPartition same.1.1.1.2 (by grind)
    have orders := ihOrders same.1.1.2 (by grind)
    simp_all [layoutNode, Alike]
  case case40 =>
    intro name arguments filter name' arguments' filter' nodes slot same readOnly
    have parts := readOnly.parts
    simp [renderedParts, children, Node.nestedSelect, WindowCall.toNode] at parts
    simp [WindowCall.agree] at same
    simp_all [layoutWindowCall, Alike]
  case case41 =>
    intro name arguments name' arguments' nodes same readOnly
    have parts := readOnly.parts
    simp [renderedParts, children, Node.nestedSelect, WindowCall.toNode] at parts
    simp [WindowCall.agree] at same
    simp_all [layoutWindowCall, Alike]
  case case43 =>
    intro values values' ih same parts
    simp [InValues.agree] at same
    simp_all [layoutInValues, Alike, inValuesParts]
  case case44 =>
    intro values values' ih same parts
    simp [InValues.agree] at same
    simp_all [layoutInValues, inValuesParts]
  case case46 | case48 =>
    intro name name' same parts
    simp [SourceNode.agree] at same
    simp [layoutSource, same]
  case case47 =>
    intro query name query' name' ih same parts
    simp [SourceNode.agree] at same
    simp_all [layoutSource, sourceParts, SourceNode.derivedQuery]
  case case50 =>
    intro selections fromSource joins whereNode groupBy having orderBy limit offset distinct ctes
      compounds locks selections' fromSource' joins' whereNode' groupBy' having' orderBy' limit'
      offset' distinct' ctes' compounds' locks' ihSelections ihFrom ihJoins ihWhere ihGroup ihHaving
      ihOrders ihCtes ihCompounds same readOnly
    have parts := readOnly.parts
    simp only [renderedParts, List.forall_mem_append] at parts
    obtain ⟨⟨⟨⟨⟨⟨⟨⟨ctesRead, selectionsRead⟩, fromRead⟩, joinsRead⟩, whereRead⟩, groupRead⟩, havingRead⟩,
      ordersRead⟩, compoundsRead⟩ := parts
    simp [SelectNode.agree] at same
    have ctes := ihCtes same.1.1.2 (by simpa using ctesRead)
    have selections := ihSelections (by grind) (by simpa using selectionsRead)
    have from_ := ihFrom (by grind) fromRead
    have joins := ihJoins (by grind) joinsRead
    have where_ := ihWhere (by grind) (by simpa using whereRead)
    have group := ihGroup (by grind) (by simpa using groupRead)
    have having_ := ihHaving (by grind) (by simpa using havingRead)
    have orders := ihOrders (by grind) (by simpa using ordersRead)
    have compounds := ihCompounds (by grind) (by simpa using compoundsRead)
    obtain ⟨⟨bare, recursive⟩, ctes⟩ := ctes
    simp only [Alike] at ctes selections group orders
    simp only [layoutSelect, Layout.map_append, Layout.map_fixed, Layout.map_commas,
      Layout.map_optional, Layout.map_listed, apply_ite (Template.map fun _ => ()), bare, recursive,
      ctes, selections, from_, joins, where_, group, having_, orders.2, compounds, same]
  case case57 =>
    intro query query' ih same readOnly
    rw [layoutStatement, layoutStatement]
    exact ih (by rwa [QueryNode.agree] at same) readOnly
  case case58 | case59 | case60 =>
    intros
    rename_i readOnly
    obtain ⟨select, impossible⟩ := readOnly _ (.refl _)
    cases impossible
  case case63 =>
    intro node node' ih same each
    simp_all [agreeOption, layoutOption]
  case case66 =>
    intro name node rest name' node' rest' ih ihRest same each
    simp_all [agreeNamed, layoutComponents, Alike]
  case case69 =>
    intro node rest node' rest' ih ihRest same each
    simp_all [agreeNodes, layoutNodes, Alike]
  case case72 =>
    intro condition node rest condition' node' rest' ihCondition ih ihRest same each
    simp_all [agreeBranches, layoutBranches, Alike]
  case case75 =>
    intro expression direction nulls rest expression' direction' nulls' rest' ih ihRest same each
    simp_all [agreeOrders, layoutOrders, Alike]
  case case78 =>
    intro source source' ih same each
    simp_all [agreeSource, layoutFrom]
  case case81 =>
    intro source predicate kind rest source' predicate' kind' rest' ihSource ihPredicate ihRest same each
    simp only [List.flatMap_cons, List.forall_mem_append] at each
    simp only [agreeJoins, Bool.and_eq_true, beq_iff_eq] at same
    obtain ⟨⟨⟨sources, predicates⟩, rfl⟩, others⟩ := same
    have source_ := ihSource sources (fun part member => each.1 part (List.mem_append_left _ member))
    have later := ihRest others each.2
    by_cases cross : kind = "cross"
    · simp [layoutJoins, cross, source_, later]
    · have read := each.1 (.expression predicate) (by simp [joinParts, cross])
      simp [layoutJoins, cross, source_, later, (ihPredicate predicates).2 read]
  case case84 =>
    intro name query recursive materialized rest name' query' recursive' materialized' rest' ih ihRest
      same each
    simp_all [agreeCtes, layoutCtes, Alike]
  case case87 =>
    intro operator query rest operator' query' rest' ih ihRest same each
    simp_all [agreeCompounds, layoutCompounds]
  case case62 | case65 | case68 | case71 | case74 | case77 | case80 | case83 | case86 =>
    simp [Alike, layoutOption, layoutComponents, layoutNodes, layoutBranches, layoutOrders, layoutFrom,
      layoutJoins, layoutCtes, layoutCompounds]
  case case31 =>
    intro expression values negated expression' values' negated' ih ihValues same
    refine ⟨rfl, fun readOnly => ?_⟩
    have parts := readOnly.parts
    rw [renderedParts_inNode, List.forall_mem_cons] at parts
    simp [Node.agree] at same
    simp_all [layoutNode]
  -- every part is a child, or the one nested SELECT
  all_goals
    intros
    first
    | trivial
    | refine ⟨rfl, fun readOnly => ?_⟩
      have parts := readOnly.parts
      simp only [Node.agree, Bool.and_eq_true, beq_iff_eq] at *
      simp [renderedParts, children, Node.nestedSelect] at parts
      simp_all [layoutNode, Alike]

variable {dialect related}

/-- Read-only expressions that agree have the same text wherever it starts. -/
theorem sql_agree {left : Node V} {right : Node W} (same : left.agree related right = true)
    (readOnly : ReadOnly (.expression left)) (n : Nat) :
    (layoutNode dialect left).sql n = (layoutNode dialect right).sql n := by
  calc
    (layoutNode dialect left).sql n = (skeleton (layoutNode dialect left)).sql n :=
      (Template.text_map _ _ _ n).symm
    _ = (skeleton (layoutNode dialect right)).sql n := by
      rw [(layoutNode_agree dialect related left right same).2 readOnly]
    _ = (layoutNode dialect right).sql n := Template.text_map _ _ _ n

end

end Relq
