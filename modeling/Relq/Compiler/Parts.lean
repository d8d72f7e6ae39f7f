/-
Module: Relq.Compiler.Parts
Layer: Compiler
Purpose: What a statement is rendered from. `Term` joins expressions and statements, and
  `renderedParts` lists the terms directly below one whose text is part of its text: the predicate of
  a cross join is not, nor is the predicate of a conflict target, which is written with constants.
Imports: Mathlib.Logic.Relation, Relq.Analysis.Scopes
Trusted boundary: human-reviewed spec (Term, renderedParts, Rendered, Binds)
Main exports: Term, renderedParts, Rendered, Binds, term_induction
-/
import Mathlib.Logic.Relation
import Relq.Analysis.Scopes

namespace Relq

variable {V : Type}

/-- An expression or a statement. -/
inductive Term (V : Type) where
  | expression (node : Node V)
  | statement (query : QueryNode V)

namespace Term

/-- An expression with the direction it is sorted by. -/
abbrev order (order : OrderNode V) : Term V :=
  .expression order.expression

/-- The value of a column. -/
abbrev named (pair : String × Node V) : Term V :=
  .expression pair.2

abbrev select (query : SelectNode V) : Term V :=
  .statement (.select query)

end Term

/-- A FROM source is a part if it is a derived table. -/
def sourceParts (source : SourceNode V) : List (Term V) :=
  source.derivedQuery.toList.map .select

def joinParts (join : JoinNode V) : List (Term V) :=
  sourceParts join.source ++ (if join.kind != "cross" then [.expression join.predicate] else [])

def insertSourceParts : InsertSourceNode V → List (Term V)
  | .values values => values.map .named
  | .rows rows => rows.flatMap fun row => row.map .named
  | .select query _ => [.select query]
  | .defaultValues => []

/-- The rows of an INSERT and, unless it inserts DEFAULT VALUES, its conflict action. -/
def insertParts (source : Option (InsertSourceNode V)) (conflict : Option (ConflictNode V)) :
    List (Term V) :=
  source.toList.flatMap insertSourceParts ++
    (match source with
      | some .defaultValues => []
      | _ => conflict.toList.flatMap fun conflict =>
          if conflict.action = "nothing" then []
          else conflict.updateValues.map .named ++ conflict.updateWhere.toList.map .expression)

/-- The terms directly inside a term that its text is made of. -/
def renderedParts : Term V → List (Term V)
  | .expression node =>
      (children node).map Term.expression ++ node.nestedSelect.toList.map .select
  | .statement (.select node) =>
      node.ctes.map (fun cte => .statement cte.query) ++ node.selections.map .expression ++
        node.fromSource.toList.flatMap sourceParts ++ node.joins.flatMap joinParts ++
        node.whereNode.toList.map .expression ++ node.groupBy.map .expression ++
        node.having.toList.map .expression ++ node.orderBy.map .order ++
        node.compounds.map (fun compound => .select compound.query)
  | .statement (.insert node) =>
      insertParts node.source node.conflict ++ node.returning.map .expression
  | .statement (.update node) =>
      node.values.map .named ++ node.whereNode.toList.map .expression ++
        node.returning.map .expression
  | .statement (.delete node) =>
      node.whereNode.toList.map .expression ++ node.returning.map .expression

/-- A term is rendered inside another one, at some depth. -/
def Rendered (outer inner : Term V) : Prop :=
  Relation.ReflTransGen (fun term part => part ∈ renderedParts term) outer inner

/-- The rendering of a term binds a value. -/
def Binds (term : Term V) : Prop :=
  ∃ value, Rendered term (.expression (.value value))

theorem Rendered.refl (term : Term V) : Rendered term term :=
  Relation.ReflTransGen.refl

/-- A term below another one is that one itself, or below one of its parts. -/
theorem rendered_iff {outer inner : Term V} :
    Rendered outer inner ↔ inner = outer ∨ ∃ part ∈ renderedParts outer, Rendered part inner := by
  constructor
  · intro inside
    rcases Relation.ReflTransGen.cases_head inside with same | ⟨part, member, below⟩
    · exact Or.inl same.symm
    · exact Or.inr ⟨part, member, below⟩
  · rintro (rfl | ⟨part, member, below⟩)
    · exact .refl _
    · exact Relation.ReflTransGen.head member below

theorem binds_iff {term : Term V} :
    Binds term ↔ (∃ value, term = .expression (.value value)) ∨
      ∃ part ∈ renderedParts term, Binds part := by
  simp only [Binds]
  constructor
  · rintro ⟨value, below⟩
    rcases rendered_iff.mp below with same | ⟨part, member, below⟩
    · exact Or.inl ⟨value, same.symm⟩
    · exact Or.inr ⟨part, member, value, below⟩
  · rintro (⟨value, rfl⟩ | ⟨part, member, value, below⟩)
    · exact ⟨value, .refl _⟩
    · exact ⟨value, rendered_iff.mpr (Or.inr ⟨part, member, below⟩)⟩

/-- A node below a term is the term itself or below one of its parts. -/
theorem exists_rendered_iff {term : Term V} {P : Node V → Prop} :
    (∃ node, Rendered term (.expression node) ∧ P node) ↔
      (∃ node, term = .expression node ∧ P node) ∨
        ∃ part ∈ renderedParts term, ∃ node, Rendered part (.expression node) ∧ P node := by
  constructor
  · rintro ⟨node, below, holds⟩
    rcases rendered_iff.mp below with same | ⟨part, member, below⟩
    · exact Or.inl ⟨node, same.symm, holds⟩
    · exact Or.inr ⟨part, member, node, below, holds⟩
  · rintro (⟨node, rfl, holds⟩ | ⟨part, member, node, below, holds⟩)
    · exact ⟨node, .refl _, holds⟩
    · exact ⟨node, rendered_iff.mpr (Or.inr ⟨part, member, below⟩), holds⟩

/-! ### Induction over terms -/

/-- The size that parts decrease. -/
noncomputable def Term.size : Term V → Nat
  | .expression node => sizeOf node
  | .statement (.select query) => sizeOf query
  | .statement (.insert query) => sizeOf query
  | .statement (.update query) => sizeOf query
  | .statement (.delete query) => sizeOf query

theorem statement_size (query : QueryNode V) : (Term.statement query).size < sizeOf query := by
  cases query <;> simp [Term.size]

theorem nodes_size {part : Term V} {nodes : List (Node V)} (member : part ∈ nodes.map .expression) :
    part.size < sizeOf nodes := by
  obtain ⟨node, inside, rfl⟩ := List.mem_map.mp member
  exact List.sizeOf_lt_of_mem inside

theorem option_size {part : Term V} {slot : Option (Node V)}
    (member : part ∈ slot.toList.map .expression) : part.size < sizeOf slot := by
  obtain ⟨node, inside, rfl⟩ := List.mem_map.mp member
  obtain rfl := Option.mem_toList.mp inside
  simp [Term.size]

theorem named_size {part : Term V} {pairs : List (String × Node V)} (member : part ∈ pairs.map .named) :
    part.size < sizeOf pairs := by
  obtain ⟨⟨name, value⟩, inside, rfl⟩ := List.mem_map.mp member
  exact sizeOf_named inside

theorem sourceParts_size {source : SourceNode V} {part : Term V} (member : part ∈ sourceParts source) :
    part.size < sizeOf source := by
  obtain ⟨query, derived, rfl⟩ := List.mem_map.mp member
  exact SourceNode.sizeOf_derivedQuery (Option.mem_toList.mp derived)

theorem joinParts_size {join : JoinNode V} {part : Term V} (member : part ∈ joinParts join) :
    part.size < sizeOf join := by
  obtain ⟨source, predicate, kind⟩ := join
  rcases List.mem_append.mp member with inside | inside
  · have := sourceParts_size inside
    simp at this ⊢
    omega
  · split at inside
    · obtain rfl := List.mem_singleton.mp inside
      simp [Term.size]
      omega
    · cases inside

theorem insertSourceParts_size {source : InsertSourceNode V} {part : Term V}
    (member : part ∈ insertSourceParts source) : part.size < sizeOf source := by
  cases source with
  | values values =>
      have := named_size member
      simp
      omega
  | rows rows =>
      obtain ⟨row, inRows, inside⟩ := List.mem_flatMap.mp member
      have := named_size inside
      have := List.sizeOf_lt_of_mem inRows
      simp
      omega
  | select query columns =>
      obtain rfl := List.mem_singleton.mp member
      simp [Term.size]
      omega
  | defaultValues => cases member

theorem conflict_size {conflict : ConflictNode V} {part : Term V}
    (member : part ∈ if conflict.action = "nothing" then [] else
      conflict.updateValues.map .named ++ conflict.updateWhere.toList.map .expression) :
    part.size < sizeOf conflict := by
  obtain ⟨columns, action, updateValues, targetWhere, updateWhere⟩ := conflict
  split at member
  · cases member
  · rcases List.mem_append.mp member with inside | inside
    · have := named_size inside
      dsimp only at this
      simp
      omega
    · have := option_size inside
      dsimp only at this
      simp
      omega

theorem insertParts_size {source : Option (InsertSourceNode V)} {conflict : Option (ConflictNode V)}
    {part : Term V} (member : part ∈ insertParts source conflict) :
    part.size < sizeOf source ∨ part.size < sizeOf conflict := by
  rcases List.mem_append.mp member with inside | inside
  · obtain ⟨given, present, below⟩ := List.mem_flatMap.mp inside
    obtain rfl := Option.mem_toList.mp present
    have := insertSourceParts_size below
    left
    simp
    omega
  · right
    split at inside
    · cases inside
    · obtain ⟨given, present, below⟩ := List.mem_flatMap.mp inside
      obtain rfl := Option.mem_toList.mp present
      have := conflict_size below
      simp
      omega

/-- Every part is smaller, which carries the induction over terms. -/
theorem renderedParts_size {term part : Term V} (member : part ∈ renderedParts term) :
    part.size < term.size := by
  rcases term with node | node | node | node | node
  · rcases List.mem_append.mp member with inside | inside
    · obtain ⟨child, below, rfl⟩ := List.mem_map.mp inside
      exact sizeOf_lt_of_mem_children below
    · obtain ⟨query, nested, rfl⟩ := List.mem_map.mp inside
      exact sizeOf_lt_of_nestedSelect (Option.mem_toList.mp nested)
  · obtain ⟨selections, fromSource, joins, whereNode, groupBy, having, orderBy, limit, offset,
      distinct, ctes, compounds, locks⟩ := node
    simp only [renderedParts, List.mem_append] at member
    rcases member with (((((((inside | inside) | inside) | inside) | inside) | inside) | inside) |
      inside) | inside
    · obtain ⟨cte, below, rfl⟩ := List.mem_map.mp inside
      have := statement_size cte.query
      have := sizeOf_cte_query cte
      have := List.sizeOf_lt_of_mem below
      change _ < sizeOf _
      simp
      omega
    · have := nodes_size inside
      change _ < sizeOf _
      simp
      omega
    · obtain ⟨source, present, below⟩ := List.mem_flatMap.mp inside
      obtain rfl := Option.mem_toList.mp present
      have := sourceParts_size below
      change _ < sizeOf _
      simp
      omega
    · obtain ⟨join, present, below⟩ := List.mem_flatMap.mp inside
      have := joinParts_size below
      have := List.sizeOf_lt_of_mem present
      change _ < sizeOf _
      simp
      omega
    · have := option_size inside
      change _ < sizeOf _
      simp
      omega
    · have := nodes_size inside
      change _ < sizeOf _
      simp
      omega
    · have := option_size inside
      change _ < sizeOf _
      simp
      omega
    · obtain ⟨order, below, rfl⟩ := List.mem_map.mp inside
      have : (Term.order order).size < sizeOf order := sizeOf_order_expression order
      have := List.sizeOf_lt_of_mem below
      change _ < sizeOf _
      simp
      omega
    · obtain ⟨compound, below, rfl⟩ := List.mem_map.mp inside
      have : (Term.select compound.query).size < sizeOf compound := by
        change sizeOf compound.query < _
        cases compound
        simp only [CompoundNode.mk.sizeOf_spec]
        omega
      have := List.sizeOf_lt_of_mem below
      change _ < sizeOf _
      simp
      omega
  · obtain ⟨table, source, conflict, returning⟩ := node
    simp only [renderedParts, List.mem_append] at member
    rcases member with inside | inside
    · have := insertParts_size inside
      change _ < sizeOf _
      simp
      omega
    · have := nodes_size inside
      change _ < sizeOf _
      simp
      omega
  · obtain ⟨table, values, whereNode, bounded, returning⟩ := node
    simp only [renderedParts, List.mem_append] at member
    rcases member with (inside | inside) | inside
    · have := named_size inside
      change _ < sizeOf _
      simp
      omega
    · have := option_size inside
      change _ < sizeOf _
      simp
      omega
    · have := nodes_size inside
      change _ < sizeOf _
      simp
      omega
  · obtain ⟨table, whereNode, bounded, returning⟩ := node
    simp only [renderedParts, List.mem_append] at member
    rcases member with inside | inside
    · have := option_size inside
      change _ < sizeOf _
      simp
      omega
    · have := nodes_size inside
      change _ < sizeOf _
      simp
      omega

/-- A property that passes from the parts of a term to the term holds of every term. -/
theorem term_induction {motive : Term V → Prop}
    (step : ∀ term, (∀ part ∈ renderedParts term, motive part) → motive term) (term : Term V) :
    motive term :=
  step term fun part _ => term_induction step part
termination_by term.size
decreasing_by exact renderedParts_size ‹_›

end Relq
