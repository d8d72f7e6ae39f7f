/-
Module: Relq.Library.Chains
Layer: Library
Purpose: Flat chains of infix operators and the trees that grammars read them as. `leftTree` is the
  reading with one level of precedence, associating to the left. `climb` is the reading with two
  levels, where the `tight` operators bind more than the others. The two agree on a chain exactly
  when no tight operator follows a loose one.
Imports: none (Mathlib-free)
Trusted boundary: human-reviewed spec (leftTree, climb)
Main exports: Tree, Tree.leaves, leftTree, climb, precedenceTree, TightFirst, Tree.Combed,
  precedenceTree_eq_leftTree
-/

namespace Chains

variable {O A : Type}

/-- What a grammar of infix operators reads a chain as. -/
inductive Tree (O A : Type) where
  | leaf (operand : A)
  | node (operator : O) (left right : Tree O A)
deriving DecidableEq, Repr

/-- The operands of a tree, left to right. -/
def Tree.leaves : Tree O A → List A
  | .leaf operand => [operand]
  | .node _ left right => left.leaves ++ right.leaves

/-! ### One level of precedence -/

/-- A chain after the tree read so far, every operator associating to the left. -/
def extendLeft (tree : Tree O A) (rest : List (O × A)) : Tree O A :=
  rest.foldl (fun tree next => .node next.1 tree (.leaf next.2)) tree

def leftTree (first : A) (rest : List (O × A)) : Tree O A :=
  extendLeft (.leaf first) rest

@[simp] theorem extendLeft_nil (tree : Tree O A) : extendLeft tree [] = tree := rfl

@[simp] theorem extendLeft_cons (tree : Tree O A) (next : O × A) (rest : List (O × A)) :
    extendLeft tree (next :: rest) = extendLeft (.node next.1 tree (.leaf next.2)) rest := rfl

theorem extendLeft_append (tree : Tree O A) (rest : List (O × A)) (last : O × A) :
    extendLeft tree (rest ++ [last]) = .node last.1 (extendLeft tree rest) (.leaf last.2) := by
  simp [extendLeft]

/-- The outermost operator of a left-associated chain is its last one. -/
theorem leftTree_append (first : A) (rest : List (O × A)) (last : O × A) :
    leftTree first (rest ++ [last]) = .node last.1 (leftTree first rest) (.leaf last.2) :=
  extendLeft_append _ _ _

theorem extendLeft_leaves (tree : Tree O A) (rest : List (O × A)) :
    (extendLeft tree rest).leaves = tree.leaves ++ rest.map (·.2) := by
  induction rest generalizing tree with
  | nil => simp
  | cons next rest ih =>
      rw [extendLeft_cons, ih]
      simp [Tree.leaves]

theorem leftTree_leaves (first : A) (rest : List (O × A)) :
    (leftTree first rest).leaves = first :: rest.map (·.2) :=
  extendLeft_leaves _ _

/-! ### Two levels of precedence -/

/-- The operand of a loose operator that is still open on its left. -/
def close : Option (Tree O A × O) → Tree O A → Tree O A
  | none, current => current
  | some (left, operator), current => .node operator left current

/-- A chain with two levels of precedence. `current` is the operand of the loose level read so far;
a tight operator extends it, a loose one closes it. -/
def climb (tight : O → Bool) : Option (Tree O A × O) → Tree O A → List (O × A) → Tree O A
  | outer, current, [] => close outer current
  | outer, current, (operator, operand) :: rest =>
      if tight operator then climb tight outer (.node operator current (.leaf operand)) rest
      else climb tight (some (close outer current, operator)) (.leaf operand) rest

def precedenceTree (tight : O → Bool) (first : A) (rest : List (O × A)) : Tree O A :=
  climb tight none (.leaf first) rest

/-- No tight operator follows a loose one. -/
def TightFirst (tight : O → Bool) (operators : List O) : Prop :=
  operators.Pairwise fun earlier later => tight later = true → tight earlier = true

/-- While only loose operators follow, a chain is read to the left. -/
theorem climb_loose {tight : O → Bool} {outer : Option (Tree O A × O)} {current : Tree O A}
    {rest : List (O × A)} (loose : ∀ next ∈ rest, tight next.1 = false) :
    climb tight outer current rest = extendLeft (close outer current) rest := by
  induction rest generalizing outer current with
  | nil => rfl
  | cons next rest ih =>
      obtain ⟨operator, operand⟩ := next
      have first : tight operator = false := loose _ List.mem_cons_self
      have others : ∀ later ∈ rest, tight later.1 = false := fun later member =>
        loose later (List.mem_cons_of_mem _ member)
      rw [climb, first, if_neg Bool.false_ne_true, ih others]
      rfl

/-- Before the first loose operator there is nothing to close. -/
theorem climb_tightFirst {tight : O → Bool} {current : Tree O A} {rest : List (O × A)}
    (ordered : TightFirst tight (rest.map (·.1))) :
    climb tight none current rest = extendLeft current rest := by
  induction rest generalizing current with
  | nil => rfl
  | cons next rest ih =>
      obtain ⟨operator, operand⟩ := next
      obtain ⟨first, ordered⟩ := List.pairwise_cons.mp ordered
      cases binds : tight operator with
      | true =>
          rw [climb, if_pos binds, ih ordered]
          rfl
      | false =>
          refine climb_loose fun later member => ?_
          rcases List.mem_cons.mp member with rfl | member
          · exact binds
          · cases laterBinds : tight later.1 with
            | false => rfl
            | true =>
                have := first later.1 (List.mem_map_of_mem member) laterBinds
                exact absurd this (by simp [binds])

/-- Every right operand is a single operand, as in a chain read to the left. -/
def Tree.Combed : Tree O A → Prop
  | .leaf _ => True
  | .node _ left (.leaf _) => left.Combed
  | .node _ _ (.node _ _ _) => False

theorem extendLeft_combed {tree : Tree O A} {rest : List (O × A)} (combed : tree.Combed) :
    (extendLeft tree rest).Combed := by
  induction rest generalizing tree with
  | nil => exact combed
  | cons next rest ih =>
      rw [extendLeft_cons]
      exact ih combed

/-- What is read behind a tree that is no comb does not comb it. -/
theorem climb_not_combed {tight : O → Bool} {outer : Option (Tree O A × O)} {current : Tree O A}
    {rest : List (O × A)} (tangled : ¬(close outer current).Combed) :
    ¬(climb tight outer current rest).Combed := by
  induction rest generalizing outer current with
  | nil => exact tangled
  | cons next rest ih =>
      obtain ⟨operator, operand⟩ := next
      rw [climb]
      split
      · apply ih
        cases outer with
        | none => exact tangled
        | some open_ => exact id
      · apply ih
        exact tangled

/-- A chain that two levels of precedence read to the left has its tight operators in front. -/
theorem tightFirst_of_combed {tight : O → Bool} {outer : Option (Tree O A × O)} {current : Tree O A}
    {rest : List (O × A)} (combed : (climb tight outer current rest).Combed) :
    TightFirst tight (rest.map (·.1)) ∧
      (outer.isSome = true → ∀ next ∈ rest, tight next.1 = false) := by
  induction rest generalizing outer current with
  | nil => exact ⟨.nil, fun _ _ member => absurd member List.not_mem_nil⟩
  | cons next rest ih =>
      obtain ⟨operator, operand⟩ := next
      rw [climb] at combed
      cases binds : tight operator with
      | true =>
          rw [if_pos binds] at combed
          obtain ⟨ordered, -⟩ := ih combed
          refine ⟨List.pairwise_cons.mpr ⟨fun _ _ _ => binds, ordered⟩, fun opened => ?_⟩
          -- A tight operator behind an open loose one makes a right operand of two.
          cases outer with
          | none => cases opened
          | some open_ => exact absurd combed (climb_not_combed id)
      | false =>
          rw [if_neg (by simp [binds])] at combed
          obtain ⟨ordered, loose⟩ := ih combed
          have others := loose rfl
          refine ⟨List.pairwise_cons.mpr ⟨fun later member laterBinds => ?_, ordered⟩, fun _ => ?_⟩
          · obtain ⟨next, listed, rfl⟩ := List.mem_map.mp member
            exact absurd laterBinds (by simp [others next listed])
          · exact List.forall_mem_cons.mpr ⟨binds, others⟩

/-- The two readings of a chain agree exactly when no tight operator follows a loose one. -/
theorem precedenceTree_eq_leftTree {tight : O → Bool} {first : A} {rest : List (O × A)} :
    precedenceTree tight first rest = leftTree first rest ↔ TightFirst tight (rest.map (·.1)) := by
  constructor
  · intro same
    have combed : (leftTree first rest).Combed := extendLeft_combed trivial
    rw [← same] at combed
    exact (tightFirst_of_combed combed).1
  · intro ordered
    exact climb_tightFirst ordered

end Chains
