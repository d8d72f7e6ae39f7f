/-
Module: Relq.Library.Brackets
Layer: Library
Purpose: Token lists with brackets. `side` tells opening and closing tokens from the others. What
  stands outside all brackets of a balanced list is found by counting, and the count passes over a
  balanced part without a trace. `cut` divides a list at tokens outside all brackets.
Imports: none (Mathlib-free)
Trusted boundary: human-reviewed spec (Balanced, outer, cut)
Main exports: Balanced, outer, cut, Balanced.append, outer_append, outer_group, cut_append,
  outer_filter, Balanced.filter
-/

namespace Brackets

variable {L : Type} {side : L → Option Bool}

/-- Every bracket that opens is closed, and none else is. -/
inductive Balanced (side : L → Option Bool) : List L → Prop where
  | nil : Balanced side []
  | plain {item : L} {rest : List L} (ordinary : side item = none) (later : Balanced side rest) :
      Balanced side (item :: rest)
  | group {opening closing : L} {inner rest : List L} (opens : side opening = some true)
      (closes : side closing = some false) (within : Balanced side inner)
      (later : Balanced side rest) : Balanced side (opening :: (inner ++ closing :: rest))

/-- The tokens outside all brackets, behind `depth` brackets that are still open. -/
def outer (side : L → Option Bool) : (depth : Nat) → List L → List L
  | _, [] => []
  | depth, item :: rest =>
      match side item with
      | some true => outer side (depth + 1) rest
      | some false => outer side (depth - 1) rest
      | none => if depth = 0 then item :: outer side 0 rest else outer side depth rest

theorem outer_plain {item : L} (ordinary : side item = none) (rest : List L) :
    outer side 0 (item :: rest) = item :: outer side 0 rest := by
  simp [outer, ordinary]

/-- Within brackets, a balanced part leaves no trace. -/
theorem outer_within {part : List L} (balanced : Balanced side part) (depth : Nat) (rest : List L) :
    outer side (depth + 1) (part ++ rest) = outer side (depth + 1) rest := by
  induction balanced generalizing depth rest with
  | nil => rfl
  | plain ordinary _ ih =>
      rw [List.cons_append, outer, ordinary]
      exact ih depth rest
  | @group opening closing inner later opens closes _ _ ihInner ihLater =>
      rw [List.cons_append, outer, opens, List.append_assoc]
      simp only
      rw [ihInner (depth + 1), List.cons_append, outer, closes]
      exact ihLater depth rest

/-- Outside brackets, a balanced part is followed by what follows it. -/
theorem outer_append {part : List L} (balanced : Balanced side part) (rest : List L) :
    outer side 0 (part ++ rest) = outer side 0 part ++ outer side 0 rest := by
  induction balanced with
  | nil => rfl
  | plain ordinary _ ih =>
      rw [List.cons_append, outer_plain ordinary, outer_plain ordinary, ih, List.cons_append]
  | @group opening closing inner later opens closes within _ _ ihLater =>
      rw [List.cons_append, outer, outer, opens, List.append_assoc]
      simp only
      rw [outer_within within, outer_within within, List.cons_append, outer, outer, closes]
      exact ihLater

/-- Nothing of a group stands outside. -/
theorem outer_group {opening closing : L} {inner : List L} (opens : side opening = some true)
    (closes : side closing = some false) (within : Balanced side inner) :
    outer side 0 (opening :: (inner ++ [closing])) = [] := by
  rw [outer, opens]
  simp only
  rw [outer_within within, outer, closes]
  rfl

theorem Balanced.append {first second : List L} (left : Balanced side first)
    (right : Balanced side second) : Balanced side (first ++ second) := by
  induction left with
  | nil => exact right
  | plain ordinary _ ih => exact .plain ordinary ih
  | @group opening closing inner later opens closes within _ _ ih =>
      have whole := Balanced.group opens closes within ih
      simpa using whole

/-- Tokens that are no brackets are balanced. -/
theorem balanced_of_plain {items : List L} (ordinary : ∀ item ∈ items, side item = none) :
    Balanced side items := by
  induction items with
  | nil => exact .nil
  | cons item rest ih =>
      obtain ⟨first, others⟩ := List.forall_mem_cons.mp ordinary
      exact .plain first (ih others)

theorem outer_of_plain {items : List L} (ordinary : ∀ item ∈ items, side item = none) :
    outer side 0 items = items := by
  induction items with
  | nil => rfl
  | cons item rest ih =>
      obtain ⟨first, others⟩ := List.forall_mem_cons.mp ordinary
      rw [outer_plain first, ih others]

/-! ### Cutting outside all brackets -/

section Cutting

variable {M : Type} {mark : L → Option M}

/-- The part in front of the tokens that `mark` recognises outside all brackets, and each such token
with the part behind it. `depth` brackets are still open. -/
def cut (side : L → Option Bool) (mark : L → Option M) :
    (depth : Nat) → List L → List L × List (M × List L)
  | _, [] => ([], [])
  | depth, item :: rest =>
      match if depth = 0 then mark item else none with
      | some found => ([], (found, (cut side mark 0 rest).1) :: (cut side mark 0 rest).2)
      | none =>
          let depth := match side item with
            | some true => depth + 1
            | some false => depth - 1
            | none => depth
          (item :: (cut side mark depth rest).1, (cut side mark depth rest).2)

theorem cut_mark {item : L} {found : M} (marks : mark item = some found) (rest : List L) :
    cut side mark 0 (item :: rest) =
      ([], (found, (cut side mark 0 rest).1) :: (cut side mark 0 rest).2) := by
  simp [cut, marks]

/-- Within brackets, nothing cuts a balanced part. -/
theorem cut_within {part : List L} (balanced : Balanced side part) (depth : Nat) (rest : List L) :
    cut side mark (depth + 1) (part ++ rest) =
      (part ++ (cut side mark (depth + 1) rest).1, (cut side mark (depth + 1) rest).2) := by
  induction balanced generalizing depth rest with
  | nil => rfl
  | plain ordinary _ ih =>
      rw [List.cons_append, cut, if_neg (Nat.succ_ne_zero depth), ordinary]
      simp only [ih depth rest, List.cons_append]
  | @group opening closing inner later opens closes _ _ ihInner ihLater =>
      rw [List.cons_append, cut, if_neg (Nat.succ_ne_zero depth), opens, List.append_assoc]
      simp only
      rw [ihInner (depth + 1), List.cons_append, cut, if_neg (Nat.succ_ne_zero (depth + 1)), closes]
      simp only [Nat.add_sub_cancel, ihLater depth rest, List.cons_append, List.append_assoc]

/-- A balanced part without marks outside its brackets is not cut. -/
theorem cut_append {part : List L} (balanced : Balanced side part)
    (bracket : ∀ item, (side item).isSome = true → mark item = none)
    (unmarked : ∀ item ∈ outer side 0 part, mark item = none) (rest : List L) :
    cut side mark 0 (part ++ rest) =
      (part ++ (cut side mark 0 rest).1, (cut side mark 0 rest).2) := by
  induction balanced with
  | nil => rfl
  | @plain item later ordinary _ ih =>
      rw [outer_plain ordinary] at unmarked
      obtain ⟨first, others⟩ := List.forall_mem_cons.mp unmarked
      rw [List.cons_append, cut, if_pos rfl, first, ordinary]
      simp only [ih others, List.cons_append]
  | @group opening closing inner later opens closes within _ _ ih =>
      have start : mark opening = none := bracket opening (by rw [opens]; rfl)
      have stop : mark closing = none := bracket closing (by rw [closes]; rfl)
      have others : ∀ item ∈ outer side 0 later, mark item = none := by
        intro item member
        refine unmarked item ?_
        rw [outer, opens]
        simp only
        rw [outer_within within, outer, closes]
        exact member
      rw [List.cons_append, cut, if_pos rfl, start, opens, List.append_assoc]
      simp only
      rw [cut_within within, List.cons_append, cut, if_neg (Nat.succ_ne_zero 0), closes]
      simp only [Nat.zero_add, Nat.sub_self, ih others, List.cons_append, List.append_assoc]

end Cutting

/-! ### Leaving tokens out -/

section Filtering

variable {keep : L → Bool}

theorem outer_filter (keeps : ∀ item, (side item).isSome = true → keep item = true) (depth : Nat)
    (items : List L) : outer side depth (items.filter keep) = (outer side depth items).filter keep := by
  induction items generalizing depth with
  | nil => rfl
  | cons item rest ih =>
      cases kind : side item with
      | some opens =>
          have kept : keep item = true := keeps item (by rw [kind]; rfl)
          rw [List.filter_cons_of_pos kept, outer, outer, kind]
          cases opens with
          | true => exact ih (depth + 1)
          | false => exact ih (depth - 1)
      | none =>
          by_cases kept : keep item = true
          · rw [List.filter_cons_of_pos kept, outer, outer, kind]
            by_cases outside : depth = 0
            · simp only [outside, if_true, ih, List.filter_cons_of_pos kept]
            · simp only [outside, if_false, ih]
          · rw [List.filter_cons_of_neg kept, outer, kind, ih]
            by_cases outside : depth = 0
            · simp only [outside, if_true, List.filter_cons_of_neg kept]
            · simp only [outside, if_false]

theorem Balanced.filter (keeps : ∀ item, (side item).isSome = true → keep item = true)
    {items : List L} (balanced : Balanced side items) : Balanced side (items.filter keep) := by
  induction balanced with
  | nil => exact .nil
  | @plain item rest ordinary _ ih =>
      by_cases kept : keep item = true
      · rw [List.filter_cons_of_pos kept]
        exact .plain ordinary ih
      · rw [List.filter_cons_of_neg kept]
        exact ih
  | @group opening closing inner later opens closes _ _ ihInner ihLater =>
      have start : keep opening = true := keeps opening (by rw [opens]; rfl)
      have stop : keep closing = true := keeps closing (by rw [closes]; rfl)
      rw [List.filter_cons_of_pos start, List.filter_append, List.filter_cons_of_pos stop]
      exact .group opens closes ihInner ihLater

end Filtering

end Brackets
