/-
Module: Relq.Library.Greedy
Layer: Library
Purpose: Cutting a sequence of weighted items into consecutive batches under a limit. The greedy cut
  keeps the items in order, closes a batch only when the next item does not fit, and needs no more
  batches than any other cut.
Imports: Mathlib.Algebra.GroupWithZero.Nat (sums of weights), Mathlib.Data.List.Basic
Trusted boundary: none (fully proved)
Main exports: load, fill, fill_flatten, fill_ne_nil, fill_within, fill_maximal, fill_optimal
-/
import Mathlib.Algebra.GroupWithZero.Nat
import Mathlib.Data.List.Basic

namespace Greedy

variable {α : Type} (cost : α → Nat) (limit : Nat)

/-- The weight of a batch. -/
def load (items : List α) : Nat :=
  (items.map cost).sum

/-- Fill up `batch` with the following items and start a new one when the next item does not fit. -/
def fill (batch : List α) : List α → List (List α)
  | [] => if batch.isEmpty then [] else [batch]
  | item :: rest =>
      if limit < load cost batch + cost item then batch :: fill [item] rest
      else fill (batch ++ [item]) rest

/-- How often a batch is closed before the end. -/
def cuts (used : Nat) : List α → Nat
  | [] => 0
  | item :: rest =>
      if limit < used + cost item then cuts (cost item) rest + 1 else cuts (used + cost item) rest

variable {cost limit}

@[simp] theorem load_nil : load cost [] = 0 := rfl

@[simp] theorem load_append (first second : List α) :
    load cost (first ++ second) = load cost first + load cost second := by
  simp [load]

@[simp] theorem load_cons (item : α) (rest : List α) :
    load cost (item :: rest) = cost item + load cost rest := by
  simp [load]

/-- Nothing is lost, repeated or reordered. -/
theorem fill_flatten (batch items : List α) : (fill cost limit batch items).flatten = batch ++ items := by
  induction items generalizing batch with
  | nil =>
      rw [fill]
      cases batch <;> simp
  | cons item rest ih =>
      rw [fill]
      split
      · rw [List.flatten_cons, ih, List.singleton_append]
      · rw [ih, List.append_assoc, List.singleton_append]

theorem fill_ne_nil {batch items : List α} (fits : ∀ item ∈ items, cost item ≤ limit) :
    ∀ piece ∈ fill cost limit batch items, piece ≠ [] := by
  induction items generalizing batch with
  | nil =>
      rw [fill]
      cases batch <;> simp
  | cons item rest ih =>
      have later : ∀ other ∈ rest, cost other ≤ limit :=
        fun other member => fits other (List.mem_cons_of_mem _ member)
      rw [fill]
      split
      · rename_i over_
        refine List.forall_mem_cons.mpr ⟨?_, ih later⟩
        -- an empty batch has room for any item
        rintro rfl
        have := fits item List.mem_cons_self
        rw [load_nil] at over_
        omega
      · exact ih later

theorem fill_within {batch items : List α} (fits : ∀ item ∈ items, cost item ≤ limit)
    (room : load cost batch ≤ limit) :
    ∀ piece ∈ fill cost limit batch items, load cost piece ≤ limit := by
  induction items generalizing batch with
  | nil =>
      rw [fill]
      cases batch with
      | nil => simp
      | cons item rest => simpa using room
  | cons item rest ih =>
      have first := fits item List.mem_cons_self
      have later : ∀ other ∈ rest, cost other ≤ limit :=
        fun other member => fits other (List.mem_cons_of_mem _ member)
      rw [fill]
      split
      · exact List.forall_mem_cons.mpr ⟨room, ih later (by simpa using first)⟩
      · rename_i under
        exact ih later (by simpa using Nat.le_of_not_lt under)

/-- The first batch starts with the given one. -/
theorem fill_head {batch items : List α} (started : batch ≠ []) :
    ∃ more pieces, fill cost limit batch items = (batch ++ more) :: pieces := by
  induction items generalizing batch with
  | nil =>
      cases batch with
      | nil => exact absurd rfl started
      | cons item rest => exact ⟨[], [], by simp [fill]⟩
  | cons item rest ih =>
      rw [fill]
      split
      · exact ⟨[], _, by rw [List.append_nil]⟩
      · obtain ⟨more, pieces, same⟩ := @ih (batch ++ [item]) (by simp)
        exact ⟨item :: more, pieces, by rw [same, List.append_assoc, List.singleton_append]⟩

/-- The first item of a batch does not fit into the batch before it. -/
def Overfull (cost : α → Nat) (limit : Nat) (piece next : List α) : Prop :=
  ∃ item rest, next = item :: rest ∧ limit < load cost (piece ++ [item])

theorem fill_maximal (batch items : List α) :
    (fill cost limit batch items).IsChain (Overfull cost limit) := by
  induction items generalizing batch with
  | nil =>
      rw [fill]
      split
      · exact .nil
      · exact .singleton _
  | cons item rest ih =>
      rw [fill]
      split
      · rename_i over_
        have chain := ih [item]
        obtain ⟨more, pieces, same⟩ :=
          @fill_head _ cost limit [item] rest (List.cons_ne_nil item [])
        rw [same] at chain ⊢
        exact .cons_cons ⟨item, more, rfl, by simpa using over_⟩ chain
      · exact ih _

/-! ### No other cut has fewer batches -/

/-- A fuller batch is closed no later and at most once more often. -/
theorem cuts_mono {used used' : Nat} (items : List α) (less : used ≤ used') :
    cuts cost limit used items ≤ cuts cost limit used' items ∧
      cuts cost limit used' items ≤ cuts cost limit used items + 1 := by
  induction items generalizing used used' with
  | nil => simp [cuts]
  | cons item rest ih =>
      simp only [cuts]
      by_cases over_ : limit < used + cost item
      · have over' : limit < used' + cost item := by omega
        rw [if_pos over_, if_pos over']
        omega
      · rw [if_neg over_]
        by_cases over' : limit < used' + cost item
        · have fresh := @ih (cost item) (used + cost item) (by omega)
          rw [if_pos over']
          omega
        · rw [if_neg over']
          exact ih (by omega)

theorem fill_length (batch items : List α) :
    (fill cost limit batch items).length =
      cuts cost limit (load cost batch) items + if batch = [] ∧ items = [] then 0 else 1 := by
  induction items generalizing batch with
  | nil => cases batch <;> simp [fill, cuts]
  | cons item rest ih =>
      rw [fill, cuts]
      split
      · rw [List.length_cons, ih]
        simp
      · rw [ih]
        simp

/-- A piece that fits is passed without a cut. -/
theorem cuts_append {used : Nat} {piece : List α} (rest : List α)
    (fits : used + load cost piece ≤ limit) :
    cuts cost limit used (piece ++ rest) = cuts cost limit (used + load cost piece) rest := by
  induction piece generalizing used with
  | nil => simp
  | cons item piece ih =>
      rw [load_cons] at fits
      have under : ¬limit < used + cost item := by omega
      rw [List.cons_append, cuts, if_neg under, ih (by omega), load_cons, Nat.add_assoc]

theorem fill_optimal {items : List α} (pieces : List (List α)) (same : pieces.flatten = items)
    (within : ∀ piece ∈ pieces, load cost piece ≤ limit) :
    (fill cost limit [] items).length ≤ pieces.length := by
  induction pieces generalizing items with
  | nil =>
      subst same
      simp [fill]
  | cons piece pieces ih =>
      subst same
      obtain ⟨fits, later⟩ := List.forall_mem_cons.mp within
      have rest := ih rfl later
      have fits' : 0 + load cost piece ≤ limit := by omega
      have opened := (@cuts_mono _ cost limit _ _ pieces.flatten
        (Nat.zero_le (0 + load cost piece))).2
      rw [List.flatten_cons, fill_length, load_nil, cuts_append _ fits', List.length_cons]
      rw [fill_length, load_nil] at rest
      by_cases done : pieces.flatten = []
      · simp only [done, List.append_nil, cuts] at rest ⊢
        split <;> omega
      · simp only [done, List.append_eq_nil_iff, and_false, if_false] at rest ⊢
        omega

end Greedy
