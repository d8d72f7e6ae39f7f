/-
Module: Relq.Compiler.Ordinals
Layer: Compiler
Purpose: Where the placeholders of a term get their numbers. The renderer numbers every occurrence of
  a bound value anew, so the text of a term depends on how many values were bound before it. `Placed`
  follows the renderer into a term and counts them.
Imports: Relq.Compiler.LayoutAssembly
Trusted boundary: human-reviewed spec (fillOrder, bindings, Placed)
Main exports: fillOrder, bindings, starts, Placed, placed_within, placed_rendered, Placed.bounds
-/
import Relq.Compiler.LayoutAssembly

namespace Relq

open Templates Offsets

variable {V : Type}

/-- The rendered parts of a term in the order in which the renderer reaches them. -/
def fillOrder (term : Term V) : List (Term V) :=
  match term with
  | .expression node =>
      match lateParts node with
      | some (first, second) => second ++ first
      | none => renderedParts term
  | _ => renderedParts term

theorem mem_fillOrder {term part : Term V} : part ∈ fillOrder term ↔ part ∈ renderedParts term := by
  cases term with
  | statement query => rfl
  | expression node =>
      cases parts : lateParts node with
      | none => simp [fillOrder, parts]
      | some pair =>
          obtain ⟨first, second⟩ := pair
          rw [renderedParts_late parts]
          simp [fillOrder, parts, or_comm]

section

variable [PyObject V] (dialect : Dialect)

/-- The number of values the rendering of a term binds. -/
def bindings (term : Term V) : Nat :=
  (layoutTerm dialect term).values.length

/-- Terms rendered one after another, each with the number of values bound before it. -/
abbrev starts : Nat → List (Term V) → List (Nat × Term V) :=
  offsets (bindings dialect)

/-- When `n` values are bound before `outer` is rendered, `inner` is rendered inside it after `m`
values. -/
inductive Placed : Nat → Term V → Nat → Term V → Prop where
  | here (n : Nat) (term : Term V) : Placed n term n term
  | within {n m k : Nat} {term part inner : Term V}
      (member : (m, part) ∈ starts dialect n (fillOrder term)) (below : Placed m part k inner) :
      Placed n term k inner

variable {dialect}

theorem starts_layouts {n m : Nat} {part : Term V} {parts : List (Term V)}
    (placed : (m, part) ∈ starts dialect n parts) :
    (m, layoutTerm dialect part) ∈
      offsets (·.values.length) n (parts.map (layoutTerm dialect)) := by
  rw [offsets_map]
  exact List.mem_map.mpr ⟨_, placed, rfl⟩

theorem total_bindings (parts : List (Term V)) :
    total (bindings dialect) parts =
      ((parts.map (layoutTerm dialect)).flatMap Template.values).length := by
  induction parts with
  | nil => rfl
  | cons part rest ih => simp [total, bindings, ih]

/-- A term binds what its parts bind, unless it is a bound value itself. -/
theorem bindings_parts {term : Term V} (unbound : ∀ value, term ≠ .expression (.value value)) :
    bindings dialect term = total (bindings dialect) (fillOrder term) := by
  rw [total_bindings]
  cases made : layoutTerm_made dialect term with
  | bound value => exact absurd rfl (unbound value)
  | late parts early behind built =>
      simp [bindings, built.values, early.values, behind.values, fillOrder, parts, Nat.add_comm]
  | ordered punctual _ built =>
      have order : fillOrder term = renderedParts term := by
        cases term with
        | statement query => rfl
        | expression node => simp [fillOrder, punctual node rfl]
      rw [order, bindings, built.values]

/-- The text of a part stands in the text of the term. -/
theorem part_within {n m : Nat} {term part : Term V}
    (placed : (m, part) ∈ starts dialect n (fillOrder term)) :
    (layoutTerm dialect part).sql m <:+: (layoutTerm dialect term).sql n := by
  cases made : layoutTerm_made dialect term with
  | bound value => cases placed
  | @late _ _ _ front back _ parts early behind built =>
      have whole : Template.text Lexeme.placeholder (.late front back) n <:+:
          (layoutTerm dialect (.expression _)).sql n := built.text_within List.mem_cons_self
      refine List.IsInfix.trans ?_ whole
      simp only [fillOrder, parts, offsets_append, List.mem_append] at placed
      rw [Template.text_late]
      rcases placed with second | first
      · exact (behind.text_within (starts_layouts second)).trans ⟨_, [], List.append_nil _⟩
      · have place := starts_layouts first
        rw [total_bindings, ← behind.values] at place
        exact (early.text_within place).trans ⟨[], _, rfl⟩
  | ordered punctual _ built =>
      have order : fillOrder term = renderedParts term := by
        cases term with
        | statement query => rfl
        | expression node => simp [fillOrder, punctual node rfl]
      rw [order] at placed
      exact built.text_within (starts_layouts placed)

/-- A term rendered inside another one is found in its text with the ordinals of its place. -/
theorem placed_within {n m : Nat} {outer inner : Term V} (placed : Placed dialect n outer m inner) :
    (layoutTerm dialect inner).sql m <:+: (layoutTerm dialect outer).sql n := by
  induction placed with
  | here n term => exact List.infix_rfl
  | within member below ih => exact ih.trans (part_within member)

theorem placed_rendered {root : QueryNode V} {compiled : CompiledQuery V} {m : Nat} {inner : Term V}
    (rendered : renderQuery root dialect = .ok compiled)
    (placed : Placed dialect 0 (.statement root) m inner) :
    (layoutTerm dialect inner).sql m <:+: compiled.text := by
  rw [(renderQuery_layout rendered).1]
  exact placed_within placed

theorem Placed.rendered {n m : Nat} {outer inner : Term V} (placed : Placed dialect n outer m inner) :
    Rendered outer inner := by
  induction placed with
  | here n term => exact .refl term
  | within member below ih =>
      exact rendered_iff.mpr (Or.inr ⟨_, mem_fillOrder.mp (mem_of_offsets member), ih⟩)

theorem rendered_placed {outer inner : Term V} (rendered : Rendered outer inner) (n : Nat) :
    ∃ m, Placed dialect n outer m inner := by
  induction rendered using Relation.ReflTransGen.head_induction_on generalizing n with
  | refl => exact ⟨n, .here n inner⟩
  | head member _ ih =>
      obtain ⟨m, place⟩ := exists_offset (mem_fillOrder.mpr member) n
      obtain ⟨k, below⟩ := ih m
      exact ⟨k, .within place below⟩

/-- What is rendered inside a term binds within the term's own range. -/
theorem Placed.bounds {n m : Nat} {outer inner : Term V} (placed : Placed dialect n outer m inner) :
    n ≤ m ∧ m + bindings dialect inner ≤ n + bindings dialect outer := by
  induction placed with
  | here n term => simp
  | within member below ih =>
      rename_i n m k term part inner
      have range := offsets_bounds member
      have unbound : ∀ value, term ≠ .expression (.value value) := by
        rintro value rfl
        cases member
      rw [bindings_parts unbound]
      omega

end

end Relq
