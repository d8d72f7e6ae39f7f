/-
Module: Relq.Library.Nearest
Layer: Library
Purpose: Lookup in a list whose elements stand nearest first. In such a list the first match is the
  match no other match is nearer than, so a lookup can be described without positions.
Imports: none (Mathlib-free)
Trusted boundary: none (fully proved)
Main exports: find?_eq_some_iff_nearest
-/

namespace Nearest

variable {α : Type} {nearer : α → α → Prop}

/-- In a list ordered by an asymmetric `nearer`, `find?` returns the nearest match. -/
theorem find?_eq_some_iff_nearest {items : List α} {accepts : α → Bool} {found : α}
    (ordered : items.Pairwise nearer) (asymmetric : ∀ a b, nearer a b → ¬nearer b a) :
    items.find? accepts = some found ↔
      found ∈ items ∧ accepts found = true ∧
        ∀ other ∈ items, accepts other = true → other = found ∨ nearer found other := by
  induction items with
  | nil => simp
  | cons first rest ih =>
      obtain ⟨nearest, ordered⟩ := List.pairwise_cons.mp ordered
      by_cases hit : accepts first = true
      · simp only [List.find?_cons_of_pos hit, Option.some.injEq]
        constructor
        · rintro rfl
          refine ⟨List.mem_cons_self, hit, fun other member _ => ?_⟩
          exact (List.mem_cons.mp member).imp id (nearest other)
        · rintro ⟨member, -, least⟩
          rcases List.mem_cons.mp member with rfl | member
          · rfl
          · rcases least first List.mem_cons_self hit with same | farther
            · exact same
            · exact absurd farther (asymmetric _ _ (nearest found member))
      · rw [List.find?_cons_of_neg hit, ih ordered]
        simp only [List.mem_cons]
        grind

end Nearest
