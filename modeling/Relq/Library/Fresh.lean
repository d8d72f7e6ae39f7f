/-
Module: Relq.Library.Fresh
Layer: Library
Purpose: Fresh names by search and by bookkeeping. A search along numbered candidates ends when
  every rejected number can blame a blocker of a finite set and no blocker is blamed twice. Names
  handed out from a growing set of taken ones are distinct and apart from what was reserved.
Imports: Mathlib.Data.Finset.Card (the pigeonhole principle)
Trusted boundary: human-reviewed spec (firstFrom, Allocated)
Main exports: firstFrom, firstFrom_isSome, firstFrom_free, Allocated, Allocated.extend
-/
import Mathlib.Data.Finset.Card

namespace Fresh

/-! ### Search along numbers -/

/-- The first number from `start` on that is free, looking at `fuel` of them. -/
def firstFrom (free : Nat → Bool) : Nat → Nat → Option Nat
  | 0, _ => none
  | fuel + 1, start => if free start then some start else firstFrom free fuel (start + 1)

theorem firstFrom_eq_none {free : Nat → Bool} {fuel start : Nat} :
    firstFrom free fuel start = none ↔ ∀ index, start ≤ index → index < start + fuel →
      free index = false := by
  induction fuel generalizing start with
  | zero =>
      simp only [firstFrom, true_iff]
      intro index low high
      omega
  | succ fuel ih =>
      rw [firstFrom]
      by_cases found : free start = true
      · rw [if_pos found]
        simp only [reduceCtorEq, false_iff, not_forall]
        exact ⟨start, Nat.le_refl _, by omega, by simp [found]⟩
      · rw [if_neg found, ih]
        constructor
        · intro later index low high
          rcases Nat.eq_or_lt_of_le low with rfl | above
          · simpa using found
          · exact later index above (by omega)
        · intro all index low high
          exact all index (by omega) (by omega)

/-- What the search returns is free, and nothing before it is. -/
theorem firstFrom_free {free : Nat → Bool} {fuel start index : Nat}
    (found : firstFrom free fuel start = some index) :
    start ≤ index ∧ free index = true ∧ ∀ earlier, start ≤ earlier → earlier < index →
      free earlier = false := by
  induction fuel generalizing start with
  | zero => cases found
  | succ fuel ih =>
      rw [firstFrom] at found
      by_cases here : free start = true
      · rw [if_pos here] at found
        cases found
        exact ⟨Nat.le_refl _, here, fun earlier low high => by omega⟩
      · rw [if_neg here] at found
        obtain ⟨low, isFree, before⟩ := ih found
        refine ⟨by omega, isFree, fun earlier above below => ?_⟩
        rcases Nat.eq_or_lt_of_le above with rfl | later
        · simpa using here
        · exact before earlier later below

/-- The search ends within as many steps as there are blockers, and one more. -/
theorem firstFrom_isSome {β : Type} {free : Nat → Bool} {start : Nat} (blockers : Finset β)
    (Blocks : β → Nat → Prop)
    (blamed : ∀ index, start ≤ index → free index = false → ∃ blocker ∈ blockers, Blocks blocker index)
    (once : ∀ blocker first second, start ≤ first → start ≤ second → Blocks blocker first →
      Blocks blocker second → first = second) {fuel : Nat} (enough : blockers.card < fuel) :
    (firstFrom free fuel start).isSome = true := by
  by_contra missing
  have blocked := firstFrom_eq_none.mp (Option.not_isSome_iff_eq_none.mp missing)
  have choice : ∀ offset, ∃ blocker, offset < fuel →
      blocker ∈ blockers ∧ Blocks blocker (start + offset) := by
    intro offset
    by_cases small : offset < fuel
    · obtain ⟨blocker, member, blocks⟩ :=
        blamed (start + offset) (by omega) (blocked _ (by omega) (by omega))
      exact ⟨blocker, fun _ => ⟨member, blocks⟩⟩
    · obtain ⟨blocker, _, _⟩ := blamed start (Nat.le_refl _) (blocked _ (Nat.le_refl _) (by omega))
      exact ⟨blocker, fun inside => absurd inside small⟩
  choose blocker chosen using choice
  obtain ⟨first, firstIn, second, secondIn, apart, same⟩ :=
    Finset.exists_ne_map_eq_of_card_lt_of_maps_to
      (s := Finset.range fuel) (t := blockers) (f := blocker) (by simpa using enough)
      (fun offset inside => (chosen offset (by simpa using inside)).1)
  have left := (chosen first (by simpa using firstIn)).2
  have right := (chosen second (by simpa using secondIn)).2
  rw [← same] at right
  exact apart (by have := once _ _ _ (by omega) (by omega) left right; omega)

/-! ### Taken names -/

variable {α : Type}

/-- The bookkeeping of an allocation: what has been handed out is distinct and apart from the
reserved names, and both count as taken. -/
structure Allocated (reserved taken declared : List α) : Prop where
  distinct : declared.Nodup
  apart : ∀ name ∈ declared, name ∉ reserved
  reserved_taken : ∀ name ∈ reserved, name ∈ taken
  declared_taken : ∀ name ∈ declared, name ∈ taken

theorem Allocated.nil (reserved : List α) : Allocated reserved reserved [] where
  distinct := List.nodup_nil
  apart _ member := nomatch member
  reserved_taken _ member := member
  declared_taken _ member := nomatch member

/-- Handing out names that are distinct and not taken. -/
theorem Allocated.extend {reserved taken declared family : List α}
    (allocated : Allocated reserved taken declared) (distinct : family.Nodup)
    (free : ∀ name ∈ family, name ∉ taken) :
    Allocated reserved (taken ++ family) (declared ++ family) where
  distinct := by
    refine List.nodup_append.mpr ⟨allocated.distinct, distinct, ?_⟩
    rintro name earlier _ later rfl
    exact free name later (allocated.declared_taken name earlier)
  apart name member := by
    rcases List.mem_append.mp member with earlier | later
    · exact allocated.apart name earlier
    · exact fun isReserved => free name later (allocated.reserved_taken name isReserved)
  reserved_taken name member := List.mem_append_left _ (allocated.reserved_taken name member)
  declared_taken name member := by
    rcases List.mem_append.mp member with earlier | later
    · exact List.mem_append_left _ (allocated.declared_taken name earlier)
    · exact List.mem_append_right _ later

/-- The order of the names does not matter. -/
theorem Allocated.perm {reserved taken declared reordered : List α}
    (allocated : Allocated reserved taken declared) (same : reordered.Perm declared) :
    Allocated reserved taken reordered where
  distinct := same.nodup_iff.mpr allocated.distinct
  apart name member := allocated.apart name (same.mem_iff.mp member)
  reserved_taken := allocated.reserved_taken
  declared_taken name member := allocated.declared_taken name (same.mem_iff.mp member)

end Fresh
