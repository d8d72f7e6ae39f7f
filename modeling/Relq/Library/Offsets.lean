/-
Module: Relq.Library.Offsets
Layer: Library
Purpose: Items laid one after another from a starting point, each with its own size, and the point at
  which each of them starts.
Imports: none
Trusted boundary: none (fully proved)
Main exports: total, offsets, offsets_append, offsets_bounds
-/

namespace Offsets

variable {α β : Type} (size : α → Nat)

/-- The room a list of items takes. -/
def total : List α → Nat
  | [] => 0
  | item :: rest => size item + total rest

/-- Every item with the point it starts at, when the first one starts at `n`. -/
def offsets : Nat → List α → List (Nat × α)
  | _, [] => []
  | n, item :: rest => (n, item) :: offsets (n + size item) rest

variable {size}

@[simp] theorem total_append (first second : List α) :
    total size (first ++ second) = total size first + total size second := by
  induction first with
  | nil => simp [total]
  | cons item rest ih => simp [total, ih, Nat.add_assoc]

@[simp] theorem offsets_append (n : Nat) (first second : List α) :
    offsets size n (first ++ second) =
      offsets size n first ++ offsets size (n + total size first) second := by
  induction first generalizing n with
  | nil => rfl
  | cons item rest ih => simp [offsets, total, ih, Nat.add_assoc]

theorem offsets_map (f : β → α) (n : Nat) (items : List β) :
    offsets size n (items.map f) =
      (offsets (size ∘ f) n items).map fun placed => (placed.1, f placed.2) := by
  induction items generalizing n with
  | nil => rfl
  | cons item rest ih => simp [offsets, ih]

/-- An item that has a place is one of the items. -/
theorem mem_of_offsets {n m : Nat} {item : α} {items : List α}
    (placed : (m, item) ∈ offsets size n items) : item ∈ items := by
  induction items generalizing n with
  | nil => cases placed
  | cons first rest ih =>
      rcases List.mem_cons.mp placed with here | later
      · cases here
        exact List.mem_cons_self
      · exact List.mem_cons_of_mem _ (ih later)

theorem exists_offset {item : α} {items : List α} (member : item ∈ items) (n : Nat) :
    ∃ m, (m, item) ∈ offsets size n items := by
  induction items generalizing n with
  | nil => cases member
  | cons first rest ih =>
      rcases List.mem_cons.mp member with rfl | later
      · exact ⟨n, List.mem_cons_self⟩
      · obtain ⟨m, placed⟩ := ih later (n + size first)
        exact ⟨m, List.mem_cons_of_mem _ placed⟩

/-- An item lies within the room of the whole list. -/
theorem offsets_bounds {n m : Nat} {item : α} {items : List α}
    (placed : (m, item) ∈ offsets size n items) :
    n ≤ m ∧ m + size item ≤ n + total size items := by
  induction items generalizing n with
  | nil => cases placed
  | cons first rest ih =>
      rcases List.mem_cons.mp placed with here | later
      · cases here
        simp [total]
      · have within := ih later
        simp only [total]
        omega

end Offsets
