/-
Module: Relq.Library.Dictionaries
Layer: Library
Purpose: Dictionaries in insertion order, as association lists without repeated keys. Assigning to a
  key that is present keeps its place; of several assignments to one key the last one counts.
Imports: Mathlib.Data.List.Induction (induction from the end of a list)
Trusted boundary: human-reviewed spec (set, written)
Main exports: set, written, mem_written, nodup_written, keys_written
-/
import Mathlib.Data.List.Induction

namespace Dictionaries

variable {κ α : Type} [DecidableEq κ]

/-- `entries[key] = value`. -/
def set : List (κ × α) → κ → α → List (κ × α)
  | [], key, value => [(key, value)]
  | entry :: rest, key, value =>
      if entry.1 = key then (key, value) :: rest else entry :: set rest key value

/-- The dictionary after a list of assignments. -/
def written (writes : List (κ × α)) : List (κ × α) :=
  writes.foldl (fun entries write => set entries write.1 write.2) []

/-- Looking a key up, with the comparison as a proposition. -/
theorem lookup_cons (entry : κ × α) (rest : List (κ × α)) (key : κ) :
    (entry :: rest).lookup key = if key = entry.1 then some entry.2 else rest.lookup key := by
  rw [List.lookup_cons]
  by_cases same : key = entry.1
  · rw [if_pos same, beq_iff_eq.mpr same]
  · rw [if_neg same, beq_eq_false_iff_ne.mpr same]

theorem lookup_set (entries : List (κ × α)) (key other : κ) (value : α) :
    (set entries key value).lookup other = if other = key then some value else entries.lookup other := by
  induction entries with
  | nil => exact lookup_cons (key, value) [] other
  | cons entry rest ih =>
      rw [set]
      by_cases found : entry.1 = key
      · rw [if_pos found, lookup_cons, lookup_cons, found]
        by_cases same : other = key <;> simp [same]
      · rw [if_neg found, lookup_cons, lookup_cons, ih]
        by_cases same : other = key
        · simp [same, Ne.symm found]
        · simp [same]

theorem keys_set {entries : List (κ × α)} {key other : κ} {value : α} :
    other ∈ (set entries key value).map (·.1) ↔ other = key ∨ other ∈ entries.map (·.1) := by
  induction entries with
  | nil => simp [set]
  | cons entry rest ih =>
      rw [set]
      by_cases found : entry.1 = key
      · rw [if_pos found]
        simp [found]
      · rw [if_neg found, List.map_cons, List.mem_cons, ih, List.map_cons, List.mem_cons]
        tauto

theorem nodup_set {entries : List (κ × α)} {key : κ} {value : α}
    (distinct : (entries.map (·.1)).Nodup) : ((set entries key value).map (·.1)).Nodup := by
  induction entries with
  | nil => simp [set]
  | cons entry rest ih =>
      obtain ⟨fresh, below⟩ := List.nodup_cons.mp distinct
      rw [set]
      by_cases found : entry.1 = key
      · rw [if_pos found]
        exact List.nodup_cons.mpr ⟨found ▸ fresh, below⟩
      · rw [if_neg found]
        refine List.nodup_cons.mpr ⟨fun member => ?_, ih below⟩
        exact (keys_set.mp member).elim found fresh

/-- A dictionary holds an entry exactly when it finds the value under the key. -/
theorem mem_iff_lookup {entries : List (κ × α)} (distinct : (entries.map (·.1)).Nodup) {key : κ}
    {value : α} : (key, value) ∈ entries ↔ entries.lookup key = some value := by
  induction entries with
  | nil => simp
  | cons entry rest ih =>
      obtain ⟨key', value'⟩ := entry
      obtain ⟨fresh, below⟩ := List.nodup_cons.mp distinct
      rw [List.mem_cons, lookup_cons, ih below]
      by_cases same : key = key'
      · subst same
        have absent : rest.lookup key ≠ some value := fun found =>
          fresh (List.mem_map.mpr ⟨_, (ih below).mpr found, rfl⟩)
        simp [absent, eq_comm]
      · simp [same]

/-- Of concatenated lists the first that has the key decides. -/
theorem lookup_flatMap {β : Type} (parts : List β) (entries : β → List (κ × α)) (key : κ) :
    (parts.flatMap entries).lookup key = parts.findSome? fun part => (entries part).lookup key := by
  induction parts with
  | nil => rfl
  | cons part rest ih =>
      rw [List.flatMap_cons, List.lookup_append, ih, List.findSome?_cons]
      cases (entries part).lookup key <;> rfl

/-! ### Many assignments -/

theorem written_append (writes later : List (κ × α)) :
    written (writes ++ later) =
      later.foldl (fun entries write => set entries write.1 write.2) (written writes) :=
  List.foldl_append

theorem written_concat (writes : List (κ × α)) (write : κ × α) :
    written (writes ++ [write]) = set (written writes) write.1 write.2 :=
  written_append writes [write]

theorem nodup_written (writes : List (κ × α)) : ((written writes).map (·.1)).Nodup := by
  induction writes using List.reverseRecOn with
  | nil => exact List.nodup_nil
  | append_singleton writes write ih =>
      rw [written_concat]
      exact nodup_set ih

/-- The last assignment counts. -/
theorem lookup_written (writes : List (κ × α)) (key : κ) :
    (written writes).lookup key = writes.reverse.lookup key := by
  induction writes using List.reverseRecOn with
  | nil => rfl
  | append_singleton writes write ih =>
      rw [written_concat, lookup_set, ih, List.reverse_concat, lookup_cons]

theorem mem_written {writes : List (κ × α)} {key : κ} {value : α} :
    (key, value) ∈ written writes ↔ writes.reverse.lookup key = some value := by
  rw [mem_iff_lookup (nodup_written writes), lookup_written]

/-- Every entry comes from an assignment. -/
theorem mem_of_mem_written {writes : List (κ × α)} {entry : κ × α} (member : entry ∈ written writes) :
    entry ∈ writes := by
  obtain ⟨before, after, split, _⟩ := List.lookup_eq_some_iff.mp (mem_written.mp member)
  rw [← List.mem_reverse, split]
  simp

theorem keys_written {writes : List (κ × α)} {key : κ} :
    key ∈ (written writes).map (·.1) ↔ key ∈ writes.map (·.1) := by
  induction writes using List.reverseRecOn with
  | nil => rfl
  | append_singleton writes write ih =>
      rw [written_concat, keys_set, ih, List.map_append, List.mem_append, List.map_singleton,
        List.mem_singleton, or_comm]

end Dictionaries
