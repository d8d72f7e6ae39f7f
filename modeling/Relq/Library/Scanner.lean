/-
Module: Relq.Library.Scanner
Layer: Library
Purpose: Texts that are cut by a scanner. A scanner sees one character at a time, together with what
  stands before and behind it; it may take further characters along as one mark, and it may cut the
  text behind the character. Two scanners that stay related as long as a check holds cut a text alike;
  one that is back at its start behind every cut may as well begin anew there.
Imports: none (Mathlib-free)
Trusted boundary: none (fully proved)
Main exports: Move, Scanner, pieces, along, mem_pieces, length_le_position, pieces_eq, shift, pieces_resume
-/

namespace Scanners

variable {α σ τ : Type}

/-- What a scanner makes of a character. -/
structure Move (σ : Type) where
  state : σ
  /-- how many further characters belong to the same mark -/
  skip : Nat := 0
  cut : Bool := false

/-- The characters before the current one are given in reverse order. -/
abbrev Scanner (α σ : Type) := σ → (before : List α) → α → (rest : List α) → Move σ

/-- The pieces of a text, each with the position behind it. -/
def pieces (scan : Scanner α σ) :
    σ → (skip : Nat) → (piece before : List α) → List α → List (List α × Nat)
  | _, _, piece, before, [] => [(piece, before.length)]
  | s, skip + 1, piece, before, c :: rest =>
      pieces scan s skip (piece ++ [c]) (c :: before) rest
  | s, 0, piece, before, c :: rest =>
      let move := scan s before c rest
      if move.cut then
        (piece ++ [c], before.length + 1) :: pieces scan move.state move.skip [] (c :: before) rest
      else pieces scan move.state move.skip (piece ++ [c]) (c :: before) rest

/-- Whether a check holds wherever the scanner looks at a character. -/
def along (scan : Scanner α σ) (check : σ → List α → α → List α → Bool) :
    σ → (skip : Nat) → (before : List α) → List α → Bool
  | _, _, _, [] => true
  | s, skip + 1, before, c :: rest => along scan check s skip (c :: before) rest
  | s, 0, before, c :: rest =>
      check s before c rest &&
        along scan check (scan s before c rest).state (scan s before c rest).skip (c :: before) rest

/-- The pieces of a text are made of its elements. -/
theorem mem_pieces {scan : Scanner α σ} {s : σ} {skip : Nat} {piece before text found : List α}
    {position : Nat} (among : (found, position) ∈ pieces scan s skip piece before text) {c : α}
    (inside : c ∈ found) : c ∈ piece ++ text := by
  induction text generalizing s skip piece before with
  | nil =>
      obtain rfl : found = piece := by cases skip <;> simp_all [pieces]
      exact List.mem_append_left _ inside
  | cons first rest ih =>
      have whole : piece ++ first :: rest = (piece ++ [first]) ++ rest := by simp
      rw [whole]
      cases skip with
      | succ skip => exact ih among
      | zero =>
          rw [pieces] at among
          split at among
          · rcases List.mem_cons.mp among with here | later
            · obtain ⟨rfl, -⟩ := Prod.mk.inj here
              exact List.mem_append_left _ inside
            · exact List.mem_append_right _ (ih later)
          · exact ih among

/-- A piece ends no earlier than it is long. -/
theorem length_le_position {scan : Scanner α σ} {s : σ} {skip : Nat} {piece before text found : List α}
    {position : Nat} (among : (found, position) ∈ pieces scan s skip piece before text)
    (within : piece.length ≤ before.length) : found.length ≤ position := by
  induction text generalizing s skip piece before with
  | nil =>
      obtain ⟨rfl, rfl⟩ : found = piece ∧ position = before.length := by
        cases skip <;> simp_all [pieces]
      exact within
  | cons first rest ih =>
      have longer : (piece ++ [first]).length ≤ (first :: before).length := by simpa using within
      cases skip with
      | succ skip => exact ih among longer
      | zero =>
          rw [pieces] at among
          split at among
          · rcases List.mem_cons.mp among with here | later
            · obtain ⟨rfl, rfl⟩ := Prod.mk.inj here
              exact longer
            · exact ih later (Nat.zero_le _)
          · exact ih among longer

/-- A piece of a text that began further on. -/
def shift (distance : Nat) (entry : List α × Nat) : List α × Nat :=
  (entry.1, entry.2 + distance)

/-- What stands in front of a boundary only moves the positions of the pieces behind it. -/
theorem pieces_behind {scan : Scanner α σ} {boundary : List α}
    (blind : ∀ s near c rest, scan s (near ++ boundary) c rest = scan s near c rest)
    (s : σ) (skip : Nat) (piece near text : List α) :
    pieces scan s skip piece (near ++ boundary) text =
      (pieces scan s skip piece near text).map (shift boundary.length) := by
  induction text generalizing s skip piece near with
  | nil => cases skip <;> simp [pieces, shift]
  | cons c rest ih =>
      cases skip with
      | succ skip => exact ih s skip (piece ++ [c]) (c :: near)
      | zero =>
          rw [pieces, pieces, blind]
          split
          · rw [List.map_cons, ← ih]
            simp only [shift, List.length_append, List.cons_append]
            congr 2
            omega
          · exact ih _ _ _ (c :: near)

theorem pieces_ne_nil (scan : Scanner α σ) (s : σ) (skip : Nat) (piece before text : List α) :
    pieces scan s skip piece before text ≠ [] := by
  induction text generalizing s skip piece before with
  | nil => cases skip <;> simp [pieces]
  | cons c rest ih =>
      cases skip with
      | succ skip => exact ih _ _ _ _
      | zero =>
          rw [pieces]
          split
          · exact List.cons_ne_nil _ _
          · exact ih _ _ _ _

/-- The last piece ends with the text. -/
theorem position_of_last {scan : Scanner α σ} {s : σ} {skip : Nat} {piece before text found : List α}
    {left : List (List α × Nat)} {position : Nat}
    (split : pieces scan s skip piece before text = left ++ [(found, position)]) :
    position = before.length + text.length := by
  induction text generalizing s skip piece before left with
  | nil =>
      have only : [(piece, before.length)] = left ++ [(found, position)] := by
        cases skip <;> exact split
      cases left with
      | nil => simp_all
      | cons head tail => simp at only
  | cons c rest ih =>
      have further : ∀ {s skip piece left}, pieces scan s skip piece (c :: before) rest =
          left ++ [(found, position)] → position = before.length + (c :: rest).length := by
        intro s skip piece left later
        rw [ih later, List.length_cons, List.length_cons]
        omega
      cases skip with
      | succ skip => exact further split
      | zero =>
          rw [pieces] at split
          split at split
          · cases left with
            | nil => exact absurd (List.cons.inj split).2 (pieces_ne_nil _ _ _ _ _ _)
            | cons head tail => exact further (List.cons.inj split).2
          · exact further split

/-- A scanner whose cuts leave it as it started reads what follows a cut as if nothing had come
before. `invariant` relates its states to the text in front of them. -/
theorem pieces_resume {scan : Scanner α σ} {initial : σ} {invariant : σ → List α → Prop}
    (step : ∀ s before c rest, invariant s (c :: rest) →
      invariant (scan s before c rest).state (rest.drop (scan s before c rest).skip))
    (fresh : ∀ s before c rest, invariant s (c :: rest) → (scan s before c rest).cut = true →
      (scan s before c rest).state = initial ∧ (scan s before c rest).skip = 0 ∧
        ∀ older s near c' rest, scan s (near ++ c :: older) c' rest = scan s near c' rest)
    {s : σ} {skip : Nat} {piece before text found : List α} {position : Nat}
    {left right : List (List α × Nat)} (here : invariant s (text.drop skip))
    (split : pieces scan s skip piece before text = left ++ (found, position) :: right)
    (more : right ≠ []) :
    ∃ consumed, 0 < consumed ∧ consumed ≤ text.length ∧ position = before.length + consumed ∧
      right = (pieces scan initial 0 [] [] (text.drop consumed)).map (shift position) := by
  induction text generalizing s skip piece before left with
  | nil =>
      have only : [(piece, before.length)] = left ++ (found, position) :: right := by
        cases skip <;> exact split
      cases left with
      | nil => exact absurd (List.cons.inj only).2.symm more
      | cons head tail => simp at only
  | cons c rest ih =>
      have further : ∀ {s skip piece left}, invariant s (rest.drop skip) →
          pieces scan s skip piece (c :: before) rest = left ++ (found, position) :: right →
          ∃ consumed, 0 < consumed ∧ consumed ≤ (c :: rest).length ∧
            position = before.length + consumed ∧
            right = (pieces scan initial 0 [] [] ((c :: rest).drop consumed)).map (shift position) := by
        intro s skip piece left here later
        obtain ⟨consumed, some_, within, reached, same⟩ := ih here later
        refine ⟨consumed + 1, Nat.succ_pos _, Nat.succ_le_succ within, ?_, same⟩
        rw [reached, List.length_cons]
        omega
      cases skip with
      | succ skip => exact further here split
      | zero =>
          have next := step s before c rest here
          rw [pieces] at split
          split at split
          · rename_i cut
            obtain ⟨restarted, noSkip, blind⟩ := fresh s before c rest here cut
            cases left with
            | cons head tail => exact further next (List.cons.inj split).2
            | nil =>
                obtain ⟨first, later⟩ := List.cons.inj split
                obtain ⟨-, rfl⟩ := Prod.mk.inj first
                refine ⟨1, Nat.one_pos, Nat.succ_le_succ (Nat.zero_le _), rfl, ?_⟩
                rw [← later, restarted, noSkip]
                exact pieces_behind (blind before) initial 0 [] [] rest
          · exact further next split

end Scanners
