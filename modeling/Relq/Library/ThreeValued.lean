/-
Module: Relq.Library.ThreeValued
Layer: Library
Purpose: SQL's three-valued logic. A truth value is TRUE, FALSE or UNKNOWN, which is `none`. The
  connectives answer as soon as their known operands decide the answer.
Imports: none
Trusted boundary: human-reviewed spec (Truth and its connectives)
Main exports: Truth, Truth.not, Truth.and, Truth.or, Truth.any, Truth.and_eq_true, Known
-/

namespace ThreeValued

/-- TRUE, FALSE, or `none` for UNKNOWN. -/
abbrev Truth := Option Bool

namespace Truth

def not : Truth → Truth
  | some b => some (!b)
  | none => none

def and : Truth → Truth → Truth
  | some true, right => right
  | some false, _ => some false
  | none, some false => some false
  | none, _ => none

def or : Truth → Truth → Truth
  | some false, right => right
  | some true, _ => some true
  | none, some true => some true
  | none, _ => none

def negatedIf (negated : Bool) (truth : Truth) : Truth :=
  if negated then truth.not else truth

/-- The disjunction of a list. -/
def any : List Truth → Truth
  | [] => some false
  | first :: rest => or first (any rest)

theorem and_eq_true {left right : Truth} :
    left.and right = some true ↔ left = some true ∧ right = some true := by
  rcases left with _ | _ | _ <;> rcases right with _ | _ | _ <;> decide

end Truth

/-- The truth value is not UNKNOWN. -/
def Known (truth : Truth) : Prop :=
  truth ≠ none

theorem known_some (b : Bool) : Known (some b) := by
  intro unknown
  cases unknown

theorem Known.not {truth : Truth} (known : Known truth) : Known truth.not := by
  cases truth with
  | none => exact absurd rfl known
  | some b => exact known_some _

theorem Known.and {left right : Truth} (first : Known left) (second : Known right) :
    Known (left.and right) := by
  rcases left with _ | _ | _
  · exact absurd rfl first
  · exact known_some false
  · exact second

theorem Known.or {left right : Truth} (first : Known left) (second : Known right) :
    Known (left.or right) := by
  rcases left with _ | _ | _
  · exact absurd rfl first
  · exact second
  · exact known_some true

end ThreeValued
