/-
Module: Relq.Analysis.Nullability
Layer: Analysis
Purpose: Outer-join NULL extension (`_analysis/nullability.py`).
Imports: Relq.Compiler.Model
Trusted boundary: human-reviewed spec
Main exports: extendedBy, nullExtendedJoins, nullExtendedSources
-/
import Relq.Compiler.Model

namespace Relq

variable {V : Type}

/-- The references one join newly NULL-extends: its own source, everything before it, or both. -/
def extendedBy (kind : String) (visible : List String) (reference : String) :
    Except PyError (List String) :=
  if kind = "left" then .ok [reference]
  else if kind = "right" then .ok visible
  else if kind = "full" then .ok (visible ++ [reference])
  else if kind = "inner" ∨ kind = "cross" then .ok []
  else .error (.valueError "unsupported join kind: {}" [kind])

/-- The loop over the joins, with the references joined so far. -/
def nullExtendedJoins :
    List (JoinNode V) → (visible nullable : List String) → Except PyError (List String)
  | [], _, nullable => .ok nullable
  | join :: rest, visible, nullable => do
      let extended ← extendedBy join.kind visible join.source.reference
      nullExtendedJoins rest (visible ++ [join.source.reference]) (nullable ++ extended)

/-- Local relation references an outer join can NULL-extend. -/
def nullExtendedSources (node : SelectNode V) : Except PyError (List String) :=
  match node.fromSource with
  | none => .ok []
  | some source => nullExtendedJoins node.joins [source.reference] []

end Relq
