/-
Module: Relq.Analysis.NullExtension
Layer: Analysis
Purpose: The set that `null_extended_sources` computes against the rows of the joined relation: a source
  outside it has a row of its own in every joined row, and for a source inside it there are contents and
  ON conditions under which some joined row has none.
Imports: Relq.Analysis.Nullability, Relq.Compiler.Accepted, Relq.Library.OuterJoins
Trusted boundary: human-reviewed spec (joinKind, joinChain, JoinedRow)
Main exports: joinKind, joinChain, JoinedRow, nullExtendedJoins_eq, nullExtendedSources_sound_tight
-/
import Relq.Analysis.Nullability
import Relq.Compiler.Accepted
import Relq.Library.OuterJoins

namespace Relq

open OuterJoins (Kind Joined joinAll extendable extendable_sound extendable_tight)

variable {V : Type}

/-- What the keyword of a join means. -/
def joinKind : String → Option Kind
  | "inner" => some .inner
  | "left" => some .left
  | "right" => some .right
  | "full" => some .full
  | "cross" => some .cross
  | _ => none

/-- The joins of a SELECT as a chain of kinds and source references. -/
def joinChain (joins : List (JoinNode V)) : Option (List (Kind × String)) :=
  joins.mapM fun join => (joinKind join.kind).map fun kind => (kind, join.source.reference)

/-- A row of the relation that FROM and the joins of a SELECT produce, for contents of the sources and
ON conditions given by the references of the sources. -/
def JoinedRow {R : Type} (first : SourceNode V) (chain : List (Kind × String))
    (contents : String → List R) (on : String → Joined String R → Bool)
    (row : Joined String R) : Prop :=
  row ∈ joinAll contents on first.reference chain

/-- One join adds what its kind extends. -/
theorem extendedBy_eq {keyword reference : String} {kind : Kind} {visible : List String}
    (means : joinKind keyword = some kind) :
    extendedBy keyword visible reference = .ok (OuterJoins.extendedBy kind visible reference) := by
  unfold joinKind at means
  split at means <;> cases means <;> rfl

/-- The fold of the source computes the extendable sources of the chain. -/
theorem nullExtendedJoins_eq {joins : List (JoinNode V)} {chain : List (Kind × String)}
    {visible nullable : List String} (means : joinChain joins = some chain) :
    nullExtendedJoins joins visible nullable = .ok (nullable ++ extendable visible chain) := by
  induction joins generalizing chain visible nullable with
  | nil =>
      obtain rfl : [] = chain := by simpa [joinChain] using means
      simp [nullExtendedJoins, extendable]
  | cons join rest ih =>
      simp only [joinChain, List.mapM_cons, Option.bind_eq_bind, Option.bind_eq_some_iff,
        Option.map_eq_some_iff, Option.pure_def, Option.some.injEq] at means
      obtain ⟨_, ⟨kind, keyword, rfl⟩, later, chained, rfl⟩ := means
      rw [nullExtendedJoins, extendedBy_eq keyword]
      change nullExtendedJoins rest _ _ = _
      rw [ih chained, extendable, List.append_assoc]

theorem joinChain_references {joins : List (JoinNode V)} {chain : List (Kind × String)}
    (means : joinChain joins = some chain) :
    chain.map Prod.snd = joins.map (·.source.reference) := by
  induction joins generalizing chain with
  | nil =>
      obtain rfl : [] = chain := by simpa [joinChain] using means
      rfl
  | cons join rest ih =>
      simp only [joinChain, List.mapM_cons, Option.bind_eq_bind, Option.bind_eq_some_iff,
        Option.map_eq_some_iff, Option.pure_def, Option.some.injEq] at means
      obtain ⟨_, ⟨kind, -, rfl⟩, later, chained, rfl⟩ := means
      rw [List.map_cons, List.map_cons, ih chained]

/-- The set is sound, for rows of any type, and every source in it is extended somewhere. -/
theorem nullExtendedSources_sound_tight {node : SelectNode V} {first : SourceNode V}
    {chain : List (Kind × String)} (from_ : node.fromSource = some first)
    (means : joinChain node.joins = some chain) (distinct : (localSources node).Nodup) :
    ∃ result, nullExtendedSources node = .ok result ∧
      (∀ (R : Type) (contents : String → List R) (on : String → Joined String R → Bool)
        (row : Joined String R), JoinedRow first chain contents on row →
          ∀ source, source ∉ result → (source, none) ∉ row) ∧
      ∀ source ∈ result, ∀ (R : Type) (_ : R),
        ∃ (contents : String → List R) (on : String → Joined String R → Bool)
          (row : Joined String R), JoinedRow first chain contents on row ∧ (source, none) ∈ row := by
  refine ⟨extendable [first.reference] chain, ?_, ?_, ?_⟩
  · simp only [nullExtendedSources, from_]
    exact nullExtendedJoins_eq means
  · intro R contents on row joined source outside none
    exact outside (extendable_sound joined none)
  · intro source member R own
    have joined : (chain.map Prod.snd).Nodup := by
      rw [localSources, from_, List.nodup_cons] at distinct
      rw [joinChain_references means]
      exact distinct.2
    obtain ⟨contents, on, row, produced, none⟩ := extendable_tight own joined member
    exact ⟨contents, on, row, produced, none⟩

/-- `FROM a RIGHT JOIN b ON … JOIN c ON …`. -/
def rightThenInner : SelectNode Int :=
  { selections := [.column "b" "x"]
    fromSource := some (.table { name := "a" })
    joins := [
      { source := .table { name := "b" }, predicate := .column "b" "x", kind := "right" },
      { source := .table { name := "c" }, predicate := .column "c" "x", kind := "inner" }] }

theorem nullExtendedSources_sound_tight_rightThenInner :
    ∃ result, nullExtendedSources rightThenInner = .ok result ∧
      (∀ (R : Type) (contents : String → List R) (on : String → Joined String R → Bool)
        (row : Joined String R),
        JoinedRow (V := Int) (.table { name := "a" }) [(.right, "b"), (.inner, "c")] contents on row →
          ∀ source, source ∉ result → (source, none) ∉ row) ∧
      ∀ source ∈ result, ∀ (R : Type) (_ : R),
        ∃ (contents : String → List R) (on : String → Joined String R → Bool)
          (row : Joined String R),
          JoinedRow (V := Int) (.table { name := "a" }) [(.right, "b"), (.inner, "c")] contents on
            row ∧ (source, none) ∈ row :=
  nullExtendedSources_sound_tight rfl (by decide) (by decide)

end Relq
