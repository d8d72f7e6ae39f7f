/-
Module: Relq.Library.Traces
Layer: Library
Purpose: Computations with a state that may raise, instrumented with a log. The log cannot be read, so
  forgetting it gives back the plain computation, and it outlives an exception. A judgement says what
  a computation logs, in any order: all of it when it returns, some of it when it raises.
Imports: Mathlib.Data.List.Perm.Subperm
Trusted boundary: none (fully proved)
Main exports: Traced, Traced.note, Traced.lift, Traced.erase, Logs, Logs.pure, Logs.lift, Logs.note,
  Logs.bind, Logs.ite, Logs.perm
-/
import Mathlib.Data.List.Perm.Subperm

namespace Traces

variable {ε σ τ α β : Type}

/-- A computation, and what it logs on the way. -/
def Traced (ε σ τ α : Type) : Type :=
  σ → Except ε (α × σ) × List τ

namespace Traced

instance : Monad (Traced ε σ τ) where
  pure a := fun s => (.ok (a, s), [])
  bind m f := fun s =>
    match m s with
    | (.ok (a, s'), log) => ((f a s').1, log ++ (f a s').2)
    | (.error error, log) => (.error error, log)

/-- One entry. -/
def note (entry : τ) : Traced ε σ τ Unit :=
  fun s => (.ok ((), s), [entry])

/-- A computation that is not instrumented. -/
def lift (m : StateT σ (Except ε) α) : Traced ε σ τ α :=
  fun s => (m s, [])

/-- The computation without its log. -/
def erase (m : Traced ε σ τ α) : StateT σ (Except ε) α :=
  fun s => (m s).1

@[simp] theorem erase_pure (a : α) : erase (pure a : Traced ε σ τ α) = pure a := rfl

@[simp] theorem erase_note (entry : τ) : erase (note entry : Traced ε σ τ Unit) = pure () := rfl

@[simp] theorem erase_lift (m : StateT σ (Except ε) α) : erase (lift m : Traced ε σ τ α) = m := rfl

@[simp] theorem erase_bind (m : Traced ε σ τ α) (f : α → Traced ε σ τ β) :
    erase (m >>= f) = erase m >>= fun a => erase (f a) := by
  funext s
  change Prod.fst (match m s with
    | (.ok (a, s'), log) => ((f a s').1, log ++ (f a s').2)
    | (.error error, log) => (.error error, log)) =
      ((m s).1 >>= fun next => (f next.1 next.2).1)
  rcases m s with ⟨error | ⟨a, s'⟩, log⟩ <;> rfl

end Traced

/-- What a computation logs: these entries when it returns, and some of them when it raises. -/
def Logs (m : Traced ε σ τ α) (entries : List τ) : Prop :=
  ∀ s, match m s with
    | (.ok _, log) => log.Perm entries
    | (.error _, log) => log.Subperm entries

/-- Reading some of the entries of a log of which some are there. -/
theorem subperm_filterMap {log entries : List τ} (read : τ → Option α) (some : log.Subperm entries) :
    (log.filterMap read).Subperm (entries.filterMap read) := by
  obtain ⟨found, same, inside⟩ := some
  exact ⟨found.filterMap read, same.filterMap read, inside.filterMap read⟩

namespace Logs

variable {m : Traced ε σ τ α} {entries : List τ}

theorem pure (a : α) : Logs (pure a : Traced ε σ τ α) [] :=
  fun _ => .nil

theorem note (entry : τ) : Logs (Traced.note entry : Traced ε σ τ Unit) [entry] :=
  fun _ => .refl _

theorem lift (m : StateT σ (Except ε) α) : Logs (Traced.lift m : Traced ε σ τ α) [] := by
  intro s
  change match (m s, ([] : List τ)) with
    | (.ok _, log) => log.Perm []
    | (.error _, log) => log.Subperm []
  rcases m s with error | result
  · exact .refl _
  · exact .nil

theorem perm {others : List τ} (logs : Logs m entries) (same : entries.Perm others) :
    Logs m others := by
  intro s
  have here := logs s
  revert here
  rcases m s with ⟨error | result, log⟩
  · exact fun some => some.trans same.subperm
  · exact fun all => all.trans same

theorem bind {f : α → Traced ε σ τ β} {later : List τ} (first : Logs m entries)
    (second : ∀ a, Logs (f a) later) : Logs (m >>= f) (entries ++ later) := by
  intro s
  have start := first s
  change match (match m s with
      | (.ok (a, s'), log) => ((f a s').1, log ++ (f a s').2)
      | (.error error, log) => (.error error, log) : Except ε (β × σ) × List τ) with
    | (.ok _, log) => log.Perm (entries ++ later)
    | (.error _, log) => log.Subperm (entries ++ later)
  revert start
  rcases m s with ⟨error | ⟨a, s'⟩, log⟩
  · exact fun some => some.trans (List.sublist_append_left entries later).subperm
  · intro all
    have rest := second a s'
    dsimp only
    revert rest
    rcases f a s' with ⟨error | result, more⟩
    · intro some
      exact all.subperm.append some
    · exact fun whole => all.append whole

/-- The second of two computations, of which the first logs nothing. -/
theorem lift_bind {m : StateT σ (Except ε) α} {f : α → Traced ε σ τ β}
    (second : ∀ a, Logs (f a) entries) : Logs (Traced.lift m >>= f) entries :=
  (lift m).bind second

theorem ite {c : Prop} [Decidable c] {m' : Traced ε σ τ α} (first : c → Logs m entries)
    (second : ¬ c → Logs m' entries) : Logs (if c then m else m') entries := by
  by_cases holds : c
  · rw [if_pos holds]
    exact first holds
  · rw [if_neg holds]
    exact second holds

/-- A result is computed from the value of a computation. -/
theorem map {f : α → β} (logs : Logs m entries) :
    Logs (do return f (← m)) entries :=
  (logs.bind fun a => pure (f a)).perm (by simp)

end Logs

end Traces
