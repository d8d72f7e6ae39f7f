/-
Module: Relq.Sqlite.Transitions
Layer: Sqlite
Purpose: The effect of each successful control statement together with the bookkeeping that answers
  it, as one transition between consistent connections.
Imports: Relq.Sqlite.Growth, Relq.Sqlite.Session
Trusted boundary: none (fully proved)
Main exports: Consistent.committed, Consistent.rolledBackTo, Consistent.savepointReleased,
  Consistent.savepointRolledBack, Consistent.registersNested,
  Consistent.registersSavepoint, Consistent.begunNested, Consistent.begunTopLevel,
  Consistent.savepointSet
-/
import Relq.Sqlite.Growth
import Relq.Sqlite.Session

namespace Relq.Sqlite

open World

namespace Consistent

variable {w : World} {before after : List RegistryEntry} {e : Engine}

/-! ### Leaving a handle -/

/-- COMMIT or RELEASE for the transaction registered last, which is then closed. -/
theorem committed (ok : Consistent w) {t : Nat}
    (last : w.registry.entries = before ++ [RegistryEntry.transaction t])
    (ran : (w.transactions t).generatedSavepointName = none ∨
      ∃ name, (w.transactions t).generatedSavepointName = some name ∧
        Engine.run (.release name) w.engine = some e) :
    Consistent ((w.onEngine e).close t) := by
  have closed := close_removes ok t
  have entries := close_last ok last
  rw [onEngine_close]
  rcases ran with unnamed | ⟨name, named, ran⟩
  · have head := ok.outermost t (by simp [last]) unnamed
    have outermost : before = [] := by
      cases before with
      | nil => rfl
      | cons first rest =>
          have nodup := ok.nodup
          simp only [last, List.cons_append, List.head?_cons, Option.some.injEq] at head nodup
          simp [head] at nodup
    exact closed.consistent.onEngine_of_empty (entries.trans outermost) e
  · obtain ⟨below, rfl, tracked⟩ := ok.released last named ran
    exact closed.consistent.onBelow closed.same entries tracked

/-- ROLLBACK TO for the nested transaction registered last, which stays. -/
theorem rolledBackTo (ok : Consistent w) {entry : RegistryEntry} {name : String}
    (last : w.registry.entries = before ++ [entry]) (named : w.nameOf entry = some name)
    (ran : Engine.run (.rollbackTo name) w.engine = some e) : Consistent (w.onEngine e) := by
  obtain ⟨below, rfl, tracked⟩ := ok.rolledBack last named ran
  refine ok.onBelow (.refl w) last ?_
  simpa [named] using tracked

/-- RELEASE for a savepoint, which is then forgotten with all later handles. -/
theorem savepointReleased (ok : Consistent w) {id : Nat}
    (split : w.registry.entries = before ++ RegistryEntry.savepoint id :: after)
    (ran : Engine.run (.release (w.savepoints id).name) w.engine = some e) :
    Consistent ((w.onEngine e).releaseSavepoint id) := by
  obtain ⟨below, rfl, tracked⟩ := ok.released split rfl ran
  obtain ⟨cut, same, entries⟩ := releaseSavepoint_removes ok split
  rw [onEngine_releaseSavepoint]
  exact cut.onBelow same entries tracked

/-- ROLLBACK TO for a savepoint, after which all later handles are invalidated. -/
theorem savepointRolledBack (ok : Consistent w) {id : Nat}
    (split : w.registry.entries = before ++ RegistryEntry.savepoint id :: after)
    (ran : Engine.run (.rollbackTo (w.savepoints id).name) w.engine = some e) :
    Consistent ((w.onEngine e).invalidateAfter (.savepoint id)) := by
  obtain ⟨below, rfl, tracked⟩ := ok.rolledBack split rfl ran
  obtain ⟨cut, same, entries⟩ := invalidateAfter_removes ok split
  rw [onEngine_invalidateAfter]
  refine cut.onBelow same entries ?_
  simpa [World.nameOf] using tracked

/-! ### Reserving a name -/

theorem reserve_release {name : String} (inactive : foldName name ∉ w.registry.savepointNames) :
    (w.reserve name).releaseSavepointName name = w := by
  have dropped : (foldName name :: w.registry.savepointNames).filter (· ≠ foldName name) =
      w.registry.savepointNames := by
    rw [List.filter_cons_of_neg (by simp), List.filter_eq_self]
    intro key member
    simpa using fun same : key = foldName name => inactive (same ▸ member)
  unfold World.releaseSavepointName World.reserve World.setRegistry
  rw [dropped]

/-! ### New handles -/

theorem registersOutermost (ok : Consistent w) (empty : w.registry.entries = [])
    (isOpen : w.engine.isSome) :
    Registers w (w.addTransaction none) (.transaction w.created) none := by
  obtain ⟨stack, isOpen⟩ := Option.isSome_iff_exists.mp isOpen
  exact
    { entries := rfl
      unregistered := ok.transaction_ne_created
      named := by simp [World.nameOf, World.addTransaction, World.setTransaction]
      others := by simp [empty]
      inactive := by simp
      names := rfl
      engine := ⟨stack, isOpen, isOpen⟩
      outermost := fun _ => empty }

/-- BEGIN, or a transaction that is open already, with the outermost handle. -/
theorem begunTopLevel (ok : Consistent w) (empty : w.registry.entries = [])
    (isOpen : w.engine.isSome) : Consistent (w.addTransaction none) :=
  ok.addTransaction (ok.registersOutermost empty isOpen) rfl rfl rfl rfl

section Named

variable {t : Nat} {name : String} {stack : List String}

theorem registersNested (ok : Consistent w) (isOpen : w.engine = some stack)
    (inactive : foldName name ∉ w.registry.savepointNames) :
    Registers w (((w.reserve name).onEngine (some (name :: stack))).addTransaction (some name))
      (.transaction w.created) (some name) where
  entries := rfl
  unregistered := ok.transaction_ne_created
  named := by
    simp [World.nameOf, World.addTransaction, World.setTransaction, World.onEngine,
      World.reserve, World.setRegistry]
  others := by
    intro entry registered
    cases entry with
    | transaction id =>
        have other : id ≠ w.created := fun same => ok.transaction_ne_created (same ▸ registered)
        simp [World.nameOf, World.addTransaction, World.setTransaction, World.onEngine,
          World.reserve, World.setRegistry, other]
    | savepoint id => rfl
  inactive := by simpa using inactive
  names := rfl
  engine := ⟨stack, isOpen, rfl⟩
  outermost := by simp

/-- SAVEPOINT with a generated name, and the handle of a nested transaction. -/
theorem begunNested (ok : Consistent w) (isOpen : w.engine = some stack)
    (inactive : foldName name ∉ w.registry.savepointNames) :
    Consistent (((w.reserve name).onEngine (some (name :: stack))).addTransaction (some name)) :=
  ok.addTransaction (ok.registersNested isOpen inactive) rfl rfl rfl rfl

theorem registersSavepoint (ok : Consistent w) (isOpen : w.engine = some stack)
    (inactive : foldName name ∉ w.registry.savepointNames) :
    Registers w (((w.reserve name).onEngine (some (name :: stack))).addSavepoint t name)
      (.savepoint w.created) (some name) where
  entries := rfl
  unregistered := ok.savepoint_ne_created
  named := by
    simp [World.nameOf, World.addSavepoint, World.setSavepoint, World.onEngine,
      World.reserve, World.setRegistry, World.setTransaction]
  others := by
    intro entry registered
    cases entry with
    | transaction id =>
        simp only [World.nameOf, World.addSavepoint, World.setSavepoint, World.setTransaction,
          World.onEngine, World.reserve, World.setRegistry]
        split
        · subst_vars; rfl
        · rfl
    | savepoint id =>
        have other : id ≠ w.created := fun same => ok.savepoint_ne_created (same ▸ registered)
        simp [World.nameOf, World.addSavepoint, World.setSavepoint, World.setTransaction,
          World.onEngine, World.reserve, World.setRegistry, other]
  inactive := by simpa using inactive
  names := rfl
  engine := ⟨stack, isOpen, rfl⟩
  outermost := by simp

/-- SAVEPOINT with the caller's name, and its handle. -/
theorem savepointSet (ok : Consistent w) (open_ : .transaction t ∈ w.registry.entries)
    (isOpen : w.engine = some stack) (inactive : foldName name ∉ w.registry.savepointNames) :
    Consistent (((w.reserve name).onEngine (some (name :: stack))).addSavepoint t name) :=
  ok.addSavepoint open_ (ok.registersSavepoint isOpen inactive) rfl rfl rfl rfl

end Named

/-- The savepoint registered last is invalidated first and released afterwards. -/
theorem savepointAbandoned (ok : Consistent w) {id : Nat}
    (last : w.registry.entries = before ++ [RegistryEntry.savepoint id])
    (ran : Engine.run (.release (w.savepoints id).name) w.engine = some e) :
    Consistent ((w.invalidateSavepoint id).onEngine e) := by
  have removed := invalidateSavepoint_removes ok id
  obtain ⟨below, rfl, tracked⟩ := ok.released last rfl ran
  exact removed.consistent.onBelow removed.same (invalidateSavepoint_last ok last) tracked

/-- A name taken from the process-wide sequence. -/
theorem numbered (ok : Consistent w) (sequence : Nat) : Consistent { w with sequence } :=
  { ok with }

end Consistent

end Relq.Sqlite
