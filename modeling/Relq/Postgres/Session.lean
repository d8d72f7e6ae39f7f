/-
Module: Relq.Postgres.Session
Layer: Postgres
Purpose: PostgreSQL's side of transaction control: a session is idle, inside a transaction, or inside
  a failed one, with its savepoints innermost first, and each control statement has an effect on it
  or is refused. A statement that fails inside a transaction aborts it. A name denotes the innermost
  savepoint that bears it.
Imports: Mathlib.Data.List.Basic
Trusted boundary: human-reviewed spec (Session, Control, Session.run, Session.fail)
Main exports: Session, Control, Control.isTopLevel, Session.run, Session.fail, fromInnermost_sublist,
  run_release, run_rollbackTo
-/
import Mathlib.Data.List.Basic

namespace Relq.Postgres

inductive Session where
  | idle
  | active (savepoints : List String)
  | aborted (savepoints : List String)
deriving DecidableEq, Repr

/-- The control statements the executor sends. -/
inductive Control where
  | begin
  | commit
  | rollback
  | savepoint (name : String)
  | release (name : String)
  | rollbackTo (name : String)
deriving DecidableEq, Repr

/-- `COMMIT` and `ROLLBACK` end the outer transaction. -/
def Control.isTopLevel : Control → Bool
  | .commit | .rollback => true
  | _ => false

namespace Session

/-- The savepoints, innermost first. -/
def savepoints : Session → List String
  | .idle => []
  | .active names | .aborted names => names

/-- `connection.is_in_transaction()`, which holds in a failed transaction too. -/
def inTransaction : Session → Bool
  | .idle => false
  | .active _ | .aborted _ => true

/-- The stack from the innermost savepoint of that name on. -/
def fromInnermost (name : String) (names : List String) : List String :=
  names.dropWhile (· ≠ name)

/-- The effect of a control statement; `none` when the server refuses it. A second BEGIN, and a
COMMIT or ROLLBACK outside a transaction, are only warned about; COMMIT of a failed transaction rolls
it back. -/
def run : Control → Session → Option Session
  | .begin, .idle => some (.active [])
  | .begin, .active names => some (.active names)
  | .begin, .aborted _ => none
  | .commit, _ => some .idle
  | .rollback, _ => some .idle
  | .savepoint name, .active names => some (.active (name :: names))
  | .savepoint _, _ => none
  | .release name, .active names =>
      match fromInnermost name names with
      | [] => none
      | _ :: below => some (.active below)
  | .release _, _ => none
  | .rollbackTo _, .idle => none
  | .rollbackTo name, .active names | .rollbackTo name, .aborted names =>
      match fromInnermost name names with
      | [] => none
      | found :: below => some (.active (found :: below))

/-- What a failing statement leaves behind. -/
def fail : Session → Session
  | .idle => .idle
  | .active names | .aborted names => .aborted names

@[simp] theorem fail_savepoints (s : Session) : s.fail.savepoints = s.savepoints := by
  cases s <;> rfl

@[simp] theorem fail_inTransaction (s : Session) : s.fail.inTransaction = s.inTransaction := by
  cases s <;> rfl

/-! ### Names that stay on the stack -/

/-- Names found below one of that name are found below the innermost one. -/
theorem fromInnermost_sublist {name : String} {names stack : List String}
    (inside : (name :: names).Sublist stack) :
    ∃ below, fromInnermost name stack = name :: below ∧ names.Sublist below := by
  induction stack with
  | nil => cases inside
  | cons top rest ih =>
      by_cases same : top = name
      · subst same
        refine ⟨rest, by simp [fromInnermost], ?_⟩
        cases inside with
        | cons _ later => exact (List.sublist_cons_self _ _).trans later
        | cons_cons _ later => exact later
      · cases inside with
        | cons _ later =>
            obtain ⟨below, found, kept⟩ := ih later
            exact ⟨below, by simpa [fromInnermost, same] using found, kept⟩
        | cons_cons _ later => exact absurd rfl same

variable {s s' : Session} {name : String} {names : List String}

/-- RELEASE of a name keeps what stood below it. -/
theorem run_release (inside : (name :: names).Sublist s.savepoints)
    (ran : run (.release name) s = some s') :
    names.Sublist s'.savepoints ∧ s'.inTransaction = true := by
  cases s with
  | idle => cases ran
  | aborted stack => cases ran
  | active stack =>
      obtain ⟨below, found, kept⟩ := fromInnermost_sublist inside
      rw [run, savepoints.eq_def] at *
      simp only [found, Option.some.injEq] at ran
      subst ran
      exact ⟨kept, rfl⟩

/-- ROLLBACK TO a name keeps the name and what stood below it. -/
theorem run_rollbackTo (inside : (name :: names).Sublist s.savepoints)
    (ran : run (.rollbackTo name) s = some s') :
    (name :: names).Sublist s'.savepoints ∧ s'.inTransaction = true := by
  have kept : ∀ stack, (name :: names).Sublist stack →
      (match fromInnermost name stack with
        | [] => none
        | found :: below => some (Session.active (found :: below))) = some s' →
      (name :: names).Sublist s'.savepoints ∧ s'.inTransaction = true := by
    intro stack inside ran
    obtain ⟨below, found, kept⟩ := fromInnermost_sublist inside
    rw [found] at ran
    obtain rfl := Option.some.inj ran
    exact ⟨kept.cons_cons name, rfl⟩
  cases s with
  | idle => cases ran
  | active stack => exact kept stack inside ran
  | aborted stack => exact kept stack inside ran

end Session

end Relq.Postgres
