/-
Module: Relq.Migrate.Cleanup
Layer: Migrate
Purpose: What the migrators put back, whatever their calls answer or raise. The PostgreSQL migrator sends
  one unlock, as its last call, when it has got the advisory lock, and none otherwise; the SQLite
  migrator sets the busy timeout of its connection back to what it read, as its last call.
Imports: Relq.Migrate.PostgresMigrator, Relq.Migrate.SqliteMigrator
Trusted boundary: human-reviewed spec (Postgres.Released, Sqlite.SetBack)
Main exports: Postgres.Released, Postgres.migrateConnection_released, Sqlite.SetBack,
  Sqlite.migrateToLatest_setBack
-/
import Relq.Migrate.PostgresMigrator
import Relq.Migrate.SqliteMigrator

namespace Relq.Migrate

open Interleaving

/-! ### The advisory lock -/

namespace Postgres

open Interleaving.Fallible

/-- The calls of one run with what they answered. -/
abbrev Trace : Type :=
  List (Σ op : Op, Except Raised (Result op))

/-- The call is about a lock. -/
def Op.locks : Op → Bool
  | .advisoryLock _ | .advisoryUnlock _ => true
  | _ => false

abbrev Unlocking {α : Type} (p : Action α) : Prop :=
  Only (fun op : Op => op.locks = false) p

theorem unlocking_call {op : Op} (free : op.locks = false) : Unlocking (call op) :=
  only_perform free

section Unlocking

variable (self : Migrator)

theorem unlocking_checking {α : Type} (checked : Except MigrationError α) :
    Unlocking (checking checked) := by
  cases checked with
  | ok value => exact only_pure value
  | error error => exact only_throw _

theorem unlocking_standardConformingStrings : Unlocking Migrator.standardConformingStrings := by
  refine (unlocking_call rfl).bind fun answer => ?_
  cases answer with
  | none => exact only_throw _
  | some value => exact only_pure value

theorem unlocking_executeStatement (name : String) (transactionId : Nat) (conforming : Bool)
    (statement : String) : Unlocking (self.executeStatement name transactionId conforming statement) := by
  rw [Migrator.executeStatement]
  split
  · exact only_throw _
  split
  · exact only_throw _
  refine (unlocking_call rfl).bind fun status => ?_
  split
  · exact only_throw _
  refine (unlocking_call rfl).bind fun inside => ?_
  split
  · exact only_throw _
  refine (unlocking_call rfl).bind fun current => ?_
  split
  · exact only_throw _
  refine unlocking_standardConformingStrings.bind fun after => ?_
  split
  · exact only_throw _
  · exact only_pure ()

theorem unlocking_executeFrom (name : String) (transactionId : Nat) (remaining : String) :
    Unlocking (self.executeFrom name transactionId remaining) := by
  induction size : remaining.toList.length using Nat.strong_induction_on
    generalizing remaining with | _ length ih => ?_
  rw [Migrator.executeFrom]
  split
  · exact only_pure ()
  rename_i some_
  refine unlocking_standardConformingStrings.bind fun conforming => ?_
  split
  · exact only_pure ()
  · rename_i statement consumed first
    refine (unlocking_executeStatement self name transactionId conforming statement).bind fun _ =>
      ih _ ?_ _ rfl
    have taken := consumed_pos first
    have left : 0 < remaining.toList.length := by
      rw [List.length_pos_iff]
      exact fun none_ => some_ (String.toList_eq_nil_iff.mp none_)
    rw [String.toList_ofList, List.length_drop]
    omega

theorem unlocking_applyPending (table : String) (results : List MigrationResult)
    (pending : List Migration) : Unlocking (self.applyPending table results pending) := by
  induction pending generalizing results with
  | nil => exact only_pure _
  | cons migration later ih =>
      have applied : Unlocking (self.applyFile migration table) := by
        refine (unlocking_call rfl).bind fun transactionId => ?_
        exact (unlocking_executeFrom self _ _ _).bind fun _ => unlocking_call rfl
      have inTransaction : Unlocking (transaction (self.applyFile migration table)) := by
        refine (unlocking_call rfl).bind fun _ => applied.attempt.bind fun outcome => ?_
        cases outcome with
        | ok _ => exact unlocking_call rfl
        | error raised => exact (unlocking_call rfl).bind fun _ => only_throw _
      refine inTransaction.attempt.bind fun outcome => ?_
      cases outcome with
      | ok _ => exact ih _
      | error raised => exact only_pure _

theorem unlocking_migrateLocked (migrations : List Migration) (table : String) :
    Unlocking (self.migrateLocked migrations table) := by
  refine (unlocking_call rfl).bind fun _ => ?_
  have read : Unlocking (Migrator.readHistory table) :=
    (unlocking_call rfl).bind fun rows => unlocking_checking _
  refine read.bind fun applied => (unlocking_checking _).bind fun pending => ?_
  exact (unlocking_checking _).bind fun _ => unlocking_applyPending self table [] pending

theorem unlocking_historyTableReference : Unlocking self.historyTableReference := by
  have resolved : Unlocking self.resolveSchema := by
    refine (unlocking_call rfl).bind fun cached => ?_
    cases cached with
    | some schemaName => exact only_pure schemaName
    | none =>
        refine (unlocking_call rfl).bind fun found => ?_
        cases found with
        | none => exact only_throw _
        | some schemaName => exact (unlocking_call rfl).bind fun _ => only_pure schemaName
  exact resolved.bind fun schemaName => only_pure _

end Unlocking

/-- No lock was taken and none released; or one was taken, and the last call releases it. -/
def Released (trace : Trace) : Prop :=
  (∀ entry ∈ trace, ∀ key, entry ≠ ⟨.advisoryLock key, .ok ()⟩ ∧ entry.1 ≠ .advisoryUnlock key) ∨
    ∃ before between key answer, trace =
      before ++ ⟨.advisoryLock key, .ok ()⟩ :: between ++ [⟨.advisoryUnlock key, answer⟩] ∧
        ∀ entry ∈ before ++ between, entry.1.locks = false

section Acquiring

variable {self : Migrator} {trace : Trace}

theorem ne_of_free {entry : Σ op : Op, Except Raised (Result op)} (free : entry.1.locks = false)
    (key : Nat) : entry ≠ ⟨.advisoryLock key, .ok ()⟩ ∧ entry.1 ≠ .advisoryUnlock key := by
  constructor
  · rintro rfl
    cases free
  · intro same
    rw [same] at free
    cases free

theorem Released.of_free (free : ∀ entry ∈ trace, entry.1.locks = false) : Released trace :=
  .inl fun entry member => ne_of_free (free entry member)

/-- Calls that are about no lock may come first. -/
theorem Released.after {before : Trace} (free : ∀ entry ∈ before, entry.1.locks = false)
    (released : Released trace) : Released (before ++ trace) := by
  rcases released with none_ | ⟨early, between, key, answer, rfl, others⟩
  · refine .inl fun entry member => ?_
    rcases List.mem_append.mp member with first | later
    · exact ne_of_free (free entry first)
    · exact none_ entry later
  · refine .inr ⟨before ++ early, between, key, answer, by simp, fun entry member => ?_⟩
    rw [List.append_assoc] at member
    exact (List.mem_append.mp member).elim (free entry) (others entry)

/-- Up to the lock: it is the last call if it is got, and no lock is got where something is raised. -/
theorem run_acquire {outcome : Except Raised (List Migration × String × Nat)}
    (run : Fallible.Run self.acquire trace outcome) :
    (∃ raised, outcome = .error raised ∧ Released trace) ∨
      ∃ before migrations table key, trace = before ++ [⟨.advisoryLock key, .ok ()⟩] ∧
        (∀ entry ∈ before, entry.1.locks = false) ∧ outcome = .ok (migrations, table, key) := by
  rw [Migrator.acquire] at run
  rcases run_bind run with ⟨raised, early, rfl⟩ | ⟨first, rest, migrations, rfl, early, run⟩
  · exact .inl ⟨raised, rfl, .of_free ((unlocking_call rfl).of_run early)⟩
  have freeFirst := (unlocking_call rfl).of_run early
  rcases run_bind run with ⟨raised, late, rfl⟩ | ⟨second, last, reference, rfl, late, run⟩
  · exact .inl ⟨raised, rfl, .after freeFirst (.of_free
      ((unlocking_historyTableReference self).of_run late))⟩
  have freeSecond := (unlocking_historyTableReference self).of_run late
  obtain ⟨table, schemaName⟩ := reference
  rcases run_bind run with ⟨raised, asked, rfl⟩ | ⟨third, last, _, rfl, asked, named⟩
  · obtain rfl := run_perform asked
    refine .inl ⟨raised, rfl, .after freeFirst (.after freeSecond (.inl fun entry member key => ?_))⟩
    obtain rfl := List.mem_singleton.mp member
    exact ⟨by simp, by simp⟩
  · obtain rfl := run_perform asked
    obtain ⟨rfl, rfl⟩ := run_pure named
    refine .inr ⟨first ++ second, migrations, table, _, by simp, fun entry member => ?_, rfl⟩
    exact (List.mem_append.mp member).elim (freeFirst entry) (freeSecond entry)

/-- The unlock is one call, whatever it answers. -/
theorem run_logged {op : Op} {outcome : Except Raised Unit}
    (run : Fallible.Run (Migrator.logged op) trace outcome) : ∃ answer, trace = [⟨op, answer⟩] := by
  rw [Migrator.logged] at run
  rcases run_bind run with ⟨raised, called, rfl⟩ | ⟨first, rest, value, rfl, called, done⟩
  · obtain ⟨inner, impossible, -⟩ := run_attempt called
    cases impossible
  · obtain ⟨inner, -, called⟩ := run_attempt called
    obtain rfl := run_perform called
    obtain ⟨rfl, -⟩ := run_pure done
    exact ⟨inner, rfl⟩

/-- Whatever the calls answer, a lock that was taken is released by one last call. -/
theorem migrateConnection_released {outcome : Except Raised MigrationReport}
    (run : Fallible.Run self.migrateConnection trace outcome) : Released trace := by
  rw [Migrator.migrateConnection] at run
  rcases run_bind run with ⟨raised, asked, rfl⟩ | ⟨first, rest, answer, rfl, asked, run⟩
  · exact .of_free ((unlocking_call rfl).of_run asked)
  refine .after ((unlocking_call rfl).of_run asked) ?_
  split at run
  · obtain ⟨rfl, -⟩ := run_throw run
    exact .of_free (by simp)
  rcases run_bind run with ⟨raised, acquired, rfl⟩ | ⟨second, rest, acquired, rfl, locking, run⟩
  · obtain ⟨inner, impossible, -⟩ := run_attempt acquired
    cases impossible
  obtain ⟨inner, same, locking⟩ := run_attempt locking
  obtain rfl := Except.ok.inj same
  rcases run_acquire locking with ⟨raised, rfl, released⟩ | ⟨before, migrations, table, key, rfl, free, rfl⟩
  · obtain ⟨rfl, -⟩ := run_pure run
    rwa [List.append_nil]
  · obtain ⟨body, cleanup, result, ended, rfl, under, unlocked⟩ := run_ensuring run
    obtain ⟨answer, rfl⟩ := run_logged unlocked
    have unlocking : ∀ entry ∈ body, entry.1.locks = false := by
      refine (show Unlocking _ from ?_).of_run under
      refine (unlocking_migrateLocked self migrations table).attempt.bind fun outcome => ?_
      cases outcome with
      | ok report => exact only_pure report
      | error raised => exact only_pure _
    refine .inr ⟨before, body, key, answer, by simp, fun entry member => ?_⟩
    exact (List.mem_append.mp member).elim (free entry) (unlocking entry)

end Acquiring

/-- The history table cannot be created. -/
theorem migrateConnection_released_refused :
    Released [⟨.isInTransaction, .ok false⟩, ⟨.migrations, .ok []⟩,
      ⟨.cachedSchema "relq_migrations", .ok (some "public")⟩,
      ⟨.advisoryLock (advisoryLockKey (fun _ => 1796079519) "public.relq_migrations"), .ok ()⟩,
      ⟨.createHistory (qualifiedHistoryTable "public" "relq_migrations"),
        .error (.external "permission denied for schema public")⟩,
      ⟨.advisoryUnlock (advisoryLockKey (fun _ => 1796079519) "public.relq_migrations"), .ok ()⟩] :=
  @migrateConnection_released
    ⟨"relq_migrations", Migration.sql, fun _ => 1796079519, Python.Characters.ofAscii⟩ _
    (.ok ⟨some (.external "permission denied for schema public"), []⟩)
    (.call (.call (.call (.call (.call (.call (.done _)))))))

end Postgres

/-! ### The busy timeout -/

namespace Sqlite

open Interleaving.Fallible

abbrev Trace : Type :=
  List (Σ op : Op, Except Raised (Result op))

/-- The call is about the busy timeout. -/
def Op.timeout : Op → Bool
  | .pragma .busyTimeout | .setPragma .busyTimeout _ => true
  | _ => false

abbrev Untimed {α : Type} (p : Action α) : Prop :=
  Only (fun op : Op => op.timeout = false) p

theorem untimed_call {op : Op} (free : op.timeout = false) : Untimed (call op) :=
  only_perform free

section Untimed

variable (self : Migrator)

theorem untimed_checking {α : Type} (checked : Except MigrationError α) :
    Untimed (checking checked) := by
  cases checked with
  | ok value => exact only_pure value
  | error error => exact only_throw _

theorem untimed_readApplied : Untimed self.readApplied :=
  (untimed_call rfl).bind fun _ => untimed_checking _

theorem untimed_rollback : Untimed Migrator.rollback := by
  refine (untimed_call rfl).bind fun inside => ?_
  split
  · exact untimed_call rfl
  · exact only_pure ()

theorem untimed_executeAll (name : String) (statements : List String) :
    Untimed (Migrator.executeAll name statements) := by
  induction statements with
  | nil => exact only_pure ()
  | cons statement rest ih =>
      have screened : Untimed (Migrator.isTransactionControl statement) := by
        rw [Migrator.isTransactionControl]
        split
        · exact only_pure false
        · exact (untimed_call rfl).bind fun rows => only_pure _
      refine screened.bind fun control => ?_
      split
      · exact only_throw _
      refine (untimed_call rfl).bind fun _ => (untimed_call rfl).bind fun inside => ?_
      split
      · exact ih
      · exact only_throw _

theorem untimed_applyFile (migration : Migration) (migrations : List Migration) :
    Untimed (self.applyFile migration migrations) := by
  refine (untimed_call rfl).bind fun _ => (untimed_readApplied self).bind fun applied =>
    (untimed_checking _).bind fun pendingNow => ?_
  split
  · exact (untimed_call rfl).bind fun _ => only_pure false
  split
  · exact only_throw _
  refine (untimed_executeAll _ _).bind fun _ => (untimed_call rfl).bind fun _ => ?_
  split
  · exact (untimed_call rfl).bind fun _ => only_pure true
  · have checked : Untimed (Migrator.checkForeignKeys migration.name) := by
      refine (untimed_call rfl).bind fun violations => ?_
      split
      · exact only_pure ()
      · exact only_throw _
    exact checked.bind fun _ => (untimed_call rfl).bind fun _ => only_pure true

theorem untimed_enableForeignKeys : Untimed Migrator.enableForeignKeys := by
  refine (untimed_call rfl).bind fun _ => (untimed_call rfl).bind fun after => ?_
  split
  · exact only_throw _
  · exact only_pure ()

theorem untimed_disableForeignKeys : Untimed Migrator.disableForeignKeys := by
  refine (untimed_call rfl).bind fun before => ?_
  split
  · refine (untimed_call rfl).bind fun _ => (untimed_call rfl).bind fun after => ?_
    split
    · exact only_throw _
    · exact only_pure true
  · exact only_pure false

theorem untimed_apply (migration : Migration) (migrations : List Migration) :
    Untimed (self.apply migration migrations) := by
  have guarded (wasOn : Bool) : Untimed (ensuring
      (tryCatch (self.applyFile migration migrations) fun raised => do
        Migrator.rollback
        throw raised)
      (if wasOn then Migrator.enableForeignKeys else pure ())) := by
    refine Only.ensuring ((untimed_applyFile self migration migrations).catch fun raised =>
      untimed_rollback.bind fun _ => only_throw raised) ?_
    cases wasOn with
    | true => exact untimed_enableForeignKeys
    | false => exact only_pure ()
  rw [Migrator.apply]
  split
  · exact guarded _
  · exact untimed_disableForeignKeys.bind guarded

theorem untimed_applyPending (migrations : List Migration) (results : List MigrationResult)
    (pending : List Migration) : Untimed (self.applyPending migrations results pending) := by
  induction pending generalizing results with
  | nil => exact only_pure _
  | cons migration later ih =>
      refine (untimed_apply self migration migrations).attempt.bind fun outcome => ?_
      cases outcome with
      | ok executed => exact ih _
      | error raised => exact only_pure _

theorem untimed_migrate : Untimed self.migrate := by
  have planned : Untimed self.plan :=
    (untimed_call rfl).bind fun migrations => (untimed_call rfl).bind fun _ =>
      (untimed_call rfl).bind fun _ => (untimed_readApplied self).bind fun applied =>
        (untimed_checking _).bind fun pending => (untimed_call rfl).bind fun _ => only_pure _
  refine planned.attempt.bind fun outcome => ?_
  cases outcome with
  | ok found => exact untimed_applyPending self _ _ _
  | error raised => exact untimed_rollback.bind fun _ => only_pure _

end Untimed

/-- The timeout was never set; or it was set once, and the last call sets it to what it was. -/
def SetBack (busyTimeoutMs : Int) (trace : Trace) : Prop :=
  (∀ entry ∈ trace, ∀ value, entry ≠ ⟨.setPragma .busyTimeout value, .ok ()⟩) ∨
    ∃ between previous answer, trace =
      [⟨.inTransaction, .ok false⟩, ⟨.pragma .busyTimeout, .ok previous⟩,
        ⟨.setPragma .busyTimeout busyTimeoutMs, .ok ()⟩] ++ between ++
          [⟨.setPragma .busyTimeout previous, answer⟩] ∧
      ∀ entry ∈ between, entry.1.timeout = false

/-- Whatever the calls answer, a timeout that was set is set back by one last call. -/
theorem migrateToLatest_setBack {self : Migrator} {trace : Trace}
    {outcome : Except Raised MigrationReport} (run : Fallible.Run self.migrateToLatest trace outcome) :
    SetBack self.busyTimeoutMs trace := by
  rw [Migrator.migrateToLatest] at run
  split at run
  · obtain ⟨rfl, -⟩ := run_throw run
    exact .inl (by simp)
  rcases run_bind run with ⟨raised, asked, rfl⟩ | ⟨first, rest, inside, rfl, asked, onward⟩
  · obtain rfl := run_perform asked
    exact .inl (by simp)
  obtain rfl := run_perform asked
  split at onward
  · obtain ⟨rfl, -⟩ := run_throw onward
    exact .inl (by simp)
  rename_i outside
  obtain rfl : inside = false := by simpa using outside
  rcases run_bind onward with ⟨raised, read, rfl⟩ | ⟨second, rest, previous, rfl, read, setting⟩
  · obtain rfl := run_perform read
    exact .inl (by simp)
  obtain rfl := run_perform read
  rcases run_bind setting with ⟨raised, set_, rfl⟩ | ⟨third, rest, _, rfl, set_, body⟩
  · obtain rfl := run_perform set_
    exact .inl (by simp)
  obtain rfl := run_perform set_
  obtain ⟨between, last, result, ended, rfl, migrated, restored⟩ := run_ensuring body
  obtain rfl := run_perform restored
  exact .inr ⟨between, previous, ended, by simp, (untimed_migrate self).of_run migrated⟩

/-- The database is locked, and nothing is rolled back. -/
theorem migrateToLatest_setBack_busy :
    SetBack 30000 [⟨.inTransaction, .ok false⟩, ⟨.pragma .busyTimeout, .ok 5000⟩,
      ⟨.setPragma .busyTimeout 30000, .ok ()⟩, ⟨.migrations, .ok []⟩,
      ⟨.beginImmediate, .error (.external "database is locked")⟩, ⟨.inTransaction, .ok false⟩,
      ⟨.setPragma .busyTimeout 5000, .ok ()⟩] :=
  @migrateToLatest_setBack ⟨.on, "relq_migrations", 30000, Migration.sql, fun _ => true⟩ _
    (.ok ⟨some (.external "database is locked"), []⟩)
    (.call (.call (.call (.call (.call (.call (.call (.done _))))))))

end Sqlite

end Relq.Migrate
