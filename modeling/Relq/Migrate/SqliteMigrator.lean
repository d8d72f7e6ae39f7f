/-
Module: Relq.Migrate.SqliteMigrator
Layer: Migrate
Purpose: The SQLite migrator (`SQLiteMigrator.migrate_to_latest`) as a program of calls to its
  connection and its provider, and what these calls may answer and do when several processes share one
  database. Every call made inside a transaction, BEGIN IMMEDIATE and COMMIT may fail; one process at a
  time holds the write lock.
Imports: Relq.Library.Interleaving, Relq.Migrate.Ledger, Relq.Migrate.Splitter
Trusted boundary: human-reviewed spec
Main exports: Op, Migrator, Migrator.apply, Migrator.migrate, Migrator.migrateToLatest, Shared, effect
-/
import Relq.Library.Interleaving
import Relq.Migrate.Ledger
import Relq.Migrate.Splitter

namespace Relq.Migrate.Sqlite

open Interleaving (Fallible perform ensuring attempt Effect)

/-! ### Calls -/

/-- `sqlite3.Connection.autocommit`. -/
inductive Autocommit where
  | on
  | off
  | legacy
deriving DecidableEq, Repr

inductive Pragma where
  | busyTimeout
  | foreignKeys
deriving DecidableEq, Repr

inductive Op where
  | migrations
  | inTransaction
  | pragma (pragma : Pragma)
  | setPragma (pragma : Pragma) (value : Int)
  | beginImmediate
  | createHistory (table : String)
  | readHistory (table : String)
  | explain (statement : String)
  | execute (statement : String)
  | insertHistory (table name checksum : String)
  | foreignKeyCheck
  | commit
  | rollback
deriving DecidableEq, Repr

/-- What a call returns; a violation of a foreign key is returned as the table it is in. -/
@[reducible] def Result : Op → Type
  | .migrations => List Migration
  | .inTransaction => Bool
  | .pragma _ => Int
  | .readHistory _ => List Row
  | .explain _ => List (List Cell)
  | .foreignKeyCheck => List String
  | _ => Unit

abbrev Action (α : Type) : Type :=
  Fallible Op Result Raised α

def call (op : Op) : Action (Result op) :=
  perform op

/-! ### The migrator -/

/-- `_split_sql_statements`, over `sqlite3.complete_statement`. -/
def splitFrom (complete : String → Bool) (buffer : List Char) : List Char → List String
  | [] => if strip buffer ≠ "" then [strip buffer] else []
  | character :: rest =>
      let buffer := buffer ++ [character]
      if character = ';' && complete (String.ofList buffer) then
        if strip buffer ≠ "" then strip buffer :: splitFrom complete [] rest
        else splitFrom complete [] rest
      else splitFrom complete buffer rest

def splitSqlStatements (complete : String → Bool) (sql : String) : List String :=
  splitFrom complete [] sql.toList

def historyText (column : String) : Cell → Except MigrationError String
  | .text value => .ok value
  | .bytes (some decoded) => .ok decoded
  | .bytes none => .error (.historyNotUtf8 column)
  | .other => .error (.historyNotText column)

/-- The loop of `_read_applied`. -/
def appliedFrom (applied : List (String × String)) :
    List Row → Except MigrationError (List (String × String))
  | [] => .ok applied
  | row :: rows => do
      -- Python evaluates the right side of an assignment to an item first
      let checksum ← historyText "checksum" row.checksum
      let name ← historyText "migration_name" row.migrationName
      appliedFrom (setItem applied name checksum) rows

/-- Whether a row of EXPLAIN has an opcode of transaction control. -/
def namesControl : List Cell → Bool
  | _ :: opcode :: _ => opcode ∈
      [.text "AutoCommit", .bytes (some "AutoCommit"), .text "Savepoint", .bytes (some "Savepoint")]
  | _ => false

def checking {α : Type} (checked : Except MigrationError α) : Action α :=
  match checked with
  | .ok value => pure value
  | .error error => throw (.migration error)

/-- One migrator over one connection. -/
structure Migrator where
  autocommit : Autocommit
  table : String
  busyTimeoutMs : Int
  /-- `migration_checksum` -/
  checksum : Migration → String
  /-- `sqlite3.complete_statement` -/
  complete : String → Bool

namespace Migrator

variable (self : Migrator)

/-- `_commit`; both ways of the driver to commit are one call. -/
def commit : Action Unit :=
  call .commit

def rollback : Action Unit := do
  if ← call .inTransaction then call .rollback else pure ()

def readApplied : Action (List (String × String)) := do
  checking (appliedFrom [] (← call (.readHistory self.table)))

/-- `_is_transaction_control`. -/
def isTransactionControl (statement : String) : Action Bool :=
  if isSqlEmpty statement then pure false
  else do return List.any (← call (.explain statement)) namesControl

/-- `_disable_foreign_keys`: whether enforcement was on. -/
def disableForeignKeys : Action Bool := do
  let before : Int ← call (.pragma .foreignKeys)
  if before = 1 then do
    call (.setPragma .foreignKeys 0)
    let after : Int ← call (.pragma .foreignKeys)
    if after ≠ 0 then throw (.migration .foreignKeysNotOff) else pure true
  else pure false

def enableForeignKeys : Action Unit := do
  call (.setPragma .foreignKeys 1)
  let after : Int ← call (.pragma .foreignKeys)
  if after ≠ 1 then throw (.migration .foreignKeysNotRestored) else pure ()

def checkForeignKeys (name : String) : Action Unit := do
  match ← call .foreignKeyCheck with
  | ([] : List String) => pure ()
  | first :: others =>
      throw (.migration (.foreignKeyViolations name (others.length + 1) first))

/-- The statements of a file, each checked before and after it is executed. -/
def executeAll (name : String) : List String → Action Unit
  | [] => pure ()
  | statement :: rest => do
      if ← isTransactionControl statement then throw (.migration (.transactionControl name))
      else do
        call (.execute statement)
        if ← call .inTransaction then executeAll name rest
        else throw (.migration (.endedTransaction name))

/-- `_apply` inside `try`. -/
def applyFile (migration : Migration) (migrations : List Migration) : Action Bool := do
  call .beginImmediate
  let applied ← self.readApplied
  let pendingNow ← checking (pendingMigrations self.checksum migrations applied)
  if isApplied applied migration.name then do
    commit
    pure false
  else if pendingNow.head?.map Migration.name ≠ some migration.name then
    throw (.migration (.notNextPending migration.name))
  else do
    executeAll migration.name (splitSqlStatements self.complete migration.sql)
    call (.insertHistory self.table migration.name (self.checksum migration))
    if migration.foreignKeys then pure () else checkForeignKeys migration.name
    commit
    pure true

/-- `_apply`: whether this run applied the file. -/
def apply (migration : Migration) (migrations : List Migration) : Action Bool := do
  let enforcementWasOn ← if migration.foreignKeys then pure false else disableForeignKeys
  ensuring
    (tryCatch (self.applyFile migration migrations) fun raised => do
      rollback
      throw raised)
    (if enforcementWasOn then enableForeignKeys else pure ())

/-- The loop of `_migrate` over the pending files. -/
def applyPending (migrations : List Migration) (results : List MigrationResult) :
    List Migration → Action MigrationReport
  | [] => pure ⟨none, results⟩
  | migration :: later => do
      match ← attempt (self.apply migration migrations) with
      | .error error =>
          pure ⟨some error, results ++ ⟨migration.name, .error, some error⟩ ::
            later.map fun file => ⟨file.name, .notExecuted, none⟩⟩
      | .ok executed =>
          applyPending migrations
            (results ++ [⟨migration.name, if executed then .success else .notExecuted, none⟩]) later

/-- `_migrate` inside `try`: the files, and those of them that are pending. -/
def plan : Action (List Migration × List Migration) := do
  let migrations ← call .migrations
  call .beginImmediate
  call (.createHistory self.table)
  let applied ← self.readApplied
  let pending ← checking (pendingMigrations self.checksum migrations applied)
  commit
  pure (migrations, pending)

def migrate : Action MigrationReport := do
  match ← attempt self.plan with
  | .error error => do
      rollback
      pure ⟨some error, []⟩
  | .ok (migrations, pending) => self.applyPending migrations [] pending

def migrateToLatest : Action MigrationReport :=
  if self.autocommit = .off then
    throw (.value ("SQLiteMigrator does not support sqlite3 autocommit=False; use " ++
      "autocommit=True or sqlite3.LEGACY_TRANSACTION_CONTROL"))
  else do
    if ← call .inTransaction then
      throw (.runtime "SQLiteMigrator requires a connection outside a caller-owned transaction")
    else do
      let previousTimeout : Int ← call (.pragma .busyTimeout)
      call (.setPragma .busyTimeout self.busyTimeoutMs)
      ensuring self.migrate (call (.setPragma .busyTimeout previousTimeout))

end Migrator

/-! ### The database that the processes share -/

structure Shared (ι : Type) where
  committed : Contents
  /-- what the open transaction of a process has done so far -/
  transactions : ι → Option (List Migrate.Action)
  pragmas : ι → Pragma → Int
  commits : List (Commit ι)

/-- What is the same in all processes, and how each of them has set up its connection. -/
structure Fleet (ι : Type) where
  files : List Migration
  table : String
  checksum : Migration → String
  complete : String → Bool
  autocommit : ι → Autocommit
  busyTimeoutMs : ι → Int
  /-- `text_factory` is `bytes`. -/
  readsBytes : ι → Bool
  /-- What SQLite compiles to transaction control. -/
  control : String → Bool
  /-- What changes the history table itself. -/
  touches : String → Bool
  /-- The provider orders the files by their versions, which differ. -/
  distinct : (files.map Migration.name).Nodup

def Fleet.migrator {ι : Type} (fleet : Fleet ι) (i : ι) : Migrator where
  autocommit := fleet.autocommit i
  table := fleet.table
  busyTimeoutMs := fleet.busyTimeoutMs i
  checksum := fleet.checksum
  complete := fleet.complete

/-- What runs inside the transaction that is open and leaves the history alone. -/
def Fleet.plain {ι : Type} (fleet : Fleet ι) (statement : String) : Bool :=
  !fleet.control statement && !fleet.touches statement

namespace Shared

variable {ι : Type} [DecidableEq ι] (s : Shared ι) (i : ι)

/-- What a process sees: the committed contents, or its own transaction's. -/
def view : Contents :=
  s.committed.runAll ((s.transactions i).getD [])

def withTransaction (transaction : Option (List Migrate.Action)) : Shared ι :=
  { s with transactions := Function.update s.transactions i transaction }

def withPragma (pragma : Pragma) (value : Int) : Shared ι :=
  { s with pragmas :=
      Function.update s.pragmas i (Function.update (s.pragmas i) pragma value) }

/-- The actions take effect as a transaction of the process. -/
def publish (actions : List Migrate.Action) : Shared ι :=
  { s with
    committed := s.committed.runAll actions
    commits := s.commits ++ [⟨i, actions⟩] }

/-- A statement that fails leaves nothing; it may have ended the transaction. -/
def Undoes (s' : Shared ι) : Prop :=
  s' = s ∨ s' = s.withTransaction i none

/-- A statement that writes does so in the transaction of the process, or else in one of its own. -/
def Writes (action : Migrate.Action) (s' : Shared ι) : Prop :=
  match s.transactions i with
  | some actions => s' = s.withTransaction i (some (actions ++ [action]))
  | none => (∀ j, s.transactions j = none) ∧ s' = s.publish i [action]

/-- What transaction control makes of the transaction is left open. -/
def Controls (s' : Shared ι) : Prop :=
  ∃ transaction, s' = s.withTransaction i transaction ∨
    s' = (s.publish i ((s.transactions i).getD [])).withTransaction i transaction

end Shared

/-- A row as the text factory of a connection hands it over. -/
def Cell.read (asBytes : Bool) : Cell → Cell
  | .text value => if asBytes then .bytes (some value) else .text value
  | cell => cell

def Row.read (asBytes : Bool) (row : Row) : Row :=
  ⟨Cell.read asBytes row.migrationName, Cell.read asBytes row.checksum⟩

section Effects

variable {ι : Type} [DecidableEq ι] (fleet : Fleet ι)

/-- A call that returns. -/
def succeeds (i : ι) (s : Shared ι) : (op : Op) → Result op → Shared ι → Prop
  | .migrations, found, s' => found = fleet.files ∧ s' = s
  | .inTransaction, answer, s' => answer = (s.transactions i).isSome ∧ s' = s
  | .pragma pragma, value, s' => value = s.pragmas i pragma ∧ s' = s
  | .setPragma pragma value, _, s' =>
      s' = if pragma = .foreignKeys && (s.transactions i).isSome then s
        else s.withPragma i pragma value
  | .beginImmediate, _, s' =>
      (∀ j, s.transactions j = none) ∧ s' = s.withTransaction i (some [])
  | .createHistory table, _, s' => s.Writes i (.create table) s'
  | .readHistory table, answer, s' =>
      s' = s ∧ ∃ rows, (s.view i).tables table = some rows ∧
        ∃ order : List Row, order.Perm rows ∧ answer = order.map (Row.read (fleet.readsBytes i))
  | .explain statement, answer, s' => answer.any namesControl = fleet.control statement ∧ s' = s
  | .execute statement, _, s' =>
      -- what becomes of a history that a file changes is left open
      fleet.touches statement = false →
        if fleet.control statement then s.Controls i s' else s.Writes i (.script statement) s'
  | .insertHistory table name checksum, _, s' =>
      ((s.view i).tables table).isSome ∧
        s.Writes i (.insert table ⟨.text name, .text checksum⟩) s'
  | .foreignKeyCheck, _, s' => s' = s
  | .commit, _, s' =>
      match s.transactions i with
      | some actions => s' = (s.publish i actions).withTransaction i none
      | none => fleet.autocommit i = .legacy ∧ s' = s
  | .rollback, _, s' =>
      if (s.transactions i).isSome then s' = s.withTransaction i none
      else fleet.autocommit i = .legacy ∧ s' = s

/-- A call that raises: any call inside a transaction but the reading of `in_transaction`, and outside
one everything but the pragmas. -/
def fails (i : ι) (s : Shared ι) : Op → Shared ι → Prop
  | .migrations, s' | .beginImmediate, s' => s' = s
  | .inTransaction, _ => False
  | .pragma _, s' | .setPragma _ _, s' => (s.transactions i).isSome ∧ s.Undoes i s'
  | .execute statement, s' =>
      fleet.touches statement = false → s.Undoes i s' ∨ fleet.control statement ∧ s.Controls i s'
  | _, s' => s.Undoes i s'

def effect : Effect ι (Shared ι) Op fun op => Except Raised (Result op) :=
  fun i op s answer s' =>
    match answer with
    | .ok result => succeeds fleet i s op result s'
    | .error _ => fails fleet i s op s'

/-- Nothing fails, and no file leaves a violation of a foreign key. -/
def Calm : (op : Op) → Except Raised (Result op) → Prop
  | _, .error _ => False
  | .foreignKeyCheck, .ok violations => violations = []
  | _, .ok _ => True

def calmEffect : Effect ι (Shared ι) Op fun op => Except Raised (Result op) :=
  fun i op s answer s' => effect fleet i op s answer s' ∧ Calm op answer

end Effects

end Relq.Migrate.Sqlite
