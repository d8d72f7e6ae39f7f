/-
Module: Relq.Migrate.PostgresMigrator
Layer: Migrate
Purpose: The PostgreSQL migrator (`PostgresMigrator.migrate_to_latest` on a connection) as a program of
  calls to its connection and its provider, and what these calls may answer and do when several sessions
  share one database. Any call may fail, and with it the session may be lost; an advisory lock has one
  holder at a time.
Imports: Relq.Library.Interleaving, Relq.Migrate.Ledger, Relq.Migrate.Screening, Relq.Migrate.Incremental
Trusted boundary: human-reviewed spec
Main exports: Op, Migrator, Migrator.executeFrom, Migrator.migrateConnection, Shared, Fleet, effect
-/
import Relq.Library.Interleaving
import Relq.Migrate.Ledger
import Relq.Migrate.Screening
import Relq.Migrate.Incremental

namespace Relq.Migrate.Postgres

open Interleaving (Fallible perform ensuring attempt Effect)
open Python (Characters)

/-! ### Calls -/

inductive Op where
  | migrations
  | isInTransaction
  /-- the entry of `_SESSION_SCHEMA_CACHE` for this session -/
  | cachedSchema (table : String)
  | cacheSchema (table schema : String)
  | historySchema (table : String)
  | advisoryLock (key : Nat)
  | advisoryUnlock (key : Nat)
  | createHistory (table : String)
  | readHistory (table : String)
  | begin
  | commit
  | rollback
  | transactionId
  | showConformingStrings
  | execute (statement : String)
  | insertHistory (table name checksum : String)
deriving DecidableEq, Repr

/-- What a call returns. A schema that is no string and a setting that is neither `on` nor `off` are
`none`; a statement that was executed returns its status tag. -/
@[reducible] def Result : Op → Type
  | .migrations => List Migration
  | .isInTransaction => Bool
  | .cachedSchema _ | .historySchema _ => Option String
  | .readHistory _ => List Row
  | .transactionId => Nat
  | .showConformingStrings => Option Bool
  | .execute _ => String
  | _ => Unit

abbrev Action (α : Type) : Type :=
  Fallible Op Result Raised α

def call (op : Op) : Action (Result op) :=
  perform op

/-! ### The history table and its lock -/

/-- `_quote_database_identifier`. -/
def quoteDatabaseIdentifier (identifier : String) : String :=
  "\"" ++ identifier.replace "\"" "\"\"" ++ "\""

/-- `quote_identifier`. -/
def quoteIdentifier (identifier : String) : String :=
  "\"" ++ identifier ++ "\""

/-- `_qualified_history_table`. -/
def qualifiedHistoryTable (schemaName tableName : String) : String :=
  quoteDatabaseIdentifier schemaName ++ "." ++ quoteIdentifier tableName

/-- `_advisory_lock_key`, over `zlib.crc32` of the encoded text. -/
def advisoryLockKey (crc32 : String → Nat) (tableIdentity : String) : Nat :=
  0x52454C51 <<< 32 ||| crc32 tableIdentity

/-- The loop of `_read_history`. -/
def historyFrom (applied : List (String × String)) :
    List Row → Except MigrationError (List (String × String))
  | [] => .ok applied
  | ⟨.text name, .text checksum⟩ :: rows => historyFrom (setItem applied name checksum) rows
  | _ :: _ => .error .malformedHistoryRow

/-! ### The migrator -/

def checking {α : Type} (checked : Except MigrationError α) : Action α :=
  match checked with
  | .ok value => pure value
  | .error error => throw (.migration error)

/-- `async with connection.transaction()`. -/
def transaction (body : Action Unit) : Action Unit := do
  call .begin
  match ← attempt body with
  | .ok () => call .commit
  | .error raised => do
      call .rollback
      throw raised

/-- The first statement of a text takes at least one character of it. -/
theorem consumed_pos {py : Characters} {conforming : Bool} {sql statement : String} {consumed : Nat}
    (first : (iterPostgresStatements py conforming sql).head? = some (statement, consumed)) :
    0 < consumed := by
  have yielded : (statement, consumed) ∈ iterPostgresStatements py conforming sql :=
    List.mem_of_head? first
  obtain ⟨⟨piece, position⟩, among, kept⟩ := List.mem_filterMap.mp yielded
  simp only at kept
  split at kept
  · rename_i text
    obtain ⟨-, rfl⟩ := Prod.mk.inj (Option.some.inj kept)
    refine Nat.lt_of_lt_of_le (List.length_pos_iff.mpr ?_)
      (Scanners.length_le_position among (Nat.le_refl _))
    rintro rfl
    simp [strip] at text
  · cases kept

/-- One migrator over one connection. -/
structure Migrator where
  tableName : String
  /-- `migration_checksum` -/
  checksum : Migration → String
  crc32 : String → Nat
  py : Characters

namespace Migrator

variable (self : Migrator)

/-- The schema of `_history_table_reference`. -/
def resolveSchema : Action String := do
  match ← call (.cachedSchema self.tableName) with
  | some (schemaName : String) => pure schemaName
  | none => do
      match ← call (.historySchema (quoteIdentifier self.tableName)) with
      | none => throw (.migration .noHistorySchema)
      | some (schemaName : String) => do
          call (.cacheSchema self.tableName schemaName)
          pure schemaName

/-- `_history_table_reference`. -/
def historyTableReference : Action (String × String) := do
  let schemaName ← self.resolveSchema
  pure (qualifiedHistoryTable schemaName self.tableName, schemaName)

def readHistory (table : String) : Action (List (String × String)) := do
  checking (historyFrom [] (← call (.readHistory table)))

/-- `_standard_conforming_strings`. -/
def standardConformingStrings : Action Bool := do
  match ← call .showConformingStrings with
  | none => throw (.migration .invalidConformingStrings)
  | some (value : Bool) => pure value

/-- One round of the statement loop behind the splitter: what is checked before and after the statement
is executed. -/
def executeStatement (name : String) (transactionId : Nat) (conforming : Bool) (statement : String) :
    Action Unit :=
  if isTransactionControlStatement self.py statement then throw (.migration (.transactionControl name))
  else if isStandardConformingStringsStatement self.py statement then
    throw (.migration (.changesConformingStrings name))
  else do
    let status : String ← call (.execute statement)
    if isTransactionControlStatus self.py status then throw (.migration (.transactionControl name))
    else if !(← call .isInTransaction) then throw (.migration (.endedTransaction name))
    else do
      let currentTransactionId : Nat ← call .transactionId
      if currentTransactionId ≠ transactionId then throw (.migration (.replacedTransaction name))
      else if (← standardConformingStrings) ≠ conforming then
        throw (.migration (.changesConformingStrings name))
      else pure ()

/-- The statement loop, on what remains of a file. -/
def executeFrom (name : String) (transactionId : Nat) (remaining : String) : Action Unit :=
  if remaining = "" then pure ()
  else do
    let conforming ← standardConformingStrings
    match first : (iterPostgresStatements self.py conforming remaining).head? with
    | none => pure ()
    | some (statement, consumed) => do
        self.executeStatement name transactionId conforming statement
        executeFrom name transactionId (String.ofList (remaining.toList.drop consumed))
termination_by remaining.toList.length
decreasing_by
  have some_ := consumed_pos first
  have left : 0 < remaining.toList.length := by
    rw [List.length_pos_iff]
    exact fun none_ => ‹¬remaining = ""› (String.toList_eq_nil_iff.mp none_)
  rw [String.toList_ofList, List.length_drop]
  omega

/-- The body of the transaction of a file. -/
def applyFile (migration : Migration) (table : String) : Action Unit := do
  let transactionId : Nat ← call .transactionId
  self.executeFrom migration.name transactionId migration.sql
  call (.insertHistory table migration.name (self.checksum migration))

/-- The loop over the pending files. -/
def applyPending (table : String) (results : List MigrationResult) :
    List Migration → Action MigrationReport
  | [] => pure ⟨none, results⟩
  | migration :: later => do
      match ← attempt (transaction (self.applyFile migration table)) with
      | .error error =>
          pure ⟨some error, results ++ ⟨migration.name, .error, some error⟩ ::
            later.map fun file => ⟨file.name, .notExecuted, none⟩⟩
      | .ok () => applyPending table (results ++ [⟨migration.name, .success, none⟩]) later

/-- `_migrate_connection` up to the lock: the files, the history table and the key. -/
def acquire : Action (List Migration × String × Nat) := do
  let migrations ← call .migrations
  let (table, schemaName) ← self.historyTableReference
  let lockKey := advisoryLockKey self.crc32 (schemaName ++ "." ++ self.tableName)
  call (.advisoryLock lockKey)
  pure (migrations, table, lockKey)

/-- Files that ask for `foreign_keys = off` are refused. -/
def refuseForeignKeysOff (pending : List Migration) : Except MigrationError Unit :=
  pending.forM fun migration =>
    if migration.foreignKeys then pure () else throw (.foreignKeysUnsupported migration.name)

/-- `_migrate_connection` under the lock. -/
def migrateLocked (migrations : List Migration) (table : String) : Action MigrationReport := do
  call (.createHistory table)
  let applied ← readHistory table
  let pending ← checking (pendingMigrations self.checksum migrations applied)
  checking (refuseForeignKeysOff pending)
  self.applyPending table [] pending

/-- A call whose failure is only logged. -/
def logged (op : Op) : Action Unit := do
  let _ ← attempt (call op)
  pure ()

def migrateConnection : Action MigrationReport := do
  if ← call .isInTransaction then
    throw (.runtime "PostgresMigrator requires a connection outside a caller-owned transaction")
  else do
    match ← attempt self.acquire with
    | .error error => pure ⟨some error, []⟩
    | .ok (migrations, table, lockKey) =>
        ensuring
          (do match ← attempt (self.migrateLocked migrations table) with
            | .error error => pure ⟨some error, []⟩
            | .ok report => pure report)
          (logged (.advisoryUnlock lockKey))

end Migrator

/-! ### The database that the sessions share -/

structure Transaction where
  id : Nat
  actions : List Migrate.Action
  /-- the setting that a rollback brings back -/
  conforming : Bool

structure Shared (ι : Type) where
  committed : Contents
  /-- the open transaction of a session -/
  transactions : ι → Option Transaction
  /-- `standard_conforming_strings` of a session -/
  conforming : ι → Bool
  schemas : ι → String → Option String
  /-- the session that holds an advisory lock -/
  locks : Nat → Option ι
  commits : List (Commit ι)

/-- What is the same in all processes, whose search paths lead to one history table. -/
structure Fleet (ι : Type) where
  files : List Migration
  tableName : String
  schemaName : String
  checksum : Migration → String
  crc32 : String → Nat
  py : Characters
  /-- What the server parses as one statement. -/
  single : String → Bool
  /-- What changes the history table itself, or the locks. -/
  touches : String → Bool
  /-- The provider orders the files by their versions, which differ. -/
  distinct : (files.map Migration.name).Nodup
  /-- Reading a file as text turns every carriage return into a newline. -/
  noReturn : ∀ file ∈ files, '\r' ∉ file.sql.toList

namespace Fleet

variable {ι : Type} (fleet : Fleet ι)

def migrator : Migrator where
  tableName := fleet.tableName
  checksum := fleet.checksum
  crc32 := fleet.crc32
  py := fleet.py

def table : String :=
  qualifiedHistoryTable fleet.schemaName fleet.tableName

def key : Nat :=
  advisoryLockKey fleet.crc32 (fleet.schemaName ++ "." ++ fleet.tableName)

/-- What the server runs inside the transaction that is open, and what leaves the history alone. -/
def plain (statement : String) : Bool :=
  fleet.single statement && !fleet.touches statement && !serverControl statement

end Fleet

namespace Shared

variable {ι : Type} [DecidableEq ι] (s : Shared ι) (i : ι)

/-- What a session sees: the committed contents, and its own transaction's. -/
def view : Contents :=
  s.committed.runAll ((s.transactions i).elim [] Transaction.actions)

def withTransaction (transaction : Option Transaction) : Shared ι :=
  { s with transactions := Function.update s.transactions i transaction }

def withConforming (value : Bool) : Shared ι :=
  { s with conforming := Function.update s.conforming i value }

def withSchema (table schemaName : String) : Shared ι :=
  { s with schemas :=
      Function.update s.schemas i (Function.update (s.schemas i) table (some schemaName)) }

def withLock (key : Nat) (holder : Option ι) : Shared ι :=
  { s with locks := Function.update s.locks key holder }

/-- The actions take effect as a transaction of the session. -/
def publish (actions : List Migrate.Action) : Shared ι :=
  { s with
    committed := s.committed.runAll actions
    commits := s.commits ++ [⟨i, actions⟩] }

/-- The transaction is gone without an effect. -/
def rolledBack : Shared ι :=
  match s.transactions i with
  | some transaction => (s.withTransaction i none).withConforming i transaction.conforming
  | none => s

/-- The session is gone, and its locks with it. -/
def lost : Shared ι :=
  { s.rolledBack i with locks := fun key => if s.locks key = some i then none else s.locks key }

/-- What a call that fails may leave behind. -/
def Breaks (s' : Shared ι) : Prop :=
  s' = s ∨ s' = s.rolledBack i ∨ s' = s.lost i

/-- A statement that writes does so in the transaction of the session, or else in one of its own. -/
def Writes (action : Migrate.Action) (s' : Shared ι) : Prop :=
  match s.transactions i with
  | some transaction =>
      s' = s.withTransaction i (some { transaction with actions := transaction.actions ++ [action] })
  | none => s' = s.publish i [action]

end Shared

section Effects

variable {ι : Type} [DecidableEq ι] (fleet : Fleet ι)

/-- A call that returns. -/
def succeeds (i : ι) (s : Shared ι) : (op : Op) → Result op → Shared ι → Prop
  | .migrations, found, s' => found = fleet.files ∧ s' = s
  | .isInTransaction, answer, s' => answer = (s.transactions i).isSome ∧ s' = s
  | .cachedSchema table, found, s' => found = s.schemas i table ∧ s' = s
  | .cacheSchema table schemaName, _, s' => s' = s.withSchema i table schemaName
  | .historySchema _, found, s' => (found = none ∨ found = some fleet.schemaName) ∧ s' = s
  | .advisoryLock key, _, s' => s.locks key = none ∧ s' = s.withLock key (some i)
  | .advisoryUnlock key, _, s' => s' = if s.locks key = some i then s.withLock key none else s
  | .createHistory table, _, s' => s.Writes i (.create table) s'
  | .readHistory table, answer, s' =>
      s' = s ∧ ∃ rows, (s.view i).tables table = some rows ∧ List.Perm answer rows
  | .begin, _, s' =>
      s.transactions i = none ∧ ∃ id, s' = s.withTransaction i (some ⟨id, [], s.conforming i⟩)
  | .commit, _, s' =>
      match s.transactions i with
      | some transaction => s' = (s.publish i transaction.actions).withTransaction i none
      | none => s' = s
  | .rollback, _, s' => s' = s.rolledBack i
  | .transactionId, answer, s' =>
      (∀ transaction, s.transactions i = some transaction → answer = transaction.id) ∧ s' = s
  | .showConformingStrings, answer, s' => (answer = none ∨ answer = some (s.conforming i)) ∧ s' = s
  | .execute statement, _, s' =>
      -- what several statements do, transaction control, or a change to the history is left open
      fleet.plain statement = true → ∃ written value,
        s.Writes i (.script statement) written ∧ s' = written.withConforming i value
  | .insertHistory table name checksum, _, s' =>
      ((s.view i).tables table).isSome ∧
        s.Writes i (.insert table ⟨.text name, .text checksum⟩) s'

/-- A call that raises. A lock may have been taken nevertheless. -/
def fails (i : ι) (s : Shared ι) : Op → Shared ι → Prop
  | .migrations, s' => s' = s
  | .isInTransaction, _ | .cachedSchema _, _ | .cacheSchema _ _, _ => False
  | .advisoryLock key, s' => s.Breaks i s' ∨ s.locks key = none ∧ s' = s.withLock key (some i)
  | .execute statement, s' => fleet.plain statement = true → s.Breaks i s'
  | _, s' => s.Breaks i s'

def effect : Effect ι (Shared ι) Op fun op => Except Raised (Result op) :=
  fun i op s answer s' =>
    match answer with
    | .ok result => succeeds fleet i s op result s'
    | .error _ => fails fleet i s op s'

/-- Nothing fails, the schema and the setting can be read, and no statement changes the setting. -/
def Calm (i : ι) (s s' : Shared ι) : (op : Op) → Except Raised (Result op) → Prop
  | _, .error _ => False
  | .historySchema _, .ok found => found ≠ none
  | .showConformingStrings, .ok answer => answer ≠ none
  | .execute _, .ok status =>
      isTransactionControlStatus fleet.py status = false ∧ s'.conforming i = s.conforming i
  | _, .ok _ => True

def calmEffect : Effect ι (Shared ι) Op fun op => Except Raised (Result op) :=
  fun i op s answer s' => effect fleet i op s answer s' ∧ Calm fleet i s s' op answer

end Effects

end Relq.Migrate.Postgres
