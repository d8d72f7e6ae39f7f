/-
Module: Relq.Migrate.Model
Layer: Migrate
Purpose: The data that both migrators share: migration files, what a run reports about them, and the
  check of the recorded history against the files, which yields the files that are still pending. Beside
  it the contents of a database as far as migrations see them: the history tables and the statements of
  migrations that have taken effect, in order.
Imports: Mathlib.Data.List.Dedup, Relq.Library.Outcome
Trusted boundary: human-reviewed spec (Migration, MigrationReport, pendingMigrations, Contents.run)
Main exports: Migration, MigrationReport, MigrationError, Raised, pendingMigrations, Cell, Row, Contents,
  Action, Contents.Holds, Contents.Holds.next
-/
import Mathlib.Data.List.Dedup
import Relq.Library.Outcome

namespace Relq.Migrate

/-! ### Files and reports -/

structure Migration where
  name : String
  sql : String
  foreignKeys : Bool := true
deriving DecidableEq, Repr

inductive MigrationStatus where
  | success
  | error
  | notExecuted
deriving DecidableEq, Repr

/-- The `MigrationError`s, each with the values its text names. -/
inductive MigrationError where
  | unknownMigrations (names : List String)
  | modifiedMigration (name recorded packaged : String)
  | notOrderedPrefix (names : List String)
  | notNextPending (name : String)
  | transactionControl (name : String)
  | endedTransaction (name : String)
  | foreignKeyViolations (name : String) (count : Nat) (table : String)
  | foreignKeysNotOff
  | foreignKeysNotRestored
  | historyNotUtf8 (column : String)
  | historyNotText (column : String)
  | malformedHistoryRow
  | noHistorySchema
  | foreignKeysUnsupported (name : String)
  | replacedTransaction (name : String)
  | changesConformingStrings (name : String)
  | invalidConformingStrings
deriving DecidableEq, Repr

/-- What a migrator can raise. -/
inductive Raised where
  | migration (error : MigrationError)
  | value (message : String)
  | runtime (message : String)
  /-- raised by the database driver or by the file system -/
  | external (message : String)
deriving DecidableEq, Repr

structure MigrationResult where
  migrationName : String
  status : MigrationStatus
  error : Option Raised := none
deriving DecidableEq, Repr

structure MigrationReport where
  error : Option Raised
  results : List MigrationResult
deriving DecidableEq, Repr

/-! ### Pending migrations -/

/-- `applied[name] = checksum` on a dictionary. -/
def setItem (applied : List (String × String)) (name checksum : String) : List (String × String) :=
  if name ∈ applied.map Prod.fst then
    applied.map fun entry => if entry.1 = name then (name, checksum) else entry
  else applied ++ [(name, checksum)]

/-- `name in applied`. -/
def isApplied (applied : List (String × String)) (name : String) : Bool :=
  decide (name ∈ applied.map Prod.fst)

def sortedNames (names : List String) : List String :=
  names.dedup.mergeSort fun first second => decide (first ≤ second)

/-- `pending_migrations`, over the checksum of a file. -/
def pendingMigrations (checksum : Migration → String) (migrations : List Migration)
    (applied : List (String × String)) : Except MigrationError (List Migration) := do
  let unknown := sortedNames
    ((applied.map Prod.fst).filter fun name => !migrations.any (·.name = name))
  if unknown ≠ [] then throw (.unknownMigrations unknown)
  migrations.forM fun migration =>
    match applied.lookup migration.name with
    | none => pure ()
    | some recorded =>
        if recorded = checksum migration then pure ()
        else throw (.modifiedMigration migration.name recorded (checksum migration))
  let firstPending := migrations.findIdx fun migration => !isApplied applied migration.name
  let laterApplied := ((migrations.drop firstPending).map Migration.name).filter (isApplied applied)
  if laterApplied ≠ [] then throw (.notOrderedPrefix (sortedNames laterApplied))
  return migrations.drop firstPending

/-- The entry that a file leaves in the history. -/
def Migration.entry (checksum : Migration → String) (migration : Migration) : String × String :=
  (migration.name, checksum migration)

section History

variable {checksum : Migration → String}

theorem lookup_entries {files : List Migration} (distinct : (files.map Migration.name).Nodup)
    {file : Migration} (member : file ∈ files) :
    (files.map (Migration.entry checksum)).lookup file.name = some (checksum file) := by
  induction files with
  | nil => cases member
  | cons first rest ih =>
      rw [List.map_cons, List.nodup_cons] at distinct
      rw [List.map_cons, Migration.entry, List.lookup_cons]
      rcases List.mem_cons.mp member with rfl | later
      · simp
      · have other : (file.name == first.name) = false := by
          rw [beq_eq_false_iff_ne]
          intro same
          exact distinct.1 (same ▸ List.mem_map_of_mem later)
        rw [other]
        exact ih distinct.2 later

end History

/-! ### The contents of a database -/

/-- A value of a history table as the driver hands it over; bytes with what they decode to. -/
inductive Cell where
  | text (value : String)
  | bytes (decoded : Option String)
  | other
deriving DecidableEq, Repr

structure Row where
  migrationName : Cell
  checksum : Cell
deriving DecidableEq, Repr

/-- The row that the migrators insert for a file. -/
def Migration.row (checksum : Migration → String) (migration : Migration) : Row :=
  ⟨.text migration.name, .text (checksum migration)⟩

structure Contents where
  /-- The tables that a migrator's name for its history table can denote. -/
  tables : String → Option (List Row)
  /-- The statements of migrations that have taken effect, in order. -/
  effects : List String

/-- What a transaction does to the contents. -/
inductive Action where
  | create (table : String)
  | insert (table : String) (row : Row)
  | script (statement : String)
deriving DecidableEq, Repr

namespace Contents

def rows (c : Contents) (table : String) : List Row :=
  (c.tables table).getD []

def run (c : Contents) : Action → Contents
  | .create table =>
      if (c.tables table).isSome then c
      else { c with tables := Function.update c.tables table (some []) }
  | .insert table row =>
      { c with tables := Function.update c.tables table ((c.tables table).map (· ++ [row])) }
  | .script statement => { c with effects := c.effects ++ [statement] }

def runAll (c : Contents) (actions : List Action) : Contents :=
  actions.foldl run c

theorem runAll_append (c : Contents) (first second : List Action) :
    c.runAll (first ++ second) = (c.runAll first).runAll second := by
  simp [runAll]

/-- The scripts of a transaction only have effects. -/
theorem runAll_scripts (c : Contents) (statements : List String) :
    c.runAll (statements.map .script) = { c with effects := c.effects ++ statements } := by
  induction statements generalizing c with
  | nil => simp [runAll]
  | cons statement rest ih =>
      have next : c.runAll ((statement :: rest).map .script) =
          (c.run (.script statement)).runAll (rest.map .script) := rfl
      rw [next, ih]
      simp [run]

end Contents

/-- The rows that a transaction inserts into one table. -/
def insertedRows (table : String) (actions : List Action) : List Row :=
  actions.filterMap fun
    | .insert target row => if target = table then some row else none
    | _ => none

/-! ### Which files a database holds -/

section Holding

variable (table : String) (checksum : Migration → String)
variable (effectOf : Migration → List String → Prop)

/-- The history names exactly these files, with their checksums, and exactly their statements have
taken effect, each file's once and in order. -/
structure Contents.Holds (files : List Migration) (c : Contents) : Prop where
  history : c.rows table = files.map (Migration.row checksum)
  effects : ∃ parts, List.Forall₂ effectOf files parts ∧ c.effects = parts.flatten

variable {table checksum effectOf}

theorem Contents.rows_create (c : Contents) : (c.run (.create table)).rows table = c.rows table := by
  by_cases exists' : (c.tables table).isSome
  · simp [run, exists']
  · have missing : c.tables table = none := by simpa using exists'
    simp [run, rows, missing]

theorem Contents.isSome_create (c : Contents) : ((c.run (.create table)).tables table).isSome := by
  by_cases exists' : (c.tables table).isSome
  · simp [run, exists']
  · simp [run, exists']

theorem Contents.Holds.create {files : List Migration} {c : Contents}
    (holds : c.Holds table checksum effectOf files) :
    (c.run (.create table)).Holds table checksum effectOf files := by
  refine ⟨(c.rows_create).trans holds.history, ?_⟩
  obtain ⟨parts, each, same⟩ := holds.effects
  refine ⟨parts, each, ?_⟩
  by_cases exists' : (c.tables table).isSome <;> simpa [run, exists'] using same

/-- What the transaction of the next file makes of the contents. -/
theorem Contents.Holds.next {files : List Migration} {file : Migration} {statements : List String}
    {c : Contents} (holds : c.Holds table checksum effectOf files)
    (present : (c.tables table).isSome) (effect : effectOf file statements) :
    (c.runAll (statements.map .script ++ [.insert table (file.row checksum)])).Holds table checksum
      effectOf (files ++ [file]) := by
  obtain ⟨recorded, some⟩ := Option.isSome_iff_exists.mp present
  rw [runAll_append, runAll_scripts]
  have history := holds.history
  rw [rows, some, Option.getD_some] at history
  constructor
  · simp [runAll, run, rows, some, history]
  · obtain ⟨parts, each, same⟩ := holds.effects
    refine ⟨parts ++ [statements], List.rel_append each (.cons effect .nil), ?_⟩
    simp [runAll, run, same]

end Holding

end Relq.Migrate
