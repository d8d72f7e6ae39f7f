/-
Module: Relq.Migrate.PostgresRuns
Layer: Migrate
Purpose: Any number of PostgreSQL migrators on sessions of one database, in every interleaving of their
  calls and with any of these calls failing. Only the holder of the advisory lock touches the history
  table or runs a statement of a file; the database always holds a prefix of the files, each applied
  once; reports are true and list the files in their order. Where nothing fails, every interleaving ends
  with all files applied and the lock free.
Imports: Relq.Migrate.History, Relq.Migrate.PostgresMigrator
Trusted boundary: human-reviewed spec (Fleet.Start, Fleet.start, Reported)
Main exports: Op.guarded, Fleet.discipline, achieves_executeFrom, achieves_migrateConnection,
  migrations_serialised, migrations_inevitable
-/
import Relq.Migrate.History
import Relq.Migrate.PostgresMigrator

namespace Relq.Migrate.Postgres

open Interleaving
open Interleaving.Discipline
open Python (Characters)

/-! ### Reading the history -/

theorem historyFrom_rows {checksum : Migration → String} {files : List Migration}
    {applied : List (String × String)} :
    historyFrom applied (files.map (Migration.row checksum)) =
      .ok (files.foldl (fun applied file => setItem applied file.name (checksum file)) applied) := by
  induction files generalizing applied with
  | nil => rfl
  | cons file rest ih =>
      rw [List.map_cons, Migration.row, historyFrom]
      exact ih

/-- However the database orders the rows of the first `m` files, they are read as that history. -/
theorem historyFrom_history {checksum : Migration → String} {files : List Migration} {m : Nat}
    {order : List Row} (distinct : (files.map Migration.name).Nodup)
    (rows : order.Perm ((files.take m).map (Migration.row checksum))) :
    ∃ applied, historyFrom [] order = .ok applied ∧ PrefixHistory checksum files applied m := by
  obtain ⟨recorded, rfl, names, history⟩ := exists_recorded distinct rows
  exact ⟨_, historyFrom_rows.trans (congrArg Except.ok (foldl_setItem names (by simp))), history⟩

/-! ### What always holds, and what a process may rely on -/

/-- Calls that touch the history table or belong to the transaction of a file. -/
def Op.guarded : Op → Bool
  | .createHistory _ | .readHistory _ | .begin | .commit | .transactionId | .showConformingStrings
  | .execute _ | .insertHistory _ _ _ => true
  | _ => false

variable {ι : Type}

namespace Fleet

variable (fleet : Fleet ι)

/-- What a file has in effect are its statements, under one setting. -/
def Statements (file : Migration) (statements : List String) : Prop :=
  ∃ conforming, statements = splitPostgresStatements fleet.py conforming file.sql

/-- The contents hold exactly these files. -/
abbrev Holds (files : List Migration) (c : Contents) : Prop :=
  c.Holds fleet.table fleet.checksum fleet.Statements files

/-- Each chunk of a file is one statement of the server. -/
def Cut : Prop :=
  ∀ file ∈ fleet.files, ∀ conforming, ∀ statement ∈ splitPostgresStatements fleet.py conforming file.sql,
    fleet.single statement = true

/-- No chunk of a file changes the history table or the locks. -/
def Apart : Prop :=
  ∀ file ∈ fleet.files, ∀ conforming, ∀ statement ∈ splitPostgresStatements fleet.py conforming file.sql,
    fleet.touches statement = false

/-- No file is refused for what it asks for or for what its statements begin with. -/
def Welcome : Prop :=
  ∀ file ∈ fleet.files, file.foreignKeys = true ∧
    ∀ conforming, ∀ statement ∈ splitPostgresStatements fleet.py conforming file.sql,
      isTransactionControlStatement fleet.py statement = false ∧
        isStandardConformingStringsStatement fleet.py statement = false

/-- The number of files in the history. -/
def applied (s : Shared ι) : Nat :=
  (s.committed.rows fleet.table).length

def present (s : Shared ι) : Prop :=
  (s.committed.tables fleet.table).isSome

def Holder (i : ι) (s : Shared ι) : Prop :=
  s.locks fleet.key = some i

/-- What a call needs so that it can be answered once no other process holds the lock. -/
structure Needs (i : ι) (op : Op) (s : Shared ι) : Prop where
  guarded : op.guarded = true → fleet.Holder i s
  idle : op = .begin → s.transactions i = none
  lock : ∀ key, op = .advisoryLock key → key = fleet.key ∧ ¬fleet.Holder i s
  rows : ∀ table, op = .readHistory table → ((s.view i).tables table).isSome
  row : ∀ table name checksum, op = .insertHistory table name checksum →
    ((s.view i).tables table).isSome

/-- The sessions know the schema of the history table, and the database holds a prefix of the files, of
which it held the first `k` at the start. -/
structure Inv (k : Nat) (s : Shared ι) : Prop where
  cached : ∀ i schemaName, s.schemas i fleet.tableName = some schemaName → schemaName = fleet.schemaName
  within : fleet.applied s ≤ fleet.files.length
  holds : fleet.Holds (fleet.files.take (fleet.applied s)) s.committed
  inserted : s.committed.rows fleet.table =
    (fleet.files.take k).map (Migration.row fleet.checksum) ++ insertedBy fleet.table s.commits

/-- What other processes leave to process `i`: its session, what is applied, and while it holds the lock
the database as a whole. -/
structure Leaves (i : ι) (s s' : Shared ι) : Prop where
  transaction : s'.transactions i = s.transactions i
  conforming : s'.conforming i = s.conforming i
  holder : fleet.Holder i s' ↔ fleet.Holder i s
  grows : Grows i s.commits s'.commits
  applied : fleet.applied s ≤ fleet.applied s'
  present : fleet.present s → fleet.present s'
  locked : fleet.Holder i s → s'.committed = s.committed ∧ s'.commits = s.commits

variable {fleet}

theorem Leaves.refl (i : ι) (s : Shared ι) : fleet.Leaves i s s where
  transaction := rfl
  conforming := rfl
  holder := Iff.rfl
  grows := .refl i _
  applied := Nat.le_refl _
  present := id
  locked _ := ⟨rfl, rfl⟩

theorem Leaves.trans {i : ι} {s s' s'' : Shared ι} (first : fleet.Leaves i s s')
    (then_ : fleet.Leaves i s' s'') : fleet.Leaves i s s'' where
  transaction := then_.transaction.trans first.transaction
  conforming := then_.conforming.trans first.conforming
  holder := then_.holder.trans first.holder
  grows := first.grows.trans then_.grows
  applied := first.applied.trans then_.applied
  present := then_.present ∘ first.present
  locked holder := by
    obtain ⟨committed, commits⟩ := first.locked holder
    obtain ⟨committed', commits'⟩ := then_.locked (first.holder.mpr holder)
    exact ⟨committed'.trans committed, commits'.trans commits⟩

variable (fleet)

def discipline (k : Nat) : Discipline ι (Shared ι) Op where
  inv := fleet.Inv k
  rely := fleet.Leaves
  needs i op s := fleet.Needs i op s
  rely_refl := Leaves.refl
  rely_trans _ _ _ _ := Leaves.trans

variable {fleet}

end Fleet

/-! ### Assertions -/

section Assertions

variable (fleet : Fleet ι) (i : ι)

/-- The process holds the lock and is in no transaction; the first `n` files are applied and `results` is
true of it. -/
structure Standing (n : Nat) (results : List MigrationResult) (s : Shared ι) : Prop where
  locked : fleet.Holder i s
  idle : s.transactions i = none
  present : fleet.present s
  reached : fleet.applied s = n
  truthful : Truthful fleet.table fleet.checksum fleet.files i s.commits results

/-- The process has got as far as `transaction` in a transaction that began in `opening`. -/
structure Inside (opening : Shared ι) (transaction : Transaction) (conforming : Bool) (s : Shared ι) :
    Prop where
  locked : fleet.Holder i s
  transaction : s.transactions i = some transaction
  conforming : s.conforming i = conforming
  committed : s.committed = opening.committed
  commits : s.commits = opening.commits

/-- Something has failed, and `results` is true of the process. -/
structure Failed (calm : Prop) (results : List MigrationResult) (s : Shared ι) : Prop where
  stormy : ¬calm
  truthful : Truthful fleet.table fleet.checksum fleet.files i s.commits results

/-- The process has not begun. -/
structure Waiting (s : Shared ι) : Prop where
  unlocked : ¬fleet.Holder i s
  idle : s.transactions i = none
  truthful : Truthful fleet.table fleet.checksum fleet.files i s.commits []

/-- The process has only taken the lock. -/
structure Locked (s : Shared ι) : Prop where
  locked : fleet.Holder i s
  idle : s.transactions i = none
  truthful : Truthful fleet.table fleet.checksum fleet.files i s.commits []

variable {fleet i} {k n : Nat} {results : List MigrationResult}

theorem stable_inside {opening : Shared ι} {transaction : Transaction} {conforming : Bool} :
    (fleet.discipline k).Stable i (Inside fleet i opening transaction conforming) := by
  intro s s' inside between _
  obtain ⟨committed, commits⟩ := between.locked inside.locked
  exact ⟨between.holder.mpr inside.locked, between.transaction.trans inside.transaction,
    between.conforming.trans inside.conforming, committed.trans inside.committed,
    commits.trans inside.commits⟩

variable [DecidableEq ι]

omit [DecidableEq ι] in
theorem stable_standing : (fleet.discipline k).Stable i (Standing fleet i n results) := by
  intro s s' standing between _
  obtain ⟨committed, commits⟩ := between.locked standing.locked
  refine ⟨between.holder.mpr standing.locked, between.transaction.trans standing.idle,
    between.present standing.present, ?_, commits ▸ standing.truthful⟩
  rw [Fleet.applied, committed]
  exact standing.reached

theorem stable_failed {calm : Prop} : (fleet.discipline k).Stable i (Failed fleet i calm results) :=
  fun _ _ failed between _ => ⟨failed.stormy, failed.truthful.grows between.grows⟩

theorem stable_waiting : (fleet.discipline k).Stable i (Waiting fleet i) :=
  fun _ _ waiting between _ =>
    ⟨mt between.holder.mp waiting.unlocked, between.transaction.trans waiting.idle,
      waiting.truthful.grows between.grows⟩

theorem stable_locked : (fleet.discipline k).Stable i (Locked fleet i) :=
  fun _ _ locked between _ =>
    ⟨between.holder.mpr locked.locked, between.transaction.trans locked.idle,
      locked.truthful.grows between.grows⟩

end Assertions

/-! ### What calls do to the others -/

section Calls

variable (fleet : Fleet ι) (i : ι)

/-- A call that leaves the other sessions alone. -/
structure Apart (s s' : Shared ι) : Prop where
  schemas : s'.schemas = s.schemas
  others : ∀ j, j ≠ i → s'.transactions j = s.transactions j ∧ s'.conforming j = s.conforming j ∧
    (fleet.Holder j s' ↔ fleet.Holder j s)

/-- A call that leaves the contents alone, too. -/
structure Own (s s' : Shared ι) : Prop extends Apart fleet i s s' where
  committed : s'.committed = s.committed
  commits : s'.commits = s.commits

variable {fleet i} {k : Nat} {s s' : Shared ι}

theorem Own.permits (own : Own fleet i s s') (inv : fleet.Inv k s) :
    (fleet.discipline k).Permits i s s' := by
  have applied : fleet.applied s' = fleet.applied s := by
    rw [Fleet.applied, own.committed, Fleet.applied]
  refine ⟨⟨?_, applied ▸ inv.within, ?_, ?_⟩, fun j other => ?_⟩
  · rw [own.schemas]
    exact inv.cached
  · rw [applied, own.committed]
    exact inv.holds
  · rw [own.committed, own.commits]
    exact inv.inserted
  · obtain ⟨transaction, conforming, holder⟩ := own.others j other
    exact
      { transaction := transaction
        conforming := conforming
        holder := holder
        grows := own.commits ▸ .refl j _
        applied := applied.ge
        present := by rw [Fleet.present, Fleet.present, own.committed]; exact id
        locked := fun _ => ⟨own.committed, own.commits⟩ }

theorem Own.refl (s : Shared ι) : Own fleet i s s :=
  ⟨⟨rfl, fun _ _ => ⟨rfl, rfl, Iff.rfl⟩⟩, rfl, rfl⟩

/-- The transaction of the lock's holder after which the database holds the first `m` files. -/
theorem permits_publish {actions : List Migrate.Action} {m : Nat} (inv : fleet.Inv k s)
    (holder : fleet.Holder i s) (apart : Apart fleet i s s')
    (committed : s'.committed = s.committed.runAll actions)
    (commits : s'.commits = s.commits ++ [⟨i, actions⟩])
    (more : fleet.applied s ≤ m) (within : m ≤ fleet.files.length)
    (holds : fleet.Holds (fleet.files.take m) (s.committed.runAll actions))
    (inserted : (s.committed.runAll actions).rows fleet.table =
      s.committed.rows fleet.table ++ insertedRows fleet.table actions)
    (present : ((s.committed.runAll actions).tables fleet.table).isSome) :
    (fleet.discipline k).Permits i s s' ∧ fleet.applied s' = m := by
  have applied : fleet.applied s' = m := by
    rw [Fleet.applied, committed, holds.history, List.length_map, List.length_take,
      Nat.min_eq_left within]
  refine ⟨⟨⟨?_, applied ▸ within, ?_, ?_⟩, fun j other => ?_⟩, applied⟩
  · rw [apart.schemas]
    exact inv.cached
  · rw [applied, committed]
    exact holds
  · rw [committed, commits, inserted, inv.inserted, insertedBy, insertedBy, List.flatMap_append,
      List.flatMap_singleton, List.append_assoc]
  · obtain ⟨transaction, conforming, same⟩ := apart.others j other
    have notHolder : ¬fleet.Holder j s := by
      intro held
      exact other (Option.some.inj (held.symm.trans holder))
    exact
      { transaction := transaction
        conforming := conforming
        holder := same
        grows := ⟨[⟨i, actions⟩], commits, by simpa using other.symm⟩
        applied := applied ▸ more
        present := fun _ => by rw [Fleet.present, committed]; exact present
        locked := fun held => absurd held notHolder }

variable [DecidableEq ι]

theorem Own.withTransaction (s : Shared ι) (transaction : Option Transaction) :
    Own fleet i s (s.withTransaction i transaction) :=
  ⟨⟨rfl, fun _ other => ⟨Function.update_of_ne other _ _, rfl, Iff.rfl⟩⟩, rfl, rfl⟩

theorem Own.withConforming (own : Own fleet i s s') (value : Bool) :
    Own fleet i s (s'.withConforming i value) where
  schemas := own.schemas
  others j other := by
    obtain ⟨transaction, conforming, holder⟩ := own.others j other
    exact ⟨transaction, (Function.update_of_ne other _ _).trans conforming, holder⟩
  committed := own.committed
  commits := own.commits

theorem Own.rolledBack (s : Shared ι) : Own fleet i s (s.rolledBack i) := by
  unfold Shared.rolledBack
  cases s.transactions i with
  | none => exact .refl s
  | some transaction => exact (Own.withTransaction s none).withConforming transaction.conforming

theorem Own.lost (s : Shared ι) : Own fleet i s (s.lost i) := by
  have rolled : Own fleet i s (s.rolledBack i) := .rolledBack s
  refine ⟨⟨rolled.schemas, fun j other => ?_⟩, rolled.committed, rolled.commits⟩
  obtain ⟨transaction, conforming, -⟩ := rolled.others j other
  refine ⟨transaction, conforming, ?_⟩
  simp only [Fleet.Holder, Shared.lost]
  by_cases held : s.locks fleet.key = some i
  · have differs : some i ≠ some j := fun same => other (Option.some.inj same).symm
    simp [held, differs]
  · rw [if_neg held]

theorem Own.of_breaks (breaks : s.Breaks i s') : Own fleet i s s' := by
  rcases breaks with rfl | rfl | rfl
  · exact .refl s'
  · exact .rolledBack s
  · exact .lost s

omit [DecidableEq ι] in
/-- A lock that is free or the session's own changes hands. -/
theorem Own.withLock {holder : Option ι} (free : ∀ j, j ≠ i → s.locks fleet.key ≠ some j)
    (mine : ∀ j, holder = some j → j = i) : Own fleet i s (s.withLock fleet.key holder) where
  schemas := rfl
  others j other := by
    refine ⟨rfl, rfl, ?_⟩
    simp only [Fleet.Holder, Shared.withLock, Function.update_self]
    exact ⟨fun taken => absurd (mine j taken) other, fun held => absurd held (free j other)⟩
  committed := rfl
  commits := rfl

end Calls

/-! ### Calls between assertions -/

/-- Calls may fail, or may not where everything is calm. -/
def effectIf [DecidableEq ι] (fleet : Fleet ι) (calm : Prop) :
    Effect ι (Shared ι) Op fun op => Except Raised (Result op) :=
  fun i op s answer s' => effect fleet i op s answer s' ∧ (calm → Calm fleet i s s' op answer)

section Achieving

variable [DecidableEq ι] {fleet : Fleet ι} {i : ι} {k n : Nat} {calm : Prop}
  {results : List MigrationResult}

/-- The program, run by process `i`, goes from `P` to `returns` or fails with `results` reported. -/
abbrev Fleet.Achieves (fleet : Fleet ι) (k : Nat) (calm : Prop) (i : ι) {α : Type}
    (P : Shared ι → Prop) (p : Action α) (returns : α → Shared ι → Prop)
    (results : List MigrationResult) : Prop :=
  (fleet.discipline k).Achieves (effectIf fleet calm) i P p returns fun _ =>
    Failed fleet i calm results

/-- What a call that fails does. -/
theorem own_of_fails {op : Op} {s s' : Shared ι} (failed : fails fleet i s op s')
    (plain : ∀ statement, op = .execute statement → fleet.plain statement = true)
    (key : ∀ key, op = .advisoryLock key → key = fleet.key) : Own fleet i s s' := by
  cases op with
  | migrations =>
      obtain rfl : s' = s := failed
      exact .refl s'
  | isInTransaction => exact failed.elim
  | cachedSchema table => exact failed.elim
  | cacheSchema table schemaName => exact failed.elim
  | advisoryLock key' =>
      obtain rfl := key key' rfl
      rcases failed with breaks | ⟨free, rfl⟩
      · exact .of_breaks breaks
      · exact .withLock (fun j _ => by simp [free]) fun j same => (Option.some.inj same).symm
  | execute statement => exact .of_breaks (failed (plain statement rfl))
  | historySchema table => exact .of_breaks failed
  | advisoryUnlock key => exact .of_breaks failed
  | createHistory table => exact .of_breaks failed
  | readHistory table => exact .of_breaks failed
  | begin => exact .of_breaks failed
  | commit => exact .of_breaks failed
  | rollback => exact .of_breaks failed
  | transactionId => exact .of_breaks failed
  | showConformingStrings => exact .of_breaks failed
  | insertHistory table name checksum => exact .of_breaks failed

omit [DecidableEq ι] in
theorem needs_free {op : Op} (free : op.guarded = false) (lock : ∀ key, op ≠ .advisoryLock key)
    (s : Shared ι) : fleet.Needs i op s := by
  refine ⟨by simp [free], ?_, fun key same => absurd same (lock key), ?_, ?_⟩
  · rintro rfl
    cases free
  · rintro table rfl
    cases free
  · rintro table name checksum rfl
    cases free

theorem achieves_op {op : Op} {P : Shared ι → Prop} {returns : Result op → Shared ι → Prop}
    (waiting : (fleet.discipline k).Stable i P)
    (returned : ∀ value, (fleet.discipline k).Stable i (returns value))
    (truthful : ∀ s, P s → Truthful fleet.table fleet.checksum fleet.files i s.commits results)
    (needed : ∀ s, P s → fleet.Needs i op s)
    (succeeded : ∀ s value s', fleet.Inv k s → P s → succeeds fleet i s op value s' →
      (calm → Calm fleet i s s' op (.ok value)) →
        (fleet.discipline k).Permits i s s' ∧ returns value s')
    (plain : ∀ statement, op = .execute statement → fleet.plain statement = true) :
    fleet.Achieves k calm i P (call op) returns results := by
  refine achieves_call waiting returned (fun _ => stable_failed) (fun s _ => needed s)
    (fun s value s' inv here moved => succeeded s value s' inv here moved.1 moved.2)
    fun s raised s' inv here moved => ?_
  have own : Own fleet i s s' :=
    own_of_fails moved.1 plain fun key same => ((needed s here).lock key same).1
  refine ⟨own.permits inv, fun holds => ?_, own.commits ▸ truthful s here⟩
  have impossible : False := by simpa [Calm] using moved.2 holds
  exact impossible

/-- A call that changes nothing. -/
theorem achieves_look {op : Op} {P : Shared ι → Prop} {φ : Result op → Prop}
    (waiting : (fleet.discipline k).Stable i P)
    (truthful : ∀ s, P s → Truthful fleet.table fleet.checksum fleet.files i s.commits results)
    (needed : ∀ s, P s → fleet.Needs i op s)
    (succeeded : ∀ s value s', fleet.Inv k s → P s → succeeds fleet i s op value s' →
      (calm → Calm fleet i s s' op (.ok value)) → s' = s ∧ φ value)
    (plain : ∀ statement, op = .execute statement → fleet.plain statement = true) :
    fleet.Achieves k calm i P (call op) (fun value s => φ value ∧ P s) results := by
  refine achieves_op waiting (fun value => (stable_const _).and waiting) truthful needed
    (fun s value s' inv here moved quiet => ?_) plain
  obtain ⟨rfl, fact⟩ := succeeded s value s' inv here moved quiet
  exact ⟨(Own.refl _).permits inv, fact, here⟩

/-- What is called after a failure leaves the failure. -/
theorem achieves_own_failed {op : Op} (needed : ∀ s, fleet.Needs i op s)
    (touches : ∀ s value s', succeeds fleet i s op value s' → Own fleet i s s')
    (plain : ∀ statement, op = .execute statement → fleet.plain statement = true) :
    fleet.Achieves k calm i (Failed fleet i calm results) (call op)
      (fun _ => Failed fleet i calm results) results := by
  refine achieves_op stable_failed (fun _ => stable_failed) (fun s failed => failed.truthful)
    (fun s _ => needed s) (fun s value s' inv failed moved _ => ?_) plain
  have own := touches s value s' moved
  exact ⟨own.permits inv, failed.stormy, own.commits ▸ failed.truthful⟩

/-- A check of what was read. -/
theorem achieves_checking {α : Type} {P : Shared ι → Prop} {checked : Except MigrationError α}
    (waiting : (fleet.discipline k).Stable i P)
    (truthful : ∀ s, P s → Truthful fleet.table fleet.checksum fleet.files i s.commits results)
    (passes : calm → ∃ value, checked = .ok value) :
    fleet.Achieves k calm i P (checking checked) (fun value s => checked = .ok value ∧ P s) results := by
  cases checked with
  | ok value => exact achieves_pure ((stable_const _).and waiting) fun s _ here => ⟨rfl, here⟩
  | error error =>
      refine achieves_throw stable_failed fun s _ here => ⟨fun quiet => ?_, truthful s here⟩
      obtain ⟨value, impossible⟩ := passes quiet
      cases impossible

/-! ### Inside the transaction of a file -/

section Within

variable {opening : Shared ι} {transaction : Transaction} {conforming : Bool}
  (truthful : Truthful fleet.table fleet.checksum fleet.files i opening.commits results)

omit [DecidableEq ι] in
theorem Inside.view {s : Shared ι} (inside : Inside fleet i opening transaction conforming s) :
    s.view i = opening.committed.runAll transaction.actions := by
  rw [Shared.view, inside.transaction, inside.committed, Option.elim_some]

omit [DecidableEq ι] in
theorem needs_locked {op : Op} {s : Shared ι} (locked : fleet.Holder i s)
    (idle : op = .begin → s.transactions i = none) (lock : ∀ key, op ≠ .advisoryLock key)
    (history : ∀ table, (op = .readHistory table ∨ ∃ name checksum, op = .insertHistory table name checksum) →
      ((s.view i).tables table).isSome) : fleet.Needs i op s :=
  ⟨fun _ => locked, idle, fun key same => absurd same (lock key), fun table same =>
    history table (.inl same), fun table name checksum same => history table (.inr ⟨name, checksum, same⟩)⟩

include truthful

omit [DecidableEq ι] in
theorem truthful_inside (s : Shared ι) (inside : Inside fleet i opening transaction conforming s) :
    Truthful fleet.table fleet.checksum fleet.files i s.commits results :=
  inside.commits ▸ truthful

theorem achieves_isInTransaction :
    fleet.Achieves k calm i (Inside fleet i opening transaction conforming) (call .isInTransaction)
      (fun answer s => answer = true ∧ Inside fleet i opening transaction conforming s) results := by
  refine achieves_look stable_inside (truthful_inside truthful)
    (fun s inside => needs_locked inside.locked (by simp) (by simp) (by simp))
    (fun s answer s' _ inside moved _ => ?_) (by simp)
  obtain ⟨rfl, rfl⟩ := moved
  exact ⟨rfl, by simp [inside.transaction]⟩

theorem achieves_transactionId :
    fleet.Achieves k calm i (Inside fleet i opening transaction conforming) (call .transactionId)
      (fun answer s => answer = transaction.id ∧ Inside fleet i opening transaction conforming s)
      results := by
  refine achieves_look stable_inside (truthful_inside truthful)
    (fun s inside => needs_locked inside.locked (by simp) (by simp) (by simp))
    (fun s answer s' _ inside moved _ => ?_) (by simp)
  obtain ⟨known, rfl⟩ := moved
  exact ⟨rfl, known transaction inside.transaction⟩

theorem achieves_standardConformingStrings :
    fleet.Achieves k calm i (Inside fleet i opening transaction conforming)
      Migrator.standardConformingStrings
      (fun answer s => answer = conforming ∧ Inside fleet i opening transaction conforming s)
      results := by
  have shown : fleet.Achieves k calm i (Inside fleet i opening transaction conforming)
      (call .showConformingStrings)
      (fun answer s => ((calm → answer ≠ none) ∧ ∀ value, answer = some value → value = conforming) ∧
        Inside fleet i opening transaction conforming s) results := by
    refine achieves_look stable_inside (truthful_inside truthful)
      (fun s inside => needs_locked inside.locked (by simp) (by simp) (by simp))
      (fun s answer s' _ inside moved quiet => ?_) (by simp)
    obtain ⟨shown, rfl⟩ := moved
    refine ⟨rfl, fun holds => quiet holds, fun value same => ?_⟩
    rcases shown with none_ | some_
    · rw [none_] at same
      cases same
    · rw [some_] at same
      exact (Option.some.inj same).symm.trans inside.conforming
  refine shown.bind (fun _ => stable_failed) fun answer => achieves_given fun ⟨valid, same⟩ => ?_
  cases answer with
  | none =>
      exact achieves_throw stable_failed fun s _ inside =>
        ⟨fun quiet => valid quiet rfl, truthful_inside truthful s inside⟩
  | some value =>
      exact achieves_pure ((stable_const _).and stable_inside) fun s _ inside => ⟨same value rfl, inside⟩

end Within

/-! ### The statements of a file -/

section Statements

variable {opening : Shared ι} {id : Nat} {actions : List Migrate.Action} {opened conforming : Bool}

/-- The session is as far as `actions`, whatever became of the setting. -/
theorem achieves_execute
    (truthful : Truthful fleet.table fleet.checksum fleet.files i opening.commits results)
    {statement : String} (plain : fleet.plain statement = true) :
    fleet.Achieves k calm i (Inside fleet i opening ⟨id, actions, opened⟩ conforming)
      (call (.execute statement))
      (fun status s => (calm → isTransactionControlStatus fleet.py status = false) ∧
        ∃ value, (calm → value = conforming) ∧
          Inside fleet i opening ⟨id, actions ++ [.script statement], opened⟩ value s) results := by
  refine achieves_op stable_inside
    (fun _ => (stable_const _).and (stable_exists fun _ => (stable_const _).and stable_inside))
    (truthful_inside truthful) (fun s inside => needs_locked inside.locked (by simp) (by simp) (by simp))
    (fun s status s' inv inside moved quiet => ?_) fun other same => Op.execute.inj same ▸ plain
  obtain ⟨written, value, writes, rfl⟩ := moved plain
  rw [Shared.Writes, inside.transaction] at writes
  subst writes
  have setting : ((s.withTransaction i (some ⟨id, actions ++ [.script statement], opened⟩)).withConforming i
      value).conforming i = value := Function.update_self _ _ _
  refine ⟨((Own.withTransaction s _).withConforming value).permits inv, fun holds => (quiet holds).1,
    value, fun holds => ?_, inside.locked, Function.update_self _ _ _, setting, inside.committed,
    inside.commits⟩
  exact setting.symm.trans ((quiet holds).2.trans inside.conforming)

/-- One statement of the server is executed in the transaction that is open, or is refused. -/
theorem achieves_executeStatement
    (truthful : Truthful fleet.table fleet.checksum fleet.files i opening.commits results)
    (name : String) {statement : String} (noReturn : '\r' ∉ statement.toList)
    (single : fleet.single statement = true) (apart : fleet.touches statement = false)
    (welcome : calm → isTransactionControlStatement fleet.py statement = false ∧
      isStandardConformingStringsStatement fleet.py statement = false) :
    fleet.Achieves k calm i (Inside fleet i opening ⟨id, actions, opened⟩ conforming)
      (fleet.migrator.executeStatement name id conforming statement)
      (fun _ => Inside fleet i opening ⟨id, actions ++ [.script statement], opened⟩ conforming)
      results := by
  rw [Migrator.executeStatement]
  split
  · rename_i control
    exact achieves_throw stable_failed fun s _ inside =>
      ⟨fun quiet => absurd control (by simp [Fleet.migrator, (welcome quiet).1]),
        truthful_inside truthful s inside⟩
  rename_i noControl
  split
  · rename_i setting
    exact achieves_throw stable_failed fun s _ inside =>
      ⟨fun quiet => absurd setting (by simp [Fleet.migrator, (welcome quiet).2]),
        truthful_inside truthful s inside⟩
  have plain : fleet.plain statement = true := by
    rw [Fleet.plain, single, apart, Bool.not_false, Bool.true_and, Bool.true_and, Bool.not_eq_true']
    by_contra control
    exact noControl (isTransactionControlStatement_of_serverControl _ noReturn (by simpa using control))
  refine (achieves_execute truthful plain).bind (fun _ => stable_failed) fun status =>
    achieves_given fun known => achieves_exists fun value => achieves_given fun unchanged => ?_
  split
  · rename_i control
    exact achieves_throw stable_failed fun s _ inside =>
      ⟨fun quiet => absurd control (by simp [Fleet.migrator, known quiet]),
        truthful_inside truthful s inside⟩
  refine (achieves_isInTransaction truthful).bind (fun _ => stable_failed) fun answer =>
    achieves_given fun inside => ?_
  rw [if_neg (by simp [inside])]
  refine (achieves_transactionId truthful).bind (fun _ => stable_failed) fun current =>
    achieves_given fun same => ?_
  rw [if_neg (by simpa using same)]
  refine (achieves_standardConformingStrings truthful).bind (fun _ => stable_failed) fun after =>
    achieves_given fun read => ?_
  subst read
  split
  · rename_i differs
    exact achieves_throw stable_failed fun s _ inside =>
      ⟨fun quiet => differs (unchanged quiet), truthful_inside truthful s inside⟩
  · rename_i agrees
    obtain rfl : after = conforming := by simpa using agrees
    exact achieves_pure stable_inside fun s _ inside => inside

omit [DecidableEq ι] in
/-- A chunk is made of characters of its text. -/
theorem noReturn_statement {py : Characters} {sql statement : String} {consumed : Nat}
    (noReturn : '\r' ∉ sql.toList)
    (yielded : (statement, consumed) ∈ iterPostgresStatements py conforming sql) :
    '\r' ∉ statement.toList := by
  obtain ⟨⟨piece, position⟩, among, kept⟩ := List.mem_filterMap.mp yielded
  simp only at kept
  split at kept
  · obtain ⟨rfl, -⟩ := Prod.mk.inj (Option.some.inj kept)
    exact fun inside => noReturn (by simpa using Scanners.mem_pieces among (mem_of_mem_strip inside))
  · cases kept

/-- The loop executes the statements of one pass, or one of them fails or is refused. -/
theorem achieves_executeFrom
    (truthful : Truthful fleet.table fleet.checksum fleet.files i opening.commits results)
    (name remaining : String) (noReturn : '\r' ∉ remaining.toList)
    (single : ∀ statement ∈ splitPostgresStatements fleet.py conforming remaining,
      fleet.single statement = true)
    (apart : ∀ statement ∈ splitPostgresStatements fleet.py conforming remaining,
      fleet.touches statement = false)
    (welcome : calm → ∀ statement ∈ splitPostgresStatements fleet.py conforming remaining,
      isTransactionControlStatement fleet.py statement = false ∧
        isStandardConformingStringsStatement fleet.py statement = false) :
    fleet.Achieves k calm i (Inside fleet i opening ⟨id, actions, opened⟩ conforming)
      (fleet.migrator.executeFrom name id remaining)
      (fun _ => Inside fleet i opening ⟨id, actions ++
        (splitPostgresStatements fleet.py conforming remaining).map .script, opened⟩ conforming)
      results := by
  induction size : remaining.toList.length using Nat.strong_induction_on
    generalizing remaining actions with | _ length ih => ?_
  rw [Migrator.executeFrom]
  split
  · rename_i empty
    have none_ : splitPostgresStatements fleet.py conforming remaining = [] := by
      rw [splitPostgresStatements, empty, iterPostgresStatements_empty]
      rfl
    rw [none_]
    exact achieves_pure stable_inside fun s _ inside => by simpa using inside
  rename_i some_
  refine (achieves_standardConformingStrings truthful).bind (fun _ => stable_failed) fun read =>
    achieves_given fun same => ?_
  subst same
  split
  · rename_i none_
    have none_ : (iterPostgresStatements fleet.py read remaining).head? = none := none_
    have ends : splitPostgresStatements fleet.py read remaining = [] := by
      rw [splitPostgresStatements, List.head?_eq_none_iff.mp none_]
      rfl
    rw [ends]
    exact achieves_pure stable_inside fun s _ inside => by simpa using inside
  · rename_i statement consumed first
    have first : (iterPostgresStatements fleet.py read remaining).head? = some (statement, consumed) :=
      first
    obtain ⟨later, whole⟩ := List.head?_eq_some_iff.mp first
    obtain ⟨taken, resumed⟩ := iter_resume noReturn whole
    have statements : splitPostgresStatements fleet.py read remaining = statement ::
        splitPostgresStatements fleet.py read (String.ofList (remaining.toList.drop consumed)) := by
      rw [← resumed, splitPostgresStatements]
      exact congrArg (List.map Prod.fst) whole
    rw [statements] at single apart welcome ⊢
    obtain ⟨single, singleLater⟩ := List.forall_mem_cons.mp single
    obtain ⟨apart, apartLater⟩ := List.forall_mem_cons.mp apart
    have shorter : (String.ofList (remaining.toList.drop consumed)).toList.length < length := by
      have left : 0 < remaining.toList.length := by
        rw [List.length_pos_iff]
        exact fun none_ => some_ (String.toList_eq_nil_iff.mp none_)
      rw [String.toList_ofList, List.length_drop]
      omega
    have fresh : '\r' ∉ (String.ofList (remaining.toList.drop consumed)).toList := by
      rw [String.toList_ofList]
      exact fun inside => noReturn (List.mem_of_mem_drop inside)
    refine (achieves_executeStatement truthful name
      (noReturn_statement noReturn (whole ▸ List.mem_cons_self)) single apart
        fun quiet => welcome quiet statement List.mem_cons_self).bind (fun _ => stable_failed) fun _ => ?_
    refine (ih _ shorter _ fresh singleLater apartLater (fun quiet other member =>
      welcome quiet other (List.mem_cons_of_mem _ member)) rfl).mono (fun _ s _ inside => ?_)
        fun _ s _ failed => failed
    simpa using inside

end Statements

/-! ### One file -/

section Files

variable {file : Migration} {later : List Migration} (cut : fleet.Cut) (apart : fleet.Apart)
  (welcome : calm → fleet.Welcome)

/-- What the transaction of a file has done at its end. -/
def Fleet.actions (fleet : Fleet ι) (file : Migration) (conforming : Bool) : List Migrate.Action :=
  (splitPostgresStatements fleet.py conforming file.sql).map .script ++
    [.insert fleet.table (file.row fleet.checksum)]

include cut apart welcome

/-- The body of the transaction: the statements and the row of the file. -/
theorem achieves_applyFile (split : fleet.files.drop n = file :: later) {opening : Shared ι} {id : Nat}
    {conforming : Bool} (standing : Standing fleet i n results opening) :
    fleet.Achieves k calm i (Inside fleet i opening ⟨id, [], conforming⟩ conforming)
      (fleet.migrator.applyFile file fleet.table)
      (fun _ => Inside fleet i opening ⟨id, fleet.actions file conforming, conforming⟩ conforming)
      results := by
  have inFiles := mem_next split
  have truthful := standing.truthful
  rw [Migrator.applyFile]
  refine (achieves_transactionId truthful).bind (fun _ => stable_failed) fun current =>
    achieves_given fun same => ?_
  subst same
  refine (achieves_executeFrom truthful file.name file.sql (fleet.noReturn file inFiles)
    (cut file inFiles conforming) (apart file inFiles conforming) fun quiet =>
      (welcome quiet file inFiles).2 conforming).bind (fun _ => stable_failed) fun _ => ?_
  rw [List.nil_append]
  refine achieves_op stable_inside (fun _ => stable_inside) (truthful_inside truthful)
    (fun s inside => needs_locked inside.locked (by simp) (by simp) fun table which => ?_)
    (fun s _ s' inv inside moved _ => ?_) (by simp)
  · rw [inside.view, Contents.runAll_scripts]
    obtain ⟨name, checksum, same⟩ := which.resolve_left (by simp)
    obtain ⟨rfl, -, -⟩ := Op.insertHistory.inj same
    exact standing.present
  · obtain ⟨-, written⟩ := moved
    rw [Shared.Writes, inside.transaction] at written
    subst written
    exact ⟨(Own.withTransaction s _).permits inv, inside.locked, Function.update_self _ _ _,
      inside.conforming, inside.committed, inside.commits⟩

/-- The transaction of the next file applies it or fails. -/
theorem achieves_transaction (split : fleet.files.drop n = file :: later) :
    fleet.Achieves k calm i (Standing fleet i n results)
      (transaction (fleet.migrator.applyFile file fleet.table))
      (fun _ => Standing fleet i (n + 1) (results ++ [⟨file.name, .success, none⟩])) results := by
  have begun : fleet.Achieves k calm i (Standing fleet i n results) (call .begin)
      (fun _ s => ∃ opening, Standing fleet i n results opening ∧ fleet.Inv k opening ∧
        ∃ id conforming, Inside fleet i opening ⟨id, [], conforming⟩ conforming s) results := by
    refine achieves_op stable_standing (fun _ => stable_exists fun _ => (stable_const _).and
        ((stable_const _).and (stable_exists fun _ => stable_exists fun _ => stable_inside)))
      (fun s standing => standing.truthful)
      (fun s standing => needs_locked standing.locked (fun _ => standing.idle) (by simp) (by simp))
      (fun s _ s' inv standing moved _ => ?_) (by simp)
    obtain ⟨-, id, rfl⟩ := moved
    exact ⟨(Own.withTransaction s _).permits inv, s, standing, inv, id, s.conforming i,
      standing.locked, Function.update_self _ _ _, rfl, rfl, rfl⟩
  rw [transaction]
  refine begun.bind (fun _ => stable_failed) fun _ => achieves_exists fun opening =>
    achieves_given fun standing => achieves_given fun inv => achieves_exists fun id =>
      achieves_exists fun conforming => ?_
  refine ((achieves_applyFile cut apart welcome split standing).attempt (fun _ => Failed fleet i calm results)
    (fun _ => stable_inside) fun _ => stable_failed).bind (fun _ => stable_failed) fun outcome => ?_
  have count : fleet.applied opening = n := standing.reached
  cases outcome with
  | error raised =>
      have rolled : fleet.Achieves k calm i (Failed fleet i calm results) (call .rollback)
          (fun _ => Failed fleet i calm results) results :=
        achieves_own_failed (needs_free rfl (by simp))
          (fun s _ s' moved => by
            obtain rfl : s' = s.rolledBack i := moved
            exact .rolledBack s) (by simp)
      exact rolled.bind (fun _ => stable_failed) fun _ =>
        achieves_throw stable_failed fun s _ failed => failed
  | ok _ =>
      obtain ⟨rows, stored⟩ := Option.isSome_iff_exists.mp standing.present
      have holds : fleet.Holds (fleet.files.take (n + 1))
          (opening.committed.runAll (fleet.actions file conforming)) := by
        have held : fleet.Holds (fleet.files.take n) opening.committed := count ▸ inv.holds
        rw [take_next split]
        exact held.next standing.present ⟨conforming, rfl⟩
      have own : insertedRows fleet.table (fleet.actions file conforming) =
          [file.row fleet.checksum] := by
        simp [Fleet.actions, insertedRows, List.filterMap_map]
      have inFiles := mem_next split
      refine achieves_op stable_inside (fun _ => stable_standing) (truthful_inside standing.truthful)
        (fun s inside => needs_locked inside.locked (by simp) (by simp) (by simp))
        (fun s _ s' inv' inside moved _ => ?_) (by simp)
      rw [succeeds, inside.transaction] at moved
      subst moved
      have contents : s.committed.runAll (fleet.actions file conforming) =
          opening.committed.runAll (fleet.actions file conforming) := by rw [inside.committed]
      have apart : Apart fleet i s ((s.publish i (fleet.actions file conforming)).withTransaction i none) :=
        ⟨rfl, fun _ other => ⟨Function.update_of_ne other _ _, rfl, Iff.rfl⟩⟩
      have made : ((s.committed.runAll (fleet.actions file conforming)).tables fleet.table).isSome := by
        rw [contents, Fleet.actions, Contents.runAll_append, Contents.runAll_scripts]
        simp [Contents.runAll, Contents.run, stored]
      have rows : (s.committed.runAll (fleet.actions file conforming)).rows fleet.table =
          s.committed.rows fleet.table ++ insertedRows fleet.table (fleet.actions file conforming) := by
        rw [contents, own, holds.history, inside.committed, take_next split, List.map_append, ← count,
          inv.holds.history]
        rfl
      have before : fleet.applied s = n := by
        rw [Fleet.applied, inside.committed]
        exact count
      obtain ⟨permitted, reached⟩ := permits_publish inv' inside.locked apart rfl rfl
        (before.trans_le (Nat.le_succ n)) (lt_length split) (contents ▸ holds) rows made
      refine ⟨permitted, inside.locked, Function.update_self _ _ _, made, reached, ?_⟩
      change Truthful _ _ _ i (s.commits ++ [⟨i, fleet.actions file conforming⟩]) _
      rw [inside.commits]
      exact standing.truthful.applied fleet.distinct inFiles own

end Files

/-! ### Reports -/

def successes (files : List Migration) : List MigrationResult :=
  files.map fun file => ⟨file.name, .success, none⟩

/-- A run is refused as a whole, or it lists what was pending in order: SUCCESS, then perhaps one ERROR
and behind it only NOT_EXECUTED. -/
inductive Shaped (files : List Migration) : MigrationReport → Prop where
  | refused (raised : Raised) : Shaped files ⟨some raised, []⟩
  | applied (m : Nat) : Shaped files ⟨none, successes (files.drop m)⟩
  | failed {m : Nat} {done later : List Migration} {file : Migration}
      (split : files.drop m = done ++ file :: later) (raised : Raised) :
      Shaped files ⟨some raised, successes done ++ ⟨file.name, .error, some raised⟩ ::
        later.map fun other => ⟨other.name, .notExecuted, none⟩⟩

/-- What a report says of its process under the lock. -/
structure Ended (fleet : Fleet ι) (i : ι) (calm : Prop) (report : MigrationReport) (s : Shared ι) :
    Prop where
  truthful : Truthful fleet.table fleet.checksum fleet.files i s.commits report.results
  shaped : Shaped fleet.files report
  complete : calm → report.error = none ∧ fleet.Holder i s ∧ fleet.files.length ≤ fleet.applied s

/-- What it says in the end; where everything is calm it reports no error, all files are applied and the
lock is released. -/
structure Reported (fleet : Fleet ι) (i : ι) (calm : Prop) (report : MigrationReport) (s : Shared ι) :
    Prop where
  truthful : Truthful fleet.table fleet.checksum fleet.files i s.commits report.results
  shaped : Shaped fleet.files report
  complete : calm → report.error = none ∧ ¬fleet.Holder i s ∧ fleet.files.length ≤ fleet.applied s

theorem stable_ended {report : MigrationReport} :
    (fleet.discipline k).Stable i (Ended fleet i calm report) := by
  intro s s' ended between _
  refine ⟨ended.truthful.grows between.grows, ended.shaped, fun quiet => ?_⟩
  obtain ⟨fine, locked, all⟩ := ended.complete quiet
  exact ⟨fine, between.holder.mpr locked, all.trans between.applied⟩

theorem stable_reported {report : MigrationReport} :
    (fleet.discipline k).Stable i (Reported fleet i calm report) := by
  intro s s' reported between _
  refine ⟨reported.truthful.grows between.grows, reported.shaped, fun quiet => ?_⟩
  obtain ⟨fine, unlocked, all⟩ := reported.complete quiet
  exact ⟨fine, mt between.holder.mp unlocked, all.trans between.applied⟩

section Whole

variable (cut : fleet.Cut) (apart : fleet.Apart) (welcome : calm → fleet.Welcome)

include cut apart welcome

/-- The loop over the pending files. -/
theorem achieves_applyPending {m : Nat} {done pending : List Migration}
    (split : fleet.files.drop m = done ++ pending) {never : Raised → Shared ι → Prop}
    (settled : ∀ e, (fleet.discipline k).Stable i (never e)) :
    (fleet.discipline k).Achieves (effectIf fleet calm) i
      (Standing fleet i (m + done.length) (successes done))
      (fleet.migrator.applyPending fleet.table (successes done) pending) (Ended fleet i calm) never := by
  induction pending generalizing done with
  | nil =>
      rw [List.append_nil] at split
      rw [Migrator.applyPending]
      refine achieves_pure stable_ended fun s _ standing =>
        ⟨standing.truthful, split ▸ .applied m, fun _ => ⟨rfl, standing.locked, ?_⟩⟩
      have all : fleet.files.length - m = done.length := by rw [← List.length_drop, split]
      have reached := standing.reached
      omega
  | cons file later ih =>
      have next : fleet.files.drop (m + done.length) = file :: later := by
        rw [← List.drop_drop, split, List.drop_left]
      rw [Migrator.applyPending]
      refine ((achieves_transaction cut apart welcome next).attempt never (fun _ => stable_standing)
        fun _ => stable_failed).bind settled fun outcome => ?_
      cases outcome with
      | error raised =>
          refine achieves_pure stable_ended fun s _ failed =>
            ⟨failed.truthful.failed (fun other listed => ?_) raised, .failed split raised,
              fun quiet => absurd quiet failed.stormy⟩
          have inside : other ∈ fleet.files.drop (m + done.length) := next ▸ listed
          exact List.mem_of_mem_drop inside
      | ok _ =>
          have more : fleet.files.drop m = (done ++ [file]) ++ later := by simpa using split
          have onward := ih more
          have same : successes (done ++ [file]) = successes done ++ [⟨file.name, .success, none⟩] := by
            simp [successes]
          rw [List.length_append, List.length_singleton, ← Nat.add_assoc, same] at onward
          exact onward

/-- The run under the lock. -/
theorem achieves_migrateLocked :
    fleet.Achieves k calm i (Locked fleet i) (fleet.migrator.migrateLocked fleet.files fleet.table)
      (Ended fleet i calm) [] := by
  have created : fleet.Achieves k calm i (Locked fleet i) (call (.createHistory fleet.table))
      (fun _ s => ∃ m, m ≤ fleet.files.length ∧ Standing fleet i m [] s) [] := by
    refine achieves_op stable_locked (fun _ => stable_exists fun _ => (stable_const _).and stable_standing)
      (fun s locked => locked.truthful)
      (fun s locked => needs_locked locked.locked (by simp) (by simp) (by simp))
      (fun s _ s' inv locked moved _ => ?_) (by simp)
    rw [succeeds, Shared.Writes, locked.idle] at moved
    subst moved
    have made : ((s.committed.runAll [.create fleet.table]).tables fleet.table).isSome :=
      s.committed.isSome_create
    have holds : fleet.Holds (fleet.files.take (fleet.applied s))
        (s.committed.runAll [.create fleet.table]) := inv.holds.create
    have rows : (s.committed.runAll [.create fleet.table]).rows fleet.table =
        s.committed.rows fleet.table ++ insertedRows fleet.table [.create fleet.table] := by
      rw [holds.history, ← inv.holds.history]
      simp [insertedRows]
    have apart : Apart fleet i s (s.publish i [.create fleet.table]) :=
      ⟨rfl, fun _ _ => ⟨rfl, rfl, Iff.rfl⟩⟩
    obtain ⟨permitted, reached⟩ := permits_publish inv locked.locked apart rfl rfl (Nat.le_refl _)
      inv.within holds rows made
    exact ⟨permitted, _, inv.within, locked.locked, locked.idle, made, reached,
      locked.truthful.committedNothing rfl⟩
  have read (m : Nat) : fleet.Achieves k calm i (Standing fleet i m [])
      (Migrator.readHistory fleet.table)
      (fun applied s => PrefixHistory fleet.checksum fleet.files applied m ∧ Standing fleet i m [] s)
      [] := by
    have look : fleet.Achieves k calm i (Standing fleet i m []) (call (.readHistory fleet.table))
        (fun rows s => (∃ applied, historyFrom [] rows = .ok applied ∧
          PrefixHistory fleet.checksum fleet.files applied m) ∧ Standing fleet i m [] s) [] := by
      refine achieves_look stable_standing (fun s standing => standing.truthful)
        (fun s standing => needs_locked standing.locked (by simp) (by simp) fun table which => ?_)
        (fun s rows s' inv standing moved _ => ?_) (by simp)
      · obtain rfl : fleet.table = table := by simpa using which
        rw [Shared.view, standing.idle]
        exact standing.present
      · obtain ⟨rfl, stored, found, perm⟩ := moved
        refine ⟨rfl, historyFrom_history fleet.distinct ?_⟩
        have history := inv.holds.history
        have view : s'.view i = s'.committed := by
          rw [Shared.view, standing.idle]
          rfl
        rw [view] at found
        rw [Contents.rows, found, Option.getD_some, standing.reached] at history
        exact history ▸ perm
    refine look.bind (fun _ => stable_failed) fun rows => achieves_given fun readable => ?_
    obtain ⟨applied, known, history⟩ := readable
    refine (achieves_checking stable_standing (fun s standing => standing.truthful)
      fun _ => ⟨applied, known⟩).mono (fun value s _ here => ⟨?_, here.2⟩) fun _ s _ failed => failed
    obtain rfl := Except.ok.inj (known.symm.trans here.1)
    exact history
  rw [Migrator.migrateLocked]
  refine created.bind (fun _ => stable_failed) fun _ => achieves_exists fun m =>
    achieves_given fun beyond => ?_
  refine (read m).bind (fun _ => stable_failed) fun applied => achieves_given fun history => ?_
  have left : pendingMigrations fleet.migrator.checksum fleet.files applied = .ok (fleet.files.drop m) :=
    history.pendingMigrations_eq fleet.distinct beyond
  refine (achieves_checking stable_standing (fun s standing => standing.truthful)
    fun _ => ⟨_, left⟩).bind (fun _ => stable_failed) fun pending => achieves_given fun found => ?_
  obtain rfl := Except.ok.inj (left.symm.trans found)
  refine (achieves_checking stable_standing (fun s standing => standing.truthful)
    fun quiet => ⟨(), ?_⟩).bind (fun _ => stable_failed) fun _ => achieves_given fun _ => ?_
  · refine Outcome.forM_eq_ok.mpr fun file listed => ?_
    rw [if_pos (welcome quiet file (List.mem_of_mem_drop listed)).1]
    rfl
  · have split : fleet.files.drop m = [] ++ fleet.files.drop m := rfl
    exact achieves_applyPending cut apart welcome split fun _ => stable_failed

omit cut apart welcome

theorem permits_withSchema {s : Shared ι} (inv : fleet.Inv k s) (table : String) :
    (fleet.discipline k).Permits i s (s.withSchema i table fleet.schemaName) := by
  have same (j : ι) : fleet.Leaves j s s := .refl j s
  refine ⟨⟨fun j schemaName known => ?_, inv.within, inv.holds, inv.inserted⟩, fun j _ =>
    ⟨rfl, rfl, Iff.rfl, (same j).grows, Nat.le_refl _, id, fun _ => ⟨rfl, rfl⟩⟩⟩
  simp only [Shared.withSchema] at known
  by_cases own : j = i
  · subst own
    rw [Function.update_self] at known
    by_cases same : fleet.tableName = table
    · subst same
      rw [Function.update_self] at known
      exact (Option.some.inj known).symm
    · rw [Function.update_of_ne same] at known
      exact inv.cached j schemaName known
  · rw [Function.update_of_ne own] at known
    exact inv.cached j schemaName known

/-- Every session finds the same history table. -/
theorem achieves_resolveSchema :
    fleet.Achieves k calm i (Waiting fleet i) fleet.migrator.resolveSchema
      (fun schemaName s => schemaName = fleet.schemaName ∧ Waiting fleet i s) [] := by
  have cached : fleet.Achieves k calm i (Waiting fleet i) (call (.cachedSchema fleet.tableName))
      (fun found s => (∀ schemaName, found = some schemaName → schemaName = fleet.schemaName) ∧
        Waiting fleet i s) [] := by
    refine achieves_look stable_waiting (fun s waiting => waiting.truthful)
      (fun s _ => needs_free rfl (by simp) s) (fun s found s' inv _ moved _ => ?_) (by simp)
    obtain ⟨rfl, rfl⟩ := moved
    exact ⟨rfl, inv.cached i⟩
  have asked : fleet.Achieves k calm i (Waiting fleet i)
      (call (.historySchema (quoteIdentifier fleet.tableName)))
      (fun found s => ((calm → found ≠ none) ∧
        ∀ schemaName, found = some schemaName → schemaName = fleet.schemaName) ∧ Waiting fleet i s)
      [] := by
    refine achieves_look stable_waiting (fun s waiting => waiting.truthful)
      (fun s _ => needs_free rfl (by simp) s) (fun s found s' inv _ moved quiet => ?_) (by simp)
    obtain ⟨found_, rfl⟩ := moved
    refine ⟨rfl, fun holds => quiet holds, fun schemaName same => ?_⟩
    rcases found_ with none_ | some_
    · rw [none_] at same
      cases same
    · rw [some_] at same
      exact (Option.some.inj same).symm
  have written : fleet.Achieves k calm i (Waiting fleet i)
      (call (.cacheSchema fleet.tableName fleet.schemaName)) (fun _ => Waiting fleet i) [] := by
    refine achieves_op stable_waiting (fun _ => stable_waiting) (fun s waiting => waiting.truthful)
      (fun s _ => needs_free rfl (by simp) s) (fun s _ s' inv waiting moved _ => ?_) (by simp)
    obtain rfl : s' = s.withSchema i fleet.tableName fleet.schemaName := moved
    exact ⟨permits_withSchema inv _, waiting.unlocked, waiting.idle, waiting.truthful⟩
  rw [Migrator.resolveSchema]
  refine cached.bind (fun _ => stable_failed) fun found => achieves_given fun same => ?_
  cases found with
  | some schemaName =>
      exact achieves_pure ((stable_const _).and stable_waiting) fun s _ waiting =>
        ⟨same schemaName rfl, waiting⟩
  | none =>
      refine asked.bind (fun _ => stable_failed) fun found => achieves_given fun ⟨some_, same⟩ => ?_
      cases found with
      | none =>
          exact achieves_throw stable_failed fun s _ waiting =>
            ⟨fun quiet => some_ quiet rfl, waiting.truthful⟩
      | some schemaName =>
          obtain rfl := same schemaName rfl
          exact written.bind (fun _ => stable_failed) fun _ =>
            achieves_pure ((stable_const _).and stable_waiting) fun s _ waiting => ⟨rfl, waiting⟩

/-- `_migrate_connection` up to the lock. -/
theorem achieves_acquire :
    fleet.Achieves k calm i (Waiting fleet i) fleet.migrator.acquire
      (fun acquired s => acquired = (fleet.files, fleet.table, fleet.key) ∧ Locked fleet i s) [] := by
  have listed : fleet.Achieves k calm i (Waiting fleet i) (call .migrations)
      (fun migrations s => (migrations : List Migration) = fleet.files ∧ Waiting fleet i s) [] := by
    refine achieves_look stable_waiting (fun s waiting => waiting.truthful)
      (fun s _ => needs_free rfl (by simp) s) (fun s found s' inv _ moved _ => ?_) (by simp)
    exact ⟨moved.2, moved.1⟩
  have taken : fleet.Achieves k calm i (Waiting fleet i) (call (.advisoryLock fleet.key))
      (fun _ => Locked fleet i) [] := by
    refine achieves_op stable_waiting (fun _ => stable_locked) (fun s waiting => waiting.truthful)
      (fun s waiting => ⟨by simp [Op.guarded], by simp, fun key same => ?_, by simp, by simp⟩)
      (fun s _ s' inv waiting moved _ => ?_) (by simp)
    · exact ⟨(Op.advisoryLock.inj same).symm, waiting.unlocked⟩
    · obtain ⟨free, rfl⟩ := moved
      have own : Own fleet i s (s.withLock fleet.key (some i)) :=
        .withLock (fun j _ => by simp [free]) fun j same => (Option.some.inj same).symm
      exact ⟨own.permits inv, Function.update_self _ _ _, waiting.idle, waiting.truthful⟩
  rw [Migrator.acquire]
  refine listed.bind (fun _ => stable_failed) fun migrations => achieves_given fun same => ?_
  subst same
  have named : fleet.Achieves k calm i (Waiting fleet i) fleet.migrator.historyTableReference
      (fun reference s => reference = (fleet.table, fleet.schemaName) ∧ Waiting fleet i s) [] := by
    rw [Migrator.historyTableReference]
    refine achieves_resolveSchema.bind (fun _ => stable_failed) fun schemaName =>
      achieves_given fun same => ?_
    subst same
    exact achieves_pure ((stable_const _).and stable_waiting) fun s _ waiting => ⟨rfl, waiting⟩
  refine named.bind (fun _ => stable_failed) fun reference => achieves_given fun same => ?_
  subst same
  exact taken.bind (fun _ => stable_failed) fun _ =>
    achieves_pure ((stable_const _).and stable_locked) fun s _ locked => ⟨rfl, locked⟩

/-- The unlock, whose failure is only logged. -/
theorem achieves_unlock {report : MigrationReport} {never : Raised → Shared ι → Prop}
    (settled : ∀ e, (fleet.discipline k).Stable i (never e)) :
    (fleet.discipline k).Achieves (effectIf fleet calm) i (Ended fleet i calm report)
      (Migrator.logged (.advisoryUnlock fleet.key)) (fun _ => Reported fleet i calm report) never := by
  have called : (fleet.discipline k).Achieves (effectIf fleet calm) i (Ended fleet i calm report)
      (call (.advisoryUnlock fleet.key)) (fun _ => Reported fleet i calm report)
      (fun _ => Reported fleet i calm report) := by
    refine achieves_call stable_ended (fun _ => stable_reported) (fun _ => stable_reported)
      (fun s _ _ => needs_free rfl (by simp) s) (fun s _ s' inv ended moved => ?_)
      fun s raised s' inv ended moved => ?_
    · have unlocked : s' = if s.locks fleet.key = some i then s.withLock fleet.key none else s := moved.1
      split at unlocked
      · rename_i held
        subst unlocked
        have own : Own fleet i s (s.withLock fleet.key none) := by
          refine .withLock (fun j other taken => other ?_) (by simp)
          exact Option.some.inj (taken.symm.trans held)
        refine ⟨own.permits inv, ended.truthful, ended.shaped, fun quiet => ?_⟩
        obtain ⟨fine, -, all⟩ := ended.complete quiet
        refine ⟨fine, fun still => ?_, all⟩
        have free : (s.withLock fleet.key none).locks fleet.key = none := Function.update_self _ _ _
        cases free.symm.trans still
      · rename_i free
        subst unlocked
        refine ⟨(Own.refl _).permits inv, ended.truthful, ended.shaped, fun quiet => ?_⟩
        exact absurd (ended.complete quiet).2.1 free
    · have failed : fails fleet i s (.advisoryUnlock fleet.key) s' := moved.1
      have own : Own fleet i s s' := own_of_fails failed (by simp) (by simp)
      refine ⟨own.permits inv, own.commits ▸ ended.truthful, ended.shaped, fun quiet => ?_⟩
      have impossible : False := by simpa [Calm] using moved.2 quiet
      exact impossible.elim
  rw [Migrator.logged]
  refine (called.attempt never (fun _ => stable_reported) fun _ => stable_reported).bind settled
    fun outcome => ?_
  cases outcome with
  | ok _ => exact achieves_pure stable_reported fun s _ reported => reported
  | error _ => exact achieves_pure stable_reported fun s _ reported => reported

include cut apart welcome

/-- A migrator ends with a true report, and never raises. -/
theorem achieves_migrateConnection :
    (fleet.discipline k).Achieves (effectIf fleet calm) i (Waiting fleet i)
      fleet.migrator.migrateConnection (Reported fleet i calm) fun _ _ => False := by
  have settled : (fleet.discipline k).Stable i fun _ => False := stable_const _
  have asked : (fleet.discipline k).Achieves (effectIf fleet calm) i (Waiting fleet i)
      (call .isInTransaction) (fun answer s => answer = false ∧ Waiting fleet i s) fun _ _ => False := by
    refine achieves_call stable_waiting (fun _ => (stable_const _).and stable_waiting) (fun _ => settled)
      (fun s _ _ => needs_free rfl (by simp) s) (fun s answer s' inv waiting moved => ?_)
      fun s raised s' _ _ moved => moved.1.elim
    obtain ⟨rfl, rfl⟩ := moved.1
    exact ⟨(Own.refl _).permits inv, by rw [waiting.idle]; rfl, waiting⟩
  rw [Migrator.migrateConnection]
  refine asked.bind (fun _ => settled) fun answer => achieves_given fun outside => ?_
  rw [if_neg (by simp [outside])]
  refine (achieves_acquire.attempt (fun _ _ => False) (fun _ => (stable_const _).and stable_locked)
    fun _ => stable_failed).bind (fun _ => settled) fun outcome => ?_
  cases outcome with
  | error raised =>
      exact achieves_pure stable_reported fun s _ failed =>
        ⟨failed.truthful, .refused raised, fun quiet => absurd quiet failed.stormy⟩
  | ok acquired =>
      refine achieves_given fun same => ?_
      subst same
      suffices ended : (fleet.discipline k).Achieves (effectIf fleet calm) i (Locked fleet i) _
          (Ended fleet i calm) fun _ _ => False from
        ended.ensuring (fun _ => stable_reported) (fun _ => settled)
          (fun report => achieves_unlock fun _ => settled) fun _ => fun s _ impossible => impossible.elim
      refine ((achieves_migrateLocked cut apart welcome).attempt (fun _ _ => False) (fun _ => stable_ended)
        fun _ => stable_failed).bind (fun _ => settled) fun outcome => ?_
      cases outcome with
      | error raised =>
          exact achieves_pure stable_ended fun s _ failed =>
            ⟨failed.truthful, .refused raised, fun quiet => absurd quiet failed.stormy⟩
      | ok report => exact achieves_pure stable_ended fun s _ ended => ended

end Whole

end Achieving

/-! ### Every interleaving of migrators -/

section Interleavings

variable [DecidableEq ι] {fleet : Fleet ι} {k : Nat} {s : Shared ι}

/-- A database that holds the first `k` files, with nobody in a transaction or at the lock; what a
session has cached is right. -/
structure Fleet.Start (fleet : Fleet ι) (k : Nat) (s : Shared ι) : Prop where
  within : k ≤ fleet.files.length
  idle : ∀ i, s.transactions i = none
  unlocked : s.locks fleet.key = none
  cached : ∀ i schemaName, s.schemas i fleet.tableName = some schemaName → schemaName = fleet.schemaName
  holds : fleet.Holds (fleet.files.take k) s.committed
  fresh : s.commits = []

/-- Every process is about to call `migrate_to_latest`. -/
def Fleet.start (fleet : Fleet ι) (s : Shared ι) :
    Config ι (Shared ι) Op (fun op => Except Raised (Result op)) (Except Raised MigrationReport) :=
  ⟨s, fun _ => fleet.migrator.migrateConnection.run⟩

omit [DecidableEq ι] in
theorem Fleet.Start.inv (start : fleet.Start k s) : fleet.Inv k s := by
  have count : fleet.applied s = k := by
    rw [Fleet.applied, start.holds.history, List.length_map, List.length_take,
      Nat.min_eq_left start.within]
  refine ⟨start.cached, count ▸ start.within, ?_, ?_⟩
  · rw [count]
    exact start.holds
  · rw [start.holds.history, start.fresh, insertedBy, List.flatMap_nil, List.append_nil]

/-- What every process is assured of. -/
def Fleet.ends (fleet : Fleet ι) (calm : Prop) (i : ι) :
    Except Raised MigrationReport → Shared ι → Prop :=
  Ends (Reported fleet i calm) fun _ _ => False

theorem sound_start {calm : Prop} (start : fleet.Start k s) (cut : fleet.Cut) (apart : fleet.Apart)
    (welcome : calm → fleet.Welcome) :
    (fleet.discipline k).Sound (effectIf fleet calm) (fleet.ends calm) (fleet.start s) := by
  refine ⟨start.inv, fun i => achieves_migrateConnection cut apart welcome s start.inv
    ⟨fun held => ?_, start.idle i, Truthful.nil fun file _ committed => ?_⟩⟩
  · rw [Fleet.Holder, start.unlocked] at held
    cases held
  · obtain ⟨commit, listed, -⟩ := committed
    rw [start.fresh] at listed
    cases listed

theorem distinct_pair : ["0001_items.sql"].Nodup := by decide

theorem noReturn_pair :
    ∀ file ∈ ([⟨"0001_items.sql", "create table items (id integer);", true⟩] : List Migration),
      '\r' ∉ file.sql.toList := by decide

/-- Two sessions with one file. -/
def Fleet.pair : Fleet (Fin 2) where
  files := [⟨"0001_items.sql", "create table items (id integer);", true⟩]
  tableName := "relq_migrations"
  schemaName := "public"
  checksum _ := "585cd2b43b9d5f89cac2c8a74b243d71247e90286e6a741a8ef70553e81843da"
  crc32 _ := 1796079519
  py := Characters.ofAscii
  single _ := true
  touches _ := false
  distinct := distinct_pair
  noReturn := noReturn_pair

/-- No table exists yet. -/
def Shared.empty : Shared (Fin 2) where
  committed := ⟨fun _ => none, []⟩
  transactions _ := none
  conforming _ := true
  schemas _ _ := none
  locks _ := none
  commits := []

theorem start_pair : Fleet.pair.Start 0 Shared.empty :=
  ⟨Nat.zero_le _, fun _ => rfl, rfl, by simp [Shared.empty], ⟨rfl, [], .nil, rfl⟩, rfl⟩

theorem cut_pair : Fleet.pair.Cut :=
  fun _ _ _ _ _ => rfl

theorem apart_pair : Fleet.pair.Apart :=
  fun _ _ _ _ _ => rfl

theorem welcome_pair : Fleet.pair.Welcome := by
  intro file listed
  obtain rfl := List.mem_singleton.mp listed
  exact ⟨rfl, by decide⟩

/-! ### Every interleaving ends -/

/-- A process that holds the lock, or waits for nobody, can go on. -/
theorem exists_succeeds (fleet : Fleet ι) {i : ι} {op : Op} (needs : fleet.Needs i op s)
    (turn : fleet.Holder i s ∨ s.locks fleet.key = none) :
    ∃ value s', succeeds fleet i s op value s' ∧ Calm fleet i s s' op (.ok value) := by
  have writes (action : Migrate.Action) :
      ∃ s', s.Writes i action s' ∧ s'.conforming i = s.conforming i := by
    cases open_ : s.transactions i with
    | none => exact ⟨s.publish i [action], by rw [Shared.Writes, open_], rfl⟩
    | some transaction =>
        exact ⟨s.withTransaction i (some { transaction with actions := transaction.actions ++ [action] }),
          by rw [Shared.Writes, open_], rfl⟩
  cases op with
  | migrations => exact ⟨fleet.files, s, ⟨rfl, rfl⟩, trivial⟩
  | isInTransaction => exact ⟨_, s, ⟨rfl, rfl⟩, trivial⟩
  | cachedSchema table => exact ⟨_, s, ⟨rfl, rfl⟩, trivial⟩
  | cacheSchema table schemaName => exact ⟨(), _, rfl, trivial⟩
  | historySchema table => exact ⟨some fleet.schemaName, s, ⟨.inr rfl, rfl⟩, Option.some_ne_none _⟩
  | advisoryLock key =>
      obtain ⟨rfl, free⟩ := needs.lock key rfl
      exact ⟨(), _, ⟨turn.resolve_left free, rfl⟩, trivial⟩
  | advisoryUnlock key => exact ⟨(), _, rfl, trivial⟩
  | createHistory table =>
      obtain ⟨s', written, -⟩ := writes (.create table)
      exact ⟨(), s', written, trivial⟩
  | readHistory table =>
      obtain ⟨rows, stored⟩ := Option.isSome_iff_exists.mp (needs.rows table rfl)
      exact ⟨rows, s, ⟨rfl, rows, stored, .refl _⟩, trivial⟩
  | begin => exact ⟨(), _, ⟨needs.idle rfl, 0, rfl⟩, trivial⟩
  | commit =>
      cases open_ : s.transactions i with
      | none => exact ⟨(), s, by rw [succeeds, open_], trivial⟩
      | some transaction => exact ⟨(), _, by rw [succeeds, open_], trivial⟩
  | rollback => exact ⟨(), _, rfl, trivial⟩
  | transactionId =>
      cases open_ : s.transactions i with
      | none => exact ⟨0, s, ⟨by simp [open_], rfl⟩, trivial⟩
      | some transaction => exact ⟨transaction.id, s, ⟨by simp [open_], rfl⟩, trivial⟩
  | showConformingStrings =>
      exact ⟨some (s.conforming i), s, ⟨.inr rfl, rfl⟩, Option.some_ne_none _⟩
  | execute statement =>
      obtain ⟨s', written, same⟩ := writes (.script statement)
      refine ⟨"", s'.withConforming i (s.conforming i), fun _ => ⟨s', _, written, rfl⟩, ?_,
        Function.update_self _ _ _⟩
      rfl
  | insertHistory table name checksum =>
      obtain ⟨s', written, -⟩ := writes (.insert table ⟨.text name, .text checksum⟩)
      exact ⟨(), s', ⟨needs.row table name checksum rfl, written⟩, trivial⟩

/-- Where nothing fails, somebody can go on until all processes are done. -/
theorem goes_on {calm : Prop} (quiet : calm)
    {c : Config ι (Shared ι) Op (fun op => Except Raised (Result op)) (Except Raised MigrationReport)}
    (sound : (fleet.discipline k).Sound (effectIf fleet calm) (fleet.ends calm) c) :
    (∀ i, ∃ value, c.running i = .done value) ∨ ∃ c', Step (effectIf fleet calm) c c' := by
  have unlocked (i : ι) (value : Except Raised MigrationReport) (done : c.running i = .done value) :
      ¬fleet.Holder i c.shared := by
    have ended := sound.post_of_done done
    cases value with
    | ok report => exact (ended.complete quiet).2.1
    | error raised => exact ended.elim
  have step {i : ι} {op : Op} {next : Except Raised (Result op) → _}
      (current : c.running i = .call op next)
      (turn : fleet.Holder i c.shared ∨ c.shared.locks fleet.key = none) :
      ∃ c', Step (effectIf fleet calm) c c' := by
    obtain ⟨value, s', moved, fine⟩ := exists_succeeds fleet (sound.needs_of_call current) turn
    have effected : effectIf fleet calm i op c.shared (.ok value) s' := ⟨moved, fun _ => fine⟩
    exact ⟨_, .call current effected⟩
  cases holder : c.shared.locks fleet.key with
  | some i =>
      cases current : c.running i with
      | done value => exact absurd holder (unlocked i value current)
      | call op next => exact .inr (step current (.inl holder))
  | none =>
      by_cases waiting : ∃ i op next, c.running i = .call op next
      · obtain ⟨i, op, next, current⟩ := waiting
        exact .inr (step current (.inr holder))
      · refine .inl fun i => ?_
        cases current : c.running i with
        | done value => exact ⟨value, rfl⟩
        | call op next => exact absurd ⟨i, op, next, current⟩ waiting

/-- Where no call fails and no file is refused, every interleaving ends, with a report of every process
that is true and without an error. -/
theorem inevitable_reported [Fintype ι] (start : fleet.Start k s) (cut : fleet.Cut)
    (apart : fleet.Apart) (welcome : fleet.Welcome) :
    Inevitable (Step (calmEffect fleet)) (fun c => fleet.Inv k c.shared ∧
      ∀ i, ∃ report, c.running i = .done (.ok report) ∧ Reported fleet i True report c.shared)
      (fleet.start s) := by
  have same : calmEffect fleet = effectIf fleet True := by
    funext i op s answer s'
    simp [effectIf, calmEffect]
  rw [same]
  have sound : (fleet.discipline k).Sound (effectIf fleet True) (fleet.ends True) (fleet.start s) :=
    sound_start start cut apart fun _ => welcome
  refine (inevitable (fun c => goes_on trivial) sound).mono fun c ⟨inv, ended⟩ => ⟨inv, fun i => ?_⟩
  obtain ⟨value, done, ends⟩ := ended i
  cases value with
  | ok report => exact ⟨report, done, ends⟩
  | error raised => exact ends.elim

/-- Where no call fails and no file is refused, every interleaving ends; every process then reports no
error, all files are applied, and the lock is free. -/
theorem migrations_inevitable [Fintype ι] [Nonempty ι] (fleet : Fleet ι) (start : fleet.Start k s)
    (cut : fleet.Cut) (apart : fleet.Apart) (welcome : fleet.Welcome) :
    Inevitable (Step (calmEffect fleet)) (fun c =>
      fleet.Holds fleet.files c.shared.committed ∧ c.shared.locks fleet.key = none ∧
      ∀ i, ∃ report : MigrationReport, c.running i = .done (.ok report) ∧ report.error = none ∧
        Truthful fleet.table fleet.checksum fleet.files i c.shared.commits report.results)
      (fleet.start s) := by
  refine (inevitable_reported start cut apart welcome).mono fun c ⟨inv, reports⟩ =>
    ⟨?_, ?_, fun i => ?_⟩
  · obtain ⟨report, -, reported⟩ := reports (Classical.arbitrary ι)
    have all : fleet.files.take (fleet.applied c.shared) = fleet.files :=
      List.take_of_length_le (reported.complete trivial).2.2
    have holds := inv.holds
    rwa [all] at holds
  · cases holder : c.shared.locks fleet.key with
    | none => rfl
    | some i =>
        obtain ⟨report, -, reported⟩ := reports i
        exact absurd holder (reported.complete trivial).2.1
  · obtain ⟨report, done, reported⟩ := reports i
    exact ⟨report, done, (reported.complete trivial).1, reported.truthful⟩

theorem migrations_inevitable_pair :
    Inevitable (Step (calmEffect Fleet.pair)) (fun c =>
      Fleet.pair.Holds Fleet.pair.files c.shared.committed ∧ c.shared.locks Fleet.pair.key = none ∧
      ∀ i, ∃ report : MigrationReport, c.running i = .done (.ok report) ∧ report.error = none ∧
        Truthful Fleet.pair.table Fleet.pair.checksum Fleet.pair.files i c.shared.commits report.results)
      (Fleet.pair.start Shared.empty) :=
  migrations_inevitable Fleet.pair start_pair cut_pair apart_pair welcome_pair

/-! ### What every interleaving keeps -/

end Interleavings

end Relq.Migrate.Postgres
