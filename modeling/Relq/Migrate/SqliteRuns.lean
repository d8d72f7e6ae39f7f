/-
Module: Relq.Migrate.SqliteRuns
Layer: Migrate
Purpose: Any number of SQLite migrators over one database, in every interleaving of their calls and with
  any of these calls failing. The database always holds a prefix of the files, each applied once, and
  what a migrator reports is true. Where nothing fails, every interleaving ends with all files applied.
Imports: Relq.Migrate.History, Relq.Migrate.SqliteMigrator
Trusted boundary: human-reviewed spec (Fleet.Start, Fleet.start, Reported)
Main exports: Fleet.discipline, achieves_apply, achieves_migrateToLatest, migrations_applied_once,
  migrations_complete
-/
import Relq.Migrate.History
import Relq.Migrate.SqliteMigrator

namespace Relq.Migrate.Sqlite

open Interleaving
open Interleaving.Discipline

/-! ### Reading the history -/

theorem historyText_read (column : String) (asBytes : Bool) (value : String) :
    historyText column (Cell.read asBytes (.text value)) = .ok value := by
  cases asBytes <;> rfl

theorem appliedFrom_rows {checksum : Migration → String} {asBytes : Bool} {files : List Migration}
    {applied : List (String × String)} :
    appliedFrom applied (files.map fun file => Row.read asBytes (file.row checksum)) =
      .ok (files.foldl (fun applied file => setItem applied file.name (checksum file)) applied) := by
  induction files generalizing applied with
  | nil => rfl
  | cons file rest ih =>
      have name : historyText "migration_name" (Row.read asBytes (file.row checksum)).migrationName =
          .ok file.name := historyText_read _ _ _
      have value : historyText "checksum" (Row.read asBytes (file.row checksum)).checksum =
          .ok (checksum file) := historyText_read _ _ _
      rw [List.map_cons, appliedFrom, value, name]
      exact ih

/-- However the database orders the rows of the first `m` files, they are read as that history. -/
theorem appliedFrom_history {checksum : Migration → String} {asBytes : Bool} {files : List Migration}
    {m : Nat} {order : List Row} (distinct : (files.map Migration.name).Nodup)
    (rows : order.Perm ((files.take m).map (Migration.row checksum))) :
    ∃ applied, appliedFrom [] (order.map (Row.read asBytes)) = .ok applied ∧
      PrefixHistory checksum files applied m := by
  obtain ⟨recorded, rfl, names, history⟩ := exists_recorded distinct rows
  refine ⟨_, ?_, history⟩
  rw [List.map_map]
  exact appliedFrom_rows.trans (congrArg Except.ok (foldl_setItem names (by simp)))

/-! ### What always holds, and what a process may rely on -/

variable {ι : Type}

/-- What a call needs so that it can be answered once no other process is in a transaction. -/
def Shared.Needs (s : Shared ι) (i : ι) (op : Op) : Prop :=
  match op with
  | .beginImmediate => s.transactions i = none
  | .createHistory _ | .execute _ | .commit | .rollback => (s.transactions i).isSome
  | .readHistory table => ((s.view i).tables table).isSome
  | .insertHistory table _ _ => (s.transactions i).isSome ∧ ((s.view i).tables table).isSome
  | _ => True

namespace Fleet

variable (fleet : Fleet ι)

/-- What a file has in effect are its statements. -/
def Statements (file : Migration) (statements : List String) : Prop :=
  statements = splitSqlStatements fleet.complete file.sql

/-- The contents hold exactly these files. -/
abbrev Holds (files : List Migration) (c : Contents) : Prop :=
  c.Holds fleet.table fleet.checksum fleet.Statements files

/-- No statement of a file is transaction control that `is_sql_empty` takes for empty; it takes
`/* /* */ COMMIT -- */` for a comment, which SQLite ends at the first `*/`. -/
def BlankPlain : Prop :=
  ∀ file ∈ fleet.files, ∀ statement ∈ splitSqlStatements fleet.complete file.sql,
    isSqlEmpty statement = true → fleet.control statement = false

/-- No statement of a file changes the history table. -/
def Apart : Prop :=
  ∀ file ∈ fleet.files, ∀ statement ∈ splitSqlStatements fleet.complete file.sql,
    fleet.touches statement = false

/-- The number of files in the history. -/
def applied (s : Shared ι) : Nat :=
  (s.committed.rows fleet.table).length

def present (s : Shared ι) : Prop :=
  (s.committed.tables fleet.table).isSome

/-- A process is in a transaction alone, and the database holds a prefix of the files, of which it held
the first `k` at the start. -/
structure Inv (k : Nat) (s : Shared ι) : Prop where
  lone : ∀ i j, (s.transactions i).isSome → (s.transactions j).isSome → i = j
  within : fleet.applied s ≤ fleet.files.length
  holds : fleet.Holds (fleet.files.take (fleet.applied s)) s.committed
  inserted : s.committed.rows fleet.table =
    (fleet.files.take k).map (Migration.row fleet.checksum) ++ insertedBy fleet.table s.commits

/-- What other processes leave to process `i`: its connection, what is applied, and while it is in a
transaction the database as a whole. -/
structure Leaves (i : ι) (s s' : Shared ι) : Prop where
  transaction : s'.transactions i = s.transactions i
  pragmas : s'.pragmas i = s.pragmas i
  grows : Grows i s.commits s'.commits
  applied : fleet.applied s ≤ fleet.applied s'
  present : fleet.present s → fleet.present s'
  locked : (s.transactions i).isSome → s'.committed = s.committed ∧ s'.commits = s.commits

variable {fleet}

theorem Leaves.refl (i : ι) (s : Shared ι) : fleet.Leaves i s s where
  transaction := rfl
  pragmas := rfl
  grows := .refl i _
  applied := Nat.le_refl _
  present := id
  locked _ := ⟨rfl, rfl⟩

theorem Leaves.trans {i : ι} {s s' s'' : Shared ι} (first : fleet.Leaves i s s')
    (then_ : fleet.Leaves i s' s'') : fleet.Leaves i s s'' where
  transaction := then_.transaction.trans first.transaction
  pragmas := then_.pragmas.trans first.pragmas
  grows := first.grows.trans then_.grows
  applied := first.applied.trans then_.applied
  present := then_.present ∘ first.present
  locked inside := by
    obtain ⟨committed, commits⟩ := first.locked inside
    obtain ⟨committed', commits'⟩ := then_.locked (first.transaction ▸ inside)
    exact ⟨committed'.trans committed, commits'.trans commits⟩

variable (fleet)

def discipline (k : Nat) : Discipline ι (Shared ι) Op where
  inv := fleet.Inv k
  rely := fleet.Leaves
  needs i op s := s.Needs i op
  rely_refl := Leaves.refl
  rely_trans _ _ _ _ := Leaves.trans

end Fleet

/-! ### Assertions -/

section Assertions

variable (fleet : Fleet ι) (i : ι)

/-- The process is in no transaction; the first `n` files are applied and `results` is true of it. -/
structure Standing (n : Nat) (results : List MigrationResult) (s : Shared ι) : Prop where
  idle : s.transactions i = none
  present : fleet.present s
  reached : n ≤ fleet.applied s
  truthful : Truthful fleet.table fleet.checksum fleet.files i s.commits results

/-- The process has done `actions` in a transaction that began in `opening`. -/
structure Inside (opening : Shared ι) (actions : List Migrate.Action) (s : Shared ι) : Prop where
  transaction : s.transactions i = some actions
  committed : s.committed = opening.committed
  commits : s.commits = opening.commits

/-- Something has failed, and `results` is true of the process. -/
structure Failed (calm : Prop) (results : List MigrationResult) (s : Shared ι) : Prop where
  stormy : ¬calm
  truthful : Truthful fleet.table fleet.checksum fleet.files i s.commits results

variable {fleet i} {k n : Nat} {results : List MigrationResult}

theorem stable_idle : (fleet.discipline k).Stable i fun s => s.transactions i = none :=
  fun _ _ idle between _ => between.transaction.trans idle

theorem stable_pragma {pragma : Pragma} {value : Int} :
    (fleet.discipline k).Stable i fun s => s.pragmas i pragma = value :=
  fun _ _ set between _ => (congrFun between.pragmas pragma).trans set

theorem stable_inside {opening : Shared ι} {actions : List Migrate.Action} :
    (fleet.discipline k).Stable i (Inside i opening actions) := by
  intro s s' inside between _
  obtain ⟨committed, commits⟩ := between.locked (by simp [inside.transaction])
  exact ⟨between.transaction.trans inside.transaction, committed.trans inside.committed,
    commits.trans inside.commits⟩

variable [DecidableEq ι]

theorem stable_truthful : (fleet.discipline k).Stable i fun s =>
    Truthful fleet.table fleet.checksum fleet.files i s.commits results :=
  fun _ _ truthful between _ => truthful.grows between.grows

theorem stable_standing : (fleet.discipline k).Stable i (Standing fleet i n results) :=
  fun _ _ standing between _ =>
    { idle := between.transaction.trans standing.idle
      present := between.present standing.present
      reached := standing.reached.trans between.applied
      truthful := standing.truthful.grows between.grows }

theorem stable_failed {calm : Prop} : (fleet.discipline k).Stable i (Failed fleet i calm results) :=
  fun _ _ failed between _ => ⟨failed.stormy, failed.truthful.grows between.grows⟩

end Assertions

/-! ### What calls do to the others -/

section Calls

variable [DecidableEq ι] {fleet : Fleet ι} {i : ι} {k : Nat} {s s' : Shared ι}

/-- A call that touches only the connection of the process. -/
theorem permits_own (inv : fleet.Inv k s) (committed : s'.committed = s.committed)
    (commits : s'.commits = s.commits)
    (others : ∀ j, j ≠ i → s'.transactions j = s.transactions j ∧ s'.pragmas j = s.pragmas j)
    (alone : (s'.transactions i).isSome → (s.transactions i).isSome ∨ ∀ j, s.transactions j = none) :
    (fleet.discipline k).Permits i s s' := by
  have applied : fleet.applied s' = fleet.applied s := by rw [Fleet.applied, committed, Fleet.applied]
  have apart : (s'.transactions i).isSome → ∀ j, j ≠ i → (s.transactions j).isSome → False := by
    intro inside j other inside'
    rcases alone inside with before | idle
    · exact other (inv.lone j i inside' before)
    · rw [idle j] at inside'
      cases inside'
  refine ⟨⟨fun a b insideA insideB => ?_, ?_, ?_, ?_⟩, fun j other => ?_⟩
  · by_cases ownA : a = i
    · by_cases ownB : b = i
      · rw [ownA, ownB]
      · rw [(others b ownB).1] at insideB
        exact (apart (ownA ▸ insideA) b ownB insideB).elim
    · rw [(others a ownA).1] at insideA
      by_cases ownB : b = i
      · exact (apart (ownB ▸ insideB) a ownA insideA).elim
      · rw [(others b ownB).1] at insideB
        exact inv.lone a b insideA insideB
  · rw [applied]
    exact inv.within
  · rw [applied, committed]
    exact inv.holds
  · rw [committed, commits]
    exact inv.inserted
  · exact
      { transaction := (others j other).1
        pragmas := (others j other).2
        grows := commits ▸ .refl j _
        applied := applied.ge
        present := by rw [Fleet.present, Fleet.present, committed]; exact id
        locked := fun _ => ⟨committed, commits⟩ }

theorem permits_refl (inv : fleet.Inv k s) : (fleet.discipline k).Permits i s s :=
  permits_own inv rfl rfl (fun _ _ => ⟨rfl, rfl⟩) .inl

theorem permits_withTransaction (inv : fleet.Inv k s) {transaction : Option (List Migrate.Action)}
    (alone : transaction.isSome → (s.transactions i).isSome ∨ ∀ j, s.transactions j = none) :
    (fleet.discipline k).Permits i s (s.withTransaction i transaction) := by
  refine permits_own inv rfl rfl (fun j other => ⟨?_, rfl⟩) fun inside => alone ?_
  · exact Function.update_of_ne other _ _
  · simpa [Shared.withTransaction] using inside

theorem permits_withPragma (inv : fleet.Inv k s) (pragma : Pragma) (value : Int) :
    (fleet.discipline k).Permits i s (s.withPragma i pragma value) :=
  permits_own inv rfl rfl (fun _ other => ⟨rfl, Function.update_of_ne other _ _⟩) .inl

omit [DecidableEq ι] in
theorem plain_iff {statement : String} :
    fleet.plain statement = true ↔
      fleet.control statement = false ∧ fleet.touches statement = false := by
  simp [Fleet.plain]

/-- A call that fails, and is no statement but a plain one, touches only the transaction. -/
theorem permits_failed {op : Op} (inv : fleet.Inv k s) (failed : fails fleet i s op s')
    (harmless : ∀ statement, op = .execute statement → fleet.plain statement = true) :
    (fleet.discipline k).Permits i s s' ∧ s'.commits = s.commits := by
  have undone : s.Undoes i s' → (fleet.discipline k).Permits i s s' ∧ s'.commits = s.commits := by
    rintro (rfl | rfl)
    · exact ⟨permits_refl inv, rfl⟩
    · exact ⟨permits_withTransaction inv (by simp), rfl⟩
  cases op with
  | migrations | beginImmediate =>
      obtain rfl : s' = s := failed
      exact ⟨permits_refl inv, rfl⟩
  | inTransaction => exact failed.elim
  | pragma pragma => exact undone failed.2
  | setPragma pragma value => exact undone failed.2
  | execute statement =>
      obtain ⟨uncontrolled, untouched⟩ := plain_iff.mp (harmless statement rfl)
      rcases failed untouched with failed | ⟨control, -⟩
      · exact undone failed
      · rw [uncontrolled] at control
        cases control
  | createHistory table => exact undone failed
  | readHistory table => exact undone failed
  | explain statement => exact undone failed
  | insertHistory table name checksum => exact undone failed
  | foreignKeyCheck => exact undone failed
  | commit => exact undone failed
  | rollback => exact undone failed

/-- COMMIT of a transaction after which the database holds the first `m` files. -/
theorem permits_publish {actions : List Migrate.Action} {m : Nat} (inv : fleet.Inv k s)
    (inside : s.transactions i = some actions) (more : fleet.applied s ≤ m)
    (within : m ≤ fleet.files.length)
    (holds : fleet.Holds (fleet.files.take m) (s.committed.runAll actions))
    (inserted : (s.committed.runAll actions).rows fleet.table =
      s.committed.rows fleet.table ++ insertedRows fleet.table actions)
    (present : ((s.committed.runAll actions).tables fleet.table).isSome) :
    (fleet.discipline k).Permits i s ((s.publish i actions).withTransaction i none) := by
  have applied : fleet.applied ((s.publish i actions).withTransaction i none) = m := by
    change ((s.committed.runAll actions).rows fleet.table).length = m
    rw [holds.history, List.length_map, List.length_take, Nat.min_eq_left within]
  have idle : ∀ j, j ≠ i → s.transactions j = none := by
    intro j other
    by_contra inside'
    exact other (inv.lone j i (Option.isSome_iff_ne_none.mpr inside') (by simp [inside]))
  have none_ : ∀ j, ((s.publish i actions).withTransaction i none).transactions j = none := by
    intro j
    by_cases own : j = i
    · rw [own]
      exact Function.update_self _ _ _
    · exact (Function.update_of_ne own _ _).trans (idle j own)
  refine ⟨⟨fun a b insideA => ?_, ?_, ?_, ?_⟩, fun j other => ?_⟩
  · rw [none_ a] at insideA
    cases insideA
  · rw [applied]
    exact within
  · rw [applied]
    exact holds
  · change (s.committed.runAll actions).rows fleet.table = _ ++ insertedBy fleet.table (s.commits ++ _)
    rw [inserted, inv.inserted, insertedBy_append, List.append_assoc]
  · exact
      { transaction := (none_ j).trans (idle j other).symm
        pragmas := rfl
        grows := ⟨[⟨i, actions⟩], rfl, by simpa using other.symm⟩
        applied := applied ▸ more
        present := fun _ => present
        locked := fun inside' => absurd (idle j other) (Option.isSome_iff_ne_none.mp inside') }

end Calls

/-! ### Calls between assertions -/

/-- Calls may fail, or may not where everything is calm. -/
def effectIf [DecidableEq ι] (fleet : Fleet ι) (calm : Prop) :
    Effect ι (Shared ι) Op fun op => Except Raised (Result op) :=
  fun i op s answer s' => effect fleet i op s answer s' ∧ (calm → Calm op answer)

section Achieving

variable [DecidableEq ι] {fleet : Fleet ι} {i : ι} {k n : Nat} {calm : Prop}
  {results : List MigrationResult}

/-- The program, run by process `i`, goes from `P` to `returns` or fails with `results` reported. -/
abbrev Fleet.Achieves (fleet : Fleet ι) (k : Nat) (calm : Prop) (i : ι) {α : Type}
    (P : Shared ι → Prop) (p : Action α) (returns : α → Shared ι → Prop)
    (results : List MigrationResult) : Prop :=
  (fleet.discipline k).Achieves (effectIf fleet calm) i P p returns fun _ =>
    Failed fleet i calm results

theorem achieves_op {op : Op} {P : Shared ι → Prop} {returns : Result op → Shared ι → Prop}
    (waiting : (fleet.discipline k).Stable i P)
    (returned : ∀ value, (fleet.discipline k).Stable i (returns value))
    (truthful : ∀ s, P s →
      Truthful fleet.table fleet.checksum fleet.files i s.commits results)
    (needed : ∀ s, P s → s.Needs i op)
    (succeeded : ∀ s value s', fleet.Inv k s → P s → succeeds fleet i s op value s' →
      (calm → Calm op (.ok value)) → (fleet.discipline k).Permits i s s' ∧ returns value s')
    (harmless : ∀ statement, op = .execute statement → fleet.plain statement = true) :
    fleet.Achieves k calm i P (call op) returns results := by
  refine achieves_call waiting returned (fun _ => stable_failed) (fun s _ => needed s)
    (fun s value s' inv here moved => succeeded s value s' inv here moved.1 moved.2)
    fun s raised s' inv here moved => ?_
  obtain ⟨permitted, commits⟩ := permits_failed inv moved.1 harmless
  refine ⟨permitted, fun holds => ?_, commits ▸ truthful s here⟩
  have impossible : False := by simpa [Calm] using moved.2 holds
  exact impossible

/-- A call that changes nothing. -/
theorem achieves_look {op : Op} {P : Shared ι → Prop} {φ : Result op → Prop}
    (waiting : (fleet.discipline k).Stable i P)
    (truthful : ∀ s, P s →
      Truthful fleet.table fleet.checksum fleet.files i s.commits results)
    (needed : ∀ s, P s → s.Needs i op)
    (succeeded : ∀ s value s', P s → succeeds fleet i s op value s' →
      (calm → Calm op (.ok value)) → s' = s ∧ φ value)
    (harmless : ∀ statement, op = .execute statement → fleet.plain statement = true) :
    fleet.Achieves k calm i P (call op) (fun value s => φ value ∧ P s) results := by
  refine achieves_op waiting (fun value => (stable_const _).and waiting) truthful needed
    (fun s value s' inv here moved quiet => ?_) harmless
  obtain ⟨rfl, fact⟩ := succeeded s value s' here moved quiet
  exact ⟨permits_refl inv, fact, here⟩

/-! ### The calls of a transaction -/

theorem achieves_begin {P : Shared ι → Prop} (waiting : (fleet.discipline k).Stable i P)
    (idle : ∀ s, P s → s.transactions i = none)
    (truthful : ∀ s, P s → Truthful fleet.table fleet.checksum fleet.files i s.commits results) :
    fleet.Achieves k calm i P (call .beginImmediate)
      (fun _ s => ∃ opening, (fleet.Inv k opening ∧ P opening) ∧ Inside i opening [] s) results := by
  refine achieves_op waiting (fun _ => stable_exists fun _ => (stable_const _).and stable_inside)
    truthful idle (fun s _ s' inv here moved _ => ?_) (by simp)
  obtain ⟨free, rfl⟩ := moved
  exact ⟨permits_withTransaction inv fun _ => .inr free, s, ⟨inv, here⟩,
    Function.update_self _ _ _, rfl, rfl⟩

variable {opening : Shared ι} {actions : List Migrate.Action}

omit [DecidableEq ι] in
theorem Inside.view {s : Shared ι} (inside : Inside i opening actions s) :
    s.view i = opening.committed.runAll actions := by
  rw [Shared.view, inside.transaction, inside.committed, Option.getD_some]

section Within

variable (truthful : Truthful fleet.table fleet.checksum fleet.files i opening.commits results)

include truthful

omit [DecidableEq ι] in
theorem truthful_inside (s : Shared ι) (inside : Inside i opening actions s) :
    Truthful fleet.table fleet.checksum fleet.files i s.commits results :=
  inside.commits ▸ truthful

/-- A statement that writes adds an action to the transaction. -/
theorem achieves_write {op : Op} {action : Migrate.Action}
    (needed : ∀ s, Inside i opening actions s → s.Needs i op)
    (writes : ∀ s value s', Inside i opening actions s → succeeds fleet i s op value s' →
      s.Writes i action s')
    (harmless : ∀ statement, op = .execute statement → fleet.plain statement = true) :
    fleet.Achieves k calm i (Inside i opening actions) (call op)
      (fun _ => Inside i opening (actions ++ [action])) results := by
  refine achieves_op stable_inside (fun _ => stable_inside) (truthful_inside truthful) needed
    (fun s value s' inv inside moved _ => ?_) harmless
  have written := writes s value s' inside moved
  rw [Shared.Writes, inside.transaction] at written
  subst written
  have open_ : (s.transactions i).isSome := by simp [inside.transaction]
  exact ⟨permits_withTransaction inv fun _ => .inl open_, Function.update_self _ _ _,
    inside.committed, inside.commits⟩

theorem achieves_readApplied {m : Nat}
    (viewed : (opening.committed.runAll actions).tables fleet.table =
      some ((fleet.files.take m).map (Migration.row fleet.checksum))) :
    fleet.Achieves k calm i (Inside i opening actions) (fleet.migrator i).readApplied
      (fun applied s => PrefixHistory fleet.checksum fleet.files applied m ∧
        Inside i opening actions s) results := by
  have look : fleet.Achieves k calm i (Inside i opening actions) (call (.readHistory fleet.table))
      (fun rows s => (∃ applied, appliedFrom [] rows = .ok applied ∧
        PrefixHistory fleet.checksum fleet.files applied m) ∧ Inside i opening actions s) results := by
    refine achieves_look stable_inside (truthful_inside truthful) (fun s inside => ?_)
      (fun s rows s' inside moved _ => ?_) (by simp)
    · rw [Shared.Needs, inside.view, viewed]
      rfl
    · obtain ⟨rfl, stored, found, order, perm, rfl⟩ := moved
      rw [inside.view, viewed, Option.some.injEq] at found
      subst found
      exact ⟨rfl, appliedFrom_history fleet.distinct perm⟩
  refine look.bind (fun _ => stable_failed) fun rows => achieves_given fun read => ?_
  obtain ⟨applied, read, history⟩ := read
  rw [read]
  exact achieves_pure ((stable_const _).and stable_inside) fun s _ inside => ⟨history, inside⟩

omit truthful in
/-- A history of the first `m` files leaves the others pending. -/
theorem achieves_pending {m : Nat} {applied : List (String × String)}
    (history : PrefixHistory fleet.checksum fleet.files applied m) (within : m ≤ fleet.files.length) :
    fleet.Achieves k calm i (Inside i opening actions)
      (checking (pendingMigrations (fleet.migrator i).checksum fleet.files applied))
      (fun pending s => pending = fleet.files.drop m ∧ Inside i opening actions s) results := by
  have left : pendingMigrations (fleet.migrator i).checksum fleet.files applied =
      .ok (fleet.files.drop m) := history.pendingMigrations_eq fleet.distinct within
  rw [left]
  exact achieves_pure ((stable_const _).and stable_inside) fun s _ inside => ⟨rfl, inside⟩

/-- COMMIT of what makes the database hold the first `m` files. -/
theorem achieves_commit {m : Nat} {results' : List MigrationResult}
    (more : fleet.applied opening ≤ m) (within : m ≤ fleet.files.length)
    (holds : fleet.Holds (fleet.files.take m) (opening.committed.runAll actions))
    (inserted : (opening.committed.runAll actions).rows fleet.table =
      opening.committed.rows fleet.table ++ insertedRows fleet.table actions)
    (present : ((opening.committed.runAll actions).tables fleet.table).isSome)
    (reached : n ≤ m)
    (reports : Truthful fleet.table fleet.checksum fleet.files i
      (opening.commits ++ [⟨i, actions⟩]) results') :
    fleet.Achieves k calm i (Inside i opening actions) (call .commit)
      (fun _ => Standing fleet i n results') results := by
  refine achieves_op stable_inside (fun _ => stable_standing) (truthful_inside truthful)
    (fun s inside => by simp [Shared.Needs, inside.transaction])
    (fun s _ s' inv inside moved _ => ?_) (by simp)
  rw [succeeds, inside.transaction] at moved
  dsimp only at moved
  have same : fleet.applied s = fleet.applied opening := by
    rw [Fleet.applied, inside.committed, Fleet.applied]
  have contents : s.committed.runAll actions = opening.committed.runAll actions := by
    rw [inside.committed]
  have count : fleet.applied s' = m := by
    rw [moved]
    change ((s.committed.runAll actions).rows fleet.table).length = m
    rw [contents, holds.history, List.length_map, List.length_take, Nat.min_eq_left within]
  refine ⟨?_, ?_, ?_, reached.trans count.ge, ?_⟩
  · rw [moved]
    refine permits_publish inv inside.transaction (same ▸ more) within ?_ ?_ ?_
    · rwa [contents]
    · rwa [contents, inside.committed]
    · rwa [contents]
  · rw [moved]
    exact Function.update_self _ _ _
  · rw [moved]
    change ((s.committed.runAll actions).tables fleet.table).isSome
    rwa [contents]
  · rw [moved]
    change Truthful _ _ _ i (s.commits ++ [⟨i, actions⟩]) results'
    rwa [inside.commits]

end Within

/-! ### The statements of a file -/

section Statements

variable (truthful : Truthful fleet.table fleet.checksum fleet.files i opening.commits results)

include truthful

/-- The process is in a transaction. -/
theorem achieves_inTransaction :
    fleet.Achieves k calm i (Inside i opening actions) (call .inTransaction)
      (fun answer s => answer = true ∧ Inside i opening actions s) results := by
  refine achieves_look stable_inside (truthful_inside truthful) (fun _ _ => trivial)
    (fun s answer s' inside moved _ => ?_) (by simp)
  obtain ⟨rfl, rfl⟩ := moved
  exact ⟨rfl, by simp [inside.transaction]⟩

theorem achieves_isTransactionControl {statement : String}
    (blank : isSqlEmpty statement = true → fleet.control statement = false) :
    fleet.Achieves k calm i (Inside i opening actions) (Migrator.isTransactionControl statement)
      (fun answer s => answer = fleet.control statement ∧ Inside i opening actions s) results := by
  rw [Migrator.isTransactionControl]
  split
  · rename_i empty
    exact achieves_pure ((stable_const _).and stable_inside) fun s _ inside =>
      ⟨(blank empty).symm, inside⟩
  · have explained : fleet.Achieves k calm i (Inside i opening actions) (call (.explain statement))
        (fun rows s => List.any rows namesControl = fleet.control statement ∧
          Inside i opening actions s) results :=
      achieves_look stable_inside (truthful_inside truthful) (fun _ _ => trivial)
        (fun s rows s' _ moved _ => ⟨moved.2, moved.1⟩) (by simp)
    refine explained.bind (fun _ => stable_failed) fun rows => ?_
    exact achieves_pure ((stable_const _).and stable_inside) fun s _ here => here

/-- The statements are executed in order, or one of them fails or is transaction control. -/
theorem achieves_executeAll (name : String) (statements : List String)
    (blank : ∀ statement ∈ statements, isSqlEmpty statement = true → fleet.control statement = false)
    (apart : ∀ statement ∈ statements, fleet.touches statement = false)
    (plain : calm → ∀ statement ∈ statements, fleet.control statement = false) :
    fleet.Achieves k calm i (Inside i opening actions) (Migrator.executeAll name statements)
      (fun _ => Inside i opening (actions ++ statements.map .script)) results := by
  induction statements generalizing actions with
  | nil =>
      rw [Migrator.executeAll]
      refine achieves_pure stable_inside fun s _ inside => ?_
      simpa using inside
  | cons statement rest ih =>
      rw [Migrator.executeAll]
      obtain ⟨blank, blankLater⟩ := List.forall_mem_cons.mp blank
      obtain ⟨untouched, apartLater⟩ := List.forall_mem_cons.mp apart
      refine (achieves_isTransactionControl truthful blank).bind (fun _ => stable_failed) fun answer =>
        achieves_given fun known => ?_
      subst known
      split
      · rename_i control
        refine achieves_throw stable_failed fun s _ inside =>
          ⟨fun quiet => ?_, truthful_inside truthful s inside⟩
        rw [plain quiet statement List.mem_cons_self] at control
        cases control
      · rename_i plainly
        have uncontrolled : fleet.control statement = false := by simpa using plainly
        have executed : fleet.Achieves k calm i (Inside i opening actions) (call (.execute statement))
            (fun _ => Inside i opening (actions ++ [.script statement])) results := by
          refine achieves_write truthful (fun s inside => ?_) (fun s _ s' _ moved => ?_)
            fun other same => ?_
          · simp [Shared.Needs, inside.transaction]
          · simpa [uncontrolled] using moved untouched
          · rw [← Op.execute.inj same]
            exact plain_iff.mpr ⟨uncontrolled, untouched⟩
        refine executed.bind (fun _ => stable_failed) fun _ => ?_
        refine (achieves_inTransaction truthful).bind (fun _ => stable_failed) fun answer =>
          achieves_given fun inside => ?_
        rw [if_pos inside]
        have onward : fleet.Achieves k calm i (Inside i opening (actions ++ [.script statement]))
            (Migrator.executeAll name rest)
            (fun _ => Inside i opening (actions ++ [.script statement] ++ rest.map .script)) results :=
          ih blankLater apartLater fun quiet other member =>
            plain quiet other (List.mem_cons_of_mem _ member)
        simpa using onward

end Statements

/-- The violations of foreign keys that a file leaves make it fail. -/
theorem achieves_checkForeignKeys
    (truthful : Truthful fleet.table fleet.checksum fleet.files i opening.commits results)
    (name : String) :
    fleet.Achieves k calm i (Inside i opening actions) (Migrator.checkForeignKeys name)
      (fun _ => Inside i opening actions) results := by
  rw [Migrator.checkForeignKeys]
  have checked : fleet.Achieves k calm i (Inside i opening actions) (call .foreignKeyCheck)
      (fun violations s => (calm → (violations : List String) = []) ∧ Inside i opening actions s)
      results :=
    achieves_look stable_inside (truthful_inside truthful) (fun _ _ => trivial)
      (fun s violations s' _ moved quiet => ⟨moved, quiet⟩) (by simp)
  refine checked.bind (fun _ => stable_failed) fun violations => achieves_given fun quiet => ?_
  cases violations with
  | nil => exact achieves_pure stable_inside fun s _ inside => inside
  | cons first others =>
      refine achieves_throw stable_failed fun s _ inside =>
        ⟨fun holds => ?_, truthful_inside truthful s inside⟩
      cases quiet holds

/-! ### One file -/

section File

variable {file : Migration} {later : List Migration}

omit [DecidableEq ι] in
theorem fresh_name (split : fleet.files.drop n = file :: later) {m : Nat} (within : m ≤ n) :
    file.name ∉ (fleet.files.take m).map Migration.name := by
  have whole : ((fleet.files.take n ++ file :: later).map Migration.name).Nodup := by
    rw [← split, List.take_append_drop]
    exact fleet.distinct
  rw [List.map_append, List.nodup_append'] at whole
  intro early
  have sub : (fleet.files.take m).map Migration.name ⊆ (fleet.files.take n).map Migration.name :=
    List.map_subset _ (List.take_sublist_take_left within).subset
  exact whole.2.2 (sub early) (List.mem_map_of_mem List.mem_cons_self)

variable (split : fleet.files.drop n = file :: later)
  (reported : ∀ result ∈ results, ∃ other ∈ fleet.files.take n, other.name = result.migrationName)

include split reported

/-- A file that the history has and that the process did not report was committed by a peer. -/
theorem peer_of_applied {s : Shared ι} (inv : fleet.Inv k s) (standing : Standing fleet i n results s)
    (begun : k ≤ n) (recorded : n < fleet.applied s) :
    ∃ j, j ≠ i ∧ CommittedBy fleet.table fleet.checksum s.commits j file := by
  have member : file ∈ fleet.files.take (fleet.applied s) := by
    have early : file ∈ fleet.files.take (n + 1) := by simp [take_next split]
    exact (List.take_sublist_take_left recorded).subset early
  have stored : file.row fleet.checksum ∈ s.committed.rows fleet.table := by
    rw [inv.holds.history]
    exact List.mem_map_of_mem member
  rw [inv.inserted, List.mem_append] at stored
  refine exists_peer (stored.resolve_left fun old => ?_) fun own => ?_
  · obtain ⟨other, early, same⟩ := List.mem_map.mp old
    exact fresh_name split begun (Migration.row_name same ▸ List.mem_map_of_mem early)
  · obtain ⟨result, listed, name, -⟩ :=
      (standing.truthful.success file (List.mem_of_mem_take member)).mpr (committedBy_iff.mpr own)
    obtain ⟨other, early, same⟩ := reported result listed
    exact fresh_name split (Nat.le_refl n) ((same.trans name) ▸ List.mem_map_of_mem early)

omit reported [DecidableEq ι] in
/-- The transaction of the next file. -/
theorem Inside.next_holds {s : Shared ι} (inv : fleet.Inv k s) (next : fleet.applied s = n)
    (present : fleet.present s) {statements : List String}
    (own : statements = splitSqlStatements fleet.complete file.sql) :
    fleet.Holds (fleet.files.take (n + 1)) (s.committed.runAll
      (statements.map .script ++ [.insert fleet.table (file.row fleet.checksum)])) := by
  rw [take_next split]
  exact (next ▸ inv.holds).next present own

variable (blank : fleet.BlankPlain) (apart : fleet.Apart)
  (plain : calm → ∀ file ∈ fleet.files, ∀ statement ∈ splitSqlStatements fleet.complete file.sql,
    fleet.control statement = false)
  (begun : k ≤ n)

include blank apart plain begun

/-- `_apply` inside `try`: the file is applied once this returns, by a peer or by the process itself. -/
theorem achieves_applyFile :
    fleet.Achieves k calm i (Standing fleet i n results)
      ((fleet.migrator i).applyFile file fleet.files)
      (fun executed => Standing fleet i (n + 1)
        (results ++ [⟨file.name, if executed then .success else .notExecuted, none⟩])) results := by
  have inFiles := mem_next split
  rw [Migrator.applyFile]
  refine (achieves_begin stable_standing (fun s standing => standing.idle)
    fun s standing => standing.truthful).bind (fun _ => stable_failed) fun _ => ?_
  refine achieves_exists fun opening => achieves_given fun ⟨inv, standing⟩ => ?_
  have truthful := standing.truthful
  obtain ⟨rows, stored⟩ := Option.isSome_iff_exists.mp standing.present
  have history := inv.holds.history
  rw [Contents.rows, stored, Option.getD_some] at history
  have read : fleet.Achieves k calm i (Inside i opening []) (fleet.migrator i).readApplied
      (fun applied s => PrefixHistory fleet.checksum fleet.files applied (fleet.applied opening) ∧
        Inside i opening [] s) results :=
    achieves_readApplied truthful (stored.trans (congrArg some history))
  refine read.bind (fun _ => stable_failed) fun applied => achieves_given fun prefix_ => ?_
  refine (achieves_pending prefix_ inv.within).bind (fun _ => stable_failed) fun pendingNow =>
    achieves_given fun same => ?_
  subst same
  split
  · -- A peer was first.
    rename_i recorded
    have early := (prefix_.names file.name).mp (isApplied_iff.mp recorded)
    have behind : n < fleet.applied opening := by
      by_contra beyond
      exact fresh_name split (Nat.le_of_not_lt beyond) early
    obtain ⟨j, other, committed⟩ := peer_of_applied split reported inv standing begun behind
    have kept : CommittedBy fleet.table fleet.checksum (opening.commits ++ [⟨i, []⟩]) j file := by
      obtain ⟨commit, listed, rest⟩ := committed
      exact ⟨commit, List.mem_append_left _ listed, rest⟩
    have committed : fleet.Achieves k calm i (Inside i opening []) Migrator.commit
        (fun _ => Standing fleet i (n + 1) (results ++ [⟨file.name, .notExecuted, none⟩])) results := by
      refine achieves_commit truthful (Nat.le_refl (fleet.applied opening)) inv.within inv.holds ?_
        standing.present behind ((truthful.committedNothing rfl).byPeer inFiles other kept)
      simp [insertedRows, Contents.runAll]
    exact committed.bind (fun _ => stable_failed) fun _ =>
      achieves_pure stable_standing fun s _ done => by simpa using done
  · -- The file is the next one.
    rename_i pending
    have last : fleet.applied opening = n := by
      refine Nat.le_antisymm (Nat.le_of_not_lt fun behind => pending ?_) standing.reached
      refine isApplied_iff.mpr ((prefix_.names file.name).mpr (List.mem_map_of_mem ?_))
      exact (List.take_sublist_take_left behind).subset (by simp [take_next split])
    have next : (fleet.files.drop (fleet.applied opening)).head?.map Migration.name =
        some file.name := by
      rw [last, split, List.head?_cons, Option.map_some]
    rw [if_neg (fun differs => differs next)]
    refine (achieves_executeAll truthful file.name (splitSqlStatements fleet.complete file.sql)
      (blank file inFiles) (apart file inFiles) fun quiet => plain quiet file inFiles).bind
        (fun _ => stable_failed) fun _ => ?_
    rw [List.nil_append]
    have inserted : fleet.Achieves k calm i (Inside i opening
          ((splitSqlStatements fleet.complete file.sql).map .script))
        (call (.insertHistory fleet.table file.name (fleet.checksum file)))
        (fun _ => Inside i opening ((splitSqlStatements fleet.complete file.sql).map .script ++
          [.insert fleet.table (file.row fleet.checksum)])) results := by
      refine achieves_write truthful (fun s inside => ⟨?_, ?_⟩) (fun s _ s' _ moved => moved.2)
        (by simp)
      · simp [inside.transaction]
      · rw [inside.view, Contents.runAll_scripts]
        exact standing.present
    refine inserted.bind (fun _ => stable_failed) fun _ => ?_
    have holds := Inside.next_holds split inv last standing.present rfl
    have own : insertedRows fleet.table ((splitSqlStatements fleet.complete file.sql).map .script ++
        [.insert fleet.table (file.row fleet.checksum)]) = [file.row fleet.checksum] := by
      simp [insertedRows, List.filterMap_map]
    have committed : fleet.Achieves k calm i (Inside i opening
          ((splitSqlStatements fleet.complete file.sql).map .script ++
            [.insert fleet.table (file.row fleet.checksum)]))
        (do Migrator.commit; pure true)
        (fun executed => Standing fleet i (n + 1)
          (results ++ [⟨file.name, if executed then .success else .notExecuted, none⟩])) results := by
      rw [Migrator.commit]
      refine (achieves_commit truthful (n := n + 1) (by omega) (lt_length split) holds ?_ ?_
        (Nat.le_refl _) (truthful.applied fleet.distinct inFiles own)).bind (fun _ => stable_failed)
          fun _ => achieves_pure stable_standing fun s _ done => ?_
      · rw [own, holds.history, take_next split, List.map_append, ← last, inv.holds.history]
        rfl
      · rw [Contents.runAll_append, Contents.runAll_scripts]
        simp [Contents.runAll, Contents.run, stored]
      · simpa using done
    split
    · exact committed
    · exact (achieves_checkForeignKeys truthful file.name).bind (fun _ => stable_failed)
        fun _ => committed

end File

/-! ### Outside transactions, and after failures -/

section Outside

variable {P : Shared ι → Prop} {raises : Raised → Shared ι → Prop}
  (waiting : (fleet.discipline k).Stable i P) (idle : ∀ s, P s → s.transactions i = none)
  (raised : ∀ e, (fleet.discipline k).Stable i (raises e))

include waiting idle raised

/-- Outside transactions the pragmas can be read and set. -/
theorem achieves_pragma {pragma : Pragma} {φ : Int → Prop}
    (known : ∀ s, P s → φ (s.pragmas i pragma)) :
    (fleet.discipline k).Achieves (effectIf fleet calm) i P (call (.pragma pragma))
      (fun value s => φ value ∧ P s) raises := by
  refine achieves_call waiting (fun value => (stable_const _).and waiting) raised (fun _ _ _ => trivial)
    (fun s value s' inv here moved => ?_) fun s e s' _ here moved => ?_
  · obtain ⟨rfl, rfl⟩ := moved.1
    exact ⟨permits_refl inv, known _ here, here⟩
  · have busy : (s.transactions i).isSome := moved.1.1
    rw [idle s here] at busy
    cases busy

theorem achieves_setPragma {pragma : Pragma} {value : Int}
    (kept : ∀ s, P s → P (s.withPragma i pragma value)) :
    (fleet.discipline k).Achieves (effectIf fleet calm) i P (call (.setPragma pragma value))
      (fun _ s => s.pragmas i pragma = value ∧ P s) raises := by
  refine achieves_call waiting (fun _ => stable_pragma.and waiting) raised (fun _ _ _ => trivial)
    (fun s _ s' inv here moved => ?_) fun s e s' _ here moved => ?_
  · obtain rfl : s' = s.withPragma i pragma value := by
      simpa [effect, succeeds, idle s here] using moved.1
    refine ⟨permits_withPragma inv pragma value, ?_, kept s here⟩
    simp [Shared.withPragma]
  · have busy : (s.transactions i).isSome := moved.1.1
    rw [idle s here] at busy
    cases busy

variable (kept : ∀ s pragma value, P s → P (s.withPragma i pragma value))

include kept

theorem achieves_disableForeignKeys :
    (fleet.discipline k).Achieves (effectIf fleet calm) i P Migrator.disableForeignKeys
      (fun _ => P) raises := by
  rw [Migrator.disableForeignKeys]
  refine (achieves_pragma waiting idle raised (φ := fun _ => True) fun _ _ => trivial).bind raised
    fun before => achieves_given fun _ => ?_
  split
  · refine (achieves_setPragma waiting idle raised fun s => kept s _ _).bind raised fun _ => ?_
    refine (achieves_pragma (φ := fun value => value = 0) (stable_pragma.and waiting)
      (fun s here => idle s here.2) raised fun s here => here.1).bind raised fun after => achieves_given fun off => ?_
    rw [if_neg (by simpa using off)]
    exact achieves_pure waiting fun s _ here => here.2
  · exact achieves_pure waiting fun s _ here => here

theorem achieves_enableForeignKeys :
    (fleet.discipline k).Achieves (effectIf fleet calm) i P Migrator.enableForeignKeys
      (fun _ => P) raises := by
  rw [Migrator.enableForeignKeys]
  refine (achieves_setPragma waiting idle raised fun s => kept s _ _).bind raised fun _ => ?_
  refine (achieves_pragma (φ := fun value => value = 1) (stable_pragma.and waiting)
    (fun s here => idle s here.2) raised fun s here => here.1).bind raised fun after => achieves_given fun restored => ?_
  rw [if_neg (by simpa using restored)]
  exact achieves_pure waiting fun s _ here => here.2

end Outside

section Failing

/-- The pragmas can be read and set after a failure, or fail too. -/
theorem achieves_pragma_failed (pragma : Pragma) :
    fleet.Achieves k calm i (Failed fleet i calm results) (call (.pragma pragma))
      (fun _ => Failed fleet i calm results) results := by
  refine achieves_op stable_failed (fun _ => stable_failed) (fun s failed => failed.truthful)
    (fun _ _ => trivial) (fun s value s' inv failed moved _ => ?_) (by simp)
  obtain ⟨-, rfl⟩ := moved
  exact ⟨permits_refl inv, failed⟩

theorem achieves_setPragma_failed (pragma : Pragma) (value : Int) :
    fleet.Achieves k calm i (Failed fleet i calm results) (call (.setPragma pragma value))
      (fun _ => Failed fleet i calm results) results := by
  refine achieves_op stable_failed (fun _ => stable_failed) (fun s failed => failed.truthful)
    (fun _ _ => trivial) (fun s _ s' inv failed moved _ => ?_) (by simp)
  rw [succeeds] at moved
  split at moved
  · obtain rfl := moved
    exact ⟨permits_refl inv, failed⟩
  · obtain rfl := moved
    exact ⟨permits_withPragma inv pragma value, failed.stormy, failed.truthful⟩

theorem achieves_enableForeignKeys_failed :
    fleet.Achieves k calm i (Failed fleet i calm results) Migrator.enableForeignKeys
      (fun _ => Failed fleet i calm results) results := by
  rw [Migrator.enableForeignKeys]
  refine (achieves_setPragma_failed .foreignKeys 1).bind (fun _ => stable_failed) fun _ => ?_
  refine (achieves_pragma_failed .foreignKeys).bind (fun _ => stable_failed) fun after => ?_
  split
  · exact achieves_throw stable_failed fun s _ failed => failed
  · exact achieves_pure stable_failed fun s _ failed => failed

theorem achieves_rollback :
    fleet.Achieves k calm i (Failed fleet i calm results) Migrator.rollback
      (fun _ => Failed fleet i calm results) results := by
  have asked : fleet.Achieves k calm i (Failed fleet i calm results) (call .inTransaction)
      (fun inside s => (inside = (s.transactions i).isSome) ∧ Failed fleet i calm results s)
      results := by
    refine achieves_op stable_failed (fun inside => ?_) (fun s failed => failed.truthful)
      (fun _ _ => trivial) (fun s inside s' inv failed moved _ => ?_) (by simp)
    · exact Stable.and (fun s s' known between _ => by rw [between.transaction]; exact known)
        stable_failed
    · obtain ⟨rfl, rfl⟩ := moved
      exact ⟨permits_refl inv, rfl, failed⟩
  rw [Migrator.rollback]
  refine asked.bind (fun _ => stable_failed) fun inside => ?_
  split
  · rename_i yes
    refine achieves_op (fun s s' here between inv =>
        ⟨by rw [between.transaction]; exact here.1, stable_failed s s' here.2 between inv⟩)
      (fun _ => stable_failed) (fun s here => here.2.truthful) (fun s here => ?_)
      (fun s _ s' inv here moved _ => ?_) (by simp)
    · rw [Shared.Needs, ← here.1]
      exact yes
    · have open_ : (s.transactions i).isSome := by rw [← here.1]; exact yes
      rw [succeeds, if_pos open_] at moved
      subst moved
      exact ⟨permits_withTransaction inv (by simp), here.2.stormy, here.2.truthful⟩
  · exact achieves_pure stable_failed fun s _ here => here.2

end Failing

/-! ### The whole migrator -/

section Whole

variable (blank : fleet.BlankPlain) (apart : fleet.Apart)
  (plain : calm → ∀ file ∈ fleet.files, ∀ statement ∈ splitSqlStatements fleet.complete file.sql,
    fleet.control statement = false)

include blank apart plain

/-- `_apply` applies one file or fails; foreign keys are enforced again. -/
theorem achieves_apply {file : Migration} {later : List Migration}
    (split : fleet.files.drop n = file :: later)
    (reported : ∀ result ∈ results, ∃ other ∈ fleet.files.take n, other.name = result.migrationName)
    (begun : k ≤ n) :
    fleet.Achieves k calm i (Standing fleet i n results)
      ((fleet.migrator i).apply file fleet.files)
      (fun executed => Standing fleet i (n + 1)
        (results ++ [⟨file.name, if executed then .success else .notExecuted, none⟩])) results := by
  have kept {m : Nat} {some : List MigrationResult} (s : Shared ι) (pragma : Pragma) (value : Int)
      (standing : Standing fleet i m some s) : Standing fleet i m some (s.withPragma i pragma value) :=
    ⟨standing.idle, standing.present, standing.reached, standing.truthful⟩
  have guarded (wasOn : Bool) : fleet.Achieves k calm i (Standing fleet i n results)
      (ensuring (tryCatch ((fleet.migrator i).applyFile file fleet.files) fun raised => do
        Migrator.rollback
        throw raised) (if wasOn then Migrator.enableForeignKeys else pure ()))
      (fun executed => Standing fleet i (n + 1)
        (results ++ [⟨file.name, if executed then .success else .notExecuted, none⟩])) results := by
    have body : fleet.Achieves k calm i (Standing fleet i n results)
        (tryCatch ((fleet.migrator i).applyFile file fleet.files) fun raised => do
          Migrator.rollback
          throw raised)
        (fun executed => Standing fleet i (n + 1)
          (results ++ [⟨file.name, if executed then .success else .notExecuted, none⟩])) results :=
      (achieves_applyFile split reported blank apart plain begun).catch (fun _ => stable_standing)
        fun raised => achieves_rollback.bind (fun _ => stable_failed) fun _ =>
          achieves_throw stable_failed fun s _ failed => failed
    refine body.ensuring (fun _ => stable_standing) (fun _ => stable_failed) (fun executed => ?_)
      fun raised => ?_
    · by_cases on : wasOn = true
      · rw [if_pos on]
        exact achieves_enableForeignKeys stable_standing (fun s standing => standing.idle)
          (fun _ => stable_failed) kept
      · rw [if_neg on]
        exact achieves_pure stable_standing fun s _ standing => standing
    · by_cases on : wasOn = true
      · rw [if_pos on]
        exact achieves_enableForeignKeys_failed
      · rw [if_neg on]
        exact achieves_pure stable_failed fun s _ failed => failed
  rw [Migrator.apply]
  split
  · exact guarded _
  · exact (achieves_disableForeignKeys stable_standing (fun s standing => standing.idle)
      (fun _ => stable_failed) kept).bind (fun _ => stable_failed) fun wasOn => guarded wasOn

/-- What a report says of its process; where everything is calm it reports no error, and all files are
applied. -/
structure Reported (fleet : Fleet ι) (i : ι) (calm : Prop) (report : MigrationReport) (s : Shared ι) :
    Prop where
  truthful : Truthful fleet.table fleet.checksum fleet.files i s.commits report.results
  complete : calm → report.error = none ∧ s.transactions i = none ∧
    fleet.files.length ≤ fleet.applied s

omit blank apart plain in
theorem stable_reported {report : MigrationReport} :
    (fleet.discipline k).Stable i (Reported fleet i calm report) := by
  intro s s' reported between _
  refine ⟨reported.truthful.grows between.grows, fun quiet => ?_⟩
  obtain ⟨fine, idle, all⟩ := reported.complete quiet
  exact ⟨fine, between.transaction.trans idle, all.trans between.applied⟩

/-- The loop over the pending files. -/
theorem achieves_applyPending {pending : List Migration} (split : fleet.files.drop n = pending)
    (reported : ∀ result ∈ results, ∃ other ∈ fleet.files.take n, other.name = result.migrationName)
    (begun : k ≤ n) {never : Raised → Shared ι → Prop}
    (settled : ∀ e, (fleet.discipline k).Stable i (never e)) :
    (fleet.discipline k).Achieves (effectIf fleet calm) i (Standing fleet i n results)
      ((fleet.migrator i).applyPending fleet.files results pending)
      (Reported fleet i calm) never := by
  induction pending generalizing n results with
  | nil =>
      rw [Migrator.applyPending]
      refine achieves_pure stable_reported fun s _ standing => ⟨standing.truthful, fun _ => ?_⟩
      have all : fleet.files.length ≤ n := List.drop_eq_nil_iff.mp split
      exact ⟨rfl, standing.idle, all.trans standing.reached⟩
  | cons file later ih =>
      rw [Migrator.applyPending]
      have tried := achieves_apply (i := i) blank apart plain split reported begun
      refine (tried.attempt never (fun _ => stable_standing) fun _ => stable_failed).bind
        settled fun outcome => ?_
      cases outcome with
      | error raised =>
          refine achieves_pure stable_reported fun s _ failed =>
            ⟨failed.truthful.failed (fun other listed => ?_) raised,
              fun quiet => absurd quiet failed.stormy⟩
          have inside : other ∈ fleet.files.drop n := split ▸ listed
          exact List.mem_of_mem_drop inside
      | ok executed =>
          have next : fleet.files.drop (n + 1) = later := by
            rw [← List.drop_drop, split, List.drop_one, List.tail_cons]
          refine ih next (fun result listed => ?_) (by omega)
          rw [take_next split]
          rcases List.mem_append.mp listed with early | last
          · obtain ⟨other, member, name⟩ := reported result early
            exact ⟨other, List.mem_append_left _ member, name⟩
          · obtain rfl := List.mem_singleton.mp last
            exact ⟨file, by simp, rfl⟩

omit blank apart plain in
/-- The files, and those that the history does not have, once the history table exists. -/
theorem achieves_plan (atMost : k ≤ fleet.files.length) :
    fleet.Achieves k calm i
      (fun s => s.transactions i = none ∧
        Truthful fleet.table fleet.checksum fleet.files i s.commits [])
      (fleet.migrator i).plan
      (fun planned s => ∃ m, (planned = (fleet.files, fleet.files.drop m) ∧ k ≤ m) ∧
        Standing fleet i m [] s) [] := by
  have waiting : (fleet.discipline k).Stable i fun s => s.transactions i = none ∧
      Truthful fleet.table fleet.checksum fleet.files i s.commits [] :=
    stable_idle.and stable_truthful
  have listed : fleet.Achieves k calm i
      (fun s => s.transactions i = none ∧
        Truthful fleet.table fleet.checksum fleet.files i s.commits [])
      (call .migrations)
      (fun migrations s => (migrations : List Migration) = fleet.files ∧ s.transactions i = none ∧
        Truthful fleet.table fleet.checksum fleet.files i s.commits []) [] :=
    achieves_look waiting (fun s here => here.2) (fun _ _ => trivial)
      (fun s migrations s' _ moved _ => ⟨moved.2, moved.1⟩) (by simp)
  rw [Migrator.plan]
  refine listed.bind (fun _ => stable_failed) fun migrations => achieves_given fun same => ?_
  refine (achieves_begin waiting (fun s here => here.1) fun s here => here.2).bind
    (fun _ => stable_failed) fun _ => ?_
  refine achieves_exists fun opening => achieves_given fun ⟨inv, _, truthful⟩ => ?_
  have created : fleet.Achieves k calm i (Inside i opening []) (call (.createHistory fleet.table))
      (fun _ => Inside i opening [.create fleet.table]) [] :=
    achieves_write truthful (fun s inside => by simp [Shared.Needs, inside.transaction])
      (fun s _ s' _ moved => moved) (by simp)
  refine created.bind (fun _ => stable_failed) fun _ => ?_
  have made : ((opening.committed.run (.create fleet.table)).tables fleet.table).isSome :=
    opening.committed.isSome_create
  obtain ⟨rows, stored⟩ := Option.isSome_iff_exists.mp made
  have history := inv.holds.create.history
  rw [Contents.rows, stored, Option.getD_some] at history
  have read : fleet.Achieves k calm i (Inside i opening [.create fleet.table])
      (fleet.migrator i).readApplied (fun applied s =>
        PrefixHistory fleet.checksum fleet.files applied (fleet.applied opening) ∧
          Inside i opening [.create fleet.table] s) [] :=
    achieves_readApplied truthful (stored.trans (congrArg some history))
  refine read.bind (fun _ => stable_failed) fun applied => achieves_given fun prefix_ => ?_
  rw [same]
  refine (achieves_pending prefix_ inv.within).bind (fun _ => stable_failed) fun pending =>
    achieves_given fun left => ?_
  have begun : k ≤ fleet.applied opening := by
    rw [Fleet.applied, inv.inserted, List.length_append, List.length_map, List.length_take]
    omega
  have committed : fleet.Achieves k calm i (Inside i opening [.create fleet.table]) Migrator.commit
      (fun _ => Standing fleet i (fleet.applied opening) []) [] := by
    refine achieves_commit truthful (Nat.le_refl (fleet.applied opening)) inv.within
      inv.holds.create ?_ made (Nat.le_refl _) (truthful.committedNothing rfl)
    change (opening.committed.run (.create fleet.table)).rows fleet.table = _
    rw [Contents.rows_create]
    simp [insertedRows]
  refine committed.bind (fun _ => stable_failed) fun _ => ?_
  exact achieves_pure (stable_exists fun _ => (stable_const _).and stable_standing)
    fun s _ standing => ⟨_, ⟨by rw [left], begun⟩, standing⟩

theorem achieves_migrate (atMost : k ≤ fleet.files.length) :
    fleet.Achieves k calm i
      (fun s => s.transactions i = none ∧
        Truthful fleet.table fleet.checksum fleet.files i s.commits [])
      (fleet.migrator i).migrate (Reported fleet i calm) [] := by
  rw [Migrator.migrate]
  refine ((achieves_plan atMost).attempt (fun _ => Failed fleet i calm [])
    (fun _ => stable_exists fun _ => (stable_const _).and stable_standing)
      fun _ => stable_failed).bind (fun _ => stable_failed) fun outcome => ?_
  cases outcome with
  | error raised =>
      refine achieves_rollback.bind (fun _ => stable_failed) fun _ => ?_
      exact achieves_pure stable_reported fun s _ failed =>
        ⟨failed.truthful, fun quiet => absurd quiet failed.stormy⟩
  | ok planned =>
      refine achieves_exists fun m => achieves_given fun ⟨same, begun⟩ => ?_
      subst same
      exact achieves_applyPending blank apart plain rfl (by simp) begun fun _ => stable_failed

/-- A migrator ends with a true report, or raises where something failed or its connection is in a mode
that it refuses. -/
theorem achieves_migrateToLatest (atMost : k ≤ fleet.files.length) :
    (fleet.discipline k).Achieves (effectIf fleet calm) i
      (fun s => s.transactions i = none ∧
        Truthful fleet.table fleet.checksum fleet.files i s.commits [])
      (fleet.migrator i).migrateToLatest (Reported fleet i calm)
      (fun _ _ => calm → fleet.autocommit i = .off) := by
  have waiting : (fleet.discipline k).Stable i fun s => s.transactions i = none ∧
      Truthful fleet.table fleet.checksum fleet.files i s.commits [] :=
    stable_idle.and stable_truthful
  have settled : (fleet.discipline k).Stable i fun _ => calm → fleet.autocommit i = .off :=
    stable_const _
  rw [Migrator.migrateToLatest]
  split
  · rename_i off
    exact achieves_throw settled fun _ _ _ _ => off
  · have asked : (fleet.discipline k).Achieves (effectIf fleet calm) i
        (fun s => s.transactions i = none ∧
          Truthful fleet.table fleet.checksum fleet.files i s.commits [])
        (call .inTransaction)
        (fun inside s => inside = false ∧ s.transactions i = none ∧
          Truthful fleet.table fleet.checksum fleet.files i s.commits [])
        (fun _ _ => calm → fleet.autocommit i = .off) := by
      refine achieves_call waiting (fun _ => (stable_const _).and waiting) (fun _ => settled)
        (fun _ _ _ => trivial) (fun s inside s' inv here moved => ?_)
        fun s e s' _ here moved => moved.1.elim
      obtain ⟨rfl, rfl⟩ := moved.1
      exact ⟨permits_refl inv, by rw [here.1]; rfl, here⟩
    refine asked.bind (fun _ => settled) fun inside => achieves_given fun outside => ?_
    rw [if_neg (by simpa using outside)]
    refine (achieves_pragma waiting (fun s here => here.1) (fun _ => settled) (φ := fun _ => True)
      fun _ _ => trivial).bind (fun _ => settled) fun previous => achieves_given fun _ => ?_
    refine (achieves_setPragma waiting (fun s here => here.1) (fun _ => settled)
      fun s here => here).bind (fun _ => settled) fun _ => ?_
    refine ((achieves_migrate blank apart plain atMost).of_pre fun s _ here => here.2).ensuring
      (fun _ => stable_reported) (fun _ => settled) (fun report => ?_) fun raised => ?_
    · -- The old timeout is set again, and the report stands.
      refine achieves_call stable_reported (fun _ => stable_reported) (fun _ => settled)
        (fun _ _ _ => trivial) (fun s _ s' inv here moved => ?_) fun s e s' inv here moved => ?_
      · have moved := moved.1
        rw [effect, succeeds] at moved
        split at moved
        · obtain rfl := moved
          exact ⟨permits_refl inv, here⟩
        · obtain rfl := moved
          exact ⟨permits_withPragma inv _ _, here.truthful, here.complete⟩
      · have failed : fails fleet i s (.setPragma .busyTimeout previous) s' := moved.1
        refine ⟨(permits_failed inv failed (by simp)).1, fun quiet => ?_⟩
        have impossible : False := by simpa [Calm] using moved.2 quiet
        exact impossible.elim
    · refine ((achieves_setPragma_failed .busyTimeout previous).mono
        (fun _ s _ failed quiet => absurd quiet failed.stormy)
        fun _ s _ failed quiet => absurd quiet failed.stormy)

end Whole

end Achieving

/-! ### Every interleaving of migrators -/

section Interleavings

variable [DecidableEq ι] {fleet : Fleet ι} {k : Nat} {s : Shared ι}

/-- A database that holds the first `k` files, with no process in a transaction and no commit yet. -/
structure Fleet.Start (fleet : Fleet ι) (k : Nat) (s : Shared ι) : Prop where
  within : k ≤ fleet.files.length
  idle : ∀ i, s.transactions i = none
  holds : fleet.Holds (fleet.files.take k) s.committed
  fresh : s.commits = []

/-- Every process is about to call `migrate_to_latest`. -/
def Fleet.start (fleet : Fleet ι) (s : Shared ι) :
    Config ι (Shared ι) Op (fun op => Except Raised (Result op)) (Except Raised MigrationReport) :=
  ⟨s, fun i => (fleet.migrator i).migrateToLatest.run⟩

omit [DecidableEq ι] in
theorem Fleet.Start.inv (start : fleet.Start k s) : fleet.Inv k s := by
  have count : fleet.applied s = k := by
    rw [Fleet.applied, start.holds.history, List.length_map, List.length_take,
      Nat.min_eq_left start.within]
  refine ⟨fun i j inside _ => ?_, count ▸ start.within, ?_, ?_⟩
  · rw [start.idle i] at inside
    cases inside
  · rw [count]
    exact start.holds
  · rw [start.holds.history, start.fresh, insertedBy, List.flatMap_nil, List.append_nil]

/-- What every process is assured of. -/
def Fleet.ends (fleet : Fleet ι) (calm : Prop) (i : ι) :
    Except Raised MigrationReport → Shared ι → Prop :=
  Ends (Reported fleet i calm) fun _ _ => calm → fleet.autocommit i = .off

theorem sound_start {calm : Prop} (start : fleet.Start k s) (blank : fleet.BlankPlain)
    (apart : fleet.Apart) (plain : calm → ∀ file ∈ fleet.files, ∀ statement ∈ splitSqlStatements fleet.complete file.sql,
      fleet.control statement = false) :
    (fleet.discipline k).Sound (effectIf fleet calm) (fleet.ends calm) (fleet.start s) := by
  refine ⟨start.inv, fun i => achieves_migrateToLatest blank apart plain start.within s start.inv
    ⟨start.idle i, Truthful.nil fun file _ committed => ?_⟩⟩
  obtain ⟨commit, listed, -⟩ := committed
  rw [start.fresh] at listed
  cases listed

/-- Two processes with one file, whose connections hand over text as `str` and as `bytes`. -/
def Fleet.pair : Fleet (Fin 2) where
  files := [⟨"0001_items.sql", "create table items (id integer);", true⟩]
  table := "relq_migrations"
  checksum _ := "585cd2b43b9d5f89cac2c8a74b243d71247e90286e6a741a8ef70553e81843da"
  complete _ := true
  autocommit _ := .on
  busyTimeoutMs _ := 30000
  readsBytes i := i = 1
  control _ := false
  touches _ := false
  distinct := by decide

/-- No table exists yet. -/
def Shared.empty : Shared (Fin 2) where
  committed := ⟨fun _ => none, []⟩
  transactions _ := none
  pragmas _ _ := 0
  commits := []

theorem start_pair : Fleet.pair.Start 0 Shared.empty :=
  ⟨Nat.zero_le _, fun _ => rfl, ⟨rfl, [], .nil, rfl⟩, rfl⟩

theorem apart_pair : Fleet.pair.Apart :=
  fun _ _ _ _ => rfl

theorem supported_pair (i : Fin 2) : Fleet.pair.autocommit i ≠ .off := by
  simp [Fleet.pair]

theorem plain_pair : ∀ file ∈ Fleet.pair.files,
    ∀ statement ∈ splitSqlStatements Fleet.pair.complete file.sql,
      Fleet.pair.control statement = false :=
  fun _ _ _ _ => rfl

/-! ### Every interleaving ends -/

/-- A process that is in a transaction, or waits for nobody, can go on. -/
theorem exists_succeeds (fleet : Fleet ι) {s : Shared ι} {i : ι} {op : Op} (needs : s.Needs i op)
    (turn : (s.transactions i).isSome ∨ ∀ j, s.transactions j = none) :
    ∃ value s', succeeds fleet i s op value s' ∧ Calm op (.ok value) := by
  have writes (action : Migrate.Action) (inside : (s.transactions i).isSome) :
      ∃ s', s.Writes i action s' := by
    obtain ⟨actions, open_⟩ := Option.isSome_iff_exists.mp inside
    exact ⟨_, by rw [Shared.Writes, open_]⟩
  cases op with
  | migrations => exact ⟨fleet.files, s, ⟨rfl, rfl⟩, trivial⟩
  | inTransaction => exact ⟨_, s, ⟨rfl, rfl⟩, trivial⟩
  | pragma pragma => exact ⟨_, s, ⟨rfl, rfl⟩, trivial⟩
  | setPragma pragma value => exact ⟨(), _, rfl, trivial⟩
  | beginImmediate =>
      have idle : s.transactions i = none := needs
      refine ⟨(), _, ⟨turn.resolve_left ?_, rfl⟩, trivial⟩
      simp [idle]
  | createHistory table =>
      obtain ⟨s', written⟩ := writes (.create table) needs
      exact ⟨(), s', written, trivial⟩
  | readHistory table =>
      obtain ⟨rows, stored⟩ := Option.isSome_iff_exists.mp needs
      exact ⟨_, s, ⟨rfl, rows, stored, rows, .refl _, rfl⟩, trivial⟩
  | explain statement =>
      refine ⟨if fleet.control statement then [[.other, .text "AutoCommit"]] else [], s, ⟨?_, rfl⟩, trivial⟩
      cases fleet.control statement <;> rfl
  | execute statement =>
      by_cases control : fleet.control statement = true
      · exact ⟨(), _, fun _ => by rw [if_pos control]; exact ⟨none, .inl rfl⟩, trivial⟩
      · obtain ⟨s', written⟩ := writes (.script statement) needs
        exact ⟨(), s', fun _ => by rw [if_neg control]; exact written, trivial⟩
  | insertHistory table name checksum =>
      obtain ⟨s', written⟩ := writes (.insert table ⟨.text name, .text checksum⟩) needs.1
      exact ⟨(), s', ⟨needs.2, written⟩, trivial⟩
  | foreignKeyCheck => exact ⟨[], s, rfl, rfl⟩
  | commit =>
      obtain ⟨actions, open_⟩ := Option.isSome_iff_exists.mp needs
      exact ⟨(), _, by rw [succeeds, open_], trivial⟩
  | rollback =>
      have inside : (s.transactions i).isSome := needs
      exact ⟨(), _, by rw [succeeds, if_pos inside], trivial⟩

/-- Where nothing fails, somebody can go on until all processes are done. -/
theorem goes_on {calm : Prop} (supported : ∀ i, fleet.autocommit i ≠ .off) (quiet : calm)
    {c : Config ι (Shared ι) Op (fun op => Except Raised (Result op)) (Except Raised MigrationReport)}
    (sound : (fleet.discipline k).Sound (effectIf fleet calm) (fleet.ends calm) c) :
    (∀ i, ∃ value, c.running i = .done value) ∨ ∃ c', Step (effectIf fleet calm) c c' := by
  have idle (i : ι) (value : Except Raised MigrationReport) (done : c.running i = .done value) :
      c.shared.transactions i = none := by
    have ended := sound.post_of_done done
    cases value with
    | ok report => exact (ended.complete quiet).2.1
    | error raised => exact absurd (ended quiet) (supported i)
  have step {i : ι} {op : Op} {next : Except Raised (Result op) → _}
      (current : c.running i = .call op next)
      (turn : (c.shared.transactions i).isSome ∨ ∀ j, c.shared.transactions j = none) :
      ∃ c', Step (effectIf fleet calm) c c' := by
    have needs : c.shared.Needs i op := sound.needs_of_call current
    obtain ⟨value, s', moved, fine⟩ := exists_succeeds fleet needs turn
    have effected : effectIf fleet calm i op c.shared (.ok value) s' := ⟨moved, fun _ => fine⟩
    exact ⟨_, .call current effected⟩
  by_cases busy : ∃ i, (c.shared.transactions i).isSome
  · obtain ⟨i, inside⟩ := busy
    cases current : c.running i with
    | done value =>
        rw [idle i value current] at inside
        cases inside
    | call op next => exact .inr (step current (.inl inside))
  · have free : ∀ j, c.shared.transactions j = none := by
      simpa using busy
    by_cases waiting : ∃ i op next, c.running i = .call op next
    · obtain ⟨i, op, next, current⟩ := waiting
      exact .inr (step current (.inr free))
    · refine .inl fun i => ?_
      cases current : c.running i with
      | done value => exact ⟨value, rfl⟩
      | call op next => exact absurd ⟨i, op, next, current⟩ waiting

/-- Where no call fails and no file controls transactions, every interleaving ends, with a report of
every process that is true and without an error. -/
theorem inevitable_reported [Fintype ι] (start : fleet.Start k s) (apart : fleet.Apart)
    (supported : ∀ i, fleet.autocommit i ≠ .off)
    (plain : ∀ file ∈ fleet.files, ∀ statement ∈ splitSqlStatements fleet.complete file.sql,
      fleet.control statement = false) :
    Inevitable (Step (calmEffect fleet)) (fun c => fleet.Inv k c.shared ∧
      ∀ i, ∃ report, c.running i = .done (.ok report) ∧ Reported fleet i True report c.shared)
      (fleet.start s) := by
  have same : calmEffect fleet = effectIf fleet True := by
    funext i op s answer s'
    simp [effectIf, calmEffect]
  have blank : fleet.BlankPlain := fun file listed statement own _ => plain file listed statement own
  rw [same]
  have sound : (fleet.discipline k).Sound (effectIf fleet True) (fleet.ends True) (fleet.start s) :=
    sound_start start blank apart fun _ => plain
  refine (inevitable (fun c => goes_on supported trivial) sound).mono fun c ⟨inv, ended⟩ =>
    ⟨inv, fun i => ?_⟩
  obtain ⟨value, done, ends⟩ := ended i
  cases value with
  | ok report => exact ⟨report, done, ends⟩
  | error raised => exact absurd (ends trivial) (supported i)

/-- Where no call fails and no file controls transactions, every interleaving ends; every process then
reports no error, and all files are applied. -/
theorem migrations_complete [Fintype ι] [Nonempty ι] (fleet : Fleet ι) (start : fleet.Start k s)
    (apart : fleet.Apart) (supported : ∀ i, fleet.autocommit i ≠ .off)
    (plain : ∀ file ∈ fleet.files, ∀ statement ∈ splitSqlStatements fleet.complete file.sql,
      fleet.control statement = false) :
    Inevitable (Step (calmEffect fleet)) (fun c =>
      fleet.Holds fleet.files c.shared.committed ∧
      ∀ i, ∃ report : MigrationReport, c.running i = .done (.ok report) ∧ report.error = none ∧
        Truthful fleet.table fleet.checksum fleet.files i c.shared.commits report.results)
      (fleet.start s) := by
  refine (inevitable_reported start apart supported plain).mono fun c ⟨inv, reports⟩ =>
    ⟨?_, fun i => ?_⟩
  · obtain ⟨report, -, reported⟩ := reports (Classical.arbitrary ι)
    have all : fleet.files.take (fleet.applied c.shared) = fleet.files :=
      List.take_of_length_le (reported.complete trivial).2.2
    have holds := inv.holds
    rwa [all] at holds
  · obtain ⟨report, done, reported⟩ := reports i
    exact ⟨report, done, (reported.complete trivial).1, reported.truthful⟩

theorem migrations_complete_pair :
    Inevitable (Step (calmEffect Fleet.pair)) (fun c =>
      Fleet.pair.Holds Fleet.pair.files c.shared.committed ∧
      ∀ i, ∃ report : MigrationReport, c.running i = .done (.ok report) ∧ report.error = none ∧
        Truthful "relq_migrations" Fleet.pair.checksum Fleet.pair.files i c.shared.commits report.results)
      (Fleet.pair.start Shared.empty) :=
  migrations_complete Fleet.pair start_pair apart_pair supported_pair plain_pair

/-! ### What every interleaving keeps -/

/-- In every interleaving, with any calls failing, the database holds a prefix of the files, each applied
once; what was added to the history since the start is what the processes inserted; one process at a time
is in a transaction; and a report says SUCCESS of what its own process committed. -/
theorem migrations_applied_once (fleet : Fleet ι) (start : fleet.Start k s) (blank : fleet.BlankPlain)
    (apart : fleet.Apart)
    {c : Config ι (Shared ι) Op (fun op => Except Raised (Result op)) (Except Raised MigrationReport)}
    (reached : Reaches (effect fleet) (fleet.start s) c) :
    (∃ m, k ≤ m ∧ m ≤ fleet.files.length ∧ fleet.Holds (fleet.files.take m) c.shared.committed ∧
      (fleet.files.take m).map (Migration.row fleet.checksum) =
        (fleet.files.take k).map (Migration.row fleet.checksum) ++
          insertedBy fleet.table c.shared.commits) ∧
    (∀ i j, (c.shared.transactions i).isSome → (c.shared.transactions j).isSome → i = j) ∧
    ∀ i report, c.running i = .done (.ok report) →
      Truthful fleet.table fleet.checksum fleet.files i c.shared.commits report.results := by
  have same : effect fleet = effectIf fleet False := by
    funext i op s answer s'
    simp [effectIf]
  rw [same] at reached
  have sound := sound_of_reaches (sound_start start blank apart False.elim) reached
  refine ⟨⟨fleet.applied c.shared, ?_, sound.1.within, sound.1.holds, ?_⟩, sound.1.lone,
    fun i report done => ?_⟩
  · rw [Fleet.applied, sound.1.inserted, List.length_append, List.length_map, List.length_take,
      Nat.min_eq_left start.within]
    omega
  · rw [← sound.1.inserted, sound.1.holds.history]
  · exact (sound.post_of_done done).truthful

/-- The two processes can both come to an end, and then their file is applied once. -/
theorem migrations_applied_once_pair :
    ∃ c, Reaches (effect Fleet.pair) (Fleet.pair.start Shared.empty) c ∧
      (∀ i, ∃ report : MigrationReport, c.running i = .done (.ok report) ∧ report.error = none) ∧
      (∃ m, 0 ≤ m ∧ m ≤ 1 ∧ Fleet.pair.Holds (Fleet.pair.files.take m) c.shared.committed ∧
        (Fleet.pair.files.take m).map (Migration.row Fleet.pair.checksum) =
          (Fleet.pair.files.take 0).map (Migration.row Fleet.pair.checksum) ++
            insertedBy "relq_migrations" c.shared.commits) ∧
      (∀ i j, (c.shared.transactions i).isSome → (c.shared.transactions j).isSome → i = j) ∧
      ∀ i report, c.running i = .done (.ok report) →
        Truthful "relq_migrations" Fleet.pair.checksum Fleet.pair.files i c.shared.commits
          report.results := by
  obtain ⟨c, reached, -, reports⟩ :=
    (inevitable_reported start_pair apart_pair supported_pair plain_pair).reached
  have reached : Reaches (effect Fleet.pair) (Fleet.pair.start Shared.empty) c :=
    reaches_mono (fun _ _ _ _ _ calm => calm.1) reached
  refine ⟨c, reached, fun i => ?_, migrations_applied_once Fleet.pair start_pair
    (fun file listed statement own _ => plain_pair file listed statement own) apart_pair reached⟩
  obtain ⟨report, done, reported⟩ := reports i
  exact ⟨report, done, (reported.complete trivial).1⟩

end Interleavings

end Relq.Migrate.Sqlite
