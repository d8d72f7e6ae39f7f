/-
Module: Relq.Migrate.Ledger
Layer: Migrate
Purpose: The transactions that took effect in a shared database, in order, each with the process whose
  it was; which files a process has committed; and when the report of a process tells the truth about it.
Imports: Relq.Migrate.Model
Trusted boundary: human-reviewed spec (Commit, CommittedBy, Truthful)
Main exports: Commit, insertedBy, ownRows, Grows, CommittedBy, Truthful, Truthful.applied,
  Truthful.byPeer, Truthful.failed
-/
import Relq.Migrate.Model

namespace Relq.Migrate

/-- A transaction that took effect, with the process whose it was. -/
structure Commit (ι : Type) where
  process : ι
  actions : List Action

section Rows

variable {ι : Type} [DecidableEq ι] (table : String)

/-- The rows that transactions have inserted into the history, in order. -/
def insertedBy (commits : List (Commit ι)) : List Row :=
  commits.flatMap fun commit => insertedRows table commit.actions

def ownRows (i : ι) (commits : List (Commit ι)) : List Row :=
  insertedBy table (commits.filter (·.process = i))

/-- Only processes other than `i` have added commits. -/
def Grows (i : ι) (commits commits' : List (Commit ι)) : Prop :=
  ∃ more, commits' = commits ++ more ∧ ∀ commit ∈ more, commit.process ≠ i

variable {table}

omit [DecidableEq ι] in
theorem Grows.refl (i : ι) (commits : List (Commit ι)) : Grows i commits commits :=
  ⟨[], (List.append_nil _).symm, by simp⟩

omit [DecidableEq ι] in
theorem Grows.trans {i : ι} {first second third : List (Commit ι)} (one : Grows i first second)
    (two : Grows i second third) : Grows i first third := by
  obtain ⟨more, rfl, others⟩ := one
  obtain ⟨later, rfl, others'⟩ := two
  refine ⟨more ++ later, List.append_assoc _ _ _, fun commit member => ?_⟩
  rcases List.mem_append.mp member with early | late
  · exact others commit early
  · exact others' commit late

theorem Grows.ownRows_eq {i : ι} {commits commits' : List (Commit ι)}
    (grows : Grows i commits commits') : ownRows table i commits' = ownRows table i commits := by
  obtain ⟨more, rfl, others⟩ := grows
  have none : more.filter (fun commit => decide (commit.process = i)) = [] := by
    rw [List.filter_eq_nil_iff]
    intro commit member
    simpa using others commit member
  rw [ownRows, List.filter_append, none, List.append_nil, ownRows]

omit [DecidableEq ι] in
theorem insertedBy_append (commits : List (Commit ι)) (commit : Commit ι) :
    insertedBy table (commits ++ [commit]) =
      insertedBy table commits ++ insertedRows table commit.actions := by
  simp [insertedBy]

theorem ownRows_append (i : ι) (commits : List (Commit ι)) (actions : List Action) :
    ownRows table i (commits ++ [⟨i, actions⟩]) =
      ownRows table i commits ++ insertedRows table actions := by
  simp [ownRows, insertedBy]

end Rows

/-! ### Who committed a file -/

section Committers

variable {ι : Type} (table : String) (checksum : Migration → String)

/-- The history row of a file was inserted by a transaction of the process. -/
def CommittedBy (commits : List (Commit ι)) (i : ι) (file : Migration) : Prop :=
  ∃ commit ∈ commits, commit.process = i ∧ file.row checksum ∈ insertedRows table commit.actions

variable {table checksum}

theorem CommittedBy.grows {commits commits' : List (Commit ι)} {i j : ι} {file : Migration}
    (committed : CommittedBy table checksum commits j file) (grows : Grows i commits commits') :
    CommittedBy table checksum commits' j file := by
  obtain ⟨more, rfl, -⟩ := grows
  obtain ⟨commit, member, rest⟩ := committed
  exact ⟨commit, List.mem_append_left _ member, rest⟩

theorem committedBy_iff [DecidableEq ι] {commits : List (Commit ι)} {i : ι} {file : Migration} :
    CommittedBy table checksum commits i file ↔ file.row checksum ∈ ownRows table i commits := by
  simp only [CommittedBy, ownRows, insertedBy, List.mem_flatMap, List.mem_filter,
    decide_eq_true_eq, and_assoc]

/-- A file that was committed, but not by `i`, was committed by a peer. -/
theorem exists_peer [DecidableEq ι] {commits : List (Commit ι)} {i : ι} {file : Migration}
    (committed : file.row checksum ∈ insertedBy table commits)
    (notOwn : file.row checksum ∉ ownRows table i commits) :
    ∃ j, j ≠ i ∧ CommittedBy table checksum commits j file := by
  obtain ⟨commit, member, inserted⟩ := List.mem_flatMap.mp committed
  refine ⟨commit.process, ?_, commit, member, rfl, inserted⟩
  intro same
  exact notOwn (committedBy_iff.mp ⟨commit, member, same, inserted⟩)

end Committers

theorem Migration.row_name {checksum : Migration → String} {first second : Migration}
    (same : first.row checksum = second.row checksum) : first.name = second.name := by
  simp only [Migration.row, Row.mk.injEq, Cell.text.injEq] at same
  exact same.1

/-! ### Reports -/

section Reports

variable {ι : Type} (table : String) (checksum : Migration → String) (files : List Migration)

/-- A report of process `i` names files, says SUCCESS of those that the process committed, and says
NOT_EXECUTED only of files that a peer committed or that stand behind an ERROR. -/
structure Truthful (i : ι) (commits : List (Commit ι)) (results : List MigrationResult) : Prop where
  named : ∀ result ∈ results, ∃ file ∈ files, file.name = result.migrationName
  success : ∀ file ∈ files,
    (∃ result ∈ results, result.migrationName = file.name ∧ result.status = .success) ↔
      CommittedBy table checksum commits i file
  notExecuted : ∀ before result after, results = before ++ result :: after →
    result.status = .notExecuted →
      (∃ file ∈ files, file.name = result.migrationName ∧
        ∃ j, j ≠ i ∧ CommittedBy table checksum commits j file) ∨
      ∃ earlier ∈ before, earlier.status = .error

variable {table checksum files}
variable {i : ι} {commits commits' : List (Commit ι)} {results : List MigrationResult}

theorem Truthful.grows [DecidableEq ι] (truthful : Truthful table checksum files i commits results)
    (grows : Grows i commits commits') : Truthful table checksum files i commits' results where
  named := truthful.named
  success file member := by
    rw [truthful.success file member, committedBy_iff, committedBy_iff, grows.ownRows_eq]
  notExecuted before result after split status := by
    rcases truthful.notExecuted before result after split status with byPeer | failed
    · obtain ⟨file, member, name, j, other, committed⟩ := byPeer
      exact .inl ⟨file, member, name, j, other, committed.grows grows⟩
    · exact .inr failed

/-- Where a list with one more item splits. -/
theorem append_singleton_split {α : Type} {items before after : List α} {last item : α}
    (split : items ++ [last] = before ++ item :: after) :
    (before = items ∧ item = last ∧ after = []) ∨
      ∃ rest, after = rest ++ [last] ∧ items = before ++ item :: rest := by
  rcases List.eq_nil_or_concat after with rfl | ⟨rest, final, rfl⟩
  · obtain ⟨rfl, same⟩ := List.append_inj' split rfl
    exact .inl ⟨rfl, (List.cons.inj same).1.symm, rfl⟩
  · rw [List.concat_eq_append, ← List.cons_append, ← List.append_assoc] at split
    obtain ⟨rfl, same⟩ := List.append_inj' split rfl
    obtain rfl := (List.cons.inj same).1
    exact .inr ⟨rest, List.concat_eq_append .., rfl⟩

theorem Truthful.nil (none : ∀ file ∈ files, ¬ CommittedBy table checksum commits i file) :
    Truthful table checksum files i commits [] where
  named := by simp
  success file member := by simp [none file member]
  notExecuted before result after split := by simp at split

/-- A commit that inserts no row changes nothing of what a report says. -/
theorem Truthful.committedNothing [DecidableEq ι]
    (truthful : Truthful table checksum files i commits results) {actions : List Action}
    (nothing : insertedRows table actions = []) :
    Truthful table checksum files i (commits ++ [⟨i, actions⟩]) results where
  named := truthful.named
  success file member := by
    rw [truthful.success file member, committedBy_iff, committedBy_iff, ownRows_append, nothing,
      List.append_nil]
  notExecuted before result after split status := by
    rcases truthful.notExecuted before result after split status with byPeer | failed
    · obtain ⟨file, member, name, j, other, commit, listed, rest⟩ := byPeer
      exact .inl ⟨file, member, name, j, other, commit, List.mem_append_left _ listed, rest⟩
    · exact .inr failed

/-- The next file is committed by the process itself. -/
theorem Truthful.applied [DecidableEq ι]
    (truthful : Truthful table checksum files i commits results)
    (distinct : (files.map Migration.name).Nodup) {file : Migration} (member : file ∈ files)
    {actions : List Action} (inserted : insertedRows table actions = [file.row checksum]) :
    Truthful table checksum files i (commits ++ [⟨i, actions⟩])
      (results ++ [⟨file.name, .success, none⟩]) where
  named result listed := by
    rcases List.mem_append.mp listed with early | last
    · exact truthful.named result early
    · obtain rfl := List.mem_singleton.mp last
      exact ⟨file, member, rfl⟩
  success other listed := by
    rw [committedBy_iff, ownRows_append, inserted, List.mem_append, ← committedBy_iff,
      ← truthful.success other listed, List.mem_singleton]
    constructor
    · rintro ⟨result, reported, name, status⟩
      rcases List.mem_append.mp reported with early | last
      · exact .inl ⟨result, early, name, status⟩
      · obtain rfl := List.mem_singleton.mp last
        exact .inr (List.inj_on_of_nodup_map distinct listed member name.symm ▸ rfl)
    · rintro (⟨result, reported, rest⟩ | same)
      · exact ⟨result, List.mem_append_left _ reported, rest⟩
      · exact ⟨⟨file.name, .success, none⟩, by simp, (Migration.row_name same).symm, rfl⟩
  notExecuted before result after split status := by
    rcases append_singleton_split split with ⟨-, rfl, -⟩ | ⟨rest, -, early⟩
    · cases status
    · rcases truthful.notExecuted before result rest early status with byPeer | failed
      · obtain ⟨other, listed, name, j, differs, commit, logged, rest⟩ := byPeer
        exact .inl ⟨other, listed, name, j, differs, commit, List.mem_append_left _ logged, rest⟩
      · exact .inr failed

/-- More results that do not say SUCCESS. -/
theorem Truthful.unsuccessful (truthful : Truthful table checksum files i commits results)
    {more : List MigrationResult}
    (named : ∀ result ∈ more, ∃ file ∈ files, file.name = result.migrationName)
    (unsuccessful : ∀ result ∈ more, result.status ≠ .success)
    (notExecuted : ∀ before (result : MigrationResult) after, more = before ++ result :: after →
      result.status = .notExecuted →
        (∃ file ∈ files, file.name = result.migrationName ∧
          ∃ j, j ≠ i ∧ CommittedBy table checksum commits j file) ∨
        ∃ earlier ∈ before, earlier.status = .error) :
    Truthful table checksum files i commits (results ++ more) where
  named result listed := by
    rcases List.mem_append.mp listed with early | late
    · exact truthful.named result early
    · exact named result late
  success file member := by
    rw [← truthful.success file member]
    constructor
    · rintro ⟨result, reported, name, status⟩
      rcases List.mem_append.mp reported with early | late
      · exact ⟨result, early, name, status⟩
      · exact absurd status (unsuccessful result late)
    · rintro ⟨result, reported, rest⟩
      exact ⟨result, List.mem_append_left _ reported, rest⟩
  notExecuted before result after split status := by
    rcases List.append_eq_append_iff.mp split with ⟨middle, whole, rest⟩ | ⟨middle, whole, rest⟩
    · rcases notExecuted middle result after rest status with byPeer | ⟨earlier, listed, failed⟩
      · exact .inl byPeer
      · exact .inr ⟨earlier, whole ▸ List.mem_append_right _ listed, failed⟩
    · cases middle with
      | nil =>
          rw [List.append_nil] at whole
          rcases notExecuted [] result after rest.symm status with byPeer | ⟨_, listed, _⟩
          · exact .inl byPeer
          · cases listed
      | cons first others =>
          rw [List.cons_append, List.cons.injEq] at rest
          exact truthful.notExecuted before result others (rest.1 ▸ whole) status

/-- The next file was committed by a peer. -/
theorem Truthful.byPeer (truthful : Truthful table checksum files i commits results)
    {file : Migration} (member : file ∈ files) {j : ι} (other : j ≠ i)
    (committed : CommittedBy table checksum commits j file) :
    Truthful table checksum files i commits (results ++ [⟨file.name, .notExecuted, none⟩]) := by
  refine truthful.unsuccessful ?_ (by simp) fun before result after split _ => ?_
  · intro result listed
    obtain rfl := List.mem_singleton.mp listed
    exact ⟨file, member, rfl⟩
  · have alone : [] ++ [_] = before ++ result :: after := split
    rcases append_singleton_split alone with ⟨-, rfl, -⟩ | ⟨rest, -, impossible⟩
    · exact .inl ⟨file, member, rfl, j, other, committed⟩
    · simp at impossible

/-- The next file failed, and the others were not tried. -/
theorem Truthful.failed (truthful : Truthful table checksum files i commits results)
    {file : Migration} {later : List Migration} (members : ∀ other ∈ file :: later, other ∈ files)
    (raised : Raised) :
    Truthful table checksum files i commits (results ++ ⟨file.name, .error, some raised⟩ ::
      later.map fun other => ⟨other.name, .notExecuted, none⟩) := by
  refine truthful.unsuccessful ?_ ?_ fun before result after split status => ?_
  · intro result listed
    rcases List.mem_cons.mp listed with rfl | late
    · exact ⟨file, members file (by simp), rfl⟩
    · obtain ⟨other, waiting, rfl⟩ := List.mem_map.mp late
      exact ⟨other, members other (List.mem_cons_of_mem _ waiting), rfl⟩
  · intro result listed
    rcases List.mem_cons.mp listed with rfl | late
    · simp
    · obtain ⟨other, -, rfl⟩ := List.mem_map.mp late
      simp
  · cases before with
    | nil =>
        rw [List.nil_append, List.cons.injEq] at split
        rw [← split.1] at status
        cases status
    | cons first others =>
        rw [List.cons_append, List.cons.injEq] at split
        exact .inr ⟨first, by simp, split.1 ▸ rfl⟩

end Reports

end Relq.Migrate
