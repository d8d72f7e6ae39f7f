/-
Module: Relq.Migrate.History
Layer: Migrate
Purpose: Which recorded histories `pending_migrations` accepts: those that hold exactly the first files
  of the tuple with their checksums. Every other history makes it raise.
Imports: Mathlib.Data.List.Perm.Basic (permuted histories), Relq.Migrate.Model
Trusted boundary: human-reviewed spec (PrefixHistory)
Main exports: PrefixHistory, Accepts, pendingMigrations_eq_ok, pendingMigrations_iff,
  take_next, foldl_setItem, exists_recorded
-/
import Mathlib.Data.List.Perm.Basic
import Relq.Migrate.Model

namespace Relq.Migrate

open Outcome

variable {checksum : Migration → String} {migrations : List Migration}
  {applied : List (String × String)}

/-- The history holds exactly the names of the first `k` files, each with the checksum of its file. -/
structure PrefixHistory (checksum : Migration → String) (migrations : List Migration)
    (applied : List (String × String)) (k : Nat) : Prop where
  names : ∀ name, name ∈ applied.map Prod.fst ↔ name ∈ (migrations.take k).map Migration.name
  checksums : ∀ migration ∈ migrations.take k,
    applied.lookup migration.name = some (checksum migration)

theorem isApplied_iff {name : String} : isApplied applied name = true ↔ name ∈ applied.map Prod.fst :=
  decide_eq_true_iff

theorem sortedNames_eq_nil {names : List String} : sortedNames names = [] ↔ names = [] := by
  rw [sortedNames, ← List.length_eq_zero_iff, List.length_mergeSort, List.length_eq_zero_iff]
  exact List.dedup_eq_nil names

theorem isApplied_of_lookup {name recorded : String} (found : applied.lookup name = some recorded) :
    isApplied applied name = true := by
  rw [isApplied_iff]
  by_contra absent
  have missing : applied.lookup name = none := by
    rw [List.lookup_eq_none_iff]
    intro entry member
    rw [bne_iff_ne]
    rintro rfl
    exact absent (List.mem_map_of_mem member)
  rw [missing] at found
  cases found

theorem lookup_of_isApplied {name : String} (recorded : isApplied applied name = true) :
    ∃ value, applied.lookup name = some value := by
  cases found : applied.lookup name with
  | some value => exact ⟨value, rfl⟩
  | none =>
      obtain ⟨entry, member, rfl⟩ := List.mem_map.mp (isApplied_iff.mp recorded)
      rw [List.lookup_eq_none_iff] at found
      exact absurd (found entry member) (by simp)

/-! ### The three checks -/

/-- `if condition: raise error`, followed by the rest of the function. -/
theorem raised_eq_ok {ε β : Type} {condition : Prop} [Decidable condition] {error : ε}
    {rest : Unit → Except ε β} {result : β} :
    (if condition then (throw error : Except ε Unit) >>= rest else rest ()) = .ok result ↔
      ¬condition ∧ rest () = .ok result := by
  by_cases holds : condition
  · simp [holds]
  · simp [holds]

/-- The number of files before the first one that is not recorded. -/
def firstPending (migrations : List Migration) (applied : List (String × String)) : Nat :=
  migrations.findIdx fun migration => !isApplied applied migration.name

/-- What the three checks of `pending_migrations` ask for. -/
structure Accepts (checksum : Migration → String) (migrations : List Migration)
    (applied : List (String × String)) : Prop where
  known : ∀ name ∈ applied.map Prod.fst, ∃ migration ∈ migrations, migration.name = name
  unmodified : ∀ migration ∈ migrations, ∀ recorded,
    applied.lookup migration.name = some recorded → recorded = checksum migration
  ordered : ∀ migration ∈ migrations.drop (firstPending migrations applied),
    isApplied applied migration.name = false

theorem pendingMigrations_eq_ok {result : List Migration} :
    pendingMigrations checksum migrations applied = .ok result ↔
      Accepts checksum migrations applied ∧
        result = migrations.drop (firstPending migrations applied) := by
  have known : sortedNames ((applied.map Prod.fst).filter fun name =>
      !migrations.any (·.name = name)) = [] ↔
        ∀ name ∈ applied.map Prod.fst, ∃ migration ∈ migrations, migration.name = name := by
    rw [sortedNames_eq_nil, List.filter_eq_nil_iff]
    simp
  have ordered : ((migrations.drop (firstPending migrations applied)).map Migration.name).filter
      (isApplied applied) = [] ↔
        ∀ migration ∈ migrations.drop (firstPending migrations applied),
          isApplied applied migration.name = false := by
    rw [List.filter_eq_nil_iff, List.forall_mem_map]
    simp
  unfold pendingMigrations
  simp only [raised_eq_ok, not_not, known, seq_eq_ok, forM_eq_ok]
  constructor
  · rintro ⟨known, unmodified, inOrder, same⟩
    refine ⟨⟨known, fun migration member recorded found => ?_, ordered.mp inOrder⟩,
      (pure_eq_ok.mp same).symm⟩
    have passed := unmodified migration member
    rw [found] at passed
    by_contra differs
    simp [differs] at passed
  · rintro ⟨accepts, rfl⟩
    refine ⟨accepts.known, fun migration member => ?_, ordered.mpr accepts.ordered, rfl⟩
    cases found : applied.lookup migration.name with
    | none => rfl
    | some recorded => simp [accepts.unmodified migration member recorded found]

/-! ### Accepted histories are prefixes -/

theorem isApplied_before {index : Nat} (early : index < firstPending migrations applied)
    (inside : index < migrations.length) : isApplied applied migrations[index].name = true := by
  simpa using List.not_of_lt_findIdx early

theorem firstPending_le : firstPending migrations applied ≤ migrations.length :=
  List.findIdx_le_length

/-- The files before the first pending one are recorded. -/
theorem isApplied_take {migration : Migration}
    (member : migration ∈ migrations.take (firstPending migrations applied)) :
    isApplied applied migration.name = true := by
  obtain ⟨index, inside, rfl⟩ := List.mem_iff_getElem.mp member
  rw [List.length_take] at inside
  rw [List.getElem_take]
  exact isApplied_before (by omega) (by omega)

/-- What the checks let through is a prefix up to the first pending file. -/
theorem Accepts.prefixHistory (accepts : Accepts checksum migrations applied) :
    PrefixHistory checksum migrations applied (firstPending migrations applied) := by
  refine ⟨fun name => ⟨fun recorded => ?_, fun early => ?_⟩, fun migration early => ?_⟩
  · obtain ⟨migration, member, rfl⟩ := accepts.known name recorded
    rw [← List.take_append_drop (firstPending migrations applied) migrations] at member
    rcases List.mem_append.mp member with early | late_
    · exact List.mem_map_of_mem early
    · have pending := accepts.ordered migration late_
      rw [isApplied_iff.mpr recorded] at pending
      cases pending
  · obtain ⟨migration, member, rfl⟩ := List.mem_map.mp early
    exact isApplied_iff.mp (isApplied_take member)
  · obtain ⟨recorded, found⟩ := lookup_of_isApplied (isApplied_take early)
    rw [found, accepts.unmodified migration (List.mem_of_mem_take early) recorded found]

/-- Where the history is a prefix of files with distinct names, the first pending file ends it. -/
theorem PrefixHistory.firstPending_eq {k : Nat} (history : PrefixHistory checksum migrations applied k)
    (distinct : (migrations.map Migration.name).Nodup) (within : k ≤ migrations.length) :
    firstPending migrations applied = k := by
  apply Nat.le_antisymm
  · by_contra beyond
    have inside : k < migrations.length := by
      have bound : firstPending migrations applied ≤ migrations.length := firstPending_le
      omega
    have recorded : isApplied applied migrations[k].name = true :=
      isApplied_before (by omega) inside
    obtain ⟨migration, early, same⟩ :=
      List.mem_map.mp ((history.names _).mp (isApplied_iff.mp recorded))
    obtain ⟨index, below, found⟩ := List.mem_iff_getElem.mp early
    rw [List.length_take] at below
    rw [List.getElem_take] at found
    have indices : index = k := by
      have left : index < (migrations.map Migration.name).length := by
        rw [List.length_map]
        omega
      have right : k < (migrations.map Migration.name).length := by
        rwa [List.length_map]
      have names : (migrations.map Migration.name)[index] = (migrations.map Migration.name)[k] := by
        simp [found, same]
      exact (List.Nodup.getElem_inj_iff distinct).mp names
    omega
  · by_contra short
    have inside : firstPending migrations applied < migrations.length := by omega
    have first : (!isApplied applied migrations[firstPending migrations applied].name) = true :=
      @List.findIdx_getElem _ (fun migration : Migration => !isApplied applied migration.name)
        migrations inside
    have early : migrations[firstPending migrations applied] ∈ migrations.take k := by
      rw [List.mem_iff_getElem]
      exact ⟨firstPending migrations applied, by simp; omega, by simp⟩
    have recorded := isApplied_of_lookup (history.checksums _ early)
    rw [recorded] at first
    cases first

theorem PrefixHistory.accepts {k : Nat} (history : PrefixHistory checksum migrations applied k)
    (distinct : (migrations.map Migration.name).Nodup) (within : k ≤ migrations.length) :
    Accepts checksum migrations applied := by
  have first := history.firstPending_eq distinct within
  have pending : ∀ migration ∈ migrations.drop k, isApplied applied migration.name = false := by
    intro migration late_
    rw [Bool.eq_false_iff]
    intro recorded
    have early := (history.names _).mp (isApplied_iff.mp recorded)
    have apart : ((migrations.take k ++ migrations.drop k).map Migration.name).Nodup := by
      rwa [List.take_append_drop]
    rw [List.map_append, List.nodup_append'] at apart
    exact apart.2.2 early (List.mem_map_of_mem late_)
  refine ⟨fun name recorded => ?_, fun migration member recorded found => ?_, ?_⟩
  · obtain ⟨migration, early, same⟩ := List.mem_map.mp ((history.names name).mp recorded)
    exact ⟨migration, List.mem_of_mem_take early, same⟩
  · rw [← List.take_append_drop k migrations] at member
    rcases List.mem_append.mp member with early | late_
    · rw [history.checksums migration early] at found
      exact (Option.some.inj found).symm
    · have absent := pending migration late_
      rw [isApplied_of_lookup found] at absent
      cases absent
  · rw [first]
    exact pending

theorem PrefixHistory.pendingMigrations_eq {k : Nat}
    (history : PrefixHistory checksum migrations applied k)
    (distinct : (migrations.map Migration.name).Nodup) (within : k ≤ migrations.length) :
    pendingMigrations checksum migrations applied = .ok (migrations.drop k) :=
  pendingMigrations_eq_ok.mpr
    ⟨history.accepts distinct within, by rw [history.firstPending_eq distinct within]⟩

/-- `pending_migrations` returns the files from the `k`-th on exactly when the history is the prefix
before it, and it raises when the history is no prefix. -/
theorem pendingMigrations_iff (checksum : Migration → String) (migrations : List Migration)
    (applied : List (String × String)) (distinct : (migrations.map Migration.name).Nodup) :
    (∀ k ≤ migrations.length,
      pendingMigrations checksum migrations applied = .ok (migrations.drop k) ↔
        PrefixHistory checksum migrations applied k) ∧
    ((∀ k ≤ migrations.length, ¬PrefixHistory checksum migrations applied k) →
      ∃ error, pendingMigrations checksum migrations applied = .error error) := by
  constructor
  · intro k within
    rw [pendingMigrations_eq_ok]
    constructor
    · rintro ⟨accepts, same⟩
      have lengths := congrArg List.length same
      rw [List.length_drop, List.length_drop] at lengths
      have bound : firstPending migrations applied ≤ migrations.length := firstPending_le
      have first : firstPending migrations applied = k := by omega
      exact first ▸ accepts.prefixHistory
    · intro history
      exact ⟨history.accepts distinct within, by rw [history.firstPending_eq distinct within]⟩
  · intro noPrefix
    cases outcome : pendingMigrations checksum migrations applied with
    | error error => exact ⟨error, rfl⟩
    | ok result =>
        have accepts := (pendingMigrations_eq_ok.mp outcome).1
        exact absurd accepts.prefixHistory (noPrefix _ firstPending_le)

/-- Two files of which the first one is recorded. -/
theorem pendingMigrations_iff_firstRecorded :
    (∀ k ≤ 2, pendingMigrations Migration.sql [⟨"a", "x", true⟩, ⟨"b", "y", true⟩] [("a", "x")] =
        .ok ([⟨"a", "x", true⟩, ⟨"b", "y", true⟩].drop k) ↔
      PrefixHistory Migration.sql [⟨"a", "x", true⟩, ⟨"b", "y", true⟩] [("a", "x")] k) ∧
    ((∀ k ≤ 2, ¬PrefixHistory Migration.sql [⟨"a", "x", true⟩, ⟨"b", "y", true⟩] [("a", "x")] k) →
      ∃ error, pendingMigrations Migration.sql [⟨"a", "x", true⟩, ⟨"b", "y", true⟩] [("a", "x")] =
        .error error) :=
  pendingMigrations_iff Migration.sql [⟨"a", "x", true⟩, ⟨"b", "y", true⟩] [("a", "x")] (by decide)

/-! ### The next file -/

section Next

variable {files later : List Migration} {file : Migration} {n : Nat}

theorem take_next (split : files.drop n = file :: later) : files.take (n + 1) = files.take n ++ [file] := by
  have found : files[n]? = some file := by
    rw [← List.head?_drop, split, List.head?_cons]
  rw [List.take_add_one, found, Option.toList_some]

theorem lt_length (split : files.drop n = file :: later) : n < files.length := by
  by_contra beyond
  rw [List.drop_eq_nil_of_le (by omega)] at split
  cases split

theorem mem_next (split : files.drop n = file :: later) : file ∈ files := by
  have listed : file ∈ files.drop n := by simp [split]
  exact List.mem_of_mem_drop listed

end Next

/-! ### Histories that are read back -/

/-- Files with different names are read as one entry each. -/
theorem foldl_setItem {files : List Migration} (distinct : (files.map Migration.name).Nodup)
    (apart : ∀ file ∈ files, file.name ∉ applied.map Prod.fst) :
    files.foldl (fun applied file => setItem applied file.name (checksum file)) applied =
      applied ++ files.map (Migration.entry checksum) := by
  induction files generalizing applied with
  | nil => simp
  | cons file rest ih =>
      rw [List.map_cons, List.nodup_cons] at distinct
      obtain ⟨first, later⟩ := List.forall_mem_cons.mp apart
      have added : setItem applied file.name (checksum file) =
          applied ++ [Migration.entry checksum file] := by
        rw [setItem, if_neg first, Migration.entry]
      have onward : ∀ other ∈ rest,
          other.name ∉ (applied ++ [Migration.entry checksum file]).map Prod.fst := by
        intro other member known
        rw [List.map_append, List.mem_append] at known
        rcases known with early | here
        · exact later other member early
        · have same : other.name = file.name := by simpa [Migration.entry] using here
          exact distinct.1 (same ▸ List.mem_map_of_mem member)
      rw [List.foldl_cons, added, ih distinct.2 onward, List.append_assoc, List.map_cons,
        List.singleton_append]

/-- However the database orders the rows of the first `m` files, they are rows of these files, and the
entries of these are that history. -/
theorem exists_recorded {files : List Migration} {m : Nat} {order : List Row}
    (distinct : (files.map Migration.name).Nodup)
    (rows : order.Perm ((files.take m).map (Migration.row checksum))) :
    ∃ recorded : List Migration, order = recorded.map (Migration.row checksum) ∧
      (recorded.map Migration.name).Nodup ∧
      PrefixHistory checksum files (recorded.map (Migration.entry checksum)) m := by
  obtain ⟨recorded, same, perm⟩ := List.perm_comp_forall₂ rows
    (List.forall₂_map_left_iff.mpr (List.forall₂_same.mpr fun file _ => rfl) :
      List.Forall₂ (fun row file => Migration.row checksum file = row) _ (files.take m))
  have written : order = recorded.map (Migration.row checksum) := by
    have listed := List.forall₂_map_right_iff.mpr (same.imp fun _ _ equal => equal.symm)
    rwa [List.forall₂_eq_eq_eq] at listed
  have early : ((files.take m).map Migration.name).Nodup :=
    distinct.sublist ((List.take_sublist m files).map _)
  have names : (recorded.map Migration.name).Nodup := (perm.map _).nodup_iff.mpr early
  refine ⟨recorded, written, names, fun name => ?_, fun file member => ?_⟩
  · rw [← (perm.map _).mem_iff, List.map_map]
    rfl
  · exact lookup_entries names (perm.mem_iff.mpr member)

end Relq.Migrate
