/-
Module: Relq.Sqlite.Growth
Layer: Sqlite
Purpose: The registry together with a changing engine. The bookkeeping of the registry never looks
  at the engine, so a control statement and the bookkeeping that answers it can be described in
  either order; the invariant survives the pair when the remaining names are tracked by the new
  stack. New handles are registered with their savepoint on top of the stack.
Imports: Mathlib.Data.List.Basic, Relq.Sqlite.Consistency
Trusted boundary: none (fully proved)
Main exports: World.onEngine, Registers, Consistent.onEngine, Consistent.stale,
  Consistent.released, Consistent.rolledBack, Consistent.addTransaction, Consistent.addSavepoint
-/
import Mathlib.Data.List.Basic
import Relq.Sqlite.Consistency

namespace Relq.Sqlite

open World

/-- The world with another engine state. -/
def World.onEngine (w : World) (engine : Engine) : World :=
  { w with engine }

/-! ### The bookkeeping does not look at the engine -/

@[simp] theorem onEngine_registry (w : World) (e : Engine) : (w.onEngine e).registry = w.registry := rfl
@[simp] theorem onEngine_transactions (w : World) (e : Engine) :
    (w.onEngine e).transactions = w.transactions := rfl
@[simp] theorem onEngine_savepoints (w : World) (e : Engine) :
    (w.onEngine e).savepoints = w.savepoints := rfl
@[simp] theorem onEngine_engine (w : World) (e : Engine) : (w.onEngine e).engine = e := rfl
@[simp] theorem onEngine_onEngine (w : World) (e e' : Engine) :
    (w.onEngine e).onEngine e' = w.onEngine e' := rfl
@[simp] theorem onEngine_liveNames (w : World) (e : Engine) :
    (w.onEngine e).liveNames = w.liveNames := rfl
theorem onEngine_self (w : World) : w.onEngine w.engine = w := rfl

theorem onEngine_foldl {ι : Type} {f : World → ι → World} {e : Engine}
    (commutes : ∀ w item, f (w.onEngine e) item = (f w item).onEngine e) (items : List ι) (w : World) :
    items.foldl f (w.onEngine e) = (items.foldl f w).onEngine e := by
  induction items generalizing w with
  | nil => rfl
  | cons first rest ih => rw [List.foldl_cons, commutes, ih, List.foldl_cons]

theorem onEngine_invalidateSavepoint (e : Engine) (w : World) (id : Nat) :
    (w.onEngine e).invalidateSavepoint id = (w.invalidateSavepoint id).onEngine e := by
  rw [invalidateSavepoint.eq_def w, apply_ite fun world : World => world.onEngine e]
  rfl

theorem onEngine_discard (e : Engine) (w : World) :
    (w.onEngine e).discard = w.discard.onEngine e := by
  rw [World.discard.eq_def w, apply_ite fun world : World => world.onEngine e]
  rfl

theorem onEngine_close (e : Engine) (w : World) (id : Nat) :
    (w.onEngine e).close id = (w.close id).onEngine e := by
  rw [close_eq, close_eq, onEngine_transactions, onEngine_foldl (onEngine_invalidateSavepoint e),
    ← onEngine_discard]
  rfl

theorem onEngine_invalidate (e : Engine) (w : World) (entry : RegistryEntry) :
    (w.onEngine e).invalidate entry = (w.invalidate entry).onEngine e := by
  cases entry with
  | transaction id => exact onEngine_close e w id
  | savepoint id => exact onEngine_invalidateSavepoint e w id

theorem onEngine_invalidateAfter (e : Engine) (w : World) (entry : RegistryEntry) :
    (w.onEngine e).invalidateAfter entry = (w.invalidateAfter entry).onEngine e := by
  unfold invalidateAfter
  rw [onEngine_registry]
  split
  · rfl
  · exact onEngine_foldl (onEngine_invalidate e) _ w

theorem onEngine_releaseSavepoint (e : Engine) (w : World) (id : Nat) :
    (w.onEngine e).releaseSavepoint id = (w.releaseSavepoint id).onEngine e := by
  unfold releaseSavepoint
  rw [onEngine_invalidateAfter]
  rfl

/-! ### Another engine under a consistent registry -/

namespace Consistent

variable {w : World}

/-- The engine only has to keep the names of the registered handles. -/
theorem onEngine (ok : Consistent w) {e : Engine} (tracked : Tracks w.liveNames (e.getD []))
    (isOpen : w.registry.entries ≠ [] → e.isSome) : Consistent (w.onEngine e) :=
  { ok with tracked, isOpen }

/-- Without entries the engine may be in any state. -/
theorem onEngine_of_empty (ok : Consistent w) (empty : w.registry.entries = []) (e : Engine) :
    Consistent (w.onEngine e) := by
  refine ok.onEngine ?_ fun some_ => absurd empty some_
  have none : w.liveNames = [] := by simp [World.liveNames, empty]
  rw [none]
  exact .nil _

/-- The folded names of the registered handles are the active ones. -/
theorem mem_liveNames (ok : Consistent w) {name : String} (live : name ∈ w.liveNames) :
    foldName name ∈ w.registry.savepointNames := by
  obtain ⟨entry, registered, named⟩ := List.mem_filterMap.mp live
  exact (ok.names _).mpr ⟨entry, List.mem_reverse.mp registered, name, named, rfl⟩

/-- A savepoint of a name that is not active may be left behind on the stack. -/
theorem stale (ok : Consistent w) {name : String} {stack : List String}
    (isOpen : w.engine = some stack) (inactive : foldName name ∉ w.registry.savepointNames) :
    Consistent (w.onEngine (some (name :: stack))) := by
  refine ok.onEngine ?_ fun _ => rfl
  have tracked := ok.tracked
  have differs : ∀ live ∈ w.liveNames, foldName name ≠ foldName live := fun live member same =>
    inactive (same ▸ ok.mem_liveNames member)
  rw [isOpen] at tracked
  cases names : w.liveNames with
  | nil => trivial
  | cons first rest =>
      rw [names] at tracked differs
      exact Or.inr ⟨differs, tracked⟩

/-- A handle is usable exactly when it is registered. -/
theorem usable_iff (ok : Consistent w) (entry : RegistryEntry) :
    w.usable entry = true ↔ entry ∈ w.registry.entries := by
  cases entry with
  | transaction t => simpa [World.usable] using (ok.transactions t).symm
  | savepoint id =>
      rw [ok.savepoints]
      simp only [World.usable, Bool.and_eq_true, Bool.not_eq_true']
      refine ⟨fun ⟨⟨_, live⟩, valid⟩ => ⟨live, valid⟩, fun alive => ⟨⟨?_, alive.1⟩, alive.2⟩⟩
      have registered := (ok.savepoints id).mpr alive
      exact (ok.transactions _).mp ((ok.owner id registered).subset List.mem_cons_self)

/-- An open registry has an outermost transaction. -/
theorem entries_eq_nil (ok : Consistent w) (none : w.registry.stack = []) :
    w.registry.entries = [] := by
  refine List.eq_nil_iff_forall_not_mem.mpr fun entry registered => ?_
  have noTransaction : ∀ t, .transaction t ∉ w.registry.entries := fun t member => by
    simpa [none] using (ok.stack t).mpr member
  cases entry with
  | transaction t => exact noTransaction t registered
  | savepoint id => exact noTransaction _ ((ok.owner id registered).subset List.mem_cons_self)

theorem liveNames_split {before after : List RegistryEntry} {entry : RegistryEntry} {name : String}
    (split : w.registry.entries = before ++ entry :: after) (named : w.nameOf entry = some name) :
    w.liveNames =
      after.reverse.filterMap w.nameOf ++ name :: before.reverse.filterMap w.nameOf := by
  simp [World.liveNames, split, named]

/-- RELEASE of a registered handle's savepoint keeps the names registered before it. -/
theorem released (ok : Consistent w) {before after : List RegistryEntry} {entry : RegistryEntry}
    {name : String} (split : w.registry.entries = before ++ entry :: after)
    (named : w.nameOf entry = some name) {e : Engine}
    (ran : Engine.run (.release name) w.engine = some e) :
    ∃ below, e = some below ∧ Tracks (before.reverse.filterMap w.nameOf) below := by
  obtain ⟨stack, isOpen⟩ := Option.isSome_iff_exists.mp (ok.isOpen (by simp [split]))
  have tracked := ok.tracked
  have distinct := ok.distinct
  rw [liveNames_split split named] at tracked distinct
  rw [isOpen] at tracked ran
  obtain ⟨below, ran', tracked⟩ := tracked.release distinct
  exact ⟨below, Option.some.inj (ran.symm.trans ran'), tracked⟩

/-- ROLLBACK TO a registered handle's savepoint keeps its name too. -/
theorem rolledBack (ok : Consistent w) {before after : List RegistryEntry} {entry : RegistryEntry}
    {name : String} (split : w.registry.entries = before ++ entry :: after)
    (named : w.nameOf entry = some name) {e : Engine}
    (ran : Engine.run (.rollbackTo name) w.engine = some e) :
    ∃ below, e = some below ∧ Tracks (name :: before.reverse.filterMap w.nameOf) below := by
  obtain ⟨stack, isOpen⟩ := Option.isSome_iff_exists.mp (ok.isOpen (by simp [split]))
  have tracked := ok.tracked
  have distinct := ok.distinct
  rw [liveNames_split split named] at tracked distinct
  rw [isOpen] at tracked ran
  obtain ⟨below, ran', tracked⟩ := tracked.rollbackTo distinct
  exact ⟨below, Option.some.inj (ran.symm.trans ran'), tracked⟩

end Consistent

/-! ### Answers to a control statement -/

section Answers

variable {w w' : World} {before after : List RegistryEntry}

/-- A registry that has lost its last entries stands on what is below their savepoints. -/
theorem Consistent.onBelow (ok : Consistent w') (same : SameHandles w w')
    (entries : w'.registry.entries = before) {below : List String}
    (tracked : Tracks (before.reverse.filterMap w.nameOf) below) :
    Consistent (w'.onEngine (some below)) := by
  refine ok.onEngine ?_ fun _ => rfl
  rw [World.liveNames, entries, funext same.nameOf]
  exact tracked

theorem filter_last {entry : RegistryEntry} (nodup : (before ++ [entry]).Nodup) :
    (before ++ [entry]).filter (fun other => !decide (other = entry)) = before := by
  have apart := (List.nodup_append.mp nodup).2.2
  rw [List.filter_append, List.filter_eq_self.mpr fun other member => by
    simpa using apart other member entry List.mem_cons_self]
  simp

/-- `_invalidate` of the savepoint that is registered last. -/
theorem invalidateSavepoint_last (ok : Consistent w) {id : Nat}
    (last : w.registry.entries = before ++ [RegistryEntry.savepoint id]) :
    (w.invalidateSavepoint id).registry.entries = before := by
  have nodup := ok.nodup
  rw [last] at nodup
  rw [(invalidateSavepoint_removes ok id).entries, last]
  simp only [World.belongs_savepoint]
  exact filter_last nodup

/-- `_release_savepoint` cuts the registry in front of the savepoint. -/
theorem releaseSavepoint_removes (ok : Consistent w) {id : Nat}
    (split : w.registry.entries = before ++ RegistryEntry.savepoint id :: after) :
    Consistent (w.releaseSavepoint id) ∧ SameHandles w (w.releaseSavepoint id) ∧
      (w.releaseSavepoint id).registry.entries = before := by
  obtain ⟨cut, same, entries⟩ := invalidateAfter_removes ok split
  have live : .savepoint id ∈ (w.invalidateAfter (.savepoint id)).registry.entries := by
    simp [entries]
  have dropped : Removes (w.invalidateAfter (.savepoint id)) (w.releaseSavepoint id) _ :=
    dropSavepoint_removes cut live rfl rfl (by simp)
  refine ⟨dropped.consistent, same.trans dropped.same, ?_⟩
  have nodup := cut.nodup
  rw [entries] at nodup
  rw [dropped.entries, entries]
  simp only [World.belongs_savepoint]
  exact filter_last nodup

/-- Closing the transaction that is registered last leaves the entries before it. -/
theorem close_last (ok : Consistent w) {t : Nat}
    (last : w.registry.entries = before ++ [RegistryEntry.transaction t]) :
    (w.close t).registry.entries = before := by
  have removed := close_removes ok t
  have nodup := ok.nodup
  rw [last] at nodup
  have apart := (List.nodup_append.mp nodup).2.2
  rw [removed.entries, last, List.filter_append]
  have front : before.filter (fun entry => !w.belongs (.transaction t) entry) = before := by
    refine List.filter_eq_self.mpr fun entry inFront => ?_
    cases entry with
    | transaction other => simpa [World.belongs] using apart _ inFront _ List.mem_cons_self
    | savepoint id =>
        have pair := ok.owner id (by simp [last, inFront])
        rw [last] at pair
        refine Bool.not_eq_true' _ ▸ decide_eq_false fun made => ?_
        rw [made] at pair
        exact not_pair_of_append nodup inFront List.mem_cons_self pair
  rw [front]
  simp [World.belongs]

end Answers

/-! ### New handles -/

namespace Consistent

variable {w : World}

theorem transaction_ne_created (ok : Consistent w) : .transaction w.created ∉ w.registry.entries :=
  fun registered => by
    have closed := (ok.fresh w.created (Nat.le_refl _)).1
    have open_ := (ok.transactions w.created).mp registered
    simp [closed] at open_

theorem savepoint_ne_created (ok : Consistent w) : .savepoint w.created ∉ w.registry.entries :=
  fun registered => by
    have released := (ok.fresh w.created (Nat.le_refl _)).2
    have live := (ok.savepoints w.created).mp registered
    simp [released] at live

/-- Registered savepoints belong to earlier handles. -/
theorem owner_ne_created (ok : Consistent w) {id : Nat}
    (registered : .savepoint id ∈ w.registry.entries) :
    (w.savepoints id).transaction ≠ w.created := fun made =>
  ok.transaction_ne_created (made ▸ (ok.owner id registered).subset List.mem_cons_self)

end Consistent

/-- The step from `w` to `w'` registers a new handle, whose savepoint, if it has one, the engine has
just put on its stack. -/
structure Registers (w w' : World) (new : RegistryEntry) (name : Option String) : Prop where
  entries : w'.registry.entries = w.registry.entries ++ [new]
  unregistered : new ∉ w.registry.entries
  named : w'.nameOf new = name
  others : ∀ entry ∈ w.registry.entries, w'.nameOf entry = w.nameOf entry
  inactive : ∀ own ∈ name, foldName own ∉ w.registry.savepointNames
  names : w'.registry.savepointNames = (name.map foldName).toList ++ w.registry.savepointNames
  engine : ∃ stack, w.engine = some stack ∧ w'.engine = some (name.toList ++ stack)
  /-- Only the first handle has no savepoint. -/
  outermost : name = none → w.registry.entries = []

namespace Registers

variable {w w' : World} {new : RegistryEntry} {name : Option String}

theorem mem_entries (step : Registers w w' new name) {entry : RegistryEntry} :
    entry ∈ w'.registry.entries ↔ entry ∈ w.registry.entries ∨ entry = new := by
  simp [step.entries]

theorem nodup (step : Registers w w' new name) (ok : Consistent w) :
    w'.registry.entries.Nodup := by
  rw [step.entries]
  refine List.nodup_append.mpr ⟨ok.nodup, List.nodup_cons.mpr ⟨List.not_mem_nil, .nil⟩, ?_⟩
  rintro entry registered other member rfl
  exact step.unregistered (List.mem_singleton.mp member ▸ registered)

theorem liveNames (step : Registers w w' new name) :
    w'.liveNames = name.toList ++ w.liveNames := by
  have others : w.registry.entries.reverse.filterMap w'.nameOf = w.liveNames :=
    List.filterMap_congr fun entry member => step.others entry (List.mem_reverse.mp member)
  rw [World.liveNames, step.entries, List.reverse_append, List.filterMap_append, others]
  cases name <;> simp [step.named]

theorem distinct (step : Registers w w' new name) (ok : Consistent w) :
    DistinctNames w'.liveNames := by
  rw [step.liveNames]
  cases name with
  | none => exact ok.distinct
  | some own =>
      refine List.pairwise_cons.mpr ⟨fun live member same => ?_, ok.distinct⟩
      exact step.inactive own rfl (same ▸ ok.mem_liveNames member)

theorem tracked (step : Registers w w' new name) (ok : Consistent w) :
    Tracks w'.liveNames (w'.engine.getD []) := by
  obtain ⟨stack, before, after⟩ := step.engine
  have tracked := ok.tracked
  rw [step.liveNames, after]
  rw [before] at tracked
  cases name with
  | none => exact tracked
  | some own => exact tracked.push own

theorem mem_names (step : Registers w w' new name) (ok : Consistent w) (key : String) :
    key ∈ w'.registry.savepointNames ↔
      ∃ entry ∈ w'.registry.entries, ∃ own, w'.nameOf entry = some own ∧ foldName own = key := by
  simp only [step.names, List.mem_append, Option.mem_toList, Option.map_eq_some_iff,
    ok.names, step.mem_entries]
  constructor
  · rintro (⟨own, named, rfl⟩ | ⟨entry, registered, own, named, rfl⟩)
    · exact ⟨new, Or.inr rfl, own, step.named.trans named, rfl⟩
    · exact ⟨entry, Or.inl registered, own, (step.others entry registered).trans named, rfl⟩
  · rintro ⟨entry, registered | rfl, own, named, rfl⟩
    · exact Or.inr ⟨entry, registered, own, (step.others entry registered).symm.trans named, rfl⟩
    · exact Or.inl ⟨own, step.named.symm.trans named, rfl⟩

theorem head (step : Registers w w' new name) {entry : RegistryEntry}
    (head : w.registry.entries.head? = some entry) : w'.registry.entries.head? = some entry := by
  rw [step.entries, List.head?_append, head]
  rfl

end Registers

/-- A new transaction handle. -/
theorem Consistent.addTransaction {w w' : World} (ok : Consistent w) {name : Option String}
    (step : Registers w (w'.addTransaction name) (.transaction w.created) name)
    (created : w'.created = w.created) (transactions : w'.transactions = w.transactions)
    (savepoints : w'.savepoints = w.savepoints) (stack : w'.registry.stack = w.registry.stack) :
    Consistent (w'.addTransaction name) := by
  have tx : ∀ t, (w'.addTransaction name).transactions t =
      if t = w.created then
        { savepointNames := name.toList, generatedSavepointName := name, closed := false }
      else w.transactions t := by
    intro t
    rw [← created, ← transactions]
    rfl
  have sp : (w'.addTransaction name).savepoints = w.savepoints := savepoints
  have number : (w'.addTransaction name).created = w.created + 1 := congrArg (· + 1) created
  have kept : ∀ id, .savepoint id ∈ (w'.addTransaction name).registry.entries ↔
      .savepoint id ∈ w.registry.entries := by
    intro id
    rw [step.mem_entries]
    simp
  refine
    { nodup := step.nodup ok
      fresh := ?_
      transactions := ?_
      savepoints := ?_
      owner := ?_
      owned := ?_
      ownedNodup := ?_
      ownNames := ?_
      stack := ?_
      stackNodup := ?_
      names := step.mem_names ok
      distinct := step.distinct ok
      outermost := ?_
      tracked := step.tracked ok
      isOpen := ?_ }
  · intro id new
    rw [number] at new
    rw [tx, sp, if_neg (by omega)]
    exact ok.fresh id (by omega)
  · intro t
    rw [step.mem_entries, tx]
    split
    · subst_vars
      simp
    · rename_i other
      simpa [other] using ok.transactions t
  · intro id
    rw [kept, sp]
    exact ok.savepoints id
  · intro id registered
    rw [sp, step.entries]
    exact (ok.owner id ((kept id).mp registered)).trans (List.sublist_append_left _ _)
  · intro t id
    rw [kept, tx, sp]
    split
    · subst_vars
      simp only [List.not_mem_nil, false_iff, not_and]
      exact fun registered => ok.owner_ne_created registered
    · exact ok.owned t id
  · intro t
    rw [tx]
    split
    · exact .nil
    · exact ok.ownedNodup t
  · intro t own
    simp only [kept, sp]
    rw [step.mem_entries, tx]
    split
    · subst_vars
      have none_ : ¬∃ id, .savepoint id ∈ w.registry.entries ∧
          (w.savepoints id).transaction = w.created ∧ (w.savepoints id).name = own := by
        rintro ⟨id, registered, made, -⟩
        exact ok.owner_ne_created registered made
      simp [none_]
    · rename_i other
      rw [ok.ownNames]
      simp [other]
  · intro t
    change t ∈ w'.registry.stack ++ [w'.created] ↔ _
    rw [stack, created, step.mem_entries, List.mem_append, ok.stack]
    simp
  · change (w'.registry.stack ++ [w'.created]).Nodup
    rw [stack, created]
    refine List.nodup_append.mpr ⟨ok.stackNodup, List.nodup_cons.mpr ⟨List.not_mem_nil, .nil⟩, ?_⟩
    rintro t member other new rfl
    exact ok.transaction_ne_created (List.mem_singleton.mp new ▸ (ok.stack t).mp member)
  · intro t registered
    rw [tx]
    split
    · subst_vars
      intro unnamed
      rw [step.entries, step.outermost unnamed]
      rfl
    · rename_i other
      rcases step.mem_entries.mp registered with registered | same
      · exact fun unnamed => step.head (ok.outermost t registered unnamed)
      · exact absurd (RegistryEntry.transaction.inj same) other
  · obtain ⟨stack, -, after⟩ := step.engine
    rw [after]
    exact fun _ => rfl

/-- A new savepoint handle of a registered transaction. -/
theorem Consistent.addSavepoint {w w' : World} (ok : Consistent w) {transaction : Nat}
    {name : String} (open_ : .transaction transaction ∈ w.registry.entries)
    (step : Registers w (w'.addSavepoint transaction name) (.savepoint w.created) (some name))
    (created : w'.created = w.created) (transactions : w'.transactions = w.transactions)
    (savepoints : w'.savepoints = w.savepoints) (stack : w'.registry.stack = w.registry.stack) :
    Consistent (w'.addSavepoint transaction name) := by
  have tx : ∀ t, (w'.addSavepoint transaction name).transactions t =
      if t = transaction then
        { w.transactions t with
          savepointNames := name :: (w.transactions t).savepointNames
          savepoints := (w.transactions t).savepoints ++ [w.created] }
      else w.transactions t := by
    intro t
    rw [← created, ← transactions]
    change (if t = transaction then _ else _) = _
    split
    · subst_vars; rfl
    · rfl
  have closed : ∀ t, ((w'.addSavepoint transaction name).transactions t).closed =
      (w.transactions t).closed := by
    intro t; rw [tx]; split <;> rfl
  have generated : ∀ t, ((w'.addSavepoint transaction name).transactions t).generatedSavepointName =
      (w.transactions t).generatedSavepointName := by
    intro t; rw [tx]; split <;> rfl
  have sp : ∀ id, (w'.addSavepoint transaction name).savepoints id =
      if id = w.created then { transaction, name, released := false } else w.savepoints id := by
    intro id
    rw [← created, ← savepoints]
    rfl
  have number : (w'.addSavepoint transaction name).created = w.created + 1 :=
    congrArg (· + 1) created
  have kept : ∀ t, .transaction t ∈ (w'.addSavepoint transaction name).registry.entries ↔
      .transaction t ∈ w.registry.entries := by
    intro t
    rw [step.mem_entries]
    simp
  have old : ∀ id, .savepoint id ∈ w.registry.entries → id ≠ w.created := by
    rintro id registered rfl
    exact ok.savepoint_ne_created registered
  refine
    { nodup := step.nodup ok
      fresh := ?_
      transactions := ?_
      savepoints := ?_
      owner := ?_
      owned := ?_
      ownedNodup := ?_
      ownNames := ?_
      stack := ?_
      stackNodup := ?_
      names := step.mem_names ok
      distinct := step.distinct ok
      outermost := ?_
      tracked := step.tracked ok
      isOpen := ?_ }
  · intro id new
    rw [number] at new
    rw [closed, sp, if_neg (by omega)]
    exact ok.fresh id (by omega)
  · intro t
    rw [kept, closed]
    exact ok.transactions t
  · intro id
    rw [step.mem_entries, sp]
    split
    · subst_vars
      simp
    · rename_i other
      simpa [other] using ok.savepoints id
  · intro id registered
    rw [sp, step.entries]
    split
    · subst_vars
      exact (List.singleton_sublist.mpr open_).append (.refl [RegistryEntry.savepoint w.created])
    · rename_i other
      rcases step.mem_entries.mp registered with registered | same
      · exact (ok.owner id registered).trans (List.sublist_append_left _ _)
      · exact absurd (RegistryEntry.savepoint.inj same) other
  · intro t id
    rw [step.mem_entries, tx, sp]
    by_cases new : id = w.created
    · subst new
      have absent := ok.savepoint_ne_created
      by_cases own : t = transaction
      · simp [own]
      · have foreign : w.created ∉ (w.transactions t).savepoints := fun member =>
          absent ((ok.owned t _).mp member).1
        simp [own, foreign, Ne.symm own]
    · by_cases own : t = transaction
      · subst own
        simpa [new] using ok.owned t id
      · simpa [new, own] using ok.owned t id
  · intro t
    rw [tx]
    split
    · refine List.nodup_append.mpr ⟨ok.ownedNodup t, List.nodup_cons.mpr ⟨List.not_mem_nil, .nil⟩, ?_⟩
      rintro id member other new rfl
      exact old id ((ok.owned t id).mp member).1 (List.mem_singleton.mp new)
    · exact ok.ownedNodup t
  · intro t own
    simp only [kept, generated]
    have others : (∃ id, .savepoint id ∈ (w'.addSavepoint transaction name).registry.entries ∧
          ((w'.addSavepoint transaction name).savepoints id).transaction = t ∧
          ((w'.addSavepoint transaction name).savepoints id).name = own) ↔
        (transaction = t ∧ name = own) ∨
          ∃ id, .savepoint id ∈ w.registry.entries ∧ (w.savepoints id).transaction = t ∧
            (w.savepoints id).name = own := by
      simp only [step.mem_entries, sp]
      constructor
      · rintro ⟨id, registered | same, made, called⟩
        · rw [if_neg (old id registered)] at made called
          exact Or.inr ⟨id, registered, made, called⟩
        · rw [if_pos (RegistryEntry.savepoint.inj same)] at made called
          exact Or.inl ⟨made, called⟩
      · rintro (⟨made, called⟩ | ⟨id, registered, made, called⟩)
        · exact ⟨w.created, Or.inr rfl, by simpa using made, by simpa using called⟩
        · refine ⟨id, Or.inl registered, ?_⟩
          rw [if_neg (old id registered)]
          exact ⟨made, called⟩
    rw [others, tx]
    split
    · subst_vars
      simp only [List.mem_cons, ok.ownNames]
      grind
    · rename_i other
      rw [ok.ownNames]
      grind
  · intro t
    rw [kept, ← ok.stack, ← stack]
    rfl
  · change w'.registry.stack.Nodup
    rw [stack]
    exact ok.stackNodup
  · intro t registered unnamed
    rw [generated] at unnamed
    exact step.head (ok.outermost t ((kept t).mp registered) unnamed)
  · obtain ⟨stack, -, after⟩ := step.engine
    rw [after]
    exact fun _ => rfl

end Relq.Sqlite
