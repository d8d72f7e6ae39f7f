/-
Module: Relq.Sqlite.Consistency
Layer: Sqlite
Purpose: The invariant that ties the registry to the handle objects and to the engine, and its
  preservation by the registry's own bookkeeping. Every removal of entries is described by the set
  of entries it removes (`belongs`), so that `invalidateAfter` can be shown to cut the registry
  exactly behind an entry.
Imports: Relq.Sqlite.Registry
Trusted boundary: none (fully proved)
Main exports: World.liveNames, Consistent, Removes, close_removes, invalidate_removes,
  invalidateAfter_removes, invalidateAll_removes
-/
import Relq.Sqlite.Registry

namespace Relq.Sqlite

open World

/-- The savepoint names of the registered handles, innermost first. -/
def World.liveNames (w : World) : List String :=
  w.registry.entries.reverse.filterMap w.nameOf

/-- The registry agrees with the handle objects and with the engine. -/
structure Consistent (w : World) : Prop where
  nodup : w.registry.entries.Nodup
  fresh : ∀ id, w.created ≤ id →
    (w.transactions id).closed = true ∧ (w.savepoints id).released = true
  transactions : ∀ id, .transaction id ∈ w.registry.entries ↔ (w.transactions id).closed = false
  savepoints : ∀ id, .savepoint id ∈ w.registry.entries ↔
    (w.savepoints id).released = false ∧ (w.savepoints id).invalidated = false
  /-- A savepoint is registered after its transaction. -/
  owner : ∀ id, .savepoint id ∈ w.registry.entries →
    [.transaction (w.savepoints id).transaction, .savepoint id].Sublist w.registry.entries
  owned : ∀ t id, id ∈ (w.transactions t).savepoints ↔
    .savepoint id ∈ w.registry.entries ∧ (w.savepoints id).transaction = t
  ownedNodup : ∀ t, (w.transactions t).savepoints.Nodup
  ownNames : ∀ t name, name ∈ (w.transactions t).savepointNames ↔
    (.transaction t ∈ w.registry.entries ∧ (w.transactions t).generatedSavepointName = some name) ∨
      ∃ id, .savepoint id ∈ w.registry.entries ∧ (w.savepoints id).transaction = t ∧
        (w.savepoints id).name = name
  stack : ∀ id, id ∈ w.registry.stack ↔ .transaction id ∈ w.registry.entries
  stackNodup : w.registry.stack.Nodup
  names : ∀ key, key ∈ w.registry.savepointNames ↔
    ∃ entry ∈ w.registry.entries, ∃ name, w.nameOf entry = some name ∧ foldName name = key
  distinct : DistinctNames w.liveNames
  /-- Only the first entry may be a transaction without a savepoint. -/
  outermost : ∀ id, .transaction id ∈ w.registry.entries →
    (w.transactions id).generatedSavepointName = none →
      w.registry.entries.head? = some (.transaction id)
  tracked : Tracks w.liveNames (w.engine.getD [])
  isOpen : w.registry.entries ≠ [] → w.engine.isSome

/-- What the bookkeeping of the registry leaves alone. -/
structure SameHandles (w w' : World) : Prop where
  engine : w'.engine = w.engine
  created : w'.created = w.created
  owner : ∀ id, (w'.savepoints id).transaction = (w.savepoints id).transaction
  name : ∀ id, (w'.savepoints id).name = (w.savepoints id).name
  generated : ∀ id, (w'.transactions id).generatedSavepointName =
    (w.transactions id).generatedSavepointName

namespace SameHandles

theorem refl (w : World) : SameHandles w w :=
  ⟨rfl, rfl, fun _ => rfl, fun _ => rfl, fun _ => rfl⟩

theorem trans {w w' w'' : World} (first : SameHandles w w') (second : SameHandles w' w'') :
    SameHandles w w'' :=
  ⟨second.engine.trans first.engine, second.created.trans first.created,
    fun id => (second.owner id).trans (first.owner id),
    fun id => (second.name id).trans (first.name id),
    fun id => (second.generated id).trans (first.generated id)⟩

theorem nameOf {w w' : World} (same : SameHandles w w') (entry : RegistryEntry) :
    w'.nameOf entry = w.nameOf entry := by
  cases entry with
  | transaction id => exact same.generated id
  | savepoint id => exact congrArg some (same.name id)

end SameHandles

/-- In a pairwise related list, two elements are equal or related one way or the other. -/
theorem eq_or_related {α : Type} {R : α → α → Prop} {items : List α} (related : items.Pairwise R)
    {a b : α} (inside : a ∈ items) (inside' : b ∈ items) : a = b ∨ R a b ∨ R b a := by
  induction items with
  | nil => cases inside
  | cons first rest ih =>
      obtain ⟨head, tail⟩ := List.pairwise_cons.mp related
      rcases List.mem_cons.mp inside with rfl | inRest
      · rcases List.mem_cons.mp inside' with rfl | inRest'
        · exact Or.inl rfl
        · exact Or.inr (Or.inl (head b inRest'))
      · rcases List.mem_cons.mp inside' with rfl | inRest'
        · exact Or.inr (Or.inr (head a inRest))
        · exact ih tail inRest inRest'

/-- The first of distinct elements stays first as long as it stays at all. -/
theorem head_of_sublist {α : Type} {items fewer : List α} {a : α} (nodup : items.Nodup)
    (head : items.head? = some a) (inside : fewer.Sublist items) (kept : a ∈ fewer) :
    fewer.head? = some a := by
  cases inside with
  | slnil => cases kept
  | cons first inside =>
      obtain rfl : first = a := by simpa using head
      exact absurd (inside.subset kept) (List.nodup_cons.mp nodup).1
  | cons_cons first inside => simpa using head

theorem sublist_filterMap_of_eq {α β : Type} {f g : α → Option β} {fewer items : List α}
    (inside : fewer.Sublist items) (same : ∀ item, f item = g item) :
    (fewer.reverse.filterMap f).Sublist (items.reverse.filterMap g) := by
  rw [funext same]
  exact inside.reverse.filterMap g

/-- The live names of a world whose registry lost entries are among those it had. -/
theorem liveNames_sublist {w w' : World} (same : SameHandles w w')
    (fewer : w'.registry.entries.Sublist w.registry.entries) :
    w'.liveNames.Sublist w.liveNames :=
  sublist_filterMap_of_eq fewer same.nameOf

namespace Consistent

/-- Two registered handles never share a savepoint name. -/
theorem nameOf_injective {w : World} (ok : Consistent w) {first second : RegistryEntry}
    (registered : first ∈ w.registry.entries) (registered' : second ∈ w.registry.entries)
    {name name' : String} (named : w.nameOf first = some name) (named' : w.nameOf second = some name')
    (same : foldName name = foldName name') : first = second := by
  have distinct := ok.distinct
  simp only [World.liveNames, DistinctNames, List.pairwise_filterMap, List.pairwise_reverse]
    at distinct
  rcases eq_or_related distinct registered registered' with equal | differ | differ
  · exact equal
  · exact absurd same.symm (differ _ named' _ named)
  · exact absurd same (differ _ named _ named')

/-- The parts of the invariant that losing entries cannot break. -/
theorem distinct_of_sublist {w w' : World} (ok : Consistent w) (same : SameHandles w w')
    (fewer : w'.registry.entries.Sublist w.registry.entries) : DistinctNames w'.liveNames :=
  ok.distinct.sublist (liveNames_sublist same fewer)

theorem tracked_of_sublist {w w' : World} (ok : Consistent w) (same : SameHandles w w')
    (fewer : w'.registry.entries.Sublist w.registry.entries) :
    Tracks w'.liveNames (w'.engine.getD []) := by
  rw [same.engine]
  exact ok.tracked.sublist ok.distinct (liveNames_sublist same fewer)

theorem outermost_of_sublist {w w' : World} (ok : Consistent w) (same : SameHandles w w')
    (fewer : w'.registry.entries.Sublist w.registry.entries) (id : Nat)
    (registered : .transaction id ∈ w'.registry.entries)
    (unnamed : (w'.transactions id).generatedSavepointName = none) :
    w'.registry.entries.head? = some (.transaction id) := by
  rw [same.generated] at unnamed
  have head := ok.outermost id (fewer.subset registered) unnamed
  exact head_of_sublist ok.nodup head fewer registered

end Consistent

/-! ### Sets of entries that go together -/

/-- The handles that go when `gone` goes: itself, and the savepoints of a transaction. -/
def World.belongs (w : World) : RegistryEntry → RegistryEntry → Bool
  | .transaction t, .transaction other => decide (other = t)
  | .transaction t, .savepoint id => decide ((w.savepoints id).transaction = t)
  | .savepoint id, .savepoint other => decide (other = id)
  | .savepoint _, .transaction _ => false

/-- The step from `w` to `w'` removes exactly the entries in `gone` from a consistent registry. -/
structure Removes (w w' : World) (gone : RegistryEntry → Bool) : Prop where
  consistent : Consistent w'
  same : SameHandles w w'
  entries : w'.registry.entries = w.registry.entries.filter fun entry => !gone entry

theorem SameHandles.belongs {w w' : World} (same : SameHandles w w') (gone entry : RegistryEntry) :
    w'.belongs gone entry = w.belongs gone entry := by
  cases gone <;> cases entry <;> simp [World.belongs, same.owner]

theorem Removes.trans {w w' w'' : World} {gone gone' : RegistryEntry → Bool}
    (first : Removes w w' gone) (second : Removes w' w'' gone') :
    Removes w w'' fun entry => gone entry || gone' entry := by
  refine ⟨second.consistent, first.same.trans second.same, ?_⟩
  rw [second.entries, first.entries, List.filter_filter]
  simp [Bool.and_comm]

theorem Removes.congr {w w' : World} {gone gone' : RegistryEntry → Bool}
    (removes : Removes w w' gone) (equal : ∀ entry, gone entry = gone' entry) :
    Removes w w' gone' := by
  rw [← funext equal]
  exact removes

/-- Removing one group of entries after the other. -/
theorem Removes.fold {ι : Type} {f : World → ι → World} (key : ι → RegistryEntry)
    (step : ∀ w item, Consistent w → Removes w (f w item) (w.belongs (key item)))
    (items : List ι) {w : World} (ok : Consistent w) :
    Removes w (items.foldl f w) fun entry => items.any fun item => w.belongs (key item) entry := by
  induction items generalizing w with
  | nil => exact ⟨ok, .refl w, (List.filter_eq_self.mpr fun _ _ => rfl).symm⟩
  | cons first rest ih =>
      have head := step w first ok
      refine (head.trans (ih head.consistent)).congr fun entry => ?_
      simp [head.same.belongs]

theorem Consistent.mem_erase {w : World} (ok : Consistent w) {entry gone : RegistryEntry} :
    entry ∈ w.registry.entries.erase gone ↔ entry ≠ gone ∧ entry ∈ w.registry.entries :=
  ok.nodup.mem_erase_iff

theorem Consistent.erase_eq_filter {w : World} (ok : Consistent w) (gone : RegistryEntry) :
    w.registry.entries.erase gone =
      w.registry.entries.filter fun entry => !decide (entry = gone) := by
  rw [ok.nodup.erase_eq_filter]
  simp [bne, BEq.beq]

theorem World.belongs_savepoint (w : World) (id : Nat) (entry : RegistryEntry) :
    w.belongs (.savepoint id) entry = decide (entry = .savepoint id) := by
  cases entry <;> simp [World.belongs]

/-- Forgetting a registered savepoint and marking its handle removes the savepoint's entry. -/
theorem dropSavepoint_removes {w : World} (ok : Consistent w) {id : Nat}
    (live : .savepoint id ∈ w.registry.entries) {object : SavepointObject}
    (owner : object.transaction = (w.savepoints id).transaction)
    (name : object.name = (w.savepoints id).name)
    (gone : ¬(object.released = false ∧ object.invalidated = false)) :
    Removes w ((w.forgetSavepoint id).setSavepoint id object) (w.belongs (.savepoint id)) := by
  obtain ⟨open_, valid⟩ := (ok.savepoints id).mp live
  have sp : ∀ other, ((w.forgetSavepoint id).setSavepoint id object).savepoints other =
      if other = id then object else w.savepoints other := fun _ => rfl
  have tx : ∀ t, ((w.forgetSavepoint id).setSavepoint id object).transactions t =
      if t = (w.savepoints id).transaction then
        { w.transactions t with
          savepoints := (w.transactions t).savepoints.erase id
          savepointNames := (w.transactions t).savepointNames.filter (· ≠ (w.savepoints id).name) }
      else w.transactions t := by
    intro t
    change (if t = _ then _ else _) = _
    split
    · subst_vars; rfl
    · rfl
  have closed : ∀ t, (((w.forgetSavepoint id).setSavepoint id object).transactions t).closed =
      (w.transactions t).closed := by
    intro t; rw [tx]; split <;> rfl
  have ownerOf : ∀ other,
      (((w.forgetSavepoint id).setSavepoint id object).savepoints other).transaction =
        (w.savepoints other).transaction := by
    intro other; rw [sp]; split
    · subst_vars; exact owner
    · rfl
  have nameOf : ∀ other,
      (((w.forgetSavepoint id).setSavepoint id object).savepoints other).name =
        (w.savepoints other).name := by
    intro other; rw [sp]; split
    · subst_vars; exact name
    · rfl
  have generated : ∀ t,
      (((w.forgetSavepoint id).setSavepoint id object).transactions t).generatedSavepointName =
        (w.transactions t).generatedSavepointName := by
    intro t; rw [tx]; split <;> rfl
  have same : SameHandles w ((w.forgetSavepoint id).setSavepoint id object) :=
    ⟨rfl, rfl, ownerOf, nameOf, generated⟩
  have fewer : (w.registry.entries.erase (.savepoint id)).Sublist w.registry.entries :=
    List.erase_sublist
  have entries : ∀ entry,
      entry ∈ ((w.forgetSavepoint id).setSavepoint id object).registry.entries ↔
        entry ≠ .savepoint id ∧ entry ∈ w.registry.entries := fun _ => ok.mem_erase
  refine
    { same
      entries := (ok.erase_eq_filter _).trans (by simp only [World.belongs_savepoint])
      consistent :=
        { nodup := ok.nodup.sublist fewer
          fresh := ?_
          transactions := ?_
          savepoints := ?_
          owner := ?_
          owned := ?_
          ownedNodup := ?_
          ownNames := ?_
          stack := ?_
          stackNodup := ok.stackNodup
          names := ?_
          distinct := ok.distinct_of_sublist same fewer
          outermost := ok.outermost_of_sublist same fewer
          tracked := ok.tracked_of_sublist same fewer
          isOpen := fun some_ =>
            ok.isOpen fun none => some_ (List.sublist_nil.mp (none ▸ fewer)) } }
  · intro other new
    rw [closed, sp]
    split
    · subst_vars
      exact absurd (ok.fresh _ new).2 (by simp [open_])
    · exact ok.fresh other new
  · intro t
    rw [entries, closed]
    simpa using ok.transactions t
  · intro other
    rw [entries, sp]
    split
    · subst_vars
      exact iff_of_false (by simp) gone
    · rename_i different
      simpa [different] using ok.savepoints other
  · intro other registered
    obtain ⟨different, registered⟩ := (entries _).mp registered
    rw [ownerOf]
    have pair := (ok.owner other registered).erase (.savepoint id)
    rwa [List.erase_of_not_mem (by simp; simpa using Ne.symm different)] at pair
  · intro t other
    rw [entries, ownerOf, tx]
    split
    · subst_vars
      simp only [(ok.ownedNodup _).mem_erase_iff, ok.owned]
      grind
    · rw [ok.owned]
      grind
  · intro t
    rw [tx]
    split
    · exact (ok.ownedNodup t).sublist List.erase_sublist
    · exact ok.ownedNodup t
  · intro t other
    simp only [entries, ownerOf, nameOf, generated]
    rw [tx]
    have named : w.nameOf (.savepoint id) = some (w.savepoints id).name := rfl
    split
    · subst_vars
      simp only [List.mem_filter, decide_eq_true_eq, ok.ownNames]
      constructor
      · rintro ⟨⟨registered, made⟩ | ⟨s, registered, made, rfl⟩, different⟩
        · exact Or.inl ⟨⟨by simp, registered⟩, made⟩
        · refine Or.inr ⟨s, ⟨fun same => different ?_, registered⟩, made, rfl⟩
          rw [RegistryEntry.savepoint.inj same]
      · rintro (⟨⟨-, registered⟩, made⟩ | ⟨s, ⟨different, registered⟩, made, rfl⟩)
        · refine ⟨Or.inl ⟨registered, made⟩, fun same => ?_⟩
          have := ok.nameOf_injective registered live made named (same ▸ rfl)
          simp at this
        · refine ⟨Or.inr ⟨s, registered, made, rfl⟩, fun same => different ?_⟩
          exact ok.nameOf_injective registered live rfl named (congrArg foldName same)
    · rename_i elsewhere
      rw [ok.ownNames]
      constructor
      · rintro (⟨registered, made⟩ | ⟨s, registered, made, rfl⟩)
        · exact Or.inl ⟨⟨by simp, registered⟩, made⟩
        · refine Or.inr ⟨s, ⟨fun same => elsewhere ?_, registered⟩, made, rfl⟩
          rw [← made, RegistryEntry.savepoint.inj same]
      · rintro (⟨⟨-, registered⟩, made⟩ | ⟨s, ⟨-, registered⟩, made, rfl⟩)
        · exact Or.inl ⟨registered, made⟩
        · exact Or.inr ⟨s, registered, made, rfl⟩
  · intro t
    rw [entries]
    exact (ok.stack t).trans (by simp)
  · intro key
    change key ∈ w.registry.savepointNames.filter (· ≠ foldName (w.savepoints id).name) ↔ _
    simp only [List.mem_filter, decide_eq_true_eq, entries, same.nameOf, ok.names]
    have named : w.nameOf (.savepoint id) = some (w.savepoints id).name := rfl
    constructor
    · rintro ⟨⟨entry, registered, name, made, rfl⟩, different⟩
      refine ⟨entry, ⟨fun same => different ?_, registered⟩, name, made, rfl⟩
      subst same
      rw [named, Option.some.injEq] at made
      rw [made]
    · rintro ⟨entry, ⟨different, registered⟩, name, made, rfl⟩
      refine ⟨⟨entry, registered, name, made, rfl⟩, fun same => different ?_⟩
      exact ok.nameOf_injective registered live made named same

/-- `_SQLiteSavepoint._invalidate` removes its own entry. -/
theorem invalidateSavepoint_removes {w : World} (ok : Consistent w) (id : Nat) :
    Removes w (w.invalidateSavepoint id) (w.belongs (.savepoint id)) := by
  cases dead : (w.savepoints id).released || (w.savepoints id).invalidated with
  | true =>
      have absent : .savepoint id ∉ w.registry.entries := fun registered => by
        have := (ok.savepoints id).mp registered
        simp [this] at dead
      rw [invalidateSavepoint, if_pos dead]
      refine ⟨ok, .refl w, (List.filter_eq_self.mpr fun entry registered => ?_).symm⟩
      rw [World.belongs_savepoint]
      simpa using fun same : entry = .savepoint id => absent (same ▸ registered)
  | false =>
      have alive := Bool.or_eq_false_iff.mp dead
      have live : .savepoint id ∈ w.registry.entries := (ok.savepoints id).mpr alive
      rw [invalidateSavepoint, if_neg (by simp [dead])]
      exact dropSavepoint_removes ok live rfl rfl (by simp)

/-! ### Closing a transaction -/

theorem foldl_releaseSavepointName (names : List String) (w : World) :
    names.foldl releaseSavepointName w = w.setRegistry { w.registry with
      savepointNames := w.registry.savepointNames.filter fun key =>
        names.all fun name => decide (key ≠ foldName name) } := by
  induction names generalizing w with
  | nil =>
      simp only [List.foldl_nil, List.all_nil]
      rw [List.filter_eq_self.mpr fun _ _ => rfl]
      rfl
  | cons name rest ih =>
      rw [List.foldl_cons, ih]
      simp [releaseSavepointName, setRegistry, Bool.and_comm]

/-- An empty consistent registry is the fresh one. -/
theorem Consistent.discard {w : World} (ok : Consistent w) : w.discard = w := by
  unfold World.discard
  split
  · rename_i empty
    have stack : w.registry.stack = [] :=
      List.eq_nil_iff_forall_not_mem.mpr fun id member => by
        simpa [empty] using (ok.stack id).mp member
    have names : w.registry.savepointNames = [] :=
      List.eq_nil_iff_forall_not_mem.mpr fun key member => by
        simpa [empty] using (ok.names key).mp member
    obtain ⟨engine, ⟨stack', entries, names'⟩, transactions, savepoints, created, sequence, level⟩ := w
    simp only at empty stack names
    subst empty stack names
    rfl
  · rfl

/-- The world `_close` leaves once the savepoints of the transaction are gone. -/
def World.dropTransaction (w : World) (t : Nat) : World :=
  let object := w.transactions t
  (w.setTransaction t { object with savepoints := [], savepointNames := [], closed := true }).setRegistry
    { stack := w.registry.stack.erase t
      entries := w.registry.entries.erase (.transaction t)
      savepointNames := w.registry.savepointNames.filter fun key =>
        object.savepointNames.all fun name => decide (key ≠ foldName name) }

theorem dropTransaction_removes {w : World} (ok : Consistent w) {t : Nat}
    (bare : (w.transactions t).savepoints = []) :
    Removes w (w.dropTransaction t) fun entry => decide (entry = .transaction t) := by
  have tx : ∀ other, (w.dropTransaction t).transactions other =
      if other = t then
        { w.transactions t with savepoints := [], savepointNames := [], closed := true }
      else w.transactions other := fun _ => rfl
  have generated : ∀ other, ((w.dropTransaction t).transactions other).generatedSavepointName =
      (w.transactions other).generatedSavepointName := by
    intro other; rw [tx]; split
    · subst_vars; rfl
    · rfl
  have sp : ∀ id, (w.dropTransaction t).savepoints id = w.savepoints id := fun _ => rfl
  have same : SameHandles w (w.dropTransaction t) :=
    ⟨rfl, rfl, fun _ => rfl, fun _ => rfl, generated⟩
  have fewer : (w.registry.entries.erase (.transaction t)).Sublist w.registry.entries :=
    List.erase_sublist
  have entries : ∀ entry, entry ∈ (w.dropTransaction t).registry.entries ↔
      entry ≠ .transaction t ∧ entry ∈ w.registry.entries := fun _ => ok.mem_erase
  have foreign : ∀ id, .savepoint id ∈ w.registry.entries → (w.savepoints id).transaction ≠ t := by
    intro id registered made
    have := (ok.owned t id).mpr ⟨registered, made⟩
    simp [bare] at this
  refine
    { same
      entries := ok.erase_eq_filter _
      consistent :=
        { nodup := ok.nodup.sublist fewer
          fresh := ?_
          transactions := ?_
          savepoints := ?_
          owner := ?_
          owned := ?_
          ownedNodup := ?_
          ownNames := ?_
          stack := ?_
          stackNodup := ok.stackNodup.sublist List.erase_sublist
          names := ?_
          distinct := ok.distinct_of_sublist same fewer
          outermost := ok.outermost_of_sublist same fewer
          tracked := ok.tracked_of_sublist same fewer
          isOpen := fun some_ =>
            ok.isOpen fun none => some_ (List.sublist_nil.mp (none ▸ fewer)) } }
  · intro other new
    rw [tx]
    split
    · subst_vars
      exact ⟨rfl, (ok.fresh _ new).2⟩
    · exact ok.fresh other new
  · intro other
    rw [entries, tx]
    split
    · subst_vars
      simp
    · rename_i different
      simpa [different] using ok.transactions other
  · intro id
    rw [entries]
    exact Iff.trans (by simp) (ok.savepoints id)
  · intro id registered
    obtain ⟨-, registered⟩ := (entries _).mp registered
    have pair := (ok.owner id registered).erase (.transaction t)
    rwa [List.erase_of_not_mem (by simpa using Ne.symm (foreign id registered))] at pair
  · intro other id
    rw [entries, tx, sp]
    split
    · subst_vars
      simp only [List.not_mem_nil, false_iff, not_and]
      rintro ⟨-, registered⟩
      exact foreign id registered
    · rw [ok.owned]
      simp
  · intro other
    rw [tx]
    split
    · exact .nil
    · exact ok.ownedNodup other
  · intro other name
    simp only [entries, generated, sp]
    rw [tx]
    split
    · subst_vars
      simp only [List.not_mem_nil, false_iff, not_or, not_exists]
      refine ⟨by simp, fun id => ?_⟩
      rintro ⟨⟨-, registered⟩, made, -⟩
      exact foreign id registered made
    · rename_i different
      rw [ok.ownNames]
      simp [different]
  · intro other
    rw [entries]
    change other ∈ w.registry.stack.erase t ↔ _
    rw [ok.stackNodup.mem_erase_iff, ok.stack]
    simp
  · intro key
    change key ∈ w.registry.savepointNames.filter _ ↔ _
    simp only [List.mem_filter, List.all_eq_true, decide_eq_true_eq, entries, same.nameOf, ok.names]
    constructor
    · rintro ⟨⟨entry, registered, name, made, rfl⟩, other⟩
      refine ⟨entry, ⟨fun same => ?_, registered⟩, name, made, rfl⟩
      subst same
      exact other name ((ok.ownNames t name).mpr (Or.inl ⟨registered, made⟩)) rfl
    · rintro ⟨entry, ⟨different, registered⟩, name, made, rfl⟩
      refine ⟨⟨entry, registered, name, made, rfl⟩, fun own member same => ?_⟩
      rcases (ok.ownNames t own).mp member with ⟨registered', made'⟩ | ⟨id, registered', made', -⟩
      · exact different (ok.nameOf_injective registered registered' made made' same)
      · exact foreign id registered' made'

theorem close_eq (w : World) (t : Nat) :
    w.close t =
      (((w.transactions t).savepoints.foldl invalidateSavepoint w).dropTransaction t).discard := by
  simp only [close, clearSavepointNames, foldl_releaseSavepointName]
  generalize (w.transactions t).savepoints.foldl invalidateSavepoint w = cleared
  congr 1
  simp only [dropTransaction, removeEntry, setRegistry, setTransaction, World.mk.injEq, true_and,
    and_true]
  funext other
  by_cases hit : other = t <;> simp [hit]

/-- `_close` removes the transaction and its savepoints. -/
theorem close_removes {w : World} (ok : Consistent w) (t : Nat) :
    Removes w (w.close t) (w.belongs (.transaction t)) := by
  have cleared := Removes.fold .savepoint (fun w id ok => invalidateSavepoint_removes ok id)
    (w.transactions t).savepoints ok
  rw [close_eq]
  generalize (w.transactions t).savepoints.foldl invalidateSavepoint w = w' at cleared
  have bare : (w'.transactions t).savepoints = [] := by
    refine List.eq_nil_iff_forall_not_mem.mpr fun id member => ?_
    obtain ⟨registered, made⟩ := (cleared.consistent.owned t id).mp member
    rw [cleared.entries, List.mem_filter] at registered
    rw [cleared.same.owner] at made
    have own := (ok.owned t id).mpr ⟨registered.1, made⟩
    simp only [World.belongs_savepoint, Bool.not_eq_true', List.any_eq_false, decide_eq_true_eq]
      at registered
    exact registered.2 id own rfl
  have dropped := dropTransaction_removes cleared.consistent bare
  rw [dropped.consistent.discard]
  have both := cleared.trans dropped
  refine ⟨both.consistent, both.same, ?_⟩
  rw [both.entries]
  refine List.filter_congr fun entry registered => ?_
  cases entry with
  | transaction other => simp [World.belongs]
  | savepoint id =>
      have own := ok.owned t id
      simp only [registered, true_and] at own
      rw [Bool.eq_iff_iff]
      simp only [World.belongs, ← own]
      simp
      exact ⟨fun other member => other id member rfl, fun absent x member same =>
        absent (same ▸ member)⟩

/-- `entry._invalidate()` removes the entry with what belongs to it. -/
theorem invalidate_removes {w : World} (ok : Consistent w) (entry : RegistryEntry) :
    Removes w (w.invalidate entry) (w.belongs entry) := by
  cases entry with
  | transaction t => exact close_removes ok t
  | savepoint id => exact invalidateSavepoint_removes ok id

/-! ### Cutting the registry behind an entry -/

/-- In a list without repetition the second of a pair in order does not precede the first. -/
theorem not_pair_of_append {α : Type} {before after : List α} {a b : α}
    (nodup : (before ++ after).Nodup) (inBefore : a ∈ before) (inAfter : b ∈ after) :
    ¬[b, a].Sublist (before ++ after) := by
  have apart := (List.nodup_append.mp nodup).2.2
  intro pair
  obtain ⟨first, second, split, inFirst, inSecond⟩ := List.sublist_append_iff.mp pair
  cases first with
  | nil =>
      have : a ∈ second := by rw [List.nil_append] at split; simp [← split]
      exact apart a inBefore a (inSecond.subset this) rfl
  | cons head tail =>
      obtain rfl : b = head := (List.cons.inj split).1
      exact apart b (inFirst.subset List.mem_cons_self) b inAfter rfl

theorem idxOf?_append_cons {before after : List RegistryEntry} {entry : RegistryEntry}
    (nodup : (before ++ entry :: after).Nodup) :
    (before ++ entry :: after).idxOf? entry = some before.length := by
  have absent : entry ∉ before := fun member =>
    (List.nodup_append.mp nodup).2.2 entry member entry List.mem_cons_self rfl
  rw [List.idxOf?_eq_some_iff]
  refine ⟨by simp, by simp, fun j smaller => ?_⟩
  rw [List.getElem_append_left smaller]
  exact fun same => absent (same ▸ List.getElem_mem smaller)

/-- `invalidate_after` cuts the registry behind the entry. -/
theorem invalidateAfter_removes {w : World} (ok : Consistent w)
    {before after : List RegistryEntry} {entry : RegistryEntry}
    (split : w.registry.entries = before ++ entry :: after) :
    Consistent (w.invalidateAfter entry) ∧ SameHandles w (w.invalidateAfter entry) ∧
      (w.invalidateAfter entry).registry.entries = before ++ [entry] := by
  have nodup := ok.nodup
  rw [split] at nodup
  have position := idxOf?_append_cons nodup
  rw [invalidateAfter, split, position]
  have removed := Removes.fold id (fun w entry ok => invalidate_removes ok entry) after ok
  have dropped : (before ++ entry :: after).drop (before.length + 1) = after := by simp
  simp only [dropped]
  refine ⟨removed.consistent, removed.same, ?_⟩
  rw [removed.entries, split]
  have whole : before ++ entry :: after = (before ++ [entry]) ++ after := by simp
  rw [whole] at nodup ⊢
  have apart := (List.nodup_append.mp nodup).2.2
  have behind : ∀ kept ∈ before ++ [entry], ∀ gone ∈ after, w.belongs gone kept = false := by
    intro kept inFront gone inAfter
    have different := apart kept inFront gone inAfter
    cases gone with
    | transaction t =>
        cases kept with
        | transaction other => simpa [World.belongs] using different
        | savepoint id =>
            have registered : .savepoint id ∈ w.registry.entries := by
              rw [split, whole]
              exact List.mem_append_left _ inFront
            have pair := ok.owner id registered
            rw [split, whole] at pair
            refine decide_eq_false fun made => ?_
            rw [made] at pair
            exact not_pair_of_append nodup inFront inAfter pair
    | savepoint id =>
        cases kept with
        | transaction other => rfl
        | savepoint other => simpa [World.belongs] using different
  have self : ∀ gone, w.belongs gone gone = true := by
    intro gone
    cases gone <;> simp [World.belongs]
  have front : (before ++ [entry]).filter (fun kept => !after.any fun gone =>
      w.belongs (id gone) kept) = before ++ [entry] := by
    refine List.filter_eq_self.mpr fun kept inFront => ?_
    simpa using fun gone inAfter => behind kept inFront gone inAfter
  have back : after.filter (fun kept => !after.any fun gone => w.belongs (id gone) kept) = [] := by
    refine List.filter_eq_nil_iff.mpr fun gone inAfter => ?_
    simpa using ⟨gone, inAfter, self gone⟩
  rw [List.filter_append, front, back, List.append_nil]

/-- `invalidate_all` leaves no entry. -/
theorem invalidateAll_removes {w : World} (ok : Consistent w) :
    Consistent w.invalidateAll ∧ w.invalidateAll.engine = w.engine ∧
      w.invalidateAll.registry.entries = [] := by
  have removed := Removes.fold id (fun w entry ok => invalidate_removes ok entry)
    w.registry.entries ok
  have empty : (w.registry.entries.foldl invalidate w).registry.entries = [] := by
    rw [removed.entries]
    refine List.filter_eq_nil_iff.mpr fun entry registered => ?_
    have self : w.belongs entry entry = true := by cases entry <;> simp [World.belongs]
    simpa using ⟨entry, registered, self⟩
  have fresh : w.invalidateAll = w.registry.entries.foldl invalidate w := by
    have same := removed.consistent.discard
    unfold World.discard at same
    rwa [if_pos empty] at same
  rw [fresh]
  exact ⟨removed.consistent, removed.same.engine, empty⟩

end Relq.Sqlite
