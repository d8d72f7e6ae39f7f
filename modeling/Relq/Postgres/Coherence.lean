/-
Module: Relq.Postgres.Coherence
Layer: Postgres
Purpose: The invariant that ties the registry of one connection to its session, to the pool and to
  the owner of the outer transaction. The bookkeeping of handles is consistent by itself
  (`Registered`); the names of the registered handles stand on the session's stack; the outermost
  handle of an acquired connection holds it, and once no handle is left it was given back once.
Imports: Relq.Postgres.Runs, Relq.Sqlite.Transitions
Trusted boundary: none (fully proved)
Main exports: Registered, SameBook, Registered.invalidateAfter, Registered.close, Holding, Coherent,
  Coherent.cut
-/
import Relq.Postgres.Runs
import Relq.Sqlite.Transitions

namespace Relq.Postgres

open Relq.Sqlite

/-! ### The bookkeeping by itself -/

/-- The bookkeeping of the handles is consistent with an engine that holds just their names. -/
def Registered (w : World) : Prop :=
  Consistent (w.onEngine (some w.liveNames))

theorem tracks_self (names : List String) : Tracks names names := by
  induction names with
  | nil => exact .nil []
  | cons name rest ih => exact ih.push name

/-- The step changed no name and no owner of a handle. -/
abbrev SameBook (w w' : World) : Prop :=
  SameHandles (w.onEngine none) (w'.onEngine none)

theorem SameBook.of_engines {w w' : World} {e e' : Engine}
    (same : SameHandles (w.onEngine e) (w'.onEngine e')) : SameBook w w' :=
  ⟨rfl, same.created, same.owner, same.name, same.generated⟩

theorem SameBook.nameOf {w w' : World} (same : SameBook w w') (entry : RegistryEntry) :
    w'.nameOf entry = w.nameOf entry :=
  SameHandles.nameOf same entry

/-- The names of a registry that lost its last entries. -/
theorem SameBook.liveNames {w w' : World} (same : SameBook w w') {before : List RegistryEntry}
    (entries : w'.registry.entries = before) :
    w'.liveNames = before.reverse.filterMap w.nameOf := by
  rw [World.liveNames, entries, funext same.nameOf]

namespace Registered

variable {w : World} {before after : List RegistryEntry} {entry : RegistryEntry}

theorem of_consistent {e : Engine} (ok : Consistent (w.onEngine e)) : Registered w :=
  ok.onEngine (tracks_self _) fun _ => rfl

theorem usable_iff (ok : Registered w) (entry : RegistryEntry) :
    w.usable entry = true ↔ entry ∈ w.registry.entries :=
  Consistent.usable_iff ok entry

theorem invalidateAfter (ok : Registered w) (split : w.registry.entries = before ++ entry :: after) :
    Registered (w.invalidateAfter entry) ∧ SameBook w (w.invalidateAfter entry) ∧
      (w.invalidateAfter entry).registry.entries = before ++ [entry] := by
  obtain ⟨cut, same, entries⟩ := invalidateAfter_removes ok split
  rw [onEngine_invalidateAfter] at cut same entries
  exact ⟨of_consistent cut, .of_engines same, entries⟩

theorem close (ok : Registered w) {t : Nat}
    (last : w.registry.entries = before ++ [RegistryEntry.transaction t]) :
    Registered (w.close t) ∧ SameBook w (w.close t) ∧ (w.close t).registry.entries = before := by
  have removed := close_removes ok t
  have entries := close_last ok last
  rw [onEngine_close] at entries
  obtain ⟨cut, same, -⟩ := removed
  rw [onEngine_close] at cut same
  exact ⟨of_consistent cut, .of_engines same, entries⟩

theorem releaseSavepoint (ok : Registered w) {id : Nat}
    (split : w.registry.entries = before ++ RegistryEntry.savepoint id :: after) :
    Registered (w.releaseSavepoint id) ∧ SameBook w (w.releaseSavepoint id) ∧
      (w.releaseSavepoint id).registry.entries = before := by
  obtain ⟨cut, same, entries⟩ := releaseSavepoint_removes ok split
  rw [onEngine_releaseSavepoint] at cut same entries
  exact ⟨of_consistent cut, .of_engines same, entries⟩

theorem invalidateSavepoint (ok : Registered w) {id : Nat}
    (last : w.registry.entries = before ++ [RegistryEntry.savepoint id]) :
    Registered (w.invalidateSavepoint id) ∧ SameBook w (w.invalidateSavepoint id) ∧
      (w.invalidateSavepoint id).registry.entries = before := by
  obtain ⟨cut, same, -⟩ := invalidateSavepoint_removes ok id
  have entries := invalidateSavepoint_last ok last
  rw [onEngine_invalidateSavepoint] at cut same entries
  exact ⟨of_consistent cut, .of_engines same, entries⟩

theorem invalidateAll (ok : Registered w) :
    Registered w.invalidateAll ∧ w.invalidateAll.registry.entries = [] := by
  obtain ⟨cut, -, entries⟩ := invalidateAll_removes ok
  have commutes : (w.onEngine (some w.liveNames)).invalidateAll =
      w.invalidateAll.onEngine (some w.liveNames) := by
    unfold World.invalidateAll
    rw [onEngine_registry, onEngine_foldl (onEngine_invalidate _)]
    rfl
  rw [commutes] at cut entries
  exact ⟨of_consistent cut, entries⟩

/-- `invalidate_all` once for each of several handles. -/
theorem invalidateEach (ok : Registered w) {handles : List Nat} (some_ : handles ≠ []) :
    Registered (handles.foldl (fun book _ => book.invalidateAll) w) ∧
      (handles.foldl (fun book _ => book.invalidateAll) w).registry.entries = [] := by
  induction handles generalizing w with
  | nil => exact absurd rfl some_
  | cons first rest ih =>
      cases rest with
      | nil => exact ok.invalidateAll
      | cons next rest => exact ih ok.invalidateAll.1 (by simp)

/-- The connection takes a number from the process-wide counter. -/
theorem numbered (ok : Registered w) (sequence : Nat) : Registered { w with sequence } :=
  Consistent.numbered ok sequence

end Registered

/-- The step from `w` to `w'` registers a new handle. -/
structure Adds (w w' : World) (new : RegistryEntry) (name : Option String) : Prop where
  registered : Registered w'
  entries : w'.registry.entries = w.registry.entries ++ [new]
  liveNames : w'.liveNames = name.toList ++ w.liveNames
  generated : ∀ id, .transaction id ∈ w.registry.entries →
    (w'.transactions id).generatedSavepointName = (w.transactions id).generatedSavepointName

namespace Registered

variable {w w' : World} {name : String}

theorem adds {e e' : Engine} {new : RegistryEntry} {name : Option String}
    (ok : Consistent (w'.onEngine e'))
    (step : Registers (w.onEngine e) (w'.onEngine e') new name) : Adds w w' new name where
  registered := .of_consistent ok
  entries := step.entries
  liveNames := step.liveNames
  generated := fun id inside => step.others (.transaction id) inside

theorem addOutermost (ok : Registered w) (empty : w.registry.entries = []) :
    Adds w (w.addTransaction none) (.transaction w.created) none := by
  have onEngine : Consistent (w.onEngine (some w.liveNames)) := ok
  have begun : Consistent ((w.addTransaction none).onEngine (some w.liveNames)) :=
    onEngine.begunTopLevel empty rfl
  exact adds begun (onEngine.registersOutermost empty rfl)

theorem addNested (ok : Registered w) (inactive : foldName name ∉ w.registry.savepointNames) :
    Adds w ((w.reserve name).addTransaction (some name)) (.transaction w.created) (some name) := by
  have onEngine : Consistent (w.onEngine (some w.liveNames)) := ok
  have begun : Consistent
      (((w.reserve name).addTransaction (some name)).onEngine (some (name :: w.liveNames))) :=
    onEngine.begunNested rfl inactive
  exact adds begun (onEngine.registersNested rfl inactive)

theorem addSavepoint (ok : Registered w) {t : Nat} (registered : .transaction t ∈ w.registry.entries)
    (inactive : foldName name ∉ w.registry.savepointNames) :
    Adds w ((w.reserve name).addSavepoint t name) (.savepoint w.created) (some name) := by
  have onEngine : Consistent (w.onEngine (some w.liveNames)) := ok
  have set : Consistent
      (((w.reserve name).addSavepoint t name).onEngine (some (name :: w.liveNames))) :=
    onEngine.savepointSet registered rfl inactive
  exact adds set (onEngine.registersSavepoint rfl inactive)

end Registered

/-! ### The connection -/

/-- The outermost handle of an acquired connection holds it; without one, the pool has it back. -/
structure Holding (pooled : Bool) (outermost : Option RegistryEntry) (c : Connection) : Prop where
  held : ∀ id, c.held id = true ↔ pooled = true ∧ outermost = some (.transaction id)
  releases : c.releases = if pooled = true ∧ outermost = none then 1 else 0

/-- The registry agrees with the session and with the owner of the outer transaction. -/
structure Aligned (owns : Bool) (c : Connection) : Prop where
  registered : Registered c.book
  tracked : c.book.liveNames.Sublist c.session.savepoints
  isOpen : c.book.registry.entries ≠ [] → c.session.inTransaction = true
  owned : ∀ id, c.book.registry.entries.head? = some (.transaction id) →
    (owns = true ↔ (c.book.transactions id).generatedSavepointName.isSome = true)

/-- The registry agrees with everything around it; an acquired connection has no other owner. -/
structure Coherent (pooled owns : Bool) (c : Connection) : Prop where
  aligned : Aligned owns c
  holding : Holding pooled c.book.registry.entries.head? c
  exclusive : pooled = true → owns = false

section Connection

variable {pooled owns : Bool} {c : Connection} {before after : List RegistryEntry}
  {entry : RegistryEntry}

/-- The registry lost its last entries and the session kept the names of the others. -/
theorem Aligned.cut (ok : Aligned owns c) (split : c.book.registry.entries = before ++ after)
    {book : World} (registered : Registered book) (same : SameBook c.book book)
    (entries : book.registry.entries = before) {session : Session}
    (kept : (before.reverse.filterMap c.book.nameOf).Sublist session.savepoints)
    (isOpen : before ≠ [] → session.inTransaction = true) :
    Aligned owns { c with book, session } where
  registered := registered
  tracked := by
    rw [same.liveNames entries]
    exact kept
  isOpen := by
    rw [entries]
    exact isOpen
  owned := by
    intro id head
    change book.registry.entries.head? = _ at head
    rw [entries] at head
    have generated : (book.transactions id).generatedSavepointName =
        (c.book.transactions id).generatedSavepointName := same.generated id
    change _ ↔ (book.transactions id).generatedSavepointName.isSome = true
    rw [generated]
    refine ok.owned id ?_
    cases before with
    | nil => cases head
    | cons first rest => simpa [split] using head

/-- The names registered before an entry stand on the session's stack. -/
theorem Aligned.tracked_before (ok : Aligned owns c)
    (split : c.book.registry.entries = before ++ after) :
    (before.reverse.filterMap c.book.nameOf).Sublist c.session.savepoints := by
  refine List.Sublist.trans ?_ ok.tracked
  rw [World.liveNames, split, List.reverse_append, List.filterMap_append]
  exact List.sublist_append_right _ _

/-- So does the name of the entry, above them. -/
theorem Aligned.tracked_named (ok : Aligned owns c)
    (split : c.book.registry.entries = before ++ entry :: after) {name : String}
    (named : c.book.nameOf entry = some name) :
    (name :: before.reverse.filterMap c.book.nameOf).Sublist c.session.savepoints := by
  have whole : c.book.registry.entries = (before ++ [entry]) ++ after := by simp [split]
  have kept := ok.tracked_before whole
  simpa [named] using kept

/-- The registry after the statement that a session refused is as it was. -/
theorem Aligned.fail (ok : Aligned owns c) : Aligned owns { c with session := c.session.fail } where
  registered := ok.registered
  tracked := by simpa using ok.tracked
  isOpen := by simpa using ok.isOpen
  owned := ok.owned

/-- An outermost transaction without a savepoint has no other owner. -/
theorem Aligned.unowned (ok : Aligned owns c) {id : Nat}
    (registered : .transaction id ∈ c.book.registry.entries)
    (unnamed : (c.book.transactions id).generatedSavepointName = none) : owns = false := by
  have head := Consistent.outermost ok.registered id registered unnamed
  have owned := ok.owned id head
  rw [unnamed] at owned
  simpa using owned

/-- The outermost entry is a transaction. -/
theorem Registered.head_transaction {w : World} (ok : Registered w)
    (some_ : w.registry.entries ≠ []) :
    ∃ id, w.registry.entries.head? = some (.transaction id) := by
  cases entries : w.registry.entries with
  | nil => exact absurd entries some_
  | cons first rest =>
      cases first with
      | transaction id => exact ⟨id, rfl⟩
      | savepoint id =>
          have onEngine : Consistent (w.onEngine (some w.liveNames)) := ok
          have pair : [.transaction (w.savepoints id).transaction, .savepoint id].Sublist
              w.registry.entries := onEngine.owner id (by simp [entries])
          have nodup : w.registry.entries.Nodup := onEngine.nodup
          rw [entries] at pair nodup
          cases pair with
          | cons _ later =>
              exact absurd (later.subset (by simp)) (List.nodup_cons.mp nodup).1

/-! ### Giving the connection back -/

@[simp] theorem release_book (c : Connection) (id : Nat) : (c.release id).book = c.book := by
  unfold Connection.release
  split <;> rfl

@[simp] theorem release_session (c : Connection) (id : Nat) :
    (c.release id).session = c.session := by
  unfold Connection.release
  split <;> rfl

theorem Aligned.release (ok : Aligned owns c) (id : Nat) : Aligned owns (c.release id) where
  registered := by simpa using ok.registered
  tracked := by simpa using ok.tracked
  isOpen := by simpa using ok.isOpen
  owned := by simpa using ok.owned

/-- The outermost handle gives the connection back. -/
theorem Holding.release {id : Nat} (ok : Holding pooled (some (.transaction id)) c) :
    Holding pooled none (c.release id) := by
  have held := ok.held
  have releases := ok.releases
  cases pooled with
  | false =>
      have unheld : c.held id = false := by simpa using held id
      rw [Connection.release, unheld]
      exact ⟨by simpa using held, by simpa using releases⟩
  | true =>
      have here : c.held id = true := (held id).mpr ⟨rfl, rfl⟩
      rw [Connection.release, if_pos here]
      refine ⟨fun other => ?_, by simp [releases]⟩
      by_cases same : other = id
      · simp [same]
      · have other' : c.held other = false := by
          simpa [Ne.symm same] using held other
        simp [same, other']

/-- Any other handle has nothing to give back. -/
theorem Holding.release_other {id : Nat} {outermost : Option RegistryEntry}
    (ok : Holding pooled outermost c) (other : outermost ≠ some (.transaction id)) :
    c.release id = c := by
  have unheld : ¬ c.held id = true := fun held => other ((ok.held id).mp held).2
  rw [Connection.release, if_neg unheld]

/-- Several handles give the connection back, the outermost one among them. -/
theorem Holding.releaseEach {handles : List Nat} {outermost : Option RegistryEntry}
    (ok : Holding pooled outermost c)
    (among : ∀ head, outermost = some head → ∃ id ∈ handles, head = .transaction id) :
    Holding pooled none (handles.foldl Connection.release c) := by
  induction handles generalizing c outermost with
  | nil =>
      cases outermost with
      | none => exact ok
      | some head =>
          obtain ⟨id, inside, -⟩ := among head rfl
          cases inside
  | cons first rest ih =>
      by_cases here : outermost = some (.transaction first)
      · subst here
        exact ih ok.release (by simp)
      · rw [List.foldl_cons, ok.release_other here]
        refine ih ok fun head isHead => ?_
        obtain ⟨id, inside, rfl⟩ := among head isHead
        rcases List.mem_cons.mp inside with rfl | inside
        · exact absurd isHead here
        · exact ⟨id, inside, rfl⟩

theorem Aligned.releaseEach (ok : Aligned owns c) (handles : List Nat) :
    Aligned owns (handles.foldl Connection.release c) := by
  induction handles generalizing c with
  | nil => exact ok
  | cons first rest ih => exact ih (ok.release first)

theorem releaseEach_book (c : Connection) (handles : List Nat) :
    (handles.foldl Connection.release c).book = c.book := by
  induction handles generalizing c with
  | nil => rfl
  | cons first rest ih => rw [List.foldl_cons, ih, release_book]

end Connection

end Relq.Postgres
