/-
Module: Relq.Postgres.Refinement
Layer: Postgres
Purpose: Every operation leaves the connection coherent, whatever the environment decides, and ends
  no transaction that the caller owns. By induction the registry refines the session in every
  reachable state, and the pool gets every connection back just when no handle is left on it.
Imports: Relq.Postgres.Recovery, Relq.Sqlite.Refinement
Trusted boundary: none (fully proved)
Main exports: Sound, beginControlled_idle, beginControlled_nested, perform_sound,
  registry_refines_session
-/
import Relq.Postgres.Recovery
import Relq.Sqlite.Refinement

namespace Relq.Postgres

open Relq.Sqlite (World RegistryEntry Failure Consistent foldName)
open Triples

/-! ### Leaving a handle -/

/-- The connection is coherent once the handle has given it back. -/
def Leaving (pooled owns : Bool) (id : Nat) (c : Connection) : Prop :=
  Coherent pooled owns (c.release id)

section Leaving

variable {pooled owns : Bool} {c c' : Connection} {id : Nat} {before after : List RegistryEntry}
  {entry : RegistryEntry}

theorem releaseConnection_spec :
    Triple (At owns (Leaving pooled owns id)) (releaseConnection id)
      (fun _ => At owns (Coherent pooled owns)) (fun _ => At owns (Coherent pooled owns)) :=
  Triple.at_elim fun _ leaving =>
    (update_spec _).weaken (fun _ here => here) (fun _ _ here => At.of_eq leaving here)
      (fun _ _ here => here)

theorem Gone.leaving (gone : Gone pooled owns id c) : Leaving pooled owns id c := by
  obtain ⟨ok, absent⟩ := gone
  have other : c.book.registry.entries.head? ≠ some (.transaction id) :=
    fun head => absent (List.mem_of_mem_head? head)
  rw [Leaving, ok.holding.release_other other]
  exact ok

/-- The transaction registered last is closed; the session kept the names of the others. -/
theorem Coherent.closed (ok : Coherent pooled owns c)
    (last : c.book.registry.entries = before ++ [RegistryEntry.transaction id]) {session : Session}
    (kept : (before.reverse.filterMap c.book.nameOf).Sublist session.savepoints)
    (isOpen : before ≠ [] → session.inTransaction = true) :
    Leaving pooled owns id { c with book := c.book.close id, session } := by
  obtain ⟨closed, same, entries⟩ := ok.aligned.registered.close last
  have aligned := ok.aligned.cut last closed same entries kept isOpen
  refine ⟨aligned.release id, ?_, ok.exclusive⟩
  have holding : Holding pooled (before ++ [RegistryEntry.transaction id]).head?
      { c with book := c.book.close id, session } := by
    rw [← last]
    exact ⟨ok.holding.held, ok.holding.releases⟩
  rw [release_book]
  change Holding pooled (c.book.close id).registry.entries.head? _
  rw [entries]
  cases before with
  | nil => exact holding.release
  | cons first rest =>
      have absent := Coherent.absent ok.aligned.registered last
      have other : (first :: rest ++ [RegistryEntry.transaction id]).head? ≠
          some (.transaction id) := by
        intro head
        exact absent (Option.some.inj head ▸ List.mem_cons_self)
      rw [holding.release_other other]
      exact holding

/-- The entries behind the handle are invalidated. -/
theorem Coherent.behind (ok : Coherent pooled owns c) (registered : entry ∈ c.book.registry.entries) :
    ∃ before, Coherent pooled owns { c with book := c.book.invalidateAfter entry } ∧
      (c.book.invalidateAfter entry).registry.entries = before ++ [entry] ∧
      Relq.Sqlite.SameHandles (c.book.onEngine none) ((c.book.invalidateAfter entry).onEngine none) := by
  obtain ⟨before, after, split⟩ := List.append_of_mem registered
  obtain ⟨cut, same, entries⟩ := ok.aligned.registered.invalidateAfter split
  refine ⟨before, ?_, entries, same⟩
  have split' : c.book.registry.entries = (before ++ [entry]) ++ after := by simp [split]
  exact ok.cut split' cut same entries (fun none => by simp at none)
    (ok.aligned.tracked_before split') fun _ => ok.aligned.isOpen (List.ne_nil_of_mem registered)

/-- An outermost transaction without a savepoint is the only entry when it is the last one. -/
theorem Coherent.only (ok : Coherent pooled owns c)
    (last : c.book.registry.entries = before ++ [RegistryEntry.transaction id])
    (unnamed : (c.book.transactions id).generatedSavepointName = none) : before = [] := by
  have head := Consistent.outermost ok.aligned.registered id (by
    change _ ∈ c.book.registry.entries
    simp [last]) unnamed
  have absent := Coherent.absent ok.aligned.registered last
  cases before with
  | nil => rfl
  | cons first rest =>
      change c.book.registry.entries.head? = _ at head
      rw [last] at head
      exact absurd (Option.some.inj head ▸ List.mem_cons_self) absent

theorem Coherent.closed_outermost (ok : Coherent pooled owns c)
    (last : c.book.registry.entries = before ++ [RegistryEntry.transaction id])
    (unnamed : (c.book.transactions id).generatedSavepointName = none) (session : Session) :
    Leaving pooled owns id { c with book := c.book.close id, session } := by
  obtain rfl := ok.only last unnamed
  exact ok.closed last (List.nil_sublist _) fun some_ => absurd rfl some_

theorem Coherent.closed_nested (ok : Coherent pooled owns c)
    (last : c.book.registry.entries = before ++ [RegistryEntry.transaction id]) {name : String}
    (named : (c.book.transactions id).generatedSavepointName = some name)
    (ran : Ran (.release name) c c') :
    Leaving pooled owns id { c' with book := c'.book.close id } := by
  obtain ⟨session, ran, rfl⟩ := ran
  obtain ⟨kept, isOpen⟩ := Session.run_release (ok.aligned.tracked_named last named) ran
  exact ok.closed last kept fun _ => isOpen

end Leaving

/-! ### Shared steps -/

/-- Whatever happens, the connection is left coherent. -/
def Sound (pooled owns : Bool) (m : Action Unit) : Prop :=
  ∀ c, Coherent pooled owns c →
    Triple (At owns (· = c)) m (fun _ => At owns (Coherent pooled owns))
      (fun _ => At owns (Coherent pooled owns))

section Steps

variable {pooled owns : Bool} {c : Connection} {P : Connection → Prop}

/-- The observer is told; the connection is as it was, whether or not it raises. -/
theorem observe_keeps (holds : P c) :
    Triple (At owns (· = c)) observe (fun _ => At owns P) (fun _ => At owns P) :=
  observe_spec.weaken (fun _ here => here) (fun _ _ here => At.of_eq holds here)
    (fun _ _ here => At.of_eq holds here)

theorem ensureUsable_spec (ok : Coherent pooled owns c) (entry : RegistryEntry) :
    Triple (At owns (· = c)) (ensureUsable entry)
      (fun _ => At owns fun c' => c' = c ∧ entry ∈ c.book.registry.entries)
      (fun _ => At owns (Coherent pooled owns)) := by
  refine Triple.connection_bind ?_
  by_cases usable : c.book.usable entry = true
  · rw [if_pos usable]
    exact pure_spec () ⟨rfl, (ok.aligned.registered.usable_iff entry).mp usable⟩
  · rw [if_neg usable]
    exact throw_spec _ ok

/-- An operation of a handle may assume that the handle is registered. -/
theorem Sound.ensureUsable {entry : RegistryEntry} {m : Action Unit}
    (rest : ∀ c, Coherent pooled owns c → entry ∈ c.book.registry.entries →
      Triple (At owns (· = c)) m (fun _ => At owns (Coherent pooled owns))
        (fun _ => At owns (Coherent pooled owns))) :
    Sound pooled owns (do ensureUsable entry; m) := fun _ ok =>
  Triple.bind (ensureUsable_spec ok entry) fun _ => Triple.at_elim fun _ ⟨same, registered⟩ =>
    same ▸ rest _ ok registered

/-- A statement whose failure ends in recovery, and what is done once it has succeeded. -/
theorem controlled_bind {control : Control} {handler : Failure → Action Unit} {m : Action Unit}
    {Q : Connection → Prop} (allowed : owns = true → control.isTopLevel = false)
    (handled : ∀ error, Triple (At owns (· = c.failed)) (handler error) (fun _ _ => False)
      (fun _ => At owns Q))
    (rest : ∀ c', Ran control c c' →
      Triple (At owns (· = c')) m (fun _ => At owns P) (fun _ => At owns Q)) :
    Triple (At owns (· = c)) (do tryCatch (runControl control) handler; m) (fun _ => At owns P)
      (fun _ => At owns Q) := by
  refine Triple.bind (M := fun _ => At owns (Ran control c)) ?_ fun _ => Triple.at_elim rest
  exact Triple.tryCatch (runControl_spec allowed) fun error =>
    (handled error).weaken (fun _ here => here) (fun _ _ => False.elim) (fun _ _ here => here)

end Steps

/-! ### The transaction handles -/

section Handles

variable {pooled owns : Bool}

/-- COMMIT or ROLLBACK of an outermost handle, or RELEASE of a nested one, which is then closed. -/
theorem ending_spec {c : Connection} {id : Nat} {control : Control} {before : List RegistryEntry}
    (ok : Coherent pooled owns c) (last : c.book.registry.entries = before ++ [RegistryEntry.transaction id])
    (ends : match (c.book.transactions id).generatedSavepointName with
      | none => True
      | some name => control = .release name) :
    Triple (At owns (· = c))
      (do
        tryCatch (runControl control) (recoverAfterControlFailure id)
        updateBook (World.close · id)
        observe)
      (fun _ => At owns (Leaving pooled owns id)) (fun _ => At owns (Leaving pooled owns id)) := by
  have registered : .transaction id ∈ c.book.registry.entries := by simp [last]
  refine controlled_bind ?_ (fun error => ?_) fun c' ran => ?_
  · intro owned
    cases named : (c.book.transactions id).generatedSavepointName with
    | none =>
        rw [ok.aligned.unowned registered named] at owned
        cases owned
    | some name =>
        rw [named] at ends
        exact ends ▸ rfl
  · refine (recoverAfterControlFailure_spec ok.failed registered error).weaken (fun _ here => here)
      (fun _ _ here => here) (fun _ _ => At.imp fun _ gone => gone.leaving)
  · refine Triple.bind (updateBook_spec _) fun _ => observe_keeps ?_
    cases named : (c.book.transactions id).generatedSavepointName with
    | none =>
        obtain ⟨session, -, rfl⟩ := ran
        exact ok.closed_outermost last named session
    | some name =>
        rw [named] at ends
        subst ends
        exact ok.closed_nested last named ran

theorem commit_sound (id : Nat) : Sound pooled owns (commit id) := by
  refine Sound.ensureUsable fun c ok registered => ?_
  obtain ⟨before, cut, last, -⟩ := ok.behind registered
  refine Triple.bind (updateBook_spec _) fun _ => Triple.connection_bind ?_
  refine finally_spec (ending_spec cut last ?_) releaseConnection_spec
  cases named : ((c.book.invalidateAfter (.transaction id)).transactions id).generatedSavepointName with
  | none => trivial
  | some name => rfl

/-- The observer's exceptions do not keep a nested handle from being closed. -/
theorem rollbackNested_spec {c : Connection} {id : Nat} {name : String}
    {before : List RegistryEntry} (ok : Coherent pooled owns c)
    (last : c.book.registry.entries = before ++ [RegistryEntry.transaction id])
    (named : (c.book.transactions id).generatedSavepointName = some name) :
    Triple (At owns (· = c)) (rollbackNested id name)
      (fun _ => At owns (Leaving pooled owns id)) (fun _ => At owns (Leaving pooled owns id)) := by
  have registered : .transaction id ∈ c.book.registry.entries := by simp [last]
  refine Triple.bind (M := fun _ => At owns fun c' =>
    Leaving pooled owns id { c' with book := c'.book.close id }) ?_ fun observerError => ?_
  · refine Triple.tryCatch (M := fun _ => At owns fun c' =>
      Coherent pooled owns c' ∧ c'.book = c.book) ?_ fun error => ?_
    · refine Triple.bind ((runControl_spec fun _ => rfl).weaken (fun _ here => here)
        (fun _ _ here => here) (fun _ _ here => At.of_eq ⟨ok.failed, rfl⟩ here)) fun _ => ?_
      refine Triple.at_elim fun c' answered => ?_
      obtain ⟨session, ran, same⟩ := answered
      obtain ⟨kept, isOpen⟩ := Session.run_rollbackTo (ok.aligned.tracked_named last named) ran
      have back : Coherent pooled owns c' := by
        rw [same]
        refine ok.onSession ?_ fun _ => isOpen
        rw [World.liveNames, last]
        simpa [World.nameOf, named] using kept
      have book : c'.book = c.book := by rw [same]
      refine Triple.bind (raisedBy_spec (P := (· = c')) (observe_keeps rfl)) fun observerError => ?_
      refine Triple.bind ((runControl_spec fun _ => rfl).weaken (fun _ here => here)
        (fun _ _ here => here) (fun _ _ here => At.of_eq ⟨back.failed, book⟩ here)) fun _ => ?_
      refine Triple.at_elim fun c'' ran => ?_
      refine Triple.bind (raisedBy_spec (P := (· = c'')) (observe_keeps rfl)) fun later => ?_
      refine pure_spec _ ?_
      rw [← book] at last named
      exact back.closed_nested last named ran
    · refine Triple.at_elim fun c' failed => ?_
      obtain ⟨ok', book⟩ := failed
      rw [← book] at registered
      refine Triple.bind (M := fun _ _ => False) ?_ fun _ => fun _ => False.elim
      exact (recoverAfterControlFailure_spec ok' registered error).weaken (fun _ here => here)
        (fun _ _ here => here) (fun _ _ => At.imp fun _ gone => gone.leaving)
  · refine Triple.at_elim fun c' leaving => Triple.bind (updateBook_spec _) fun _ => ?_
    cases observerError with
    | none => exact pure_spec () leaving
    | some error => exact throw_spec error leaving

theorem rollback_sound (id : Nat) : Sound pooled owns (rollback id) := by
  refine Sound.ensureUsable fun c ok registered => ?_
  obtain ⟨before, cut, last, -⟩ := ok.behind registered
  refine Triple.bind (updateBook_spec _) fun _ => Triple.connection_bind ?_
  cases named : ((c.book.invalidateAfter (.transaction id)).transactions id).generatedSavepointName with
  | none =>
      exact finally_spec (ending_spec cut last (by simp only [named])) releaseConnection_spec
  | some name =>
      exact finally_spec (rollbackNested_spec cut last named) releaseConnection_spec

end Handles

/-! ### The savepoint handles -/

section SavepointHandles

variable {pooled owns : Bool} {c : Connection} {id : Nat} {before after : List RegistryEntry}

/-- A savepoint is registered after its transaction. -/
theorem Coherent.owner (ok : Coherent pooled owns c)
    (split : c.book.registry.entries = before ++ RegistryEntry.savepoint id :: after) :
    .transaction (c.book.savepoints id).transaction ∈ before := by
  have onEngine : Consistent (c.book.onEngine (some c.book.liveNames)) := ok.aligned.registered
  have pair : [.transaction (c.book.savepoints id).transaction, .savepoint id].Sublist
      c.book.registry.entries := onEngine.owner id (by
    change _ ∈ c.book.registry.entries
    simp [split])
  have nodup : c.book.registry.entries.Nodup := onEngine.nodup
  rw [split] at pair nodup
  by_contra absent
  have later : [RegistryEntry.transaction (c.book.savepoints id).transaction, .savepoint id].Sublist
      (.savepoint id :: after) := by
    obtain ⟨front, back, both, inFront, inBack⟩ := List.sublist_append_iff.mp pair
    cases front with
    | nil =>
        rw [List.nil_append] at both
        exact both ▸ inBack
    | cons first rest =>
        obtain ⟨rfl, -⟩ := List.cons.inj both
        exact absurd (inFront.subset List.mem_cons_self) absent
  cases later with
  | cons _ later =>
      have twice : .savepoint id ∈ after := later.subset (by simp)
      exact (List.nodup_cons.mp (List.nodup_append.mp nodup).2.1).1 twice

theorem abandonSavepoint_spec (ok : Coherent pooled owns c)
    (registered : .savepoint id ∈ c.book.registry.entries) (error : Failure) :
    Triple (At owns (· = c)) (abandonSavepoint id error) (fun _ _ => False)
      (fun _ => At owns (Coherent pooled owns)) := by
  obtain ⟨before, cut, last, -⟩ := ok.behind registered
  refine Triple.bind (updateBook_spec _) fun _ => Triple.bind (updateBook_spec _) fun _ => ?_
  refine Triple.connection_bind ?_
  generalize c.book.invalidateAfter (.savepoint id) = book at cut last
  obtain ⟨forgotten, same, entries⟩ := cut.aligned.registered.invalidateSavepoint last
  have owner := cut.owner last
  have some_ : before ≠ [] := List.ne_nil_of_mem owner
  have cut' : Coherent pooled owns { c with book := book.invalidateSavepoint id } :=
    cut.cut last forgotten same entries (fun none => absurd none some_)
      (cut.aligned.tracked_before last) fun _ => cut.aligned.isOpen (by simp [last])
  have ownerOf : ((book.invalidateSavepoint id).savepoints id).transaction =
      (book.savepoints id).transaction := same.owner id
  have inside : .transaction ((book.invalidateSavepoint id).savepoints id).transaction ∈
      (book.invalidateSavepoint id).registry.entries := by
    rw [ownerOf, entries]
    exact owner
  exact (recoverAfterControlFailure_spec cut' inside error).weaken (fun _ here => here)
    (fun _ _ here => here) (fun _ _ => At.imp fun _ gone => gone.1)

theorem release_sound (id : Nat) : Sound pooled owns (release id) := by
  refine Sound.ensureUsable fun c ok registered => ?_
  obtain ⟨before, after, split⟩ := List.append_of_mem registered
  refine Triple.connection_bind (controlled_bind (fun _ => rfl) (fun error => ?_) fun c' ran => ?_)
  · exact abandonSavepoint_spec ok.failed registered error
  · obtain ⟨session, ran, rfl⟩ := ran
    obtain ⟨forgotten, same, entries⟩ := ok.aligned.registered.releaseSavepoint split
    obtain ⟨kept, isOpen⟩ := Session.run_release (ok.aligned.tracked_named split rfl) ran
    have some_ : before ≠ [] := List.ne_nil_of_mem (ok.owner split)
    exact Triple.bind (updateBook_spec _) fun _ => observe_keeps
      (ok.cut split forgotten same entries (fun none => absurd none some_) kept fun _ => isOpen)

theorem rollbackTo_sound (id : Nat) : Sound pooled owns (rollbackTo id) := by
  refine Sound.ensureUsable fun c ok registered => ?_
  obtain ⟨before, after, split⟩ := List.append_of_mem registered
  refine Triple.connection_bind (controlled_bind (fun _ => rfl) (fun error => ?_) fun c' ran => ?_)
  · exact abandonSavepoint_spec ok.failed registered error
  · obtain ⟨session, ran, rfl⟩ := ran
    obtain ⟨behind, same, entries⟩ := ok.aligned.registered.invalidateAfter split
    obtain ⟨kept, isOpen⟩ := Session.run_rollbackTo (ok.aligned.tracked_named split rfl) ran
    have split' : c.book.registry.entries = (before ++ [RegistryEntry.savepoint id]) ++ after := by simp [split]
    refine Triple.bind (updateBook_spec _) fun _ => observe_keeps
      (ok.cut split' behind same entries (fun none => by simp at none) ?_ fun _ => isOpen)
    simpa [World.nameOf] using kept

end SavepointHandles

/-! ### New handles -/

section NewHandles

variable {pooled owns : Bool} {c c' : Connection} {name : String}

theorem Coherent.numbered (ok : Coherent pooled owns c) (sequence : Nat) :
    Coherent pooled owns { c with book := { c.book with sequence } } where
  aligned := { ok.aligned with registered := ok.aligned.registered.numbered sequence }
  holding := ⟨ok.holding.held, ok.holding.releases⟩
  exclusive := ok.exclusive

theorem quoteSavepoint_spec {P : Connection → Prop} (holds : P c) (name : String) :
    Triple (At owns (· = c)) (quoteSavepoint name) (fun _ => At owns (· = c))
      (fun _ => At owns P) := by
  unfold quoteSavepoint
  split
  · exact throw_spec _ holds
  · split
    · exact throw_spec _ holds
    · exact pure_spec _ rfl

theorem reserveSavepointName_spec {P : Connection → Prop} (holds : P c) (name : String) :
    Triple (At owns (· = c)) (reserveSavepointName name)
      (fun _ => At owns fun c' => c' = { c with book := c.book.reserve name } ∧
        foldName name ∉ c.book.registry.savepointNames)
      (fun _ => At owns P) := by
  refine Triple.connection_bind ?_
  by_cases active : foldName name ∈ c.book.registry.savepointNames
  · rw [if_pos active]
    exact throw_spec _ holds
  · rw [if_neg active]
    exact (updateBook_spec _).weaken (fun _ here => here) (fun _ _ here =>
      At.of_eq ⟨rfl, active⟩ here) (fun _ _ here => here)

/-- SAVEPOINT puts its name on top of the stack of a working transaction. -/
theorem Ran.savepoint (ran : Ran (.savepoint name) c c') :
    ∃ session : Session, c' = { c with session } ∧
      session.savepoints = name :: c.session.savepoints ∧ session.inTransaction = true := by
  obtain ⟨session, ran, rfl⟩ := ran
  refine ⟨session, rfl, ?_⟩
  cases before : c.session with
  | idle => simp [before, Session.run] at ran
  | aborted names => simp [before, Session.run] at ran
  | active names =>
      rw [before] at ran
      obtain rfl := Option.some.inj ran
      exact ⟨rfl, rfl⟩

/-- A new handle inside a registered one, whose savepoint the session has. -/
theorem Coherent.adds (ok : Coherent pooled owns c) {book : World} {new : RegistryEntry}
    {name : Option String} (adds : Adds c.book book new name)
    (some_ : c.book.registry.entries ≠ []) {session : Session}
    (kept : (name.toList ++ c.book.liveNames).Sublist session.savepoints)
    (isOpen : session.inTransaction = true) : Coherent pooled owns { c with book, session } := by
  have head : book.registry.entries.head? = c.book.registry.entries.head? := by
    rw [adds.entries]
    exact List.head?_append_of_ne_nil _ some_
  refine ⟨⟨adds.registered, ?_, fun _ => isOpen, fun id outermost => ?_⟩, ?_, ok.exclusive⟩
  · change book.liveNames.Sublist _
    rw [adds.liveNames]
    exact kept
  · change book.registry.entries.head? = _ at outermost
    rw [head] at outermost
    change _ ↔ (book.transactions id).generatedSavepointName.isSome = true
    rw [adds.generated id (List.mem_of_mem_head? outermost)]
    exact ok.aligned.owned id outermost
  · change Holding pooled book.registry.entries.head? _
    rw [head]
    exact ⟨ok.holding.held, ok.holding.releases⟩

theorem savepoint_sound (id : Nat) (name : String) : Sound pooled owns (savepoint id name) := by
  refine Sound.ensureUsable fun c ok registered => ?_
  have some_ : c.book.registry.entries ≠ [] := List.ne_nil_of_mem registered
  refine Triple.bind (quoteSavepoint_spec ok name) fun quoted => ?_
  refine Triple.bind (reserveSavepointName_spec ok quoted) fun _ => ?_
  refine Triple.at_elim fun _ ⟨same, inactive⟩ => ?_
  subst same
  refine controlled_bind (fun _ => rfl) (fun error => ?_) fun c' ran => ?_
  · refine Triple.bind (updateBook_spec _) fun _ => throw_spec error ?_
    have back := Relq.Sqlite.Consistent.reserve_release inactive
    change Coherent pooled owns
      { c.failed with book := (c.book.reserve quoted).releaseSavepointName quoted }
    rw [back]
    exact ok.failed
  obtain ⟨session, rfl, top, isOpen⟩ := ran.savepoint
  have adds := ok.aligned.registered.addSavepoint registered inactive
  have kept : (quoted :: c.book.liveNames).Sublist session.savepoints :=
    top ▸ ok.aligned.tracked.cons_cons quoted
  have set := ok.adds adds some_ kept isOpen
  refine Triple.connection_bind (Triple.bind (updateBook_spec _) fun _ => ?_)
  change Triple (At owns (· = { c with book := (c.book.reserve quoted).addSavepoint id quoted, session }))
    _ _ _
  have last := adds.entries
  have called : ((c.book.reserve quoted).addSavepoint id quoted).nameOf (.savepoint c.book.created) =
      some quoted := by
    simp [World.nameOf, World.addSavepoint, World.setSavepoint, World.reserve, World.setRegistry,
      World.setTransaction]
  change Triple _ (do
    tryCatch observe fun error => do
      updateBook (World.invalidateSavepoint · c.book.created)
      tryCatch (execute (.release quoted)) fun _ => pure ()
      throw error) _ _
  generalize (c.book.reserve quoted).addSavepoint id quoted = book at set last called
  refine Triple.tryCatch (observe_spec.weaken (fun _ here => here)
    (fun _ _ here => At.of_eq set here) (fun _ _ here => here)) fun error => ?_
  refine Triple.bind (updateBook_spec _) fun _ => ?_
  -- the handle is forgotten, and its savepoint stands above the names of the others
  obtain ⟨forgotten, same, entries⟩ := set.aligned.registered.invalidateSavepoint last
  have cut := set.cut last forgotten same entries (fun none => absurd none some_)
    (set.aligned.tracked_before last) fun _ => isOpen
  have above : Above quoted { c with book := book.invalidateSavepoint c.book.created, session } := by
    refine ⟨?_, isOpen⟩
    change (quoted :: (book.invalidateSavepoint c.book.created).liveNames).Sublist _
    rw [same.liveNames entries]
    exact set.aligned.tracked_named last called
  refine Triple.bind (M := fun _ => At owns (Coherent pooled owns)) ?_ fun _ =>
    Triple.at_elim fun _ ok => throw_spec error ok
  refine Triple.tryCatch (M := fun _ => At owns (Coherent pooled owns)) ?_ fun _ =>
    Triple.at_elim fun _ ok => pure_spec () ok
  exact (execute_spec fun _ => rfl).weaken (fun _ here => here)
    (fun _ _ => At.imp fun _ ran => (above.release cut ran).1)
    (fun _ _ here => At.of_eq cut.failed here)

end NewHandles

/-! ### Beginning -/

section Beginning

variable {pooled owns : Bool} {c : Connection} {name : String}

/-- Recovery from the innermost transaction of the connection, if there is one. -/
theorem recoverInnermost_spec (ok : Coherent pooled owns c) (observed : Bool) :
    Triple (At owns (· = c))
      (recoverConnection [] false c.book.registry.stack.getLast? observed)
      (fun _ => At owns (Coherent pooled owns)) (fun _ => At owns (Coherent pooled owns)) := by
  have onEngine : Consistent (c.book.onEngine (some c.book.liveNames)) := ok.aligned.registered
  cases last : c.book.registry.stack.getLast? with
  | some id =>
      have registered : .transaction id ∈ c.book.registry.entries :=
        (onEngine.stack id).mp (List.mem_of_mem_getLast? last)
      exact (recoverConnection_spec ok registered [] false observed).weaken (fun _ here => here)
        (fun _ _ => At.imp fun _ gone => gone.1) (fun _ _ => At.imp fun _ gone => gone.1)
  | none =>
      have empty : c.book.registry.entries = [] :=
        onEngine.entries_eq_nil (List.getLast?_eq_none_iff.mp last)
      have none_ : controlled c.book ∪ [] = [] := by
        refine List.eq_nil_iff_forall_not_mem.mpr fun id inside => ?_
        rcases List.mem_union_iff.mp inside with inside | inside
        · rw [mem_controlled ok.aligned.registered, empty] at inside
          cases inside
        · cases inside
      refine Triple.connection_bind ?_
      rw [if_pos ⟨none_, rfl⟩]
      exact pure_spec () ok

/-- The savepoint of a nested transaction that was not registered is taken off the stack, or else the
innermost registered transaction is given up. -/
theorem cleanupSavepoint_spec (ok : Coherent pooled owns c) (above : Above name c) :
    Triple (At owns (· = c)) (cleanupSavepoint name c.book.registry.stack.getLast?)
      (fun _ => At owns (Coherent pooled owns)) (fun _ => At owns (Coherent pooled owns)) := by
  refine Triple.tryCatch (M := fun _ => At owns fun c' =>
    Coherent pooled owns c' ∧ c'.book = c.book) ?_ fun error => ?_
  · refine Triple.bind ((execute_spec fun _ => rfl).weaken (fun _ here => here)
      (fun _ _ here => here) (fun _ _ here => At.of_eq ⟨ok.failed, rfl⟩ here)) fun _ => ?_
    refine Triple.at_elim fun c' ran => ?_
    obtain ⟨ok', above', book⟩ := above.rollbackTo ok ran
    exact (execute_spec fun _ => rfl).weaken (fun _ here => here)
      (fun _ _ => At.imp fun _ ran => (above'.release ok' ran).1)
      (fun _ _ here => At.of_eq ⟨ok'.failed, book⟩ here)
  · refine Triple.at_elim fun c' ⟨ok', book⟩ => ?_
    rw [← book]
    exact recoverInnermost_spec ok' _

/-- The handle of a nested transaction; the first one on a connection has the caller's around it. -/
theorem Coherent.addsNested (ok : Coherent pooled owns c) (above : Above name c)
    (inactive : foldName name ∉ c.book.registry.savepointNames)
    (first : c.book.registry.entries = [] → pooled = false ∧ owns = true) :
    Coherent pooled owns
      { c with book := (c.book.reserve name).addTransaction (some name) } := by
  have adds := ok.aligned.registered.addNested inactive
  by_cases empty : c.book.registry.entries = []
  · obtain ⟨rfl, rfl⟩ := first empty
    have entries := adds.entries
    rw [empty] at entries
    refine ⟨⟨adds.registered, ?_, fun _ => above.2, fun id outermost => ?_⟩, ?_, ok.exclusive⟩
    · change ((c.book.reserve name).addTransaction (some name)).liveNames.Sublist _
      rw [adds.liveNames]
      exact above.1
    · change ((c.book.reserve name).addTransaction (some name)).registry.entries.head? = _ at outermost
      rw [entries] at outermost
      obtain rfl : c.book.created = id := by simpa using outermost
      simp [World.addTransaction, World.setTransaction, World.reserve, World.setRegistry]
    · exact ⟨by simpa using ok.holding.held, by simpa using ok.holding.releases⟩
  · exact ok.adds adds empty above.1 above.2

/-- A transaction begun inside one that is open already. -/
theorem beginControlled_nested (ok : Coherent pooled owns c) (isOpen : c.session.inTransaction = true)
    (first : c.book.registry.entries = [] → pooled = false ∧ owns = true) :
    Triple (At owns (· = c)) (beginControlled false) (fun _ => At owns (Coherent pooled owns))
      (fun _ => At owns (Coherent pooled owns)) := by
  refine Triple.connection_bind ?_
  simp only [isOpen, if_true]
  refine Triple.bind (M := fun _ => At owns (· = { c with book := { c.book with
    sequence := c.book.sequence + 1 } })) ?_ fun name => ?_
  · refine Triple.connection_bind (Triple.bind (updateBook_spec _) fun _ => ?_)
    exact quoteSavepoint_spec (ok.numbered _) _
  have stack : c.book.registry.stack =
      ({ c.book with sequence := c.book.sequence + 1 } : World).registry.stack := rfl
  rw [stack]
  replace ok := ok.numbered (c.book.sequence + 1)
  replace first : ({ c.book with sequence := c.book.sequence + 1 } : World).registry.entries = [] →
    pooled = false ∧ owns = true := first
  generalize ({ c.book with sequence := c.book.sequence + 1 } : World) = book at ok first
  simp only [pure_bind, startControl, Option.isSome_some, Option.isNone_some, Bool.false_eq_true, if_false,
    if_true]
  refine Triple.bind (M := fun _ => At owns (Ran (.savepoint name) { c with book })) ?_ fun _ =>
    Triple.at_elim fun c' ran => ?_
  · refine Triple.tryCatch (execute_spec fun _ => rfl) fun error => ?_
    refine Triple.bind (raisedBy_spec (P := (· = _)) (observe_keeps rfl)) fun interrupt => ?_
    exact Triple.bind (recoverInnermost_spec ok.failed true) fun _ =>
      Triple.at_elim fun _ ok => throw_spec _ ok
  obtain ⟨session, rfl, top, _⟩ := ran.savepoint
  have above : Above name { c with book, session } := ⟨top ▸ ok.aligned.tracked.cons_cons name, ‹_›⟩
  have begun : Coherent pooled owns { c with book, session } :=
    ok.onSession ((List.sublist_cons_self _ _).trans above.1) fun _ => above.2
  refine Triple.bind (M := fun _ => At owns fun c' =>
    c' = { c with book := book.reserve name, session } ∧
      foldName name ∉ book.registry.savepointNames) ?_ fun _ =>
    Triple.at_elim fun _ ⟨same, inactive⟩ => ?_
  · refine Triple.tryCatch (M := fun _ => At owns (· = { c with book, session })) ?_ fun error => ?_
    · exact Triple.bind observe_spec fun _ =>
        reserveSavepointName_spec (P := (· = { c with book, session })) rfl name
    · exact Triple.bind (cleanupSavepoint_spec begun above) fun _ =>
        Triple.at_elim fun _ ok => throw_spec error ok
  · subst same
    refine Triple.connection_bind (Triple.bind (updateBook_spec _) fun _ => pure_spec () ?_)
    exact begun.addsNested above inactive first

/-! The idle session belongs to no one, whether or not its connection was acquired for it. -/

/-- The connection that was acquired goes back when nothing came of its transaction. -/
theorem releasePoolConnection_spec (pool : Bool) :
    Triple (At false fun c => Coherent false false c ∧ c.book.registry.entries = [])
      (releasePoolConnection pool) (fun _ => At false (Coherent pool false))
      (fun _ => At false (Coherent pool false)) := by
  refine Triple.at_elim fun c ⟨ok, empty⟩ => ?_
  cases pool with
  | false => exact pure_spec () ok
  | true =>
      have held := ok.holding.held
      have releases := ok.holding.releases
      have back : Coherent true false { c with releases := c.releases + 1 } := by
        refine ⟨⟨ok.aligned.registered, ok.aligned.tracked, ok.aligned.isOpen, ok.aligned.owned⟩,
          ⟨?_, ?_⟩, fun _ => rfl⟩
        · simpa [empty] using held
        · simpa [empty] using releases
      rw [releasePoolConnection, if_pos rfl]
      exact (update_spec _).weaken (fun _ here => here) (fun _ _ here => At.of_eq back here)
        (fun _ _ here => here)

theorem recoverIdle_spec (ok : Coherent false false c) (empty : c.book.registry.entries = []) :
    Triple (At false (· = c)) (recoverConnection [] true none true)
      (fun _ => At false fun c' => Coherent false false c' ∧ c'.book.registry.entries = [])
      (fun _ => At false fun c' => Coherent false false c' ∧ c'.book.registry.entries = []) := by
  refine Triple.connection_bind ?_
  rw [if_neg fun none => by cases none.2]
  refine recoverWhole_spec ok rfl (fun id inside => ?_) true
  rw [empty] at inside
  cases inside

theorem Coherent.unheld (ok : Coherent false owns c) (id : Nat) : c.held id = false := by
  simpa using ok.holding.held id

/-- The outermost handle, which holds the connection if that was acquired. -/
theorem Coherent.addsOutermost (ok : Coherent false false c) (empty : c.book.registry.entries = [])
    (isOpen : c.session.inTransaction = true) {pool : Bool} {held : Nat → Bool}
    (holds : ∀ id, held id = true ↔ pool = true ∧ id = c.book.created) :
    Coherent pool false { c with book := c.book.addTransaction none, held } := by
  have adds := ok.aligned.registered.addOutermost empty
  have entries := adds.entries
  have liveNames := adds.liveNames
  rw [empty] at entries
  have unnamed : ((c.book.addTransaction none).transactions c.book.created).generatedSavepointName =
      none := by simp [World.addTransaction, World.setTransaction]
  refine ⟨⟨adds.registered, ?_, fun _ => isOpen, fun id outermost => ?_⟩, ⟨fun id => ?_, ?_⟩,
    fun _ => rfl⟩
  · change (c.book.addTransaction none).liveNames.Sublist _
    rw [liveNames]
    exact ok.aligned.tracked
  · change (c.book.addTransaction none).registry.entries.head? = _ at outermost
    rw [entries] at outermost
    obtain rfl : c.book.created = id := by simpa using outermost
    simp [unnamed]
  · change held id = true ↔ pool = true ∧ (c.book.addTransaction none).registry.entries.head? = _
    rw [entries, holds]
    refine and_congr_right fun _ => ?_
    simpa using (eq_comm : id = c.book.created ↔ c.book.created = id)
  · change c.releases = if pool = true ∧ (c.book.addTransaction none).registry.entries.head? = none
      then 1 else 0
    rw [entries]
    simpa using ok.holding.releases

/-- A transaction begun on an idle connection. -/
theorem beginControlled_idle (ok : Coherent false false c) (isIdle : c.session = .idle)
    (pool : Bool) :
    Triple (At false (· = c)) (beginControlled pool) (fun _ => At false (Coherent pool false))
      (fun _ => At false (Coherent pool false)) := by
  have empty : c.book.registry.entries = [] := by
    by_contra some_
    have isOpen := ok.aligned.isOpen some_
    rw [isIdle] at isOpen
    cases isOpen
  refine Triple.connection_bind ?_
  simp only [isIdle, Session.inTransaction, Bool.false_eq_true, if_false, pure_bind, startControl,
    Option.isSome_none, Option.isNone_none]
  refine Triple.bind (M := fun _ => At false (Ran .begin c)) ?_ fun _ =>
    Triple.at_elim fun c' ran => ?_
  · refine Triple.tryCatch (execute_spec fun owned => by cases owned) fun error => ?_
    refine Triple.bind (raisedBy_spec (P := (· = c.failed)) (observe_keeps rfl)) fun interrupt => ?_
    cases pool with
    | true =>
        refine Triple.bind (M := fun _ => At false (Coherent true false)) ?_ fun _ =>
          Triple.at_elim fun _ ok => throw_spec _ ok
        exact (releasePoolConnection_spec true).weaken
          (fun _ here => At.of_eq ⟨ok.failed, empty⟩ here) (fun _ _ here => here)
          (fun _ _ here => here)
    | false =>
        refine Triple.bind (M := fun _ => At false (Coherent false false)) ?_ fun _ =>
          Triple.at_elim fun _ ok => throw_spec _ ok
        exact (recoverIdle_spec ok.failed empty).weaken (fun _ here => here)
          (fun _ _ => At.imp fun _ ok => ok.1) (fun _ _ => At.imp fun _ ok => ok.1)
  obtain ⟨session, ran, rfl⟩ := ran
  obtain rfl : session = .active [] := by
    rw [isIdle] at ran
    exact (Option.some.inj ran).symm
  have begun : Coherent false false { c with session := .active [] } := by
    refine ok.onSession ?_ fun _ => rfl
    rw [World.liveNames, empty]
    exact List.nil_sublist _
  refine Triple.bind (M := fun _ => At false (· = { c with session := .active [] })) ?_ fun _ => ?_
  · refine Triple.tryCatch (M := fun _ => At false (· = { c with session := .active [] }))
      (Triple.bind observe_spec fun _ => pure_spec () rfl) fun error => ?_
    refine Triple.bind (finally_spec (recoverIdle_spec begun empty)
      (releasePoolConnection_spec pool)) fun _ => Triple.at_elim fun _ ok => throw_spec error ok
  · refine Triple.connection_bind (Triple.bind (updateBook_spec _) fun _ => ?_)
    cases pool with
    | false =>
        refine pure_spec () (begun.addsOutermost empty rfl fun id => ?_)
        simp [ok.unheld id]
    | true =>
        have added : Coherent true false
            { c with
              session := .active []
              book := c.book.addTransaction none
              held := fun other => if other = c.book.created then true else c.held other } := by
          refine begun.addsOutermost empty rfl fun id => ?_
          simp [ok.unheld id]
        rw [if_pos rfl]
        exact (update_spec _).weaken (fun _ here => here) (fun _ _ here => At.of_eq added here)
          (fun _ _ here => here)

end Beginning

/-! ### Every operation -/

section Operations

variable {pooled owns : Bool}

theorem beginNested_sound (id : Nat) : Sound pooled owns (beginNested id) :=
  Sound.ensureUsable fun _ ok registered => by
    have some_ := List.ne_nil_of_mem registered
    exact beginControlled_nested ok (ok.aligned.isOpen some_) fun empty => absurd empty some_

theorem leave_sound (id : Nat) (failed : Bool) : Sound pooled owns (leave id failed) := by
  intro c ok
  unfold leave
  cases failed with
  | false => exact commit_sound id c ok
  | true =>
      refine Triple.bind (M := fun _ => At owns (Coherent pooled owns)) ?_ fun _ =>
        Triple.at_elim fun _ ok => throw_spec _ ok
      refine Triple.tryCatch (rollback_sound id c ok) fun error => Triple.at_elim fun _ ok => ?_
      by_cases unavailable : error = .unavailable
      · rw [if_pos unavailable]
        exact pure_spec () ok
      · rw [if_neg unavailable]
        exact throw_spec error ok

/-- Every operation on a handle leaves its connection coherent. -/
theorem perform_sound (operation : Operation) : Sound pooled owns operation.perform := by
  cases operation with
  | begin id => exact beginNested_sound id
  | commit id => exact commit_sound id
  | rollback id => exact rollback_sound id
  | savepoint id name => exact savepoint_sound id name
  | release id => exact release_sound id
  | rollbackTo id => exact rollbackTo_sound id
  | leave id failed => exact leave_sound id failed

/-- `begin` on the plain connection; a transaction that is open but has no handle is the caller's. -/
theorem begin_sound {c : Connection} (ok : Coherent false owns c)
    (first : c.book.registry.entries = [] → owns = c.session.inTransaction) :
    Triple (At owns (· = c)) (beginControlled false) (fun _ => At owns (Coherent false owns))
      (fun _ => At owns (Coherent false owns)) := by
  cases isOpen : c.session.inTransaction with
  | true =>
      refine beginControlled_nested ok isOpen fun empty => ⟨rfl, ?_⟩
      rw [first empty, isOpen]
  | false =>
      have empty : c.book.registry.entries = [] := by
        by_contra some_
        rw [ok.aligned.isOpen some_] at isOpen
        cases isOpen
      have isIdle : c.session = .idle := by
        cases session : c.session with
        | idle => rfl
        | active names => simp [session, Session.inTransaction] at isOpen
        | aborted names => simp [session, Session.inTransaction] at isOpen
      obtain rfl : owns = false := (first empty).trans isOpen
      exact beginControlled_idle ok isIdle false

end Operations

/-! ### Whole runs -/

/-- Every connection of the system is coherent. -/
structure System.Coherent (s : System) : Prop where
  direct : Postgres.Coherent false s.callerOwns s.direct
  acquired : ∀ c ∈ s.acquired, Postgres.Coherent true false c

section Runs

variable {pooled owns : Bool} {c : Connection} {P : Connection → Prop} {s : System}

theorem perform_at {action : Action Unit} {sequence : Nat}
    (triple : Triple (At owns (· = { c with book := { c.book with sequence } })) action
      (fun _ => At owns P) (fun _ => At owns P)) (fates : List Bool) :
    At owns P (perform action fates sequence c) := by
  have outcome := triple
    { connection := { c with book := { c.book with sequence } }, fates, sent := [] }
    ⟨rfl, fun _ control sent => absurd sent List.not_mem_nil⟩
  unfold perform
  revert outcome
  rcases action.run.run _ with ⟨error | value, run⟩
  · exact fun reached => reached
  · exact fun reached => reached

/-- Without a registered handle, a plain connection has the session and the owner it may have. -/
theorem Coherent.unregistered (ok : Coherent false owns c) (empty : c.book.registry.entries = [])
    (session : Session) (owns' : Bool) : Coherent false owns' { c with session } := by
  refine ⟨⟨ok.aligned.registered, ?_, fun some_ => absurd empty some_, fun id head => ?_⟩,
    ⟨ok.holding.held, ok.holding.releases⟩, fun pooled => by cases pooled⟩
  · change c.book.liveNames.Sublist _
    rw [World.liveNames, empty]
    exact List.nil_sublist _
  · change c.book.registry.entries.head? = _ at head
    rw [empty] at head
    cases head

theorem fresh_coherent (session : Session) (sequence : Nat) (owns : Bool) :
    Coherent false owns { session, book := { sequence } } := by
  have registered : Registered ({ sequence } : World) :=
    .of_consistent (Relq.Sqlite.opened_consistent none sequence none)
  refine ⟨⟨registered, List.nil_sublist _, fun some_ => absurd rfl some_, fun id head => ?_⟩,
    ⟨fun id => by simp, by simp⟩, fun pooled => by cases pooled⟩
  cases head

/-- An event keeps every connection coherent, and the transaction of a caller open. -/
theorem Event.run_coherent (event : Event) (fates : List Bool) (ok : s.Coherent) :
    (event.run fates s).1.Coherent ∧ (event.onDirect = true →
      (event.run fates s).1.callerOwns = true →
        ∀ control ∈ (event.run fates s).2, control.isTopLevel = false) := by
  cases event with
  | begin =>
      have owner : Coherent false (if s.direct.book.registry.entries = [] then
          s.direct.session.inTransaction else s.callerOwns) s.direct := by
        split
        · rename_i empty
          exact ok.direct.unregistered empty _ _
        · exact ok.direct
      have reached := perform_at (begin_sound (owner.numbered s.sequence) fun empty =>
        if_pos empty) fates
      exact ⟨⟨reached.1, ok.acquired⟩, fun _ => reached.2⟩
  | acquire =>
      have reached := perform_at (c := {})
        (beginControlled_idle (fresh_coherent .idle s.sequence false) rfl true) fates
      refine ⟨⟨ok.direct, fun c inside => ?_⟩, fun direct => by cases direct⟩
      rcases List.mem_append.mp inside with before | new
      · exact ok.acquired c before
      · obtain rfl := List.mem_singleton.mp new
        exact reached.1
  | call operation =>
      have reached := perform_at
        (perform_sound operation _ (ok.direct.numbered s.sequence)) fates
      exact ⟨⟨reached.1, ok.acquired⟩, fun _ => reached.2⟩
  | callAcquired index operation =>
      simp only [Event.run]
      cases found : s.acquired[index]? with
      | none => exact ⟨ok, fun direct => by cases direct⟩
      | some c =>
          have before := ok.acquired c (List.mem_of_getElem? found)
          have reached := perform_at
            (perform_sound operation _ (before.numbered s.sequence)) fates
          refine ⟨⟨ok.direct, fun c' inside => ?_⟩, fun direct => by cases direct⟩
          rcases List.mem_or_eq_of_mem_set inside with old | rfl
          · exact ok.acquired c' old
          · exact reached.1
  | caller session =>
      simp only [Event.run]
      split
      · rename_i empty
        exact ⟨⟨ok.direct.unregistered empty session _, ok.acquired⟩,
          fun _ _ control sent => absurd sent List.not_mem_nil⟩
      · exact ⟨ok, fun _ _ control sent => absurd sent List.not_mem_nil⟩

theorem runAll_coherent (history : List (Event × List Bool)) (ok : s.Coherent) :
    (runAll history s).Coherent := by
  induction history generalizing s with
  | nil => exact ok
  | cons first later ih => exact ih (Event.run_coherent first.1 first.2 ok).1

end Runs

/-- The registry says about the handles of a connection what its session bears out. -/
structure RefinesSession (c : Connection) : Prop where
  usable : ∀ handle, c.book.usable handle = true ↔ handle ∈ c.book.registry.entries
  /-- The savepoints of the usable handles, nested transactions included, in entry order. -/
  onStack : ((c.book.registry.entries.filter c.book.usable).filterMap c.book.nameOf).Sublist
    c.session.savepoints.reverse

theorem Coherent.refines {pooled owns : Bool} {c : Connection} (ok : Coherent pooled owns c) :
    RefinesSession c := by
  have usable := ok.aligned.registered.usable_iff
  refine ⟨usable, ?_⟩
  rw [List.filter_eq_self.mpr fun handle registered => (usable handle).mpr registered]
  have subsequence := ok.aligned.tracked.reverse
  simpa [World.liveNames] using subsequence

/-- An acquired connection is with the pool again just when it has no usable handle. -/
theorem Coherent.releases {owns : Bool} {c : Connection} (ok : Coherent true owns c) :
    ((∃ handle, c.book.usable handle = true) → c.releases = 0) ∧
      ((∀ handle, c.book.usable handle = false) → c.releases = 1) := by
  have usable := ok.aligned.registered.usable_iff
  have releases := ok.holding.releases
  cases entries : c.book.registry.entries with
  | nil =>
      rw [entries] at releases
      refine ⟨fun ⟨handle, live⟩ => ?_, fun _ => by simpa using releases⟩
      rw [usable, entries] at live
      cases live
  | cons first rest =>
      rw [entries] at releases
      refine ⟨fun _ => by simpa using releases, fun none => ?_⟩
      have live := (usable first).mpr (by simp [entries])
      rw [none first] at live
      cases live

/-- In every state that operations on one plain connection and on connections acquired from a pool
can reach, the registries refine the sessions; a pool gets each of its connections back once, when
the last handle on it is gone; and while the caller owns the transaction of the plain connection, no
top-level COMMIT or ROLLBACK is sent on it. -/
theorem registry_refines_session (session : Session) (sequence : Nat)
    (history : List (Event × List Bool)) :
    let s := runAll history (System.opened session sequence)
    (RefinesSession s.direct ∧ s.direct.releases = 0) ∧
      (∀ c ∈ s.acquired, RefinesSession c ∧
        ((∃ handle, c.book.usable handle = true) → c.releases = 0) ∧
        ((∀ handle, c.book.usable handle = false) → c.releases = 1)) ∧
      ∀ (event : Event) (fates : List Bool), event.onDirect = true →
        (event.run fates s).1.callerOwns = true →
          ∀ control ∈ (event.run fates s).2, control.isTopLevel = false := by
  have opened : (System.opened session sequence).Coherent :=
    ⟨(fresh_coherent session 1 false), fun c inside => absurd inside List.not_mem_nil⟩
  have ok := runAll_coherent history opened
  refine ⟨⟨ok.direct.refines, by simpa using ok.direct.holding.releases⟩, fun c inside => ?_,
    fun event fates => (Event.run_coherent event fates ok).2⟩
  exact ⟨(ok.acquired c inside).refines, (ok.acquired c inside).releases⟩

end Relq.Postgres
