/-
Module: Relq.Sqlite.Refinement
Layer: Sqlite
Purpose: Every operation keeps the registry consistent with the engine, whatever the environment
  decides, and an operation on a handle that is not usable does nothing at all. By induction the
  registry refines the engine in every reachable state.
Imports: Relq.Sqlite.Transitions, Relq.Library.Triples
Trusted boundary: none (fully proved)
Main exports: perform_sound, perform_refused, runAll_consistent, registry_refines_engine
-/
import Relq.Sqlite.Transitions
import Relq.Library.Triples

namespace Relq.Sqlite

open World Triples

/-! ### Specifications of the primitives -/

/-- A condition on the connection alone. -/
def At (P : World → Prop) (run : Run) : Prop :=
  P run.world

section Primitives

variable {α β : Type} {w : World} {P : World → Prop} {post : α → Run → Prop}
  {raised : Failure → Run → Prop}

theorem At.of_eq {run : Run} (holds : P w) (here : At (· = w) run) : At P run := by
  obtain rfl : run.world = w := here
  exact holds

/-- It is enough to start from one connection at a time. -/
theorem Triple.at_elim {m : Action α} (each : ∀ w, P w → Triple (At (· = w)) m post raised) :
    Triple (At P) m post raised :=
  fun run holds => each run.world holds run rfl

theorem Triple.world_bind_of {pre : Run → Prop} {f : World → Action α}
    (known : ∀ run, pre run → run.world = w) (next : Triple pre (f w) post raised) :
    Triple pre (world >>= f) post raised :=
  fun run holds => by
    obtain rfl : run.world = w := known run holds
    exact next run holds

theorem Triple.world_bind {f : World → Action α} (next : Triple (At (· = w)) (f w) post raised) :
    Triple (At (· = w)) (world >>= f) post raised :=
  Triple.world_bind_of (fun _ here => here) next

theorem update_spec (change : World → World) :
    Triple (At (· = w)) (update change) (fun _ => At (· = change w)) raised :=
  fun _ holds => congrArg change holds

theorem throw_spec (error : Failure) (holds : P w) :
    Triple (At (· = w)) (throw error : Action α) post (fun _ => At P) :=
  (Triple.throw error).weaken (fun _ here => At.of_eq holds here) (fun _ _ => id) (fun _ _ => id)

theorem pure_spec (a : α) (holds : P w) :
    Triple (At (· = w)) (pure a : Action α) (fun _ => At P) raised :=
  (Triple.pure a).weaken (fun _ here => At.of_eq holds here) (fun _ _ => id) (fun _ _ => id)

theorem draw_spec : Triple (At (· = w)) draw (fun _ => At (· = w)) raised :=
  fun _ here => here

theorem observe_spec :
    Triple (At (· = w)) observe (fun _ => At (· = w)) (fun _ => At (· = w)) := by
  refine Triple.bind draw_spec fun fate => ?_
  cases fate with
  | true => exact pure_spec () rfl
  | false => exact throw_spec _ rfl

/-- A statement takes the effect the engine gives it, or has none. -/
theorem execute_spec (control : Control) :
    Triple (At (· = w)) (execute control)
      (fun _ => At fun w' => ∃ e, Engine.run control w.engine = some e ∧ w' = w.onEngine e)
      (fun _ => At (· = w)) := by
  refine Triple.bind (M := fun _ => At (· = w)) (fun _ here => here) fun _ => ?_
  refine Triple.bind draw_spec fun fate => ?_
  cases fate with
  | false => exact throw_spec _ rfl
  | true =>
      refine Triple.world_bind ?_
      cases ran : Engine.run control w.engine with
      | none => exact throw_spec _ rfl
      | some e =>
          refine (update_spec _).weaken (fun _ => id) (fun _ run here => ?_) (fun _ _ => id)
          exact ⟨e, rfl, here⟩

theorem runControl_spec (control : Control) :
    Triple (At (· = w)) (runControl control)
      (fun _ => At fun w' => ∃ e, Engine.run control w.engine = some e ∧ w' = w.onEngine e)
      (fun _ => At (· = w)) :=
  Triple.tryCatch (execute_spec control) fun error =>
    Triple.bind observe_spec fun _ => throw_spec error rfl

end Primitives

/-! ### Recovery -/

section Recovery

variable {w : World} {α : Type} {post : α → Run → Prop}

/-- After a failed statement no handle is left, whatever becomes of the recovering rollback. -/
theorem recoverAfterControlFailure_spec (error : Failure) (ok : Consistent w) {post : Unit → Run → Prop} :
    Triple (At (· = w)) (recoverAfterControlFailure error) post (fun _ => At Consistent) := by
  obtain ⟨cleared, -, empty⟩ := invalidateAll_removes ok
  refine Triple.bind (update_spec _) fun _ => ?_
  refine Triple.bind (M := fun _ => At fun w' => ∃ e, w' = w.invalidateAll.onEngine e) ?_ fun _ => ?_
  · refine (runControl_spec .rollback).weaken (fun _ => id) ?_ ?_
    · rintro - run ⟨e, -, same⟩
      exact ⟨e, same⟩
    · exact fun _ run here => At.of_eq cleared here
  · refine Triple.at_elim fun w' ⟨e, same⟩ => ?_
    have ok' : Consistent w' := same ▸ cleared.onEngine_of_empty empty e
    refine Triple.bind (observe_spec.weaken (fun _ => id) (fun _ _ => id)
      fun _ run here => At.of_eq ok' here) fun _ => throw_spec error ok'

theorem controlled_spec {control : Control} {handler : Failure → Action Unit}
    (handled : ∀ error, Triple (At (· = w)) (handler error) (fun _ _ => False) (fun _ => At Consistent)) :
    Triple (At (· = w)) (tryCatch (runControl control) handler)
      (fun _ => At fun w' => ∃ e, Engine.run control w.engine = some e ∧ w' = w.onEngine e)
      (fun _ => At Consistent) :=
  Triple.tryCatch (runControl_spec control) fun error =>
    (handled error).weaken (fun _ => id) (fun _ _ => False.elim) (fun _ _ => id)

end Recovery

/-! ### Shared steps -/

section Steps

variable {w : World} {raised : Failure → Run → Prop}

/-- Whatever happens, the connection is left consistent. -/
def Sound (m : Action Unit) : Prop :=
  ∀ w, Consistent w → Triple (At (· = w)) m (fun _ => At Consistent) (fun _ => At Consistent)

theorem observe_sound : Sound observe := fun _ ok =>
  observe_spec.weaken (fun _ => id) (fun _ _ here => At.of_eq ok here)
    (fun _ _ here => At.of_eq ok here)

theorem ensureUsable_spec (ok : Consistent w) (entry : RegistryEntry) :
    Triple (At (· = w)) (ensureUsable entry)
      (fun _ => At fun w' => w' = w ∧ entry ∈ w.registry.entries) (fun _ => At Consistent) := by
  refine Triple.world_bind ?_
  by_cases usable : w.usable entry = true
  · rw [if_pos usable]
    exact pure_spec () ⟨rfl, (ok.usable_iff entry).mp usable⟩
  · rw [if_neg usable]
    exact throw_spec _ ok

/-- An operation of a handle may assume that the handle is registered. -/
theorem Sound.ensureUsable {entry : RegistryEntry} {m : Action Unit}
    (rest : ∀ w, Consistent w → entry ∈ w.registry.entries →
      Triple (At (· = w)) m (fun _ => At Consistent) (fun _ => At Consistent)) :
    Sound (do ensureUsable entry; m) := fun _ ok =>
  Triple.bind (ensureUsable_spec ok entry) fun _ => Triple.at_elim fun _ ⟨same, registered⟩ =>
    same ▸ rest _ ok registered

/-- The last two steps of an operation whose statement has succeeded. -/
theorem update_observe {change : World → World} (ok : Consistent (change w)) :
    Triple (At (· = w)) (do update change; observe) (fun _ => At Consistent)
      (fun _ => At Consistent) :=
  Triple.bind (update_spec change) fun _ => observe_sound _ ok

/-- A statement whose failure ends in recovery, and what is done once it has succeeded. -/
theorem controlled_bind {control : Control} {handler : Failure → Action Unit} {m : Action Unit}
    (handled : ∀ error, Triple (At (· = w)) (handler error) (fun _ _ => False) (fun _ => At Consistent))
    (rest : ∀ e, Engine.run control w.engine = some e →
      Triple (At (· = w.onEngine e)) m (fun _ => At Consistent) (fun _ => At Consistent)) :
    Triple (At (· = w)) (do tryCatch (runControl control) handler; m) (fun _ => At Consistent)
      (fun _ => At Consistent) :=
  Triple.bind (controlled_spec handled) fun _ => Triple.at_elim fun _ ⟨e, ran, same⟩ =>
    same ▸ rest e ran

end Steps

/-! ### The operations -/

section Operations

variable {w : World}

theorem commit_sound (id : Nat) : Sound (commit id) := by
  refine Sound.ensureUsable fun w ok registered => ?_
  obtain ⟨before, after, split⟩ := List.append_of_mem registered
  obtain ⟨cut, -, last⟩ := invalidateAfter_removes ok split
  refine Triple.bind (update_spec _) fun _ => Triple.world_bind ?_
  refine controlled_bind (fun error => recoverAfterControlFailure_spec error cut) fun e ran => ?_
  refine update_observe (cut.committed last ?_)
  generalize ((w.invalidateAfter (.transaction id)).transactions id).generatedSavepointName = name at ran
  cases name with
  | none => exact Or.inl rfl
  | some name => exact Or.inr ⟨name, rfl, ran⟩

theorem rollback_sound (id : Nat) : Sound (rollback id) := by
  refine Sound.ensureUsable fun w ok registered => ?_
  obtain ⟨before, after, split⟩ := List.append_of_mem registered
  obtain ⟨cut, -, last⟩ := invalidateAfter_removes ok split
  refine Triple.bind (update_spec _) fun _ => Triple.world_bind ?_
  generalize w.invalidateAfter (.transaction id) = w at cut last
  cases named : (w.transactions id).generatedSavepointName with
  | none =>
      refine controlled_bind (fun error => recoverAfterControlFailure_spec error cut) fun e ran => ?_
      exact update_observe (cut.committed last (Or.inl named))
  | some name =>
      refine controlled_bind (fun error => recoverAfterControlFailure_spec error cut) fun e ran => ?_
      have back : Consistent (w.onEngine e) := cut.rolledBackTo last named ran
      -- the observer's exception is kept until the savepoint is released
      refine Triple.bind (M := fun _ => At (· = w.onEngine e)) ?_ fun observerError => ?_
      · exact Triple.tryCatch (Triple.bind observe_spec fun _ => pure_spec _ rfl) fun error =>
          pure_spec _ rfl
      refine controlled_bind (fun error => recoverAfterControlFailure_spec error back) fun e' ran' => ?_
      have closed := back.committed last (Or.inr ⟨name, named, ran'⟩)
      refine Triple.bind (update_spec _) fun _ => ?_
      refine Triple.bind (M := fun _ => At Consistent) ?_ fun observerError => ?_
      · refine Triple.tryCatch (M := fun _ => At Consistent)
          (Triple.bind (observe_sound _ closed) fun _ => ?_) fun error => ?_
        · exact Triple.at_elim fun w ok => pure_spec _ ok
        · exact Triple.at_elim fun w ok => pure_spec _ ok
      · refine Triple.at_elim fun w ok => ?_
        cases observerError with
        | none => exact pure_spec () ok
        | some error => exact throw_spec error ok

/-- What a savepoint does when its statement failed. -/
theorem abandonSavepoint_spec {id : Nat} (ok : Consistent w)
    (registered : .savepoint id ∈ w.registry.entries) (error : Failure) {post : Unit → Run → Prop} :
    Triple (At (· = w)) (abandonSavepoint id error) post (fun _ => At Consistent) := by
  obtain ⟨before, after, split⟩ := List.append_of_mem registered
  obtain ⟨cut, -, -⟩ := invalidateAfter_removes ok split
  refine Triple.bind (update_spec _) fun _ => Triple.bind (update_spec _) fun _ => ?_
  exact recoverAfterControlFailure_spec error (invalidateSavepoint_removes cut id).consistent

theorem release_sound (id : Nat) : Sound (release id) := by
  refine Sound.ensureUsable fun w ok registered => ?_
  obtain ⟨before, after, split⟩ := List.append_of_mem registered
  refine Triple.world_bind ?_
  refine controlled_bind (fun error => abandonSavepoint_spec ok registered error) fun e ran => ?_
  exact update_observe (ok.savepointReleased split ran)

theorem rollbackTo_sound (id : Nat) : Sound (rollbackTo id) := by
  refine Sound.ensureUsable fun w ok registered => ?_
  obtain ⟨before, after, split⟩ := List.append_of_mem registered
  refine Triple.world_bind ?_
  refine controlled_bind (fun error => abandonSavepoint_spec ok registered error) fun e ran => ?_
  exact update_observe (ok.savepointRolledBack split ran)

theorem quoteSavepoint_spec (ok : Consistent w) (name : String) :
    Triple (At (· = w)) (quoteSavepoint name) (fun _ => At (· = w)) (fun _ => At Consistent) := by
  unfold quoteSavepoint
  split
  · exact throw_spec _ ok
  · exact pure_spec _ rfl

theorem reserveSavepointName_spec (ok : Consistent w) (name : String) :
    Triple (At (· = w)) (reserveSavepointName name)
      (fun _ => At fun w' => w' = w.reserve name ∧ foldName name ∉ w.registry.savepointNames)
      (fun _ => At Consistent) := by
  refine Triple.world_bind ?_
  by_cases active : foldName name ∈ w.registry.savepointNames
  · rw [if_pos active]
    exact throw_spec _ ok
  · rw [if_neg active]
    exact (update_spec _).weaken (fun _ => id) (fun _ _ here => ⟨here, active⟩) (fun _ _ => id)

/-- SAVEPOINT under a reserved name; if it fails, the name is given back. -/
theorem reserved_bind {name : String} {stack : List String} {m : Action Unit} (ok : Consistent w)
    (isOpen : w.engine = some stack) (inactive : foldName name ∉ w.registry.savepointNames)
    (rest : Triple (At (· = (w.reserve name).onEngine (some (name :: stack)))) m
      (fun _ => At Consistent) (fun _ => At Consistent)) :
    Triple (At (· = w.reserve name))
      (do
        try runControl (.savepoint name)
        catch error => do
          update (World.releaseSavepointName · name)
          throw error
        m)
      (fun _ => At Consistent) (fun _ => At Consistent) := by
  refine controlled_bind (fun error => ?_) fun e ran => ?_
  · refine Triple.bind (update_spec _) fun _ => throw_spec error ?_
    rw [Consistent.reserve_release inactive]
    exact ok
  · obtain rfl : e = some (name :: stack) := by
      have open' : (w.reserve name).engine = some stack := isOpen
      rw [open'] at ran
      exact (Option.some.inj ran).symm
    exact rest

theorem savepoint_sound (id : Nat) (name : String) : Sound (savepoint id name) := by
  refine Sound.ensureUsable fun w ok registered => ?_
  obtain ⟨stack, isOpen⟩ := Option.isSome_iff_exists.mp (ok.isOpen (List.ne_nil_of_mem registered))
  refine Triple.bind (quoteSavepoint_spec ok name) fun quoted => ?_
  refine Triple.bind (reserveSavepointName_spec ok quoted) fun _ => ?_
  refine Triple.at_elim fun _ ⟨same, inactive⟩ => same ▸ reserved_bind ok isOpen inactive ?_
  refine Triple.world_bind (Triple.bind (update_spec _) fun _ => ?_)
  have set := ok.savepointSet registered isOpen inactive
  have last : (((w.reserve quoted).onEngine (some (quoted :: stack))).addSavepoint id
      quoted).registry.entries = w.registry.entries ++ [RegistryEntry.savepoint w.created] := rfl
  have called : ((((w.reserve quoted).onEngine (some (quoted :: stack))).addSavepoint id
      quoted).savepoints w.created).name = quoted := by
    simp [World.addSavepoint, World.setSavepoint, World.reserve, World.setRegistry, World.onEngine]
  change Triple (At (· = ((w.reserve quoted).onEngine (some (quoted :: stack))).addSavepoint id quoted))
    _ _ _
  generalize ((w.reserve quoted).onEngine (some (quoted :: stack))).addSavepoint id quoted = w'
    at set last called
  have invalidated := invalidateSavepoint_removes set w.created
  refine Triple.tryCatch (observe_spec.weaken (fun _ here => here)
    (fun _ _ here => At.of_eq set here) (fun _ _ here => here)) fun error => ?_
  refine Triple.bind (update_spec _) fun _ => ?_
  refine Triple.bind (M := fun _ => At Consistent) ?_ fun _ => Triple.at_elim fun w ok =>
    throw_spec error ok
  refine Triple.tryCatch (M := fun _ => At Consistent) ?_ fun _ => Triple.at_elim fun w ok =>
    pure_spec () ok
  refine (execute_spec _).weaken (fun _ here => here) ?_ fun _ _ here =>
    At.of_eq invalidated.consistent here
  rintro - run ⟨e, ran, here⟩
  refine At.of_eq (set.savepointAbandoned last ?_) here
  rw [called, ← invalidated.same.engine]
  exact ran

/-- ROLLBACK TO and RELEASE of an interrupted savepoint leave it on the stack or take it off. -/
theorem cleanupInterruptedSavepoint_spec (ok : Consistent w) {name : String} {stack : List String}
    (isOpen : w.engine = some stack) (inactive : foldName name ∉ w.registry.savepointNames) :
    Triple (At (· = w.onEngine (some (name :: stack)))) (cleanupInterruptedSavepoint name)
      (fun _ => At Consistent) (fun _ => At Consistent) := by
  have stale := ok.stale isOpen inactive
  have kept : Engine.run (.rollbackTo name) (some (name :: stack)) = some (some (name :: stack)) := by
    simp [Engine.run, fromInnermost]
  have gone : Engine.run (.release name) (some (name :: stack)) = some (some stack) := by
    simp [Engine.run, fromInnermost]
  refine Triple.tryCatch (M := fun _ => At Consistent) ?_ fun _ => Triple.at_elim fun w ok =>
    pure_spec () ok
  refine Triple.bind (M := fun _ => At (· = w.onEngine (some (name :: stack)))) ?_ fun _ => ?_
  · refine (execute_spec _).weaken (fun _ here => here) ?_ fun _ _ here => At.of_eq stale here
    rintro - run ⟨e, ran, here⟩
    obtain rfl := Option.some.inj (kept.symm.trans ran)
    exact here
  · refine (execute_spec _).weaken (fun _ here => here) ?_ fun _ _ here => At.of_eq stale here
    rintro - run ⟨e, ran, here⟩
    obtain rfl := Option.some.inj (gone.symm.trans ran)
    refine At.of_eq (P := Consistent) ?_ here
    have back : w.onEngine (some stack) = w := isOpen ▸ onEngine_self w
    exact back.symm ▸ ok

theorem beginNested_spec (ok : Consistent w) (nested : w.registry.stack ≠ []) :
    Triple (At (· = w)) beginNested (fun _ => At Consistent) (fun _ => At Consistent) := by
  have some_ : w.registry.entries ≠ [] := by
    obtain ⟨t, member⟩ := List.exists_mem_of_ne_nil _ nested
    exact List.ne_nil_of_mem ((ok.stack t).mp member)
  obtain ⟨stack, isOpen⟩ := Option.isSome_iff_exists.mp (ok.isOpen some_)
  refine Triple.bind (M := fun _ => At fun w' =>
    Consistent w' ∧ w'.engine = some stack) ?_ fun number => Triple.at_elim fun w ⟨ok, isOpen⟩ => ?_
  · refine Triple.world_bind (Triple.bind (update_spec _) fun _ => pure_spec _ ?_)
    exact ⟨ok.numbered _, isOpen⟩
  refine Triple.bind (quoteSavepoint_spec ok _) fun name => ?_
  refine Triple.bind (reserveSavepointName_spec ok name) fun _ => ?_
  refine Triple.at_elim fun _ ⟨same, inactive⟩ => same ▸ reserved_bind ok isOpen inactive ?_
  refine Triple.bind (M := fun _ => At (· = (w.reserve name).onEngine (some (name :: stack)))) ?_
    fun _ => ?_
  · refine Triple.tryCatch (observe_spec.weaken (fun _ here => here) (fun _ _ here => here)
      (fun _ _ here => here)) fun error => ?_
    refine Triple.bind (update_spec _) fun _ => ?_
    have given : ((w.reserve name).onEngine (some (name :: stack))).releaseSavepointName name =
        w.onEngine (some (name :: stack)) := by
      exact congrArg (World.onEngine · _) (Consistent.reserve_release inactive)
    rw [given]
    exact Triple.bind (cleanupInterruptedSavepoint_spec ok isOpen inactive) fun _ =>
      Triple.at_elim fun w ok => throw_spec error ok
  · refine (update_spec _).weaken (fun _ here => here) (fun _ _ here => ?_) (fun _ _ here => here)
    exact At.of_eq (ok.begunNested isOpen inactive) here

theorem beginStatement_spec (ok : Consistent w) (isolationLevel : Option String) :
    Triple (At (· = w)) (beginStatement isolationLevel) (fun _ => At (· = w))
      (fun _ => At Consistent) := by
  unfold beginStatement
  split
  · exact pure_spec _ rfl
  · exact pure_spec _ rfl
  · split
    · exact pure_spec _ rfl
    · exact throw_spec _ ok

theorem openTransaction_spec (ok : Consistent w) (empty : w.registry.entries = [])
    (isolationLevel : Option String) :
    Triple (At (· = w)) (openTransaction isolationLevel)
      (fun _ => At fun w' => ∃ e : Engine, w' = w.onEngine e ∧ e.isSome) (fun _ => At Consistent) := by
  refine Triple.bind (beginStatement_spec ok isolationLevel) fun statement => ?_
  refine Triple.tryCatch (M := fun _ => At fun w' => ∃ e, w' = w.onEngine e) ?_ fun error => ?_
  · refine Triple.bind ((runControl_spec _).weaken (fun _ here => here) (fun _ _ here => here)
      fun _ _ here => ⟨w.engine, here⟩) fun _ => Triple.at_elim fun w' answered => ?_
    obtain ⟨e, ran, same⟩ := answered
    refine observe_spec.weaken (fun _ here => here) (fun _ _ here => ?_) fun _ _ here => ?_
    · refine ⟨e, here.trans same, ?_⟩
      cases before : w.engine with
      | none =>
          rw [before] at ran
          exact Option.some.inj ran ▸ rfl
      | some stack => simp [before, Engine.run] at ran
    · exact ⟨e, here.trans same⟩
  · refine Triple.at_elim fun w' failed => ?_
    obtain ⟨e, same⟩ := failed
    refine Triple.bind (M := fun _ => At Consistent) ?_ fun _ => Triple.at_elim fun w ok =>
      throw_spec error ok
    have any : ∀ e, Consistent (w'.onEngine e) := fun e => by
      rw [same]
      exact ok.onEngine_of_empty empty e
    refine Triple.tryCatch (M := fun _ => At Consistent) ?_ fun _ => Triple.at_elim fun w ok =>
      pure_spec () ok
    refine (execute_spec _).weaken (fun _ here => here) ?_ fun _ _ here => ?_
    · rintro - run ⟨e', -, here⟩
      exact At.of_eq (any e') here
    · exact At.of_eq (any w'.engine) here

theorem beginTopLevel_spec (ok : Consistent w) (empty : w.registry.entries = []) :
    Triple (At (· = w)) beginTopLevel (fun _ => At Consistent) (fun _ => At Consistent) := by
  refine Triple.world_bind ?_
  have register : ∀ e : Engine, e.isSome → Triple (At (· = w.onEngine e))
      (update (World.addTransaction · none)) (fun _ => At Consistent) (fun _ => At Consistent) := by
    intro e isOpen
    have begun := (ok.onEngine_of_empty empty e).begunTopLevel empty isOpen
    exact (update_spec _).weaken (fun _ here => here) (fun _ _ here => At.of_eq begun here)
      (fun _ _ here => here)
  by_cases closed : w.engine.isNone = true
  · rw [if_pos closed]
    refine Triple.bind (openTransaction_spec ok empty _) fun _ => ?_
    exact Triple.at_elim fun _ ⟨e, same, isOpen⟩ => same ▸ register e isOpen
  · rw [if_neg closed]
    exact register w.engine (Option.isSome_iff_ne_none.mpr (by simpa using closed))

theorem begin_sound (on : Option Nat) : Sound (begin_ on) := by
  intro w ok
  refine Triple.bind (M := fun _ => At (· = w)) ?_ fun _ => Triple.world_bind ?_
  · cases on with
    | none => exact pure_spec () rfl
    | some id =>
        exact (ensureUsable_spec ok _).weaken (fun _ here => here) (fun _ _ here => here.1)
          (fun _ _ here => here)
  · by_cases nested : w.registry.stack ≠ []
    · rw [if_pos nested]
      exact beginNested_spec ok nested
    · rw [if_neg nested]
      exact beginTopLevel_spec ok (ok.entries_eq_nil (not_ne_iff.mp nested))

theorem leave_sound (id : Nat) (failed : Bool) : Sound (leave id failed) := by
  intro w ok
  unfold leave
  cases failed with
  | false => exact commit_sound id w ok
  | true =>
      refine Triple.bind (M := fun _ => At Consistent) ?_ fun _ => Triple.at_elim fun w ok =>
        throw_spec _ ok
      refine Triple.tryCatch (rollback_sound id w ok) fun error => Triple.at_elim fun w ok => ?_
      by_cases unavailable : error = .unavailable
      · rw [if_pos unavailable]
        exact pure_spec () ok
      · rw [if_neg unavailable]
        exact throw_spec error ok

/-- Every operation keeps the registry consistent with the engine. -/
theorem perform_sound (operation : Operation) : Sound operation.perform := by
  cases operation with
  | begin on => exact begin_sound on
  | commit id => exact commit_sound id
  | rollback id => exact rollback_sound id
  | savepoint id name => exact savepoint_sound id name
  | release id => exact release_sound id
  | rollbackTo id => exact rollbackTo_sound id
  | leave id failed => exact leave_sound id failed
  | elsewhere =>
      intro w ok
      refine Triple.bind (M := fun _ => At Consistent) ?_ fun _ => Triple.at_elim fun w ok =>
        pure_spec () ok
      exact Triple.world_bind (Triple.bind (update_spec _) fun _ => pure_spec _ (ok.numbered _))

end Operations

/-! ### Handles that are not usable -/

/-- Started in this state, the operation raises without having changed anything. -/
def Refused (run : Run) (m : Action Unit) : Prop :=
  Triple (· = run) m (fun _ _ => False) (fun _ => (· = run))

section Refusal

variable {run : Run} {m : Action Unit}

theorem refused_ensureUsable {entry : RegistryEntry} (unusable : run.world.usable entry = false) :
    Refused run (ensureUsable entry) := by
  refine Triple.world_bind_of (fun _ here => congrArg Run.world here) ?_
  rw [if_neg (by simp [unusable])]
  exact fun _ here => here

theorem Refused.bind (refused : Refused run m) (rest : Unit → Action Unit) :
    Refused run (m >>= rest) :=
  Triple.bind refused fun _ _ => False.elim

/-- An operation on a handle that is not usable does nothing. -/
theorem perform_refused (operation : Operation) {handle : RegistryEntry}
    (called : operation.handle = some handle) (unusable : run.world.usable handle = false) :
    Refused run operation.perform := by
  have refused := refused_ensureUsable unusable
  cases operation with
  | begin on =>
      obtain ⟨id, rfl, rfl⟩ := Option.map_eq_some_iff.mp called
      exact refused.bind _
  | commit id => cases called; exact refused.bind _
  | rollback id => cases called; exact refused.bind _
  | savepoint id name => cases called; exact refused.bind _
  | release id => cases called; exact refused.bind _
  | rollbackTo id => cases called; exact refused.bind _
  | leave id failed =>
      cases called
      cases failed with
      | false => exact refused.bind _
      | true =>
          refine Triple.bind (M := fun _ => (· = run)) ?_ fun _ _ here => here
          refine Triple.tryCatch ((refused.bind _).weaken (fun _ here => here)
            (fun _ _ => False.elim) (fun _ _ here => here)) fun error => ?_
          by_cases unavailable : error = .unavailable
          · rw [if_pos unavailable]
            exact fun _ here => here
          · rw [if_neg unavailable]
            exact fun _ here => here
  | elsewhere => cases called

end Refusal

/-! ### Reachable states -/

theorem run_consistent (operation : Operation) (fates : List Bool) {w : World} (ok : Consistent w) :
    Consistent (operation.run fates w).world := by
  have outcome := perform_sound operation w ok { world := w, fates, sent := [] } rfl
  unfold Operation.run
  revert outcome
  rcases operation.perform.run.run { world := w, fates, sent := [] } with ⟨error | value, run⟩
  · exact fun reached => reached
  · exact fun reached => reached

theorem runAll_consistent (history : List (Operation × List Bool)) {w : World} (ok : Consistent w) :
    Consistent (runAll history w) := by
  induction history generalizing w with
  | nil => exact ok
  | cons first later ih => exact ih (run_consistent first.1 first.2 ok)

theorem run_refused (operation : Operation) (fates : List Bool) {w : World} {handle : RegistryEntry}
    (called : operation.handle = some handle) (unusable : w.usable handle = false) :
    operation.run fates w = { world := w, fates, sent := [] } := by
  have refused : Refused { world := w, fates, sent := [] } operation.perform :=
    perform_refused operation called unusable
  have outcome := refused _ rfl
  unfold Operation.run
  revert outcome
  rcases operation.perform.run.run { world := w, fates, sent := [] } with ⟨error | value, run⟩
  · exact fun same => same
  · exact False.elim

/-- A connection on which no transaction handle has been made yet. -/
def World.opened (engine : Engine) (sequence : Nat) (isolationLevel : Option String) : World :=
  { engine, sequence, isolationLevel }

theorem opened_consistent (engine : Engine) (sequence : Nat) (isolationLevel : Option String) :
    Consistent (World.opened engine sequence isolationLevel) := by
  have none_ : (World.opened engine sequence isolationLevel).liveNames = [] := rfl
  exact
    { nodup := .nil
      fresh := fun _ _ => ⟨rfl, rfl⟩
      transactions := by simp [World.opened]
      savepoints := by simp [World.opened]
      owner := by simp [World.opened]
      owned := by simp [World.opened]
      ownedNodup := fun _ => .nil
      ownNames := by simp [World.opened]
      stack := by simp [World.opened]
      stackNodup := .nil
      names := by simp [World.opened]
      distinct := none_ ▸ .nil
      outermost := by simp [World.opened]
      tracked := none_ ▸ .nil _
      isOpen := fun some_ => absurd rfl some_ }

/-- The registry says about the handles what the engine bears out. -/
structure RefinesEngine (w : World) : Prop where
  usable : ∀ handle, w.usable handle = true ↔ handle ∈ w.registry.entries
  /-- The savepoints of the usable handles, nested transactions included, in entry order. -/
  onStack : ((w.registry.entries.filter w.usable).filterMap w.nameOf).Sublist
    (w.engine.getD []).reverse
  names : ∀ key, key ∈ w.registry.savepointNames ↔
    ∃ handle ∈ w.registry.entries, ∃ name, w.nameOf handle = some name ∧ foldName name = key
  distinct : ∀ first second, w.usable first = true → w.usable second = true →
    ∀ name name', w.nameOf first = some name → w.nameOf second = some name' →
      foldName name = foldName name' → first = second
  refused : ∀ (operation : Operation) (handle : RegistryEntry), operation.handle = some handle →
    w.usable handle = false → ∀ fates,
      (operation.run fates w).sent = [] ∧ (operation.run fates w).world = w

theorem Consistent.refines {w : World} (ok : Consistent w) : RefinesEngine w := by
  refine ⟨ok.usable_iff, ?_, ok.names, ?_, ?_⟩
  · rw [List.filter_eq_self.mpr fun handle registered => (ok.usable_iff handle).mpr registered]
    have subsequence := ok.tracked.subsequence.reverse
    simpa [World.liveNames] using subsequence
  · intro first second usable usable' name name' named named' same
    exact ok.nameOf_injective ((ok.usable_iff first).mp usable) ((ok.usable_iff second).mp usable')
      named named' same
  · intro operation handle called unusable fates
    rw [run_refused operation fates called unusable]
    exact ⟨rfl, rfl⟩

/-- The registry refines the engine in every state that operations on one connection can reach. -/
theorem registry_refines_engine (engine : Engine) (sequence : Nat) (isolationLevel : Option String)
    (history : List (Operation × List Bool)) :
    RefinesEngine (runAll history (World.opened engine sequence isolationLevel)) :=
  (runAll_consistent history (opened_consistent engine sequence isolationLevel)).refines

-- The second savepoint is interrupted and its RELEASE fails, so its name stays on the stack.
example :
    (runAll [(.begin none, []), (.savepoint 0 "a", [true, false, false]), (.begin none, []),
      (.savepoint 0 "A", [])] {}).engine = some ["\"A\"", "\"__relq_controlled_1\"", "\"a\""] := by
  decide +kernel

end Relq.Sqlite
