/-
Module: Relq.Postgres.Recovery
Layer: Postgres
Purpose: What the primitives of the executor and its two levels of recovery do to a coherent
  connection. A condition on a run speaks about its connection and about the statements sent so far:
  as long as the caller owns the outer transaction, none of them is a top-level COMMIT or ROLLBACK.
Imports: Relq.Postgres.Coherence, Relq.Library.Triples
Trusted boundary: none (fully proved)
Main exports: At, Gone, execute_spec, runControl_spec, observe_spec, recoverConnection_spec,
  recoverAfterControlFailure_spec
-/
import Relq.Postgres.Coherence
import Relq.Library.Triples

namespace Relq.Postgres

open Relq.Sqlite (World RegistryEntry Failure Consistent)
open Triples

/-! ### Specifications of the primitives -/

/-- A condition on the connection, and no end of the caller's transaction. -/
def At (owns : Bool) (P : Connection → Prop) (run : Run) : Prop :=
  P run.connection ∧ (owns = true → ∀ control ∈ run.sent, control.isTopLevel = false)

/-- The session accepted the statement. -/
def Ran (control : Control) (c c' : Connection) : Prop :=
  ∃ session, Session.run control c.session = some session ∧ c' = { c with session }

/-- The session refused a statement. -/
def Connection.failed (c : Connection) : Connection :=
  { c with session := c.session.fail }

section Primitives

variable {α : Type} {owns : Bool} {c : Connection} {P Q : Connection → Prop}
  {post : α → Run → Prop} {raised : Failure → Run → Prop}

theorem At.of_eq {run : Run} (holds : P c) (here : At owns (· = c) run) : At owns P run := by
  obtain ⟨rfl, silent⟩ := here
  exact ⟨holds, silent⟩

theorem At.imp {run : Run} (weaker : ∀ c, P c → Q c) (here : At owns P run) : At owns Q run :=
  ⟨weaker _ here.1, here.2⟩

/-- It is enough to start from one connection at a time. -/
theorem Triple.at_elim {m : Action α}
    (each : ∀ c, P c → Triple (At owns (· = c)) m post raised) : Triple (At owns P) m post raised :=
  fun run holds => each run.connection holds.1 run ⟨rfl, holds.2⟩

theorem Triple.connection_bind {f : Connection → Action α}
    (next : Triple (At owns (· = c)) (f c) post raised) :
    Triple (At owns (· = c)) (connection >>= f) post raised := by
  intro run holds
  obtain rfl : run.connection = c := holds.1
  exact next run holds

theorem update_spec (change : Connection → Connection) :
    Triple (At owns (· = c)) (update change) (fun _ => At owns (· = change c)) raised :=
  fun _ holds => ⟨congrArg change holds.1, holds.2⟩

theorem updateBook_spec (change : World → World) :
    Triple (At owns (· = c)) (updateBook change)
      (fun _ => At owns (· = { c with book := change c.book })) raised :=
  update_spec _

theorem throw_spec (error : Failure) (holds : P c) :
    Triple (At owns (· = c)) (throw error : Action α) post (fun _ => At owns P) :=
  (Triple.throw error).weaken (fun _ here => At.of_eq holds here) (fun _ _ => id) (fun _ _ => id)

theorem pure_spec (a : α) (holds : P c) :
    Triple (At owns (· = c)) (pure a : Action α) (fun _ => At owns P) raised :=
  (Triple.pure a).weaken (fun _ here => At.of_eq holds here) (fun _ _ => id) (fun _ _ => id)

theorem draw_spec : Triple (At owns (· = c)) draw (fun _ => At owns (· = c)) raised :=
  fun _ here => here

theorem observe_spec :
    Triple (At owns (· = c)) observe (fun _ => At owns (· = c)) (fun _ => At owns (· = c)) := by
  refine Triple.bind draw_spec fun fate => ?_
  cases fate with
  | true => exact pure_spec () rfl
  | false => exact throw_spec _ rfl

/-- A statement takes the effect the session gives it, or fails. -/
theorem execute_spec {control : Control} (allowed : owns = true → control.isTopLevel = false) :
    Triple (At owns (· = c)) (execute control) (fun _ => At owns (Ran control c))
      (fun _ => At owns (· = c.failed)) := by
  refine Triple.bind (M := fun _ => At owns (· = c)) ?_ fun _ => ?_
  · intro run here
    refine ⟨here.1, fun owned other sent => ?_⟩
    rcases List.mem_append.mp sent with before | now
    · exact here.2 owned other before
    · obtain rfl := List.mem_singleton.mp now
      exact allowed owned
  refine Triple.connection_bind (Triple.bind draw_spec fun fate => ?_)
  have refused : Triple (At owns (· = c))
      (do update fun c => { c with session := c.session.fail }; throw .statement : Action Unit)
      (fun _ => At owns (Ran control c)) (fun _ => At owns (· = c.failed)) :=
    Triple.bind (update_spec _) fun _ => throw_spec _ rfl
  cases fate with
  | false => exact refused
  | true =>
      cases ran : Session.run control c.session with
      | none => simpa only [if_true] using refused
      | some session =>
          simp only [if_true]
          refine (update_spec _).weaken (fun _ here => here) (fun _ _ here => ?_) (fun _ _ => id)
          exact At.of_eq ⟨session, ran, rfl⟩ here

theorem runControl_spec {control : Control} (allowed : owns = true → control.isTopLevel = false) :
    Triple (At owns (· = c)) (runControl control) (fun _ => At owns (Ran control c))
      (fun _ => At owns (· = c.failed)) :=
  Triple.tryCatch (execute_spec allowed) fun error =>
    Triple.bind observe_spec fun _ => throw_spec error rfl

/-- The observer of a recovery statement may raise although the statement took effect. -/
theorem recoveryControl_spec (observed : Bool) {control : Control}
    (allowed : owns = true → control.isTopLevel = false) :
    Triple (At owns (· = c)) (recoveryControl observed control) (fun _ => At owns (Ran control c))
      (fun _ => At owns fun c' => Ran control c c' ∨ c' = c.failed) := by
  have refused : ∀ run : Run, At owns (· = c.failed) run →
      At owns (fun c' => Ran control c c' ∨ c' = c.failed) run :=
    fun run => At.imp fun _ => Or.inr
  cases observed with
  | false => exact (execute_spec allowed).weaken (fun _ => id) (fun _ _ => id) fun _ => refused
  | true =>
      refine Triple.bind ((runControl_spec allowed).weaken (fun _ => id) (fun _ _ => id)
        fun _ => refused) fun _ => Triple.at_elim fun c' ran => ?_
      exact observe_spec.weaken (fun _ => id) (fun _ _ here => At.of_eq ran here)
        (fun _ _ here => At.of_eq (Or.inl ran) here)

/-- The last step of a computation, however that ended. -/
theorem finally_spec {body : Action α} {last : Action Unit} {pre : Run → Prop}
    (first : Triple pre body (fun _ => At owns P) (fun _ => At owns P))
    (second : Triple (At owns P) last (fun _ => At owns Q) (fun _ => At owns Q)) :
    Triple pre (finally_ body last) (fun _ => At owns Q) (fun _ => At owns Q) := by
  refine Triple.bind (M := fun _ => At owns P) ?_ fun outcome => Triple.bind second fun _ => ?_
  · refine Triple.tryCatch (M := fun _ => At owns P) ?_ fun error => ?_
    · exact Triple.bind first fun a => Triple.at_elim fun c holds => pure_spec _ holds
    · exact Triple.at_elim fun c holds => pure_spec _ holds
  · cases outcome with
    | ok a => exact Triple.at_elim fun c holds => pure_spec a holds
    | error error => exact Triple.at_elim fun c holds => throw_spec error holds

theorem raisedBy_spec {body : Action Unit} {pre : Run → Prop}
    (triple : Triple pre body (fun _ => At owns P) (fun _ => At owns P)) :
    Triple pre (raisedBy body) (fun _ => At owns P) raised := by
  refine Triple.tryCatch (M := fun _ => At owns P) ?_ fun error => ?_
  · exact Triple.bind (triple.weaken (fun _ => id) (fun _ _ => id) fun _ _ => id) fun _ =>
      Triple.at_elim fun c holds => pure_spec _ holds
  · exact Triple.at_elim fun c holds => pure_spec _ holds

theorem releaseEach_spec (handles : List Nat) :
    Triple (At owns (· = c)) (handles.forM releaseConnection)
      (fun _ => At owns (· = handles.foldl Connection.release c)) raised := by
  induction handles generalizing c with
  | nil => exact pure_spec _ rfl
  | cons first rest ih =>
      change Triple _ (releaseConnection first >>= fun _ => rest.forM releaseConnection) _ _
      exact Triple.bind (update_spec _) fun _ => ih

end Primitives

/-! ### A savepoint above the registered names -/

/-- The savepoint stands on the stack above the names of all registered handles. -/
def Above (name : String) (c : Connection) : Prop :=
  (name :: c.book.liveNames).Sublist c.session.savepoints ∧ c.session.inTransaction = true

section Above

variable {pooled owns : Bool} {name : String} {c c' : Connection}

theorem Coherent.onSession (ok : Coherent pooled owns c) {session : Session}
    (kept : c.book.liveNames.Sublist session.savepoints)
    (isOpen : c.book.registry.entries ≠ [] → session.inTransaction = true) :
    Coherent pooled owns { c with session } where
  aligned := { ok.aligned with tracked := kept, isOpen }
  holding := ⟨ok.holding.held, ok.holding.releases⟩
  exclusive := ok.exclusive

theorem Coherent.failed (ok : Coherent pooled owns c) : Coherent pooled owns c.failed :=
  ok.onSession (by simpa using ok.aligned.tracked) (by simpa using ok.aligned.isOpen)

theorem Above.failed (above : Above name c) : Above name c.failed := by
  simpa [Above, Connection.failed] using above

theorem Above.rollbackTo (above : Above name c) (ok : Coherent pooled owns c)
    (ran : Ran (.rollbackTo name) c c') :
    Coherent pooled owns c' ∧ Above name c' ∧ c'.book = c.book := by
  obtain ⟨session, ran, rfl⟩ := ran
  obtain ⟨kept, isOpen⟩ := Session.run_rollbackTo above.1 ran
  exact ⟨ok.onSession ((List.sublist_cons_self _ _).trans kept) fun _ => isOpen, ⟨kept, isOpen⟩, rfl⟩

theorem Above.release (above : Above name c) (ok : Coherent pooled owns c)
    (ran : Ran (.release name) c c') : Coherent pooled owns c' ∧ c'.book = c.book := by
  obtain ⟨session, ran, rfl⟩ := ran
  obtain ⟨kept, isOpen⟩ := Session.run_release above.1 ran
  exact ⟨ok.onSession kept fun _ => isOpen, rfl⟩

end Above

/-! ### Recovery -/

/-- The connection is coherent and the handle is not registered any more. -/
def Gone (pooled owns : Bool) (id : Nat) (c : Connection) : Prop :=
  Coherent pooled owns c ∧ .transaction id ∉ c.book.registry.entries

section Recovery

variable {pooled owns : Bool} {c : Connection} {id : Nat} {before after : List RegistryEntry}

/-- Without the entries behind `before`, the outermost one among them, the connection is coherent if
the session kept the names of the others. -/
theorem Coherent.cut (ok : Coherent pooled owns c)
    (split : c.book.registry.entries = before ++ after) {book : World} (registered : Registered book)
    (same : SameBook c.book book) (entries : book.registry.entries = before)
    (outermost : before = [] → after ≠ [] → pooled = false) {session : Session}
    (kept : (before.reverse.filterMap c.book.nameOf).Sublist session.savepoints)
    (isOpen : before ≠ [] → session.inTransaction = true) :
    Coherent pooled owns { c with book, session } where
  aligned := ok.aligned.cut split registered same entries kept isOpen
  holding := by
    have holding := ok.holding
    rw [split] at holding
    change Holding pooled book.registry.entries.head? _
    rw [entries]
    cases before with
    | cons first rest => exact ⟨holding.held, holding.releases⟩
    | nil =>
        cases after with
        | nil => exact ⟨holding.held, holding.releases⟩
        | cons first rest =>
            obtain rfl := outermost rfl (by simp)
            exact ⟨by simpa using holding.held, by simpa using holding.releases⟩
  exclusive := ok.exclusive

/-- A registered transaction with a savepoint is not the outermost one of an acquired connection. -/
theorem Coherent.unpooled (ok : Coherent pooled owns c)
    (split : c.book.registry.entries = before ++ RegistryEntry.transaction id :: after) {name : String}
    (named : (c.book.transactions id).generatedSavepointName = some name) (first : before = []) :
    pooled = false := by
  subst first
  cases pooled with
  | false => rfl
  | true =>
      have unowned := ok.exclusive rfl
      have owned := (ok.aligned.owned id (by simp [split])).mpr (by simp [named])
      rw [unowned] at owned
      cases owned

theorem Coherent.absent (ok : Registered c.book)
    (split : c.book.registry.entries = before ++ RegistryEntry.transaction id :: after) :
    .transaction id ∉ before := by
  have onEngine : Consistent (c.book.onEngine (some c.book.liveNames)) := ok
  have nodup : c.book.registry.entries.Nodup := onEngine.nodup
  rw [split] at nodup
  exact fun member => (List.nodup_append.mp nodup).2.2 _ member _ List.mem_cons_self rfl

/-- Whether or not its statements succeed, the handle and everything begun in it are gone. -/
theorem recoverSubtree_spec (ok : Coherent pooled owns c)
    (registered : .transaction id ∈ c.book.registry.entries) {name : String}
    (named : (c.book.transactions id).generatedSavepointName = some name) (observed : Bool) :
    Triple (At owns (· = c)) (recoverSubtree id name observed)
      (fun _ => At owns (Gone pooled owns id)) (fun _ => At owns (Gone pooled owns id)) := by
  obtain ⟨before, after, split⟩ := List.append_of_mem registered
  obtain ⟨behind, sameBehind, last⟩ := ok.aligned.registered.invalidateAfter split
  obtain ⟨closed, sameClosed, entries⟩ := behind.close last
  have same : SameBook c.book ((c.book.invalidateAfter (.transaction id)).close id) :=
    sameBehind.trans sameClosed
  have cut : Coherent pooled owns
      { c with book := (c.book.invalidateAfter (.transaction id)).close id } :=
    ok.cut split closed same entries (fun first _ => ok.unpooled split named first)
      (ok.aligned.tracked_before split) fun _ => ok.aligned.isOpen (List.ne_nil_of_mem registered)
  have above : Above name
      { c with book := (c.book.invalidateAfter (.transaction id)).close id } := by
    refine ⟨?_, ok.aligned.isOpen (List.ne_nil_of_mem registered)⟩
    rw [same.liveNames entries]
    exact ok.aligned.tracked_named split named
  have absent : .transaction id ∉
      ((c.book.invalidateAfter (.transaction id)).close id).registry.entries := by
    rw [entries]
    exact Coherent.absent ok.aligned.registered split
  refine Triple.bind (updateBook_spec _) fun _ => ?_
  generalize (c.book.invalidateAfter (.transaction id)).close id = book at cut above absent
  refine Triple.bind (M := fun _ => At owns fun c' => Gone pooled owns id c' ∧ Above name c') ?_
    fun _ => Triple.at_elim fun c' ⟨⟨ok', absent'⟩, above'⟩ => ?_
  · refine (recoveryControl_spec observed fun _ => rfl).weaken (fun _ here => here)
      (fun _ _ => At.imp fun c' ran => ?_) (fun _ _ => At.imp fun c' answered => ?_)
    · obtain ⟨ok', above', same⟩ := above.rollbackTo cut ran
      exact ⟨⟨ok', same ▸ absent⟩, above'⟩
    · rcases answered with ran | rfl
      · obtain ⟨ok', -, same⟩ := above.rollbackTo cut ran
        exact ⟨ok', same ▸ absent⟩
      · exact ⟨cut.failed, absent⟩
  · refine (recoveryControl_spec observed fun _ => rfl).weaken (fun _ here => here)
      (fun _ _ => At.imp fun c'' ran => ?_) (fun _ _ => At.imp fun c'' answered => ?_)
    · obtain ⟨ok'', same⟩ := above'.release ok' ran
      exact ⟨ok'', same ▸ absent'⟩
    · rcases answered with ran | rfl
      · obtain ⟨ok'', same⟩ := above'.release ok' ran
        exact ⟨ok'', same ▸ absent'⟩
      · exact ⟨ok'.failed, absent'⟩

/-- Every handle on the connection is gone, and the pool has it back. -/
theorem recoverWhole_spec (ok : Coherent pooled owns c) (unowned : owns = false)
    {handles : List Nat}
    (all : ∀ id, .transaction id ∈ c.book.registry.entries → id ∈ handles) (observed : Bool) :
    Triple (At owns (· = c)) (recoverWhole handles observed)
      (fun _ => At owns fun c' => Coherent pooled owns c' ∧ c'.book.registry.entries = [])
      (fun _ => At owns fun c' => Coherent pooled owns c' ∧ c'.book.registry.entries = []) := by
  have among : ∀ head, c.book.registry.entries.head? = some head →
      ∃ id ∈ handles, head = .transaction id := by
    intro head isHead
    obtain ⟨id, outermost⟩ := ok.aligned.registered.head_transaction fun none => by
      simp [none] at isHead
    have member : .transaction id ∈ c.book.registry.entries := List.mem_of_mem_head? outermost
    exact ⟨id, all id member, Option.some.inj (isHead.symm.trans outermost)⟩
  obtain ⟨cleared, empty⟩ :
      Registered (handles.foldl (fun book _ => book.invalidateAll) c.book) ∧
        (handles.foldl (fun book _ => book.invalidateAll) c.book).registry.entries = [] := by
    by_cases none : handles = []
    · subst none
      refine ⟨ok.aligned.registered, ?_⟩
      cases entries : c.book.registry.entries with
      | nil => exact entries
      | cons head rest =>
          obtain ⟨id, inside, -⟩ := among head (by simp [entries])
          cases inside
    · exact ok.aligned.registered.invalidateEach none
  refine Triple.bind (updateBook_spec _) fun _ => ?_
  generalize handles.foldl (fun book _ => book.invalidateAll) c.book = book at cleared empty
  have released : ∀ session, Coherent pooled owns
      (handles.foldl Connection.release { c with book, session }) ∧
        (handles.foldl Connection.release { c with book, session }).book.registry.entries = [] := by
    intro session
    have aligned : Aligned owns { c with book, session } := by
      refine ⟨cleared, ?_, fun some_ => absurd empty some_, ?_⟩
      · change book.liveNames.Sublist _
        rw [World.liveNames, empty]
        exact List.nil_sublist _
      · intro id head
        change book.registry.entries.head? = _ at head
        rw [empty] at head
        cases head
    have holding : Holding pooled c.book.registry.entries.head? { c with book, session } :=
      ⟨ok.holding.held, ok.holding.releases⟩
    refine ⟨⟨aligned.releaseEach handles, ?_, ok.exclusive⟩, ?_⟩
    · rw [releaseEach_book, empty]
      exact holding.releaseEach among
    · rw [releaseEach_book]
      exact empty
  refine Triple.bind (M := fun _ => At owns fun c' => ∃ session, c' = { c with book, session }) ?_
    fun recoveryError => Triple.at_elim fun c' recovered => ?_
  · refine raisedBy_spec ((recoveryControl_spec observed fun owned => ?_).weaken (fun _ here => here)
      (fun _ _ => At.imp fun c' ran => ?_) (fun _ _ => At.imp fun c' answered => ?_))
    · rw [unowned] at owned
      cases owned
    · obtain ⟨session, -, rfl⟩ := ran
      exact ⟨session, rfl⟩
    · rcases answered with ⟨session, -, rfl⟩ | rfl
      · exact ⟨session, rfl⟩
      · exact ⟨_, rfl⟩
  · obtain ⟨session, rfl⟩ := recovered
    refine Triple.bind (releaseEach_spec handles) fun _ => ?_
    cases recoveryError with
    | none => exact pure_spec () (released session)
    | some error => exact throw_spec error (released session)

theorem mem_controlled (ok : Registered c.book) :
    id ∈ controlled c.book ↔ .transaction id ∈ c.book.registry.entries := by
  have onEngine : Consistent (c.book.onEngine (some c.book.liveNames)) := ok
  have fresh : c.book.created ≤ id → (c.book.transactions id).closed = true :=
    fun new => (onEngine.fresh id new).1
  have registered : .transaction id ∈ c.book.registry.entries ↔
      (c.book.transactions id).closed = false := onEngine.transactions id
  rw [registered, controlled, List.mem_filter, List.mem_range]
  constructor
  · rintro ⟨-, open_⟩
    simpa using open_
  · intro open_
    refine ⟨Nat.lt_of_not_le fun new => ?_, by simp [open_]⟩
    simp [fresh new] at open_

/-- Recovery from inside a registered transaction removes it. -/
theorem recoverConnection_spec (ok : Coherent pooled owns c)
    (registered : .transaction id ∈ c.book.registry.entries) (extra : List Nat)
    (ownsTransaction observed : Bool) :
    Triple (At owns (· = c)) (recoverConnection extra ownsTransaction (some id) observed)
      (fun _ => At owns (Gone pooled owns id)) (fun _ => At owns (Gone pooled owns id)) := by
  refine Triple.connection_bind ?_
  have member : id ∈ controlled c.book ∪ extra :=
    List.mem_union_iff.mpr (Or.inl ((mem_controlled ok.aligned.registered).mpr registered))
  rw [if_neg fun none => by rw [none.1] at member; cases member]
  cases named : (c.book.transactions id).generatedSavepointName with
  | some name => simpa only [named] using recoverSubtree_spec ok registered named observed
  | none =>
      have all : ∀ id, .transaction id ∈ c.book.registry.entries →
          id ∈ controlled c.book ∪ extra := fun id inside =>
        List.mem_union_iff.mpr (Or.inl ((mem_controlled ok.aligned.registered).mpr inside))
      have gone : ∀ c', Coherent pooled owns c' ∧ c'.book.registry.entries = [] →
          Gone pooled owns id c' := fun c' ⟨ok', empty⟩ => ⟨ok', by simp [empty]⟩
      have whole := recoverWhole_spec ok (ok.aligned.unowned registered named) all observed
      simpa only [named] using whole.weaken (fun _ here => here) (fun _ _ => At.imp gone)
        (fun _ _ => At.imp gone)

theorem recoverAfterControlFailure_spec (ok : Coherent pooled owns c)
    (registered : .transaction id ∈ c.book.registry.entries) (error : Failure)
    {post : Unit → Run → Prop} :
    Triple (At owns (· = c)) (recoverAfterControlFailure id error) post
      (fun _ => At owns (Gone pooled owns id)) :=
  Triple.bind (recoverConnection_spec ok registered [id] false true) fun _ =>
    Triple.at_elim fun _ gone => throw_spec error gone

end Recovery

end Relq.Postgres
