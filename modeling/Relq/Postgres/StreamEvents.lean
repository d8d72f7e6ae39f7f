/-
Module: Relq.Postgres.StreamEvents
Layer: Postgres
Purpose: What the event of a stream says, for every schedule of the consumer and every failure under
  it. While the consumer lets the generator be at its rows, the outcome records just the failures of
  the stream; closing the generator there, or throwing into it, is recorded as if the stream had
  failed. So the event is truthful exactly when that does not happen, or when ending the transaction
  fails anyway.
Imports: Relq.Postgres.Stream
Trusted boundary: human-reviewed spec (Stream.Truthful, ConsumerAction.interrupts, Spared, entering,
  Exit.ending, Excused)
Main exports: Stream.Truthful, ConsumerAction.interrupts, Spared, Excused, consume_steady,
  settle_blaming, settle_sparing, fetchIter_truthful_iff
-/
import Relq.Postgres.Stream

namespace Relq.Postgres

open Relq.Sqlite (Failure)
open Triples

variable {ε π Record Row α : Type}

/-- One event for a stream that was started; without an error it counts the delivered rows, and it has
one exactly when the cursor, the row mapping or the transaction failed. -/
structure Stream.Truthful (s : Stream ε π Record Row) : Prop where
  once : s.events.length = s.starts
  counted : ∀ event ∈ s.events, event.error = none → event.rowCount = some s.delivered.length
  blamed : ∀ event ∈ s.events, event.error.isSome ↔ s.failures ≠ []

/-! ### Steps of the stream -/

section Steps

variable (s : Stream ε π Record Row)

@[simp] theorem after_occur (occurrence : Occurrence ε Row) :
    after (occur occurrence) s = (.ok (), { s with log := s.log ++ [occurrence] }) := rfl

@[simp] theorem after_setRows (rows : Generator Record) :
    after (setRows rows) s = (.ok (), { s with rows }) := rfl

@[simp] theorem after_onOutcome (change : StreamOutcome ε → StreamOutcome ε) :
    after (onOutcome change) s = (.ok (), { s with outcome := change s.outcome }) := rfl

theorem after_control (operation : Action α) :
    after (control operation) s =
      match after operation s.run with
      | (.ok a, run) => (.ok a, { s with run })
      | (.error failure, run) => (.error (.control failure), { s with run }) := rfl

theorem after_checked (result : Except ε α) :
    after (checked result) s =
      match result with
      | .ok a => (.ok a, s)
      | .error error => (.error (.raised error), s) := by
  cases result <;> rfl

/-- The connection after a statement that failed. -/
def Run.aborted (run : Run) : Run :=
  { run with connection := { run.connection with session := run.connection.session.fail } }

theorem after_sending (answer : Except ε α) :
    after (sending answer) s =
      match answer with
      | .ok a => (.ok a, s)
      | .error error => (.error (.raised error), { s with run := s.run.aborted }) := by
  cases answer <;> rfl

theorem after_failing (part : Part) (step : Streaming ε π Record Row α) :
    after (failing part step) s =
      match after step s with
      | (.ok a, s') => (.ok a, s')
      | (.error error, s') => (.error error, { s' with log := s'.log ++ [.failed part error] }) := by
  unfold failing
  rw [after_tryCatch]
  rcases after step s with ⟨error | a, s'⟩
  · simp [after_bind]
  · rfl

theorem after_resume (step : Streaming ε π Record Row (Option Row)) :
    after (resume step) s =
      match after step s with
      | (.ok (some row), s') => (.ok (some row), s')
      | (.ok none, s') => (.ok none, { s' with rows := .finished })
      | (.error error, s') =>
          (.error error, { s' with outcome := s'.outcome.recordError error, rows := .finished }) := by
  unfold resume
  rw [after_tryCatch, after_bind]
  rcases after step s with ⟨error | row, s'⟩
  · simp [after_bind]
  · cases row <;> rfl

/-- What a step leaves behind whose exception is handled. -/
theorem after_handled (step : Streaming ε π Record Row Unit) :
    after (do try step catch _ => pure ()) s = (.ok (), (after step s).2) := by
  rw [after_tryCatch]
  rcases after step s with ⟨error | _, s'⟩ <;> rfl

theorem after_dropped (step : Streaming ε π Record Row α) :
    after (do let _ ← step) s = ((after step s).1.map fun _ => (), (after step s).2) := by
  rw [after_bind]
  rcases after step s with ⟨error | _, s'⟩ <;> rfl

end Steps

/-! ### The generator -/

/-- What one run of the generator's body does to the stream: it yields a row that it counted, it
returns, or it raises what failed. -/
def Yields (s : Stream ε π Record Row) :
    Except (Raised ε) (Option Row) × Stream ε π Record Row → Prop
  | (.ok (some row), s') =>
      s'.outcome = s.outcome.recordRow ∧ s'.events = s.events ∧ s'.log = s.log ++ [.delivered row]
  | (.ok none, s') => s'.outcome = s.outcome ∧ s'.events = s.events ∧ s'.log = s.log
  | (.error error, s') =>
      s'.outcome = s.outcome ∧ s'.events = s.events ∧ ∃ part, s'.log = s.log ++ [.failed part error]

section Generator

variable (driver : Driver ε π Record) (query : Query ε π Record Row) (s : Stream ε π Record Row)

theorem yieldRow_yields (name : String) (fetched : Nat) (record : Record) (records : List Record) :
    Yields s (after (yieldRow query name fetched record records) s) := by
  unfold yieldRow
  rw [after_bind, after_failing, after_checked]
  cases query.mapRow record with
  | error error => exact ⟨rfl, rfl, .mapping, rfl⟩
  | ok row => exact ⟨rfl, rfl, rfl⟩

theorem fetchBatch_yields (name : String) (fetched : Nat) :
    Yields s (after (fetchBatch driver query name fetched) s) := by
  unfold fetchBatch
  rw [after_bind, after_failing, after_sending]
  cases driver.fetch (fetchSql name) fetched with
  | error error => exact ⟨rfl, rfl, .cursor, rfl⟩
  | ok records =>
      cases records with
      | nil => exact ⟨rfl, rfl, rfl⟩
      | cons record records => exact yieldRow_yields query s name (fetched + 1) record records

theorem openCursor_yields (sql : String) (parameters : List π) :
    Yields s (after (openCursor driver query sql parameters) s) := by
  have numbered : after (openCursor driver query sql parameters) s =
      after (do
        failing .cursor (sending (driver.execute
          (declareSql ("relq_cursor_" ++ toString s.cursors) sql) parameters))
        fetchBatch driver query ("relq_cursor_" ++ toString s.cursors) 0)
        { s with cursors := s.cursors + 1 } := rfl
  rw [numbered, after_bind, after_failing, after_sending]
  cases driver.execute _ parameters with
  | error error => exact ⟨rfl, rfl, .cursor, rfl⟩
  | ok _ => exact fetchBatch_yields driver query { s with cursors := s.cursors + 1 } _ 0

end Generator

/-! ### The log -/

section Log

variable {s s' : Stream ε π Record Row} {occurrence : Occurrence ε Row}

theorem Stream.failures_append (log : s'.log = s.log ++ [occurrence]) :
    s'.failures = s.failures ++ occurrence.failure?.toList := by
  rw [failures, failures, log, List.filterMap_append]
  cases occurrence <;> rfl

theorem Stream.delivered_append (log : s'.log = s.log ++ [occurrence]) :
    s'.delivered = s.delivered ++ occurrence.row?.toList := by
  rw [delivered, delivered, log, List.filterMap_append]
  cases occurrence <;> rfl

theorem Stream.starts_append (log : s'.log = s.log ++ [occurrence]) :
    s'.starts = s.starts + occurrence.isStart.toNat := by
  rw [starts, starts, log, List.countP_append]
  cases occurrence <;> rfl

end Log

/-! ### The outcome while the block runs -/

/-- The outcome has the failures of the stream and counts its rows; a generator that can go on has not
failed. -/
structure Steady (s : Stream ε π Record Row) : Prop where
  faults : s.failures = s.outcome.error.toList
  idle : s.rows ≠ .finished → s.outcome.error = none
  count : s.outcome.count = s.delivered.length

/-- The outcome has an error, but nothing failed. -/
structure Misled (s : Stream ε π Record Row) : Prop where
  finished : s.rows = .finished
  error : s.outcome.error.isSome
  failures : s.failures = []

/-- What a block leaves alone. -/
structure Kept (s s' : Stream ε π Record Row) : Prop where
  events : s'.events = s.events
  starts : s'.starts = s.starts
  consumerError : s'.outcome.consumerError = s.outcome.consumerError

theorem Kept.refl (s : Stream ε π Record Row) : Kept s s :=
  ⟨rfl, rfl, rfl⟩

theorem Kept.trans {s s' s'' : Stream ε π Record Row} (first : Kept s s') (second : Kept s' s'') :
    Kept s s'' :=
  ⟨second.events.trans first.events, second.starts.trans first.starts,
    second.consumerError.trans first.consumerError⟩

section Block

variable {driver : Driver ε π Record} {query : Query ε π Record Row} {sql : String}
  {parameters : List π} {s : Stream ε π Record Row}

theorem resume_steady {step : Streaming ε π Record Row (Option Row)} (steady : Steady s)
    (unfinished : s.rows ≠ .finished) (yields : Yields s (after step s)) :
    Steady (after (resume step) s).2 ∧ Kept s (after (resume step) s).2 := by
  have clean := steady.idle unfinished
  have quiet : s.failures = [] := by rw [steady.faults, clean]; rfl
  rw [after_resume]
  revert yields
  rcases after step s with ⟨error | row, s'⟩
  · rintro ⟨outcome, events, part, log⟩
    have failures : s'.failures = [error] := by
      rw [Stream.failures_append log, quiet]
      rfl
    have delivered : s'.delivered = s.delivered := by
      rw [Stream.delivered_append log]
      exact List.append_nil _
    refine ⟨⟨failures, fun going => absurd rfl going, ?_⟩, events, ?_, ?_⟩
    · change s'.outcome.count = s'.delivered.length
      rw [outcome, delivered, steady.count]
    · exact Stream.starts_append log
    · change s'.outcome.consumerError = s.outcome.consumerError
      rw [outcome]
  · cases row with
    | none =>
        rintro ⟨outcome, events, log⟩
        refine ⟨⟨?_, fun going => absurd rfl going, ?_⟩, events, ?_, ?_⟩
        · simpa [Stream.failures, log, outcome] using steady.faults
        · simpa [Stream.delivered, log, outcome] using steady.count
        · simp [Stream.starts, log]
        · exact congrArg StreamOutcome.consumerError outcome
    | some row =>
        rintro ⟨outcome, events, log⟩
        have failures : s'.failures = s.failures := by
          rw [Stream.failures_append log]
          exact List.append_nil _
        have delivered : s'.delivered = s.delivered ++ [row] := Stream.delivered_append log
        refine ⟨⟨?_, fun _ => ?_, ?_⟩, events, ?_, ?_⟩
        · change s'.failures = s'.outcome.error.toList
          rw [failures, outcome, steady.faults]
          rfl
        · rw [outcome]
          exact clean
        · change s'.outcome.count = s'.delivered.length
          rw [outcome, delivered, List.length_append, ← steady.count]
          rfl
        · exact Stream.starts_append log
        · change s'.outcome.consumerError = s.outcome.consumerError
          rw [outcome]
          rfl

theorem anext_steady (steady : Steady s) :
    Steady (after (anext driver query sql parameters) s).2 ∧
      Kept s (after (anext driver query sql parameters) s).2 := by
  unfold anext
  rw [after_bind, after_get]
  dsimp only
  have going : ∀ {rows}, s.rows = rows → rows ≠ .finished → s.rows ≠ .finished := by
    rintro rows rfl unfinished
    exact unfinished
  split
  · next rows =>
      exact resume_steady steady (going rows (by simp)) (openCursor_yields driver query s sql parameters)
  · next rows =>
      exact resume_steady steady (going rows (by simp)) (fetchBatch_yields driver query s _ _)
  · next rows =>
      exact resume_steady steady (going rows (by simp)) (yieldRow_yields query s _ _ _ _)
  · exact ⟨steady, .refl s⟩

/-! ### Closing a generator at a row -/

/-- Closing the generator, or throwing into it, while it waits at a row it has yielded. -/
def ConsumerAction.interrupts : ConsumerAction ε → Generator Record → Bool
  | close, .waiting _ _ _ => true
  | throw _, .waiting _ _ _ => true
  | _, _ => false

theorem interrupted {name : String} {fetched : Nat} {records : List Record}
    (rows : s.rows = .waiting name fetched records) (error : Raised ε) :
    after (athrow error) s =
      (.error error, { s with outcome := s.outcome.recordError error, rows := .finished }) := by
  unfold athrow
  rw [after_bind, after_get]
  dsimp only
  rw [rows]
  dsimp only
  rw [after_resume, after_throw]

theorem aclose_interrupted {name : String} {fetched : Nat} {records : List Record}
    (rows : s.rows = .waiting name fetched records) :
    (after aclose s).2 =
      { s with outcome := s.outcome.recordError .generatorExit, rows := .finished } := by
  unfold aclose
  rw [after_bind, after_get]
  dsimp only
  rw [rows]
  dsimp only
  rw [after_tryCatch, after_bind, interrupted rows]
  rfl

theorem aclose_idle (idle : ∀ name fetched records, s.rows ≠ .waiting name fetched records) :
    (after aclose s).2 = { s with rows := .finished } := by
  unfold aclose
  rw [after_bind, after_get]
  dsimp only
  obtain ⟨run, cursors, outcome, rows, events, log⟩ := s
  cases rows with
  | created => rfl
  | waiting name fetched records => exact absurd rfl (idle name fetched records)
  | finished => rfl

theorem athrow_idle (idle : ∀ name fetched records, s.rows ≠ .waiting name fetched records)
    (error : Raised ε) : (after (athrow error) s).2 = { s with rows := .finished } := by
  unfold athrow
  rw [after_bind, after_get]
  dsimp only
  obtain ⟨run, cursors, outcome, rows, events, log⟩ := s
  cases rows with
  | created => rfl
  | waiting name fetched records => exact absurd rfl (idle name fetched records)
  | finished => rfl

/-- What an action leaves behind, whatever the block makes of its exception. -/
theorem perform_after (action : ConsumerAction ε) :
    after (action.perform driver query sql parameters) s =
      (.ok (), match action with
        | .next => (after (anext driver query sql parameters) s).2
        | .close => (after aclose s).2
        | .throw error => (after (athrow error) s).2
        | .use operation => (after (control operation) s).2) := by
  cases action with
  | next => exact (after_handled s _).trans (by rw [after_dropped])
  | close => exact after_handled s _
  | throw error => exact (after_handled s _).trans (by rw [after_dropped])
  | use operation => exact after_handled s _

/-! ### Whole blocks -/

theorem Steady.finish (steady : Steady s) :
    Steady ({ s with rows := .finished } : Stream ε π Record Row) :=
  ⟨steady.faults, fun going => absurd rfl going, steady.count⟩

/-- An operation on the connection is none of the stream's. -/
theorem control_after (operation : Action α) :
    ∃ run, (after (control operation) s).2 = { s with run } := by
  rw [after_control]
  rcases after operation s.run with ⟨failure | a, run⟩
  · exact ⟨run, rfl⟩
  · exact ⟨run, rfl⟩

variable (driver query sql parameters)

theorem perform_steady {action : ConsumerAction ε} (steady : Steady s)
    (spared : action.interrupts s.rows = false) :
    Steady (after (action.perform driver query sql parameters) s).2 ∧
      Kept s (after (action.perform driver query sql parameters) s).2 := by
  rw [perform_after]
  cases action with
  | next => exact anext_steady steady
  | close =>
      have idle : ∀ name fetched records, s.rows ≠ .waiting name fetched records := by
        intro name fetched records waiting
        rw [waiting] at spared
        cases spared
      dsimp only
      rw [aclose_idle idle]
      exact ⟨steady.finish, rfl, rfl, rfl⟩
  | throw error =>
      have idle : ∀ name fetched records, s.rows ≠ .waiting name fetched records := by
        intro name fetched records waiting
        rw [waiting] at spared
        cases spared
      dsimp only
      rw [athrow_idle idle]
      exact ⟨steady.finish, rfl, rfl, rfl⟩
  | use operation =>
      obtain ⟨run, used⟩ := control_after (s := s) operation
      dsimp only
      rw [used]
      exact ⟨⟨steady.faults, steady.idle, steady.count⟩, rfl, rfl, rfl⟩

theorem perform_interrupts {action : ConsumerAction ε} (steady : Steady s)
    (interrupts : action.interrupts s.rows = true) :
    Misled (after (action.perform driver query sql parameters) s).2 ∧
      Kept s (after (action.perform driver query sql parameters) s).2 := by
  obtain ⟨name, fetched, records, rows⟩ :
      ∃ name fetched records, s.rows = .waiting name fetched records := by
    revert interrupts
    cases s.rows with
    | waiting name fetched records => exact fun _ => ⟨name, fetched, records, rfl⟩
    | created => cases action <;> exact nofun
    | finished => cases action <;> exact nofun
  have clean : s.outcome.error = none := steady.idle (by rw [rows]; exact nofun)
  have quiet : s.failures = [] := by rw [steady.faults, clean]; rfl
  have misled : ∀ error, Misled ({ s with
      outcome := s.outcome.recordError error
      rows := .finished } : Stream ε π Record Row) := fun error => ⟨rfl, rfl, quiet⟩
  rw [perform_after]
  cases action with
  | next => cases interrupts
  | use operation => cases interrupts
  | close =>
      dsimp only
      rw [aclose_interrupted rows]
      exact ⟨misled _, rfl, rfl, rfl⟩
  | throw error =>
      dsimp only
      rw [interrupted rows]
      exact ⟨misled _, rfl, rfl, rfl⟩

/-- Nothing happens to a stream whose generator has finished. -/
theorem perform_finished (action : ConsumerAction ε) (finished : s.rows = .finished) :
    ∃ run, (after (action.perform driver query sql parameters) s).2 = { s with run } := by
  obtain ⟨run, cursors, outcome, rows, events, log⟩ := s
  cases finished
  rw [perform_after]
  cases action with
  | next => exact ⟨run, rfl⟩
  | close => exact ⟨run, rfl⟩
  | throw error => exact ⟨run, rfl⟩
  | use operation => exact control_after operation

theorem perform_misled (action : ConsumerAction ε) (misled : Misled s) :
    Misled (after (action.perform driver query sql parameters) s).2 ∧
      Kept s (after (action.perform driver query sql parameters) s).2 := by
  obtain ⟨run, same⟩ := perform_finished driver query sql parameters action misled.finished
  rw [same]
  exact ⟨⟨misled.finished, misled.error, misled.failures⟩, rfl, rfl, rfl⟩

end Block

/-- No action of the block meets the generator at a row it waits at, but to take the next one. -/
def Spared (driver : Driver ε π Record) (query : Query ε π Record Row) (sql : String)
    (parameters : List π) : List (ConsumerAction ε) → Stream ε π Record Row → Prop
  | [], _ => True
  | action :: later, s =>
      action.interrupts s.rows = false ∧
        Spared driver query sql parameters later
          (after (action.perform driver query sql parameters) s).2

section Runs

variable (driver : Driver ε π Record) (query : Query ε π Record Row) (sql : String)
  (parameters : List π) {s : Stream ε π Record Row}

theorem consume_cons (action : ConsumerAction ε) (later : List (ConsumerAction ε)) :
    after (consume driver query sql parameters (action :: later)) s =
      after (consume driver query sql parameters later)
        (after (action.perform driver query sql parameters) s).2 := by
  change after (action.perform driver query sql parameters >>= fun _ => _) s = _
  rw [after_bind, perform_after]

theorem consume_returns (actions : List (ConsumerAction ε)) :
    (after (consume driver query sql parameters actions) s).1 = .ok () := by
  induction actions generalizing s with
  | nil => rfl
  | cons action later ih =>
      rw [consume_cons]
      exact ih

theorem consume_misled (actions : List (ConsumerAction ε)) (misled : Misled s) :
    Misled (after (consume driver query sql parameters actions) s).2 ∧
      Kept s (after (consume driver query sql parameters actions) s).2 := by
  induction actions generalizing s with
  | nil => exact ⟨misled, .refl s⟩
  | cons action later ih =>
      obtain ⟨next, kept⟩ := perform_misled driver query sql parameters action misled
      obtain ⟨last, rest⟩ := ih next
      rw [consume_cons]
      exact ⟨last, kept.trans rest⟩

theorem consume_steady (actions : List (ConsumerAction ε)) (steady : Steady s)
    (spared : Spared driver query sql parameters actions s) :
    Steady (after (consume driver query sql parameters actions) s).2 ∧
      Kept s (after (consume driver query sql parameters actions) s).2 := by
  induction actions generalizing s with
  | nil => exact ⟨steady, .refl s⟩
  | cons action later ih =>
      obtain ⟨next, kept⟩ := perform_steady driver query sql parameters steady spared.1
      obtain ⟨last, rest⟩ := ih next spared.2
      rw [consume_cons]
      exact ⟨last, kept.trans rest⟩

theorem consume_interrupted (actions : List (ConsumerAction ε)) (steady : Steady s)
    (interrupted : ¬ Spared driver query sql parameters actions s) :
    Misled (after (consume driver query sql parameters actions) s).2 ∧
      Kept s (after (consume driver query sql parameters actions) s).2 := by
  induction actions generalizing s with
  | nil => exact absurd trivial interrupted
  | cons action later ih =>
      rw [consume_cons]
      by_cases here : action.interrupts s.rows = true
      · obtain ⟨next, kept⟩ := perform_interrupts driver query sql parameters steady here
        obtain ⟨last, rest⟩ := consume_misled driver query sql parameters later next
        exact ⟨last, kept.trans rest⟩
      · have quiet : action.interrupts s.rows = false := by simpa using here
        obtain ⟨next, kept⟩ := perform_steady driver query sql parameters steady quiet
        obtain ⟨last, rest⟩ := ih next fun spared => interrupted ⟨quiet, spared⟩
        exact ⟨last, kept.trans rest⟩

end Runs

/-! ### Leaving the block -/

/-- What ends the transaction of a block that leaves in this way. -/
def Exit.ending : Exit ε → Nat → Action Unit
  | normally, id => commit id
  | raising _, id => rollback id

/-- An operation on the connection raises. -/
def Fails (operation : Action α) (run : Run) : Prop :=
  ∃ failure, (after operation run).1 = .error failure

/-- The handler of the outer `try`. -/
def settle (ended : Except (Raised ε) Unit × Stream ε π Record Row) : Stream ε π Record Row :=
  match ended with
  | (.ok _, t) => t
  | (.error error, t) =>
      if t.outcome.consumerError then t else { t with outcome := t.outcome.recordError error }

theorem settle_blaming {t : Stream ε π Record Row} (error : Raised ε)
    (consumer : t.outcome.consumerError = false) :
    settle (.error error, t) = { t with outcome := t.outcome.recordError error } :=
  if_neg (by simp [consumer])

theorem settle_sparing {t : Stream ε π Record Row} (error : Raised ε)
    (consumer : t.outcome.consumerError = true) : settle (.error error, t) = t :=
  if_pos consumer

section Leaving

variable {driver : Driver ε π Record} {block : Streaming ε π Record Row Unit} (id : Nat)
  (s : Stream ε π Record Row)

theorem after_rollBackStream (error : Raised ε) :
    after (rollBackStream id error) s =
      match after (rollback id) s.run with
      | (.ok _, run) =>
          (.error error, { s with
            run
            outcome := { s.outcome with consumerError := s.outcome.error.isNone } })
      | (.error failure, run) =>
          (.error (.control failure), { s with
            run
            outcome := s.outcome.recordError (.control failure)
            log := s.log ++ [.failed .transaction (.control failure)] }) := by
  unfold rollBackStream
  rw [after_bind, after_get]
  dsimp only
  rw [after_bind, after_tryCatch, after_failing, after_control]
  rcases after (rollback id) s.run with ⟨failure | _, run⟩ <;> rfl

theorem rollBackStream_raises (error : Raised ε) :
    ∃ error' s', after (rollBackStream id error) s = (.error error', s') := by
  rw [after_rollBackStream]
  rcases after (rollback id) s.run with ⟨failure | _, run⟩
  · exact ⟨_, _, rfl⟩
  · exact ⟨_, _, rfl⟩

theorem after_commit :
    after (failing .transaction (control (commit id))) s =
      match after (commit id) s.run with
      | (.ok _, run) => (.ok (), { s with run })
      | (.error failure, run) =>
          (.error (.control failure), { s with
            run
            log := s.log ++ [.failed .transaction (.control failure)] }) := by
  rw [after_failing, after_control]
  rcases after (commit id) s.run with ⟨failure | _, run⟩ <;> rfl

theorem after_guardBlock :
    after (guardBlock driver id block) s =
      match driver.configure with
      | .error error =>
          after (rollBackStream id (.raised error)) { s with
            run := s.run.aborted
            outcome := s.outcome.recordError (.raised error)
            log := s.log ++ [.failed .transaction (.raised error)] }
      | .ok _ =>
          match after block s with
          | (.ok _, s') => after (failing .transaction (control (commit id))) s'
          | (.error error, s') => after (rollBackStream id error) s' := by
  unfold guardBlock
  rw [after_bind, after_tryCatch, after_bind, after_tryCatch, after_failing, after_sending]
  cases driver.configure with
  | error error =>
      simp only [after_bind, after_onOutcome, after_throw]
      obtain ⟨error', s', raised⟩ := rollBackStream_raises id { s with
        run := s.run.aborted
        outcome := s.outcome.recordError (.raised error)
        log := s.log ++ [.failed .transaction (.raised error)] } (.raised error)
      rw [raised]
  | ok _ =>
      dsimp only
      rcases after block s with ⟨error | _, s'⟩
      · obtain ⟨error', s'', raised⟩ := rollBackStream_raises id s' error
        simp only [raised]
      · rfl

theorem after_inTransaction (target : Target) :
    (after (inTransaction driver target block) s).2 =
      match after target.begin s.run with
      | (.ok id, run) => settle (after (guardBlock driver id block) { s with run })
      | (.error failure, run) =>
          settle (.error (.control failure), { s with
            run
            log := s.log ++ [.failed .transaction (.control failure)] }) := by
  have handled : ∀ (error : Raised ε) (s : Stream ε π Record Row),
      (after (do
        if !(← get).outcome.consumerError then
          onOutcome (StreamOutcome.recordError error)
        throw error : Streaming ε π Record Row Unit) s).2 = settle (.error error, s) := by
    intro error s
    rw [after_bind, after_get]
    unfold settle
    dsimp only
    cases s.outcome.consumerError <;> rfl
  unfold inTransaction
  rw [after_tryCatch, after_bind, after_failing, after_control]
  rcases after target.begin s.run with ⟨failure | id, run⟩
  · exact handled (.control failure) _
  · dsimp only
    rcases after (guardBlock driver id block) { s with run } with ⟨error | _, s'⟩
    · exact handled error s'
    · rfl

/-- What the end of the transaction adds to a stream: its own failure. -/
structure Concluded (s t : Stream ε π Record Row) (fails : Prop) : Prop where
  events : t.events = s.events
  starts : t.starts = s.starts
  delivered : t.delivered = s.delivered
  count : t.outcome.count = s.outcome.count
  error : t.outcome.error.isSome ↔ s.outcome.error.isSome ∨ fails
  failures : t.failures ≠ [] ↔ s.failures ≠ [] ∨ fails

theorem Concluded.ended {s : Stream ε π Record Row} {fails : Prop} (run : Run)
    (outcome : StreamOutcome ε) (succeeds : ¬ fails) (count : outcome.count = s.outcome.count)
    (error : outcome.error.isSome = s.outcome.error.isSome) :
    Concluded s ({ s with run, outcome } : Stream ε π Record Row) fails where
  events := rfl
  starts := rfl
  delivered := rfl
  count := count
  error := by simp [succeeds, error]
  failures := by simp [succeeds, Stream.failures]

theorem Concluded.failed {s : Stream ε π Record Row} {fails : Prop} (run : Run) (failure : Failure)
    (holds : fails) :
    Concluded s ({ s with
      run
      outcome := s.outcome.recordError (.control failure)
      log := s.log ++ [.failed .transaction (.control failure)] } : Stream ε π Record Row) fails where
  events := rfl
  starts := (Stream.starts_append (s := s) rfl).trans rfl
  delivered := (Stream.delivered_append rfl).trans (List.append_nil _)
  count := rfl
  error := iff_of_true rfl (.inr holds)
  failures := by
    refine iff_of_true ?_ (.inr holds)
    rw [Stream.failures_append rfl]
    exact List.append_ne_nil_of_right_ne_nil _ (by simp [Occurrence.failure?])

theorem concluded (exit : Exit ε) (s : Stream ε π Record Row)
    (consumer : s.outcome.consumerError = false) :
    Concluded s
      (settle (match exit with
        | .normally => after (failing .transaction (control (commit id))) s
        | .raising error => after (rollBackStream id error) s))
      (Fails (exit.ending id) s.run) := by
  cases exit with
  | normally =>
      dsimp only
      rw [after_commit]
      have fails : Fails ((Exit.normally (ε := ε)).ending id) s.run ↔
          ∃ failure, (after (commit id) s.run).1 = .error failure := Iff.rfl
      rcases ended : after (commit id) s.run with ⟨failure | _, run⟩
      · have closed := Concluded.failed (s := s) run failure (fails.mpr ⟨failure, by rw [ended]⟩)
        dsimp only
        rw [settle_blaming]
        · exact closed
        · exact consumer
      · refine Concluded.ended run s.outcome (fun raises => ?_) rfl rfl
        obtain ⟨failure, raised⟩ := fails.mp raises
        rw [ended] at raised
        cases raised
  | raising error =>
      dsimp only
      rw [after_rollBackStream]
      have fails : Fails ((Exit.raising error).ending id) s.run ↔
          ∃ failure, (after (rollback id) s.run).1 = .error failure := Iff.rfl
      rcases ended : after (rollback id) s.run with ⟨failure | _, run⟩
      · have closed := Concluded.failed (s := s) run failure (fails.mpr ⟨failure, by rw [ended]⟩)
        dsimp only
        rw [settle_blaming]
        · exact closed
        · exact consumer
      · have succeeds : ¬ Fails ((Exit.raising error).ending id) s.run := by
          intro raises
          obtain ⟨failure, raised⟩ := fails.mp raises
          rw [ended] at raised
          cases raised
        dsimp only
        -- The consumer is to blame exactly when no error was recorded before.
        cases recorded : s.outcome.error with
        | none =>
            rw [settle_sparing _ rfl]
            exact Concluded.ended run _ succeeds rfl (by rw [recorded])
        | some earlier =>
            rw [settle_blaming _ rfl]
            exact Concluded.ended run _ succeeds rfl (by rw [recorded]; rfl)

/-! ### The event -/

/-- Before the event: it has not been emitted, and it would be right about the rows. -/
structure Untold (t : Stream ε π Record Row) : Prop where
  events : t.events = []
  starts : t.starts = 1
  counted : t.outcome.error = none → t.outcome.count = t.delivered.length

/-- The event of a stream whose outcome is settled. -/
def Stream.report (t : Stream ε π Record Row) (sql : String) (parameters : List π) :
    QueryEvent ε π where
  sql := sql
  parameters := parameters
  rowCount := if t.outcome.error.isSome then none else some t.outcome.count
  error := t.outcome.error

theorem observeStream_after (t : Stream ε π Record Row) (sql : String) (parameters : List π) :
    ∃ run, (after (observeStream sql parameters) t).2 =
      { t with run, events := t.events ++ [t.report sql parameters] } :=
  control_after (s := ({ t with events := t.events ++ [t.report sql parameters] } :
    Stream ε π Record Row)) observe

theorem truthful_observed {t : Stream ε π Record Row} (untold : Untold t) (sql : String)
    (parameters : List π) :
    (after (observeStream sql parameters) t).2.Truthful ↔
      (t.outcome.error.isSome ↔ t.failures ≠ []) := by
  obtain ⟨run, observed⟩ := observeStream_after t sql parameters
  rw [observed, untold.events]
  constructor
  · intro truthful
    exact truthful.blamed (t.report sql parameters) (List.mem_singleton_self _)
  · intro blamed
    refine ⟨untold.starts.symm, ?_, ?_⟩
    · intro event member clean
      obtain rfl := List.mem_singleton.mp member
      have none : t.outcome.error = none := clean
      have counted : (t.report sql parameters).rowCount = some t.outcome.count := by
        simp [Stream.report, none]
      rw [counted, untold.counted none]
      rfl
    · intro event member
      obtain rfl := List.mem_singleton.mp member
      exact blamed

/-- The end of the transaction keeps a stream untold, and adds its failure to both sides. -/
theorem Concluded.truthful {s t : Stream ε π Record Row} {fails : Prop} (ended : Concluded s t fails)
    (events : s.events = []) (starts : s.starts = 1)
    (counted : s.outcome.error = none → s.outcome.count = s.delivered.length) (sql : String)
    (parameters : List π) :
    (after (observeStream sql parameters) t).2.Truthful ↔
      (s.outcome.error.isSome ∨ fails ↔ s.failures ≠ [] ∨ fails) := by
  have untold : Untold t := by
    refine ⟨ended.events.trans events, ended.starts.trans starts, fun clean => ?_⟩
    have before : s.outcome.error = none := by
      by_contra recorded
      have some := ended.error.mpr (.inl (Option.isSome_iff_ne_none.mpr recorded))
      rw [clean] at some
      cases some
    rw [ended.count, ended.delivered]
    exact counted before
  rw [truthful_observed untold, ended.error, ended.failures]

end Leaving

/-! ### Whole streams -/

/-- `fetch_iter` up to its `yield`. -/
def entering (driver : Driver ε π Record) (query : Query ε π Record Row) (target : Target) :
    Streaming ε π Record Row (String × List π × Nat) := do
  control target.ensureUsable
  checked query.requireSelect
  let (sql, parameters) ← checked query.compiled
  occur .started
  let id ← failing .transaction (control target.begin)
  failing .transaction (sending driver.configure)
  return (sql, parameters, id)

/-- The block leaves the generator at its rows alone, or the transaction cannot be ended. -/
def Harmless (driver : Driver ε π Record) (query : Query ε π Record Row)
    (actions : List (ConsumerAction ε)) (exit : Exit ε) (sql : String) (parameters : List π) (id : Nat)
    (entered : Stream ε π Record Row) : Prop :=
  Spared driver query sql parameters actions entered ∨
    Fails (exit.ending id) (after (consume driver query sql parameters actions) entered).2.run

/-- If the block is entered, it is harmless. -/
def Excused (driver : Driver ε π Record) (query : Query ε π Record Row) (target : Target)
    (actions : List (ConsumerAction ε)) (exit : Exit ε) (s : Stream ε π Record Row) : Prop :=
  ∀ sql parameters id entered,
    after (entering driver query target) s = (.ok (sql, parameters, id), entered) →
      Harmless driver query actions exit sql parameters id entered

section Streams

variable {driver : Driver ε π Record} {query : Query ε π Record Row} {target : Target}
  {actions : List (ConsumerAction ε)} {exit : Exit ε} {sql : String} {parameters : List π} {id : Nat}

/-- A block ends in the way it leaves, whatever it did before. -/
theorem after_block (s : Stream ε π Record Row) :
    after (do consume driver query sql parameters actions; exit.leave) s =
      (match exit with
        | .normally => .ok ()
        | .raising error => .error error,
        (after (consume driver query sql parameters actions) s).2) := by
  have returned := consume_returns driver query sql parameters (s := s) actions
  rw [after_bind]
  rcases ran : after (consume driver query sql parameters actions) s with ⟨result, s'⟩
  rw [ran] at returned
  obtain rfl : result = .ok () := returned
  cases exit <;> rfl

variable (driver query actions exit sql parameters id) in
/-- A stream whose block is entered tells the truth just when its block is excused. -/
theorem block_truthful {s : Stream ε π Record Row} (steady : Steady s) (events : s.events = [])
    (starts : s.starts = 1) (consumer : s.outcome.consumerError = false) :
    (after (observeStream sql parameters)
      (settle (match exit with
        | .normally => after (failing .transaction (control (commit id)))
            (after (consume driver query sql parameters actions) s).2
        | .raising error => after (rollBackStream id error)
            (after (consume driver query sql parameters actions) s).2))).2.Truthful ↔
      Harmless driver query actions exit sql parameters id s := by
  unfold Harmless
  by_cases spared : Spared driver query sql parameters actions s
  · obtain ⟨after, kept⟩ := consume_steady driver query sql parameters actions steady spared
    have ended := concluded id exit _ (kept.consumerError.trans consumer)
    rw [ended.truthful (kept.events.trans events) (kept.starts.trans starts) fun _ => after.count]
    refine iff_of_true ?_ (.inl spared)
    rw [after.faults]
    cases (Triples.after (consume driver query sql parameters actions) s).2.outcome.error <;> simp
  · obtain ⟨misled, kept⟩ := consume_interrupted driver query sql parameters actions steady spared
    have ended := concluded id exit _ (kept.consumerError.trans consumer)
    rw [ended.truthful (kept.events.trans events) (kept.starts.trans starts) fun clean => by
      have recorded := misled.error
      rw [clean] at recorded
      cases recorded]
    simp [misled.error, misled.failures, spared]

/-- Whether a stream is started, with the SQL and the parameters it will have. -/
def starting (query : Query ε π Record Row) (target : Target) :
    Streaming ε π Record Row (String × List π) := do
  control target.ensureUsable
  checked query.requireSelect
  checked query.compiled

theorem after_starting (query : Query ε π Record Row) (target : Target)
    (s : Stream ε π Record Row) :
    ∃ result run, after (starting query target) s = (result, { s with run }) := by
  unfold starting
  rw [after_bind, after_control]
  rcases after target.ensureUsable s.run with ⟨failure | _, run⟩
  · exact ⟨_, run, rfl⟩
  · dsimp only
    rw [after_bind, after_checked]
    cases query.requireSelect with
    | error error => exact ⟨_, run, rfl⟩
    | ok _ =>
        dsimp only
        rw [after_checked]
        cases query.compiled with
        | error error => exact ⟨_, run, rfl⟩
        | ok compiled => exact ⟨_, run, rfl⟩

theorem fetchIter_starting :
    fetchIter driver query target actions exit = (do
      let (sql, parameters) ← starting query target
      occur .started
      try
        inTransaction driver target do
          consume driver query sql parameters actions
          exit.leave
      finally
        observeStream sql parameters) := by
  unfold fetchIter starting
  simp only [bind_assoc]

theorem entering_starting :
    entering driver query target = (do
      let (sql, parameters) ← starting query target
      occur .started
      let id ← failing .transaction (control target.begin)
      failing .transaction (sending driver.configure)
      return (sql, parameters, id)) := by
  unfold entering starting
  simp only [bind_assoc]

/-- A stream that is not started has no event. -/
theorem refused_truthful (run : Run) (cursors : Nat) :
    ({ run, cursors } : Stream ε π Record Row).Truthful :=
  ⟨rfl, nofun, nofun⟩

/-- What a started stream leaves behind. -/
theorem after_started (s : Stream ε π Record Row) :
    (after (do
      occur .started
      try
        inTransaction driver target do
          consume driver query sql parameters actions
          exit.leave
      finally
        observeStream sql parameters) s).2 =
      (after (observeStream sql parameters) (after (inTransaction driver target do
        consume driver query sql parameters actions
        exit.leave) { s with log := s.log ++ [.started] }).2).2 := by
  rw [after_bind, after_occur]
  dsimp only
  rw [after_tryFinally]
  rcases after (inTransaction driver target _) _ with ⟨outcome, t⟩
  dsimp only
  rcases after (observeStream sql parameters) t with ⟨error | _, t'⟩ <;> rfl

/-- The state in which the block of a started stream is entered, if it is. -/
theorem after_entered (s : Stream ε π Record Row) :
    after (do
      occur .started
      let id ← failing .transaction (control target.begin)
      failing .transaction (sending driver.configure)
      return (sql, parameters, id)) s =
      match after target.begin s.run with
      | (.error failure, run) =>
          (.error (.control failure), { s with
            run
            log := s.log ++ [.started] ++ [.failed .transaction (.control failure)] })
      | (.ok id, run) =>
        match driver.configure with
        | .error error =>
            (.error (.raised error), { s with
              run := run.aborted
              log := s.log ++ [.started] ++ [.failed .transaction (.raised error)] })
        | .ok _ => (.ok (sql, parameters, id), { s with run, log := s.log ++ [.started] }) := by
  rw [after_bind, after_occur]
  dsimp only
  rw [after_bind, after_failing, after_control]
  rcases after target.begin s.run with ⟨failure | id, run⟩
  · rfl
  · dsimp only
    rw [after_bind, after_failing, after_sending]
    cases driver.configure <;> rfl

/-- The event of a stream whose transaction cannot be begun has the failure. -/
theorem unbegun_truthful (run : Run) (cursors : Nat) (failure : Failure) :
    (after (observeStream sql parameters) ({
      run
      cursors
      outcome := { error := some (.control failure) }
      log := [.started, .failed .transaction (.control failure)] } :
        Stream ε π Record Row)).2.Truthful := by
  have untold : Untold ({
      run
      cursors
      outcome := { error := some (.control failure) }
      log := [.started, .failed .transaction (.control failure)] } : Stream ε π Record Row) := by
    refine ⟨rfl, rfl, fun clean => ?_⟩
    cases clean
  exact (truthful_observed untold sql parameters).mpr (iff_of_true rfl (List.cons_ne_nil _ _))

/-- The event of a stream is truthful exactly when its block is excused. -/
theorem fetchIter_truthful_iff (driver : Driver ε π Record) (query : Query ε π Record Row)
    (target : Target) (actions : List (ConsumerAction ε)) (exit : Exit ε) (run : Run)
    (cursors : Nat) :
    (after (fetchIter driver query target actions exit) (.opening run cursors)).2.Truthful ↔
      Excused driver query target actions exit (.opening run cursors) := by
  unfold Excused
  have never : ∀ {result : Except (Raised ε) (String × List π × Nat) × Stream ε π Record Row}
      {error : Raised ε}, result.1 = .error error → ∀ sql parameters id entered,
        result = (.ok (sql, parameters, id), entered) →
          Harmless driver query actions exit sql parameters id entered := by
    rintro result error raised sql parameters id entered rfl
    cases raised
  rw [fetchIter_starting, entering_starting, after_bind]
  simp only [after_bind (starting query target)]
  obtain ⟨result, run, started⟩ := after_starting query target (.opening run cursors)
  rw [started]
  cases result with
  | error error => exact iff_of_true (refused_truthful run cursors) (never rfl)
  | ok compiled =>
      obtain ⟨sql, parameters⟩ := compiled
      dsimp only
      rw [after_started, after_inTransaction, after_entered]
      rcases after target.begin run with ⟨failure | id, run⟩
      · refine iff_of_true ?_ (never rfl)
        dsimp only
        rw [settle_blaming]
        · exact unbegun_truthful run cursors failure
        · rfl
      · dsimp only
        rw [after_guardBlock]
        cases driver.configure with
        | error error =>
            refine iff_of_true ?_ (never rfl)
            have ended := concluded id (.raising (.raised error)) ({
              run := run.aborted
              cursors
              outcome := { error := some (.raised error) }
              log := [.started, .failed .transaction (.raised error)] } : Stream ε π Record Row) rfl
            exact (ended.truthful rfl rfl nofun sql parameters).mpr
              (iff_of_true (.inl rfl) (.inl (List.cons_ne_nil _ _)))
        | ok _ =>
            have truthful := block_truthful driver query actions exit sql parameters id
              (s := { run, cursors, log := [.started] }) ⟨rfl, fun _ => rfl, rfl⟩ rfl rfl rfl
            dsimp only
            rw [after_block]
            have only : Harmless driver query actions exit sql parameters id
                  ({ run, cursors, log := [.started] } : Stream ε π Record Row) ↔
                ∀ sql' parameters' id' entered,
                  ((.ok (sql, parameters, id), { run, cursors, log := [.started] }) :
                    Except (Raised ε) (String × List π × Nat) × Stream ε π Record Row) =
                      (.ok (sql', parameters', id'), entered) →
                    Harmless driver query actions exit sql' parameters' id' entered := by
              constructor
              · rintro harmless _ _ _ _ ⟨⟩
                exact harmless
              · intro all
                exact all sql parameters id _ rfl
            refine Iff.trans ?_ (truthful.trans only)
            cases exit <;> exact Iff.rfl

/-- A connection on which nothing fails and whose cursors have two rows. -/
def twoRows : Driver String String Nat where
  configure := .ok ()
  execute _ _ := .ok ()
  fetch _ call := .ok (if call = 0 then [1, 2] else [])

def selectRows : Query String String Nat Nat where
  requireSelect := .ok ()
  compiled := .ok ("select \"rows\".\"id\" from \"rows\"", [])
  mapRow record := .ok record

/-- A consumer that takes a row, closes the generator and leaves is blamed on the query. -/
theorem closedEarly_not_truthful :
    ¬ (after (fetchIter twoRows selectRows .plain [.next, .close] .normally)
      (.opening { connection := {}, fates := [], sent := [] } 1)).2.Truthful := by
  intro truthful
  have events : (after (fetchIter twoRows selectRows .plain [.next, .close] .normally)
      (.opening { connection := {}, fates := [], sent := [] } 1)).2.events =
        [{ sql := "select \"rows\".\"id\" from \"rows\"", parameters := [], rowCount := none,
           error := some .generatorExit }] := rfl
  have failures : (after (fetchIter twoRows selectRows .plain [.next, .close] .normally)
      (.opening { connection := {}, fates := [], sent := [] } 1)).2.failures = [] := rfl
  have blamed := truthful.blamed _ (by rw [events]; exact List.mem_singleton_self _)
  exact blamed.mp rfl failures

end Streams

end Relq.Postgres
