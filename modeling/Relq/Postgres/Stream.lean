/-
Module: Relq.Postgres.Stream
Layer: Postgres
Purpose: `fetch_iter` and the row generator `_stream_rows` it hands out. The generator is its frame:
  not started, waiting at a yielded row with what is left of the batch, or finished. A block of the
  consumer is the schedule of what it does with the generator and the way it leaves the context.
  Each stream keeps a log of what its database and its consumer really did, which nothing in the
  source reads.
Imports: Relq.Library.Triples, Relq.Postgres.Executor
Trusted boundary: human-reviewed spec
Main exports: Raised, QueryEvent, StreamOutcome, Generator, Occurrence, Driver, Query, Stream,
  Streaming, anext, athrow, aclose, ConsumerAction, Exit, Target, fetchIter, Stream.opening,
  Stream.delivered, Stream.failures, Stream.starts
-/
import Relq.Library.Triples
import Relq.Postgres.Executor

namespace Relq.Postgres

open Relq.Sqlite (Failure)
open Triples (after)

/-- The exceptions of a stream: those of the transaction handle, those of asyncpg, of the row adapter
and of the consumer, and the one that closes a generator. -/
inductive Raised (ε : Type) where
  | control (failure : Failure)
  | raised (error : ε)
  | generatorExit
deriving DecidableEq, Repr

/-- `QueryEvent`, without the time that the operation took. -/
structure QueryEvent (ε π : Type) where
  sql : String
  parameters : List π
  rowCount : Option Nat
  error : Option (Raised ε)
deriving DecidableEq, Repr

/-- `_StreamOutcome` -/
structure StreamOutcome (ε : Type) where
  count : Nat := 0
  error : Option (Raised ε) := none
  consumerError : Bool := false

def StreamOutcome.recordRow {ε : Type} (outcome : StreamOutcome ε) : StreamOutcome ε :=
  { outcome with count := outcome.count + 1 }

def StreamOutcome.recordError {ε : Type} (error : Raised ε) (outcome : StreamOutcome ε) :
    StreamOutcome ε :=
  { outcome with error := some error }

/-- The frame of a `_stream_rows` generator. -/
inductive Generator (Record : Type) where
  | created
  /-- at the `yield` of a row: the cursor, the fetches so far and the rest of the batch -/
  | waiting (name : String) (fetched : Nat) (records : List Record)
  | finished
deriving Repr

/-- What can fail under a stream. -/
inductive Part where
  | cursor
  | mapping
  | transaction
deriving DecidableEq, Repr

/-- An entry of the log. -/
inductive Occurrence (ε Row : Type) where
  | started
  | delivered (row : Row)
  | failed (part : Part) (error : Raised ε)
deriving DecidableEq, Repr

/-- The connection, as far as a stream uses it: whether the type codecs can be set, how a statement
ends, and what the fetches of a cursor return, in their order. -/
structure Driver (ε π Record : Type) where
  configure : Except ε Unit
  execute : String → List π → Except ε Unit
  fetch : String → Nat → Except ε (List Record)

/-- A query as `fetch_iter` sees it: `require_select`, what it compiles to, and `map_row`. -/
structure Query (ε π Record Row : Type) where
  requireSelect : Except ε Unit
  compiled : Except ε (String × List π)
  mapRow : Record → Except ε Row

structure Stream (ε π Record Row : Type) where
  run : Run
  /-- the next number of `_CURSOR_COUNTER` -/
  cursors : Nat
  outcome : StreamOutcome ε := {}
  rows : Generator Record := .created
  events : List (QueryEvent ε π) := []
  log : List (Occurrence ε Row) := []

section

variable {ε π Record Row : Type}

/-- A stream on a connection, before anything of it has happened. -/
def Stream.opening (run : Run) (cursors : Nat) : Stream ε π Record Row :=
  { run, cursors }

def Occurrence.row? : Occurrence ε Row → Option Row
  | delivered row => some row
  | started | failed _ _ => none

def Occurrence.failure? : Occurrence ε Row → Option (Raised ε)
  | failed _ error => some error
  | started | delivered _ => none

def Occurrence.isStart : Occurrence ε Row → Bool
  | started => true
  | delivered _ | failed _ _ => false

/-- The rows that reached the consumer. -/
def Stream.delivered (s : Stream ε π Record Row) : List Row :=
  s.log.filterMap Occurrence.row?

/-- The exceptions of the cursor, of the row mapping and of the transaction. -/
def Stream.failures (s : Stream ε π Record Row) : List (Raised ε) :=
  s.log.filterMap Occurrence.failure?

def Stream.starts (s : Stream ε π Record Row) : Nat :=
  s.log.countP Occurrence.isStart

end

abbrev Streaming (ε π Record Row : Type) := ExceptT (Raised ε) (StateM (Stream ε π Record Row))

section

variable {ε π Record Row α : Type}

/-! ### Steps of the stream -/

def occur (occurrence : Occurrence ε Row) : Streaming ε π Record Row Unit :=
  modify fun s => { s with log := s.log ++ [occurrence] }

def setRows (rows : Generator Record) : Streaming ε π Record Row Unit :=
  modify fun s => { s with rows }

def onOutcome (change : StreamOutcome ε → StreamOutcome ε) : Streaming ε π Record Row Unit :=
  modify fun s => { s with outcome := change s.outcome }

/-- A step whose failure is a failure of that part. -/
def failing (part : Part) (step : Streaming ε π Record Row α) : Streaming ε π Record Row α := do
  try step
  catch error => do
    occur (.failed part error)
    throw error

/-- An operation of a handle on the stream's connection. -/
def control (operation : Action α) : Streaming ε π Record Row α := fun s =>
  match after operation s.run with
  | (.ok a, run) => (.ok a, { s with run })
  | (.error failure, run) => (.error (.control failure), { s with run })

/-- Something that has no effect but its exception. -/
def checked (result : Except ε α) : Streaming ε π Record Row α :=
  match result with
  | .ok a => pure a
  | .error error => throw (.raised error)

/-- A statement the driver sends; one that fails aborts the transaction it is in. -/
def sending (answer : Except ε α) : Streaming ε π Record Row α := do
  try checked answer
  catch error => do
    control (update fun c => { c with session := c.session.fail })
    throw error

/-! ### `_stream_rows` -/

def cursorBatchSize : Nat := 100

def declareSql (name sql : String) : String :=
  "declare " ++ name ++ " no scroll cursor for " ++ sql

def fetchSql (name : String) : String :=
  "fetch forward " ++ toString cursorBatchSize ++ " from " ++ name

/-- The next row of a batch, up to its `yield`. -/
def yieldRow (query : Query ε π Record Row) (name : String) (fetched : Nat) (record : Record)
    (records : List Record) : Streaming ε π Record Row (Option Row) := do
  let row ← failing .mapping (checked (query.mapRow record))
  onOutcome StreamOutcome.recordRow
  setRows (.waiting name fetched records)
  occur (.delivered row)
  return some row

/-- `while records := await connection.fetch(...)` -/
def fetchBatch (driver : Driver ε π Record) (query : Query ε π Record Row) (name : String)
    (fetched : Nat) : Streaming ε π Record Row (Option Row) := do
  match ← failing .cursor (sending (driver.fetch (fetchSql name) fetched)) with
  | [] => return none
  | record :: records => yieldRow query name (fetched + 1) record records

/-- The first part of the generator: the cursor's name and its declaration. -/
def openCursor (driver : Driver ε π Record) (query : Query ε π Record Row) (sql : String)
    (parameters : List π) : Streaming ε π Record Row (Option Row) := do
  let number := (← get).cursors
  modify fun s => { s with cursors := number + 1 }
  let name := "relq_cursor_" ++ toString number
  failing .cursor (sending (driver.execute (declareSql name sql) parameters))
  fetchBatch driver query name 0

/-- The `try` of `_stream_rows`, which is in force whenever the generator runs: it ends by yielding a
row, by returning, or by raising. -/
def resume (step : Streaming ε π Record Row (Option Row)) :
    Streaming ε π Record Row (Option Row) := do
  try
    let row ← step
    if row.isNone then setRows .finished
    pure row
  catch error => do
    onOutcome (StreamOutcome.recordError error)
    setRows .finished
    throw error

/-- `__anext__`; `none` stands for `StopAsyncIteration`. -/
def anext (driver : Driver ε π Record) (query : Query ε π Record Row) (sql : String)
    (parameters : List π) : Streaming ε π Record Row (Option Row) := do
  match (← get).rows with
  | .created => resume (openCursor driver query sql parameters)
  | .waiting name fetched [] => resume (fetchBatch driver query name fetched)
  | .waiting name fetched (record :: records) =>
      resume (yieldRow query name fetched record records)
  | .finished => return none

/-- `athrow`: at a `yield` the exception is raised there. A generator that has not started is only
finished by it, and one that has finished takes no notice. -/
def athrow (error : Raised ε) : Streaming ε π Record Row (Option Row) := do
  match (← get).rows with
  | .created =>
      setRows .finished
      throw error
  | .waiting _ _ _ => resume (throw error)
  | .finished => return none

/-- `aclose`: a `GeneratorExit` that is raised at the `yield` and comes back is no error. -/
def aclose : Streaming ε π Record Row Unit := do
  match (← get).rows with
  | .created => setRows .finished
  | .waiting _ _ _ =>
      try
        let _ ← athrow .generatorExit
      catch error => match error with
        | .generatorExit => pure ()
        | error => throw error
  | .finished => return ()

/-! ### The consumer -/

/-- What the consumer does in its block: take the next row, close the generator, throw an exception
into it, or use the connection for something else. -/
inductive ConsumerAction (ε : Type) where
  | next
  | close
  | throw (error : Raised ε)
  | use (operation : Action Unit)

/-- How the block ends. An exception of the generator that the block does not handle leaves it too. -/
inductive Exit (ε : Type) where
  | normally
  | raising (error : Raised ε)
deriving DecidableEq, Repr

/-- An exception of the action is the block's to handle. -/
def ConsumerAction.perform (driver : Driver ε π Record) (query : Query ε π Record Row) (sql : String)
    (parameters : List π) : ConsumerAction ε → Streaming ε π Record Row Unit
  | next => do
      try let _ ← anext driver query sql parameters
      catch _ => pure ()
  | close => do
      try aclose
      catch _ => pure ()
  | throw error => do
      try let _ ← athrow error
      catch _ => pure ()
  | use operation => do
      try control operation
      catch _ => pure ()

def consume (driver : Driver ε π Record) (query : Query ε π Record Row) (sql : String)
    (parameters : List π) : List (ConsumerAction ε) → Streaming ε π Record Row Unit
  | [] => return ()
  | action :: later => do
      action.perform driver query sql parameters
      consume driver query sql parameters later

def Exit.leave : Exit ε → Streaming ε π Record Row Unit
  | normally => return ()
  | raising error => throw error

/-! ### `fetch_iter` -/

/-- The executor: on a pool, on a plain connection, or the handle of a transaction. -/
inductive Target where
  | pool
  | plain
  | transaction (id : Nat)
deriving DecidableEq, Repr

def Target.ensureUsable : Target → Action Unit
  | pool | plain => return ()
  | transaction id => Postgres.ensureUsable (.transaction id)

/-- `self.begin()`, which returns the new handle. -/
def Target.begin (target : Target) : Action Nat := do
  let id := (← connection).book.created
  match target with
  | pool => beginControlled true
  | plain => beginControlled false
  | transaction parent => beginNested parent
  return id

/-- The handler of the inner `try`. -/
def rollBackStream (id : Nat) (error : Raised ε) : Streaming ε π Record Row Unit := do
  let consumerException := (← get).outcome.error.isNone
  try failing .transaction (control (rollback id))
  catch rollbackError => do
    onOutcome (StreamOutcome.recordError rollbackError)
    throw rollbackError
  onOutcome fun outcome => { outcome with consumerError := consumerException }
  throw error

/-- The inner `try`: its handler always raises, so what stands in its `else` follows it. -/
def guardBlock (driver : Driver ε π Record) (id : Nat) (block : Streaming ε π Record Row Unit) :
    Streaming ε π Record Row Unit := do
  try
    try failing .transaction (sending driver.configure)
    catch error => do
      onOutcome (StreamOutcome.recordError error)
      throw error
    block
  catch error => rollBackStream id error
  failing .transaction (control (commit id))

/-- The outer `try`, without its `finally`. -/
def inTransaction (driver : Driver ε π Record) (target : Target)
    (block : Streaming ε π Record Row Unit) : Streaming ε π Record Row Unit := do
  try
    let id ← failing .transaction (control target.begin)
    guardBlock driver id block
  catch error => do
    if !(← get).outcome.consumerError then
      onOutcome (StreamOutcome.recordError error)
    throw error

/-- The event is emitted whatever the observer makes of it. -/
def observeStream (sql : String) (parameters : List π) : Streaming ε π Record Row Unit := do
  modify fun s => { s with
    events := s.events ++ [{
      sql
      parameters
      rowCount := if s.outcome.error.isSome then none else some s.outcome.count
      error := s.outcome.error }] }
  control observe

/-- `fetch_iter`, used by a block that does these actions and leaves in this way. -/
def fetchIter (driver : Driver ε π Record) (query : Query ε π Record Row) (target : Target)
    (actions : List (ConsumerAction ε)) (exit : Exit ε) : Streaming ε π Record Row Unit := do
  control target.ensureUsable
  checked query.requireSelect
  let (sql, parameters) ← checked query.compiled
  occur .started
  try
    inTransaction driver target do
      consume driver query sql parameters actions
      exit.leave
  finally
    observeStream sql parameters

end

end Relq.Postgres
