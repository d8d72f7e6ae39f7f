/-
Module: Relq.Postgres.Executor
Layer: Postgres
Purpose: The transaction operations of `PostgresDatabase`, `ControlledTransaction` and
  `_PostgresSavepoint` on one connection, in the order in which the source sends statements, calls
  the observer, updates the registry and releases the pool's connection. The registry and the
  bookkeeping of the handles are, line for line, those of the SQLite executor, so `Sqlite.World` is
  their model here too; its engine and isolation level play no part. What the environment decides is
  drawn from a list of fates; a list that is used up lets everything succeed.
Imports: Relq.Postgres.Session, Relq.Sqlite.Session
Trusted boundary: human-reviewed spec
Main exports: Connection, Run, Action, recoverConnection, beginControlled, commit, rollback,
  savepoint, release, rollbackTo, leave
-/
import Relq.Postgres.Session
import Relq.Sqlite.Session

namespace Relq.Postgres

open Relq.Sqlite (World RegistryEntry Failure foldName)

/-- A connection with everything that refers to it: the session, the registry and the handles, the
handles whose `_pool_connection` is set, and how often the pool got the connection back. -/
structure Connection where
  session : Session := .idle
  book : World := {}
  held : Nat → Bool := fun _ => false
  releases : Nat := 0

/-- The state of an operation, with the control statements it has sent so far. -/
structure Run where
  connection : Connection
  fates : List Bool
  sent : List Control

abbrev Action := ExceptT Failure (StateM Run)

/-! ### The environment -/

def draw : Action Bool := do
  let run ← get
  set { run with fates := run.fates.tail }
  return run.fates.headD true

def connection : Action Connection := do
  return (← get).connection

def update (change : Connection → Connection) : Action Unit :=
  modify fun run => { run with connection := change run.connection }

def updateBook (change : World → World) : Action Unit :=
  update fun c => { c with book := change c.book }

/-- `connection.execute` of a control statement: it takes effect, or raises without one. -/
def execute (control : Control) : Action Unit := do
  modify fun run => { run with sent := run.sent ++ [control] }
  let session := (← connection).session
  match if ← draw then session.run control else none with
  | some session => update fun c => { c with session }
  | none => do
      update fun c => { c with session := c.session.fail }
      throw .statement

/-- `_observe`: an `Exception` of the observer is logged, anything else interrupts. -/
def observe : Action Unit := do
  if ← draw then return () else throw .interrupt

def runControl (control : Control) : Action Unit := do
  try execute control
  catch error => do
    observe
    throw error

/-- `recovery_control`, if it is given: an observed statement. -/
def recoveryControl (observed : Bool) (control : Control) : Action Unit :=
  if observed then do
    runControl control
    observe
  else execute control

/-- `try: ... finally: ...` -/
def finally_ {α : Type} (body : Action α) (last : Action Unit) : Action α := do
  let outcome : Except Failure α ←
    try do pure (.ok (← body)) catch error => pure (.error error)
  last
  match outcome with
  | .ok a => return a
  | .error error => throw error

/-- The exception a computation raises, if it does. -/
def raisedBy (body : Action Unit) : Action (Option Failure) := do
  try do
    body
    pure none
  catch error => pure (some error)

def ensureUsable (entry : RegistryEntry) : Action Unit := do
  if (← connection).book.usable entry then return () else throw .unavailable

/-! ### Names -/

def quoteSavepoint (name : String) : Action String :=
  if name = "" then throw .value
  else if name.utf8ByteSize > 63 then throw .value
  else return "\"" ++ String.ofList (name.toList.flatMap fun c => if c = '"' then ['"', '"'] else [c])
    ++ "\""

def newSavepointName : Action String := do
  let number := (← connection).book.sequence
  updateBook fun book => { book with sequence := number + 1 }
  quoteSavepoint ("relq_savepoint_" ++ toString number)

def reserveSavepointName (name : String) : Action Unit := do
  if foldName name ∈ (← connection).book.registry.savepointNames then throw .value
  else updateBook (World.reserve · name)

/-! ### Releasing the pool's connection -/

/-- `pool.release` of the connection that `begin` acquired. -/
def releasePoolConnection (pool : Bool) : Action Unit :=
  if pool then update fun c => { c with releases := c.releases + 1 } else return ()

/-- `_release_connection` of a handle. -/
def Connection.release (c : Connection) (id : Nat) : Connection :=
  if c.held id then
    { c with
      held := fun other => if other = id then false else c.held other
      releases := c.releases + 1 }
  else c

def releaseConnection (id : Nat) : Action Unit :=
  update (Connection.release · id)

/-! ### Recovery -/

/-- `_controlled_transactions_for_connection`: the handles that were constructed and not closed. -/
def controlled (book : World) : List Nat :=
  (List.range book.created).filter fun id => !(book.transactions id).closed

/-- Back to the savepoint of a nested handle, which is lost with everything begun in it. -/
def recoverSubtree (id : Nat) (name : String) (observed : Bool) : Action Unit := do
  updateBook fun book => (book.invalidateAfter (.transaction id)).close id
  recoveryControl observed (.rollbackTo name)
  recoveryControl observed (.release name)

/-- Out of the whole transaction, with every handle on the connection. -/
def recoverWhole (handles : List Nat) (observed : Bool) : Action Unit := do
  updateBook fun book => handles.foldl (fun book _ => book.invalidateAll) book
  let recoveryError ← raisedBy (recoveryControl observed .rollback)
  handles.forM releaseConnection
  if let some error := recoveryError then throw error

def recoverConnection (extra : List Nat) (ownsTransaction : Bool) (boundary : Option Nat)
    (observed : Bool) : Action Unit := do
  let book := (← connection).book
  let handles := controlled book ∪ extra
  if handles = [] ∧ ownsTransaction = false then return ()
  match boundary with
  | none => recoverWhole handles observed
  | some id =>
      match (book.transactions id).generatedSavepointName with
      | some name => recoverSubtree id name observed
      | none => recoverWhole handles observed

/-- It never returns: it raises the recovery's own exception, or else the operation's. -/
def recoverAfterControlFailure (id : Nat) (operationError : Failure) : Action Unit := do
  recoverConnection [id] false (some id) true
  throw operationError

def cleanupSavepoint (name : String) (boundary : Option Nat) : Action Unit := do
  try
    execute (.rollbackTo name)
    execute (.release name)
  catch _ => recoverConnection [] false boundary boundary.isSome

/-! ### Operations of the executor and of the transaction handles -/

def startControl : Option String → Control
  | none => .begin
  | some name => .savepoint name

/-- `_begin_controlled_transaction`; `pool` says that the connection was acquired for it. -/
def beginControlled (pool : Bool) : Action Unit := do
  let before ← connection
  let savepointName : Option String ←
    if before.session.inTransaction then do pure (some (← newSavepointName)) else pure none
  let boundary := if savepointName.isSome then before.book.registry.stack.getLast? else none
  try execute (startControl savepointName)
  catch error => do
    let interrupt ← raisedBy observe
    if pool then releasePoolConnection pool
    else recoverConnection [] savepointName.isNone boundary true
    throw (interrupt.getD error)
  try
    observe
    if let some name := savepointName then reserveSavepointName name
  catch error => do
    match savepointName with
    | none => finally_ (recoverConnection [] true none true) (releasePoolConnection pool)
    | some name => cleanupSavepoint name boundary
    throw error
  let id := (← connection).book.created
  updateBook (World.addTransaction · savepointName)
  if pool then update fun c => { c with held := fun other => if other = id then true else c.held other }

/-- `begin` of a transaction handle. -/
def beginNested (id : Nat) : Action Unit := do
  ensureUsable (.transaction id)
  beginControlled false

def commitControl : Option String → Control
  | none => .commit
  | some name => .release name

def commit (id : Nat) : Action Unit := do
  ensureUsable (.transaction id)
  updateBook (World.invalidateAfter · (.transaction id))
  let name := ((← connection).book.transactions id).generatedSavepointName
  finally_
    (do
      try runControl (commitControl name)
      catch error => recoverAfterControlFailure id error
      updateBook (World.close · id)
      observe)
    (releaseConnection id)

/-- The statements of `rollback` on a nested handle: the observer's exception waits until the
savepoint is released. -/
def rollbackNested (id : Nat) (name : String) : Action Unit := do
  let observerError : Option Failure ←
    try do
      runControl (.rollbackTo name)
      let observerError ← raisedBy observe
      runControl (.release name)
      let later ← raisedBy observe
      pure (observerError.or later)
    catch error => do
      recoverAfterControlFailure id error
      pure none
  updateBook (World.close · id)
  if let some error := observerError then throw error

def rollback (id : Nat) : Action Unit := do
  ensureUsable (.transaction id)
  updateBook (World.invalidateAfter · (.transaction id))
  match ((← connection).book.transactions id).generatedSavepointName with
  | none =>
      finally_
        (do
          try runControl .rollback
          catch error => recoverAfterControlFailure id error
          updateBook (World.close · id)
          observe)
        (releaseConnection id)
  | some name => finally_ (rollbackNested id name) (releaseConnection id)

def savepoint (id : Nat) (name : String) : Action Unit := do
  ensureUsable (.transaction id)
  let quoted ← quoteSavepoint name
  reserveSavepointName quoted
  try runControl (.savepoint quoted)
  catch error => do
    updateBook (World.releaseSavepointName · quoted)
    throw error
  let handle := (← connection).book.created
  updateBook (World.addSavepoint · id quoted)
  try observe
  catch error => do
    updateBook (World.invalidateSavepoint · handle)
    try execute (.release quoted)
    catch _ => pure ()
    throw error

/-! ### Operations of the savepoint handles -/

/-- What both operations do when their statement failed. -/
def abandonSavepoint (id : Nat) (error : Failure) : Action Unit := do
  updateBook (World.invalidateAfter · (.savepoint id))
  updateBook (World.invalidateSavepoint · id)
  recoverAfterControlFailure ((← connection).book.savepoints id).transaction error

def release (id : Nat) : Action Unit := do
  ensureUsable (.savepoint id)
  let name := ((← connection).book.savepoints id).name
  try runControl (.release name)
  catch error => abandonSavepoint id error
  updateBook (World.releaseSavepoint · id)
  observe

def rollbackTo (id : Nat) : Action Unit := do
  ensureUsable (.savepoint id)
  let name := ((← connection).book.savepoints id).name
  try runControl (.rollbackTo name)
  catch error => abandonSavepoint id error
  updateBook (World.invalidateAfter · (.savepoint id))
  observe

/-- Leaving `async with database.transaction()`, whose block may have raised. -/
def leave (id : Nat) (failed : Bool) : Action Unit :=
  if failed then do
    try rollback id
    catch error => if error = .unavailable then pure () else throw error
    throw .body
  else commit id

end Relq.Postgres
