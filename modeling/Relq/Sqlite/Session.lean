/-
Module: Relq.Sqlite.Session
Layer: Sqlite
Purpose: The transaction operations of `SQLiteDatabase`, `_SQLiteControlledTransaction` and
  `_SQLiteSavepoint` on one connection, in the order in which the source sends statements, calls the
  observer and updates the registry. What the environment decides (whether a statement succeeds,
  whether the observer interrupts) is drawn from a list of fates; a list that is used up lets
  everything succeed.
Imports: Relq.Sqlite.Registry
Trusted boundary: human-reviewed spec
Main exports: Failure, Run, Action, begin_, commit, rollback, savepoint, release, rollbackTo, leave,
  Operation, Operation.perform, Operation.run, runAll
-/
import Relq.Sqlite.Registry

namespace Relq.Sqlite

/-- The kinds of exceptions an operation can raise. -/
inductive Failure where
  /-- `TransactionUnavailableError` -/
  | unavailable
  /-- `ValueError`, raised before a statement is sent -/
  | value
  /-- a control statement failed -/
  | statement
  /-- the observer raised something that is not an `Exception` -/
  | interrupt
  /-- the block under a context manager raised -/
  | body
deriving DecidableEq, Repr

/-- The state of an operation: the connection, what the environment still decides, and the control
statements sent so far. -/
structure Run where
  world : World
  fates : List Bool
  sent : List Control

abbrev Action := ExceptT Failure (StateM Run)

/-! ### The environment -/

def draw : Action Bool := do
  let run ← get
  set { run with fates := run.fates.tail }
  return run.fates.headD true

def world : Action World := do
  return (← get).world

def update (change : World → World) : Action Unit :=
  modify fun run => { run with world := change run.world }

/-- `connection.execute` of a control statement: it takes effect, or raises without one. -/
def execute (control : Control) : Action Unit := do
  modify fun run => { run with sent := run.sent ++ [control] }
  if ← draw then
    match Engine.run control (← world).engine with
    | some engine => update fun world => { world with engine }
    | none => throw .statement
  else throw .statement

/-- `_observe`: an `Exception` of the observer is logged, anything else interrupts. -/
def observe : Action Unit := do
  if ← draw then return () else throw .interrupt

def runControl (control : Control) : Action Unit := do
  try execute control
  catch error => do
    observe
    throw error

def ensureUsable (entry : RegistryEntry) : Action Unit := do
  if (← world).usable entry then return () else throw .unavailable

/-! ### Names -/

def quoteSavepoint (name : String) : Action String :=
  if name = "" then throw .value
  else return "\"" ++ String.ofList (name.toList.flatMap fun c => if c = '"' then ['"', '"'] else [c])
    ++ "\""

/-- `next(_TRANSACTION_SEQUENCE)`. -/
def nextNumber : Action Nat := do
  let number := (← world).sequence
  update fun world => { world with sequence := number + 1 }
  return number

def reserveSavepointName (name : String) : Action Unit := do
  if foldName name ∈ (← world).registry.savepointNames then throw .value
  else update (World.reserve · name)

/-- The isolation levels a connection can have are spelled in ASCII. -/
def beginStatement : Option String → Action String
  | none => return "begin"
  | some "" => return "begin"
  | some isolationLevel =>
      if isolationLevel.toUpper ∈ ["DEFERRED", "IMMEDIATE", "EXCLUSIVE"] then
        return "begin " ++ isolationLevel.toUpper.toLower
      else throw .value

/-! ### Recovery -/

def cleanupInterruptedSavepoint (name : String) : Action Unit := do
  try
    execute (.rollbackTo name)
    execute (.release name)
  catch _ => pure ()

def cleanupInterruptedTransaction : Action Unit := do
  try execute .rollback
  catch _ => pure ()

/-- It never returns: it raises the recovery's own exception, or else the operation's. -/
def recoverAfterControlFailure (operationError : Failure) : Action Unit := do
  update World.invalidateAll
  runControl .rollback
  observe
  throw operationError

/-! ### Operations of the executor and of the transaction handles -/

def beginNested : Action Unit := do
  let number ← nextNumber
  let name ← quoteSavepoint ("__relq_controlled_" ++ toString number)
  reserveSavepointName name
  try runControl (.savepoint name)
  catch error => do
    update (World.releaseSavepointName · name)
    throw error
  try observe
  catch error => do
    update (World.releaseSavepointName · name)
    cleanupInterruptedSavepoint name
    throw error
  update (World.addTransaction · (some name))

def openTransaction (isolationLevel : Option String) : Action Unit := do
  let statement ← beginStatement isolationLevel
  try
    runControl (.begin statement)
    observe
  catch error => do
    cleanupInterruptedTransaction
    throw error

def beginTopLevel : Action Unit := do
  let before ← world
  if before.engine.isNone then openTransaction before.isolationLevel
  update (World.addTransaction · none)

/-- The executor itself is always usable. -/
def ensureCallable : Option Nat → Action Unit
  | none => return ()
  | some id => ensureUsable (.transaction id)

/-- `begin` of the executor, or of a transaction handle. -/
def begin_ (on : Option Nat) : Action Unit := do
  ensureCallable on
  if (← world).registry.stack ≠ [] then beginNested else beginTopLevel

def commitControl : Option String → Control
  | none => .commit
  | some name => .release name

def commit (id : Nat) : Action Unit := do
  ensureUsable (.transaction id)
  update (World.invalidateAfter · (.transaction id))
  let name := ((← world).transactions id).generatedSavepointName
  try runControl (commitControl name)
  catch error => recoverAfterControlFailure error
  update (World.close · id)
  observe

def rollback (id : Nat) : Action Unit := do
  ensureUsable (.transaction id)
  update (World.invalidateAfter · (.transaction id))
  match ((← world).transactions id).generatedSavepointName with
  | none =>
      try runControl .rollback
      catch error => recoverAfterControlFailure error
      update (World.close · id)
      observe
  | some name =>
      try runControl (.rollbackTo name)
      catch error => recoverAfterControlFailure error
      let observerError : Option Failure ←
        try do observe; pure none
        catch error => pure (some error)
      try runControl (.release name)
      catch error => recoverAfterControlFailure error
      update (World.close · id)
      let observerError : Option Failure ←
        try do observe; pure observerError
        catch error => pure (observerError.or (some error))
      if let some error := observerError then throw error

def savepoint (id : Nat) (name : String) : Action Unit := do
  ensureUsable (.transaction id)
  let quoted ← quoteSavepoint name
  reserveSavepointName quoted
  try runControl (.savepoint quoted)
  catch error => do
    update (World.releaseSavepointName · quoted)
    throw error
  let handle := (← world).created
  update (World.addSavepoint · id quoted)
  try observe
  catch error => do
    update (World.invalidateSavepoint · handle)
    try execute (.release quoted)
    catch _ => pure ()
    throw error

/-! ### Operations of the savepoint handles -/

/-- What both operations do when their statement failed. -/
def abandonSavepoint (id : Nat) (error : Failure) : Action Unit := do
  update (World.invalidateAfter · (.savepoint id))
  update (World.invalidateSavepoint · id)
  recoverAfterControlFailure error

def release (id : Nat) : Action Unit := do
  ensureUsable (.savepoint id)
  let name := ((← world).savepoints id).name
  try runControl (.release name)
  catch error => abandonSavepoint id error
  update (World.releaseSavepoint · id)
  observe

def rollbackTo (id : Nat) : Action Unit := do
  ensureUsable (.savepoint id)
  let name := ((← world).savepoints id).name
  try runControl (.rollbackTo name)
  catch error => abandonSavepoint id error
  update (World.invalidateAfter · (.savepoint id))
  observe

/-- Leaving `with database.transaction()`, whose block may have raised. -/
def leave (id : Nat) (failed : Bool) : Action Unit :=
  if failed then do
    try rollback id
    catch error => if error = .unavailable then pure () else throw error
    throw .body
  else commit id

/-! ### Runs -/

inductive Operation where
  | begin (on : Option Nat)
  | commit (id : Nat)
  | rollback (id : Nat)
  | savepoint (id : Nat) (name : String)
  | release (id : Nat)
  | rollbackTo (id : Nat)
  | leave (id : Nat) (failed : Bool)
  /-- a nested transaction of another connection takes a number of the sequence -/
  | elsewhere
deriving Repr

namespace Operation

def perform : Operation → Action Unit
  | begin on => begin_ on
  | commit id => Sqlite.commit id
  | rollback id => Sqlite.rollback id
  | savepoint id name => Sqlite.savepoint id name
  | release id => Sqlite.release id
  | rollbackTo id => Sqlite.rollbackTo id
  | leave id failed => Sqlite.leave id failed
  | elsewhere => do let _ ← nextNumber

/-- The handle an operation is called on. -/
def handle : Operation → Option RegistryEntry
  | begin on => on.map .transaction
  | commit id => some (.transaction id)
  | rollback id => some (.transaction id)
  | savepoint id _ => some (.transaction id)
  | release id => some (.savepoint id)
  | rollbackTo id => some (.savepoint id)
  | leave id _ => some (.transaction id)
  | elsewhere => none

/-- What an operation leaves behind, whether it returned or raised. -/
def run (operation : Operation) (fates : List Bool) (w : World) : Run :=
  (operation.perform.run.run { world := w, fates, sent := [] }).2

end Operation

/-- A sequence of operations, each with the environment's decisions during it. -/
def runAll : List (Operation × List Bool) → World → World
  | [], w => w
  | (operation, fates) :: later, w => runAll later (operation.run fates w).world

end Relq.Sqlite
