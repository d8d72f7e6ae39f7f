/-
Module: Relq.Sqlite.Registry
Layer: Sqlite
Purpose: The transaction registry of one connection (`_SQLiteTransactionState` and the bookkeeping
  half of `_SQLiteControlledTransaction` and `_SQLiteSavepoint`). Handle objects are numbered in the
  order of their creation. The module-level dictionary drops a registry once its entries are empty
  and the next transaction starts with a fresh one, so one registry value stands for all of them.
Imports: Relq.Sqlite.Engine
Trusted boundary: human-reviewed spec
Main exports: TransactionObject, SavepointObject, RegistryEntry, Registry, World, World.close,
  World.invalidate, World.invalidateAfter, World.invalidateAll
-/
import Relq.Sqlite.Engine

namespace Relq.Sqlite

/-- The fields of a `_SQLiteControlledTransaction`. A number that no handle has behaves as a closed
one. -/
structure TransactionObject where
  savepointNames : List String := []
  savepoints : List Nat := []
  generatedSavepointName : Option String := none
  closed : Bool := true
deriving Repr

/-- The fields of a `_SQLiteSavepoint`. -/
structure SavepointObject where
  transaction : Nat := 0
  name : String := ""
  released : Bool := true
  invalidated : Bool := false
deriving Repr

/-- A handle in `_SQLiteTransactionState.entries`. -/
inductive RegistryEntry where
  | transaction (id : Nat)
  | savepoint (id : Nat)
deriving DecidableEq, Repr

structure Registry where
  stack : List Nat := []
  entries : List RegistryEntry := []
  savepointNames : List String := []
deriving DecidableEq, Repr

/-- A connection with everything that refers to it: the engine, the registry, the handle objects,
and the process-wide sequence of generated names. -/
structure World where
  engine : Engine := none
  registry : Registry := {}
  transactions : Nat → TransactionObject := fun _ => {}
  savepoints : Nat → SavepointObject := fun _ => {}
  created : Nat := 0
  sequence : Nat := 1
  isolationLevel : Option String := none

namespace World

def setTransaction (w : World) (id : Nat) (object : TransactionObject) : World :=
  { w with transactions := fun other => if other = id then object else w.transactions other }

def setSavepoint (w : World) (id : Nat) (object : SavepointObject) : World :=
  { w with savepoints := fun other => if other = id then object else w.savepoints other }

def setRegistry (w : World) (registry : Registry) : World :=
  { w with registry }

/-! ### `_SQLiteTransactionState` -/

def removeEntry (w : World) (entry : RegistryEntry) : World :=
  w.setRegistry { w.registry with entries := w.registry.entries.erase entry }

/-- `reserve_savepoint_name` of a name that is not active. -/
def reserve (w : World) (name : String) : World :=
  w.setRegistry { w.registry with savepointNames := foldName name :: w.registry.savepointNames }

def releaseSavepointName (w : World) (name : String) : World :=
  w.setRegistry { w.registry with
    savepointNames := w.registry.savepointNames.filter (· ≠ foldName name) }

/-- `_discard_transaction_state`: an empty registry is dropped for a fresh one. -/
def discard (w : World) : World :=
  if w.registry.entries = [] then w.setRegistry {} else w

/-! ### Bookkeeping of the handles -/

/-- `_forget_savepoint` of the savepoint's transaction. -/
def forgetSavepoint (w : World) (id : Nat) : World :=
  let savepoint := w.savepoints id
  let transaction := w.transactions savepoint.transaction
  ((w.setTransaction savepoint.transaction
      { transaction with
        savepoints := transaction.savepoints.erase id
        savepointNames := transaction.savepointNames.filter (· ≠ savepoint.name) }).removeEntry
    (.savepoint id)).releaseSavepointName savepoint.name

/-- `_SQLiteSavepoint._invalidate`. -/
def invalidateSavepoint (w : World) (id : Nat) : World :=
  if (w.savepoints id).released || (w.savepoints id).invalidated then w
  else
    let forgotten := w.forgetSavepoint id
    forgotten.setSavepoint id { forgotten.savepoints id with invalidated := true }

/-- `_clear_savepoint_names`. -/
def clearSavepointNames (w : World) (id : Nat) : World :=
  let invalidated := (w.transactions id).savepoints.foldl invalidateSavepoint w
  let transaction := invalidated.transactions id
  (transaction.savepointNames.foldl releaseSavepointName invalidated).setTransaction id
    { transaction with savepoints := [], savepointNames := [] }

/-- `_SQLiteControlledTransaction._close`. -/
def close (w : World) (id : Nat) : World :=
  let cleared := w.clearSavepointNames id
  let closed := cleared.setTransaction id { cleared.transactions id with closed := true }
  let removed := closed.removeEntry (.transaction id)
  (removed.setRegistry { removed.registry with stack := removed.registry.stack.erase id }).discard

/-- `entry._invalidate()`. -/
def invalidate (w : World) : RegistryEntry → World
  | .transaction id => w.close id
  | .savepoint id => w.invalidateSavepoint id

/-- `invalidate_after`: every entry registered later than `entry`. -/
def invalidateAfter (w : World) (entry : RegistryEntry) : World :=
  match w.registry.entries.idxOf? entry with
  | none => w
  | some index => (w.registry.entries.drop (index + 1)).foldl invalidate w

/-- `invalidate_all`. -/
def invalidateAll (w : World) : World :=
  (w.registry.entries.foldl invalidate w).setRegistry {}

/-- `_release_savepoint`. -/
def releaseSavepoint (w : World) (id : Nat) : World :=
  let forgotten := (w.invalidateAfter (.savepoint id)).forgetSavepoint id
  forgotten.setSavepoint id { forgotten.savepoints id with released := true }

/-- `_SQLiteControlledTransaction.__init__` with the registration of the new handle. -/
def addTransaction (w : World) (generatedSavepointName : Option String) : World :=
  let added := w.setTransaction w.created
    { savepointNames := generatedSavepointName.toList
      generatedSavepointName
      closed := false }
  { added with
    created := w.created + 1
    registry := { w.registry with
      stack := w.registry.stack ++ [w.created]
      entries := w.registry.entries ++ [.transaction w.created] } }

/-- The registration of a new savepoint handle in `savepoint`. -/
def addSavepoint (w : World) (transaction : Nat) (name : String) : World :=
  let object := w.transactions transaction
  let added := (w.setTransaction transaction
    { object with
      savepointNames := name :: object.savepointNames
      savepoints := object.savepoints ++ [w.created] }).setSavepoint w.created
    { transaction, name, released := false }
  { added with
    created := w.created + 1
    registry := { w.registry with
      entries := w.registry.entries ++ [.savepoint w.created] } }

/-! ### What a client can ask of a handle -/

/-- `_ensure_usable` of a handle returns. -/
def usable (w : World) : RegistryEntry → Bool
  | .transaction id => !(w.transactions id).closed
  | .savepoint id =>
      !(w.transactions (w.savepoints id).transaction).closed &&
        !(w.savepoints id).released && !(w.savepoints id).invalidated

/-- The savepoint name behind a handle; the outermost transaction has none. -/
def nameOf (w : World) : RegistryEntry → Option String
  | .transaction id => (w.transactions id).generatedSavepointName
  | .savepoint id => some (w.savepoints id).name

end World

end Relq.Sqlite
