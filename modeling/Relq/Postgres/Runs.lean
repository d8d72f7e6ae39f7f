/-
Module: Relq.Postgres.Runs
Layer: Postgres
Purpose: Whole runs. A system is one plain connection, which its caller may use too, and the
  connections that `begin` has acquired from a pool; they share the process-wide counter of savepoint
  names. A pool rolls back what a returned connection left open, so it hands out idle sessions.
Imports: Relq.Postgres.Executor
Trusted boundary: human-reviewed spec
Main exports: Operation, Event, System, Event.run, runAll
-/
import Relq.Postgres.Executor

namespace Relq.Postgres

open Relq.Sqlite (Failure)

/-- What can be done with a handle. -/
inductive Operation where
  | begin (id : Nat)
  | commit (id : Nat)
  | rollback (id : Nat)
  | savepoint (id : Nat) (name : String)
  | release (id : Nat)
  | rollbackTo (id : Nat)
  | leave (id : Nat) (failed : Bool)
deriving Repr

def Operation.perform : Operation → Action Unit
  | begin id => beginNested id
  | commit id => Postgres.commit id
  | rollback id => Postgres.rollback id
  | savepoint id name => Postgres.savepoint id name
  | release id => Postgres.release id
  | rollbackTo id => Postgres.rollbackTo id
  | leave id failed => Postgres.leave id failed

inductive Event where
  /-- `begin` of the executor of the plain connection -/
  | begin
  /-- `begin` of the executor of the pool -/
  | acquire
  /-- an operation on a handle of the plain connection -/
  | call (operation : Operation)
  /-- an operation on a handle of an acquired connection -/
  | callAcquired (index : Nat) (operation : Operation)
  /-- the caller opens or ends a transaction of its own while relq has none open -/
  | caller (session : Session)
deriving Repr

structure System where
  direct : Connection := {}
  acquired : List Connection := []
  sequence : Nat := 1
  /-- The plain connection was in a transaction already when its outermost handle was begun. -/
  callerOwns : Bool := false

/-- What an operation leaves behind, whether it returned or raised. -/
def perform (action : Action Unit) (fates : List Bool) (sequence : Nat) (c : Connection) : Run :=
  (action.run.run
    { connection := { c with book := { c.book with sequence } }, fates, sent := [] }).2

namespace Event

/-- The next state, and the control statements sent on the way. -/
def run (event : Event) (fates : List Bool) (s : System) : System × List Control :=
  match event with
  | begin =>
      let run := perform (beginControlled false) fates s.sequence s.direct
      ({ s with
          direct := run.connection
          sequence := run.connection.book.sequence
          callerOwns := if s.direct.book.registry.entries = [] then s.direct.session.inTransaction
            else s.callerOwns }, run.sent)
  | acquire =>
      let run := perform (beginControlled true) fates s.sequence {}
      ({ s with
          acquired := s.acquired ++ [run.connection]
          sequence := run.connection.book.sequence }, run.sent)
  | call operation =>
      let run := perform operation.perform fates s.sequence s.direct
      ({ s with direct := run.connection, sequence := run.connection.book.sequence }, run.sent)
  | callAcquired index operation =>
      match s.acquired[index]? with
      | none => (s, [])
      | some c =>
          let run := perform operation.perform fates s.sequence c
          ({ s with
              acquired := s.acquired.set index run.connection
              sequence := run.connection.book.sequence }, run.sent)
  | caller session =>
      if s.direct.book.registry.entries = [] then
        ({ s with direct := { s.direct with session } }, [])
      else (s, [])

/-- Whether an event sends its statements on the plain connection. -/
def onDirect : Event → Bool
  | begin | call _ | caller _ => true
  | acquire | callAcquired _ _ => false

end Event

/-- A sequence of events, each with the environment's decisions during it. -/
def runAll : List (Event × List Bool) → System → System
  | [], s => s
  | (event, fates) :: later, s => runAll later (event.run fates s).1

/-- A plain connection in any session, on which no handle has been made, and an unused pool. -/
def System.opened (session : Session) (sequence : Nat) : System :=
  { direct := { session }, sequence }

end Relq.Postgres
