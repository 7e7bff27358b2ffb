import WarheadBot.GuardedRuns
import WarheadBot.MySQLConnection
import WarheadBot.Parties

/-!
# Asynchronous connections and their workers

Every asynchronous connection of a pool owns a worker thread, which the
constructor starts and the destructor cancels and joins.  All workers take
operations from one queue.  The pool opens one connection at startup, adds
dynamic ones when the queue is overloaded, and destroys dynamic ones that were
not used for a second.  The last two tasks run in threads of their own and
exclude each other by a mutex.

The connections are the parties of the system and are named by the order in
which they are constructed; a move is a step of the thread that opens or
destroys the connection, or of its worker.  What an operation does to the
database is left to the environment, which says whether it has refreshed the
last use time of the connection and whether a failed reconnect has left the
connection without a handle.
-/

namespace WarheadBot

namespace AsyncQueue

open MySQL (ConnectionFlags)

structure StringPreparedStatement where
  index : Nat
  query : String
  connectionType : ConnectionFlags
  deriving DecidableEq, Repr

def StringPreparedStatement.isAsync (statement : StringPreparedStatement) : Bool :=
  ConnectionFlags.async.overlaps statement.connectionType

/-- What `DoPrepareStatements` registers: a size for the lists of the
connections, and statements with distinct indices below it. -/
structure Registry where
  statementSize : Nat
  statements : List StringPreparedStatement
  distinct : (statements.map StringPreparedStatement.index).Nodup
  bounded : ∀ statement ∈ statements, statement.index < statementSize

/-- How far the opening of a connection, or its destruction, has come. -/
inductive Stage
  -- The constructor has returned, and the worker runs.
  | constructed
  -- `Open` has returned 0.
  | opened
  -- The connection is in the pool.
  | added
  -- The statements still to be prepared.
  | preparing (todo : List StringPreparedStatement)
  | ready
  -- `CleanupConnections` has found that the connection can be removed.
  | condemned
  -- The destructor has set the cancel flag and waits for the worker.
  | closing
  | closed
  deriving DecidableEq, Repr

/-- The place of a worker in the loop of `ExecuteAsyncQueue`. -/
inductive Worker (Operation : Type)
  | waiting
  -- `WaitAndPop` has returned, and the flag is to be tested.
  | popped (operation : Option Operation)
  -- The test is passed, and `ExecuteQuery` is to be called.
  | calling (operation : Operation)
  | running (operation : Operation)
  | stopped
  deriving DecidableEq, Repr

structure Connection (Operation : Type) where
  isDynamic : Bool
  stage : Stage
  -- Whether `_mysqlHandle` is set.
  mysqlHandle : Bool
  stmtList : List (Option String)
  prepareError : Bool
  lastUseTime : Int
  cancel : Bool
  worker : Worker Operation
  deriving DecidableEq, Repr

/-- What the connections share, with the operations enqueued and executed so
far. -/
structure Shared (Operation : Type) where
  queue : List Operation
  registry : Option Registry
  clock : Int
  enqueued : List Operation
  executed : List Operation

inductive Move
  | openHandle (connected : Bool)
  | addToPool (supported : Bool)
  | initPrepareStatement
  | prepareStatement (succeeded : Bool)
  | finishOpening
  | testRemovable
  | destroy
  | close
  | waitAndPop
  | testCancel
  | executeQuery
  | finishQuery (used lost : Bool)
  deriving DecidableEq, Repr

variable {Operation : Type}

def maxAsyncConnections : Nat := 32

def Connection.canRemoveConnection (connection : Connection Operation) (clock : Int) : Bool :=
  MySQL.canRemoveConnection connection.isDynamic clock connection.lastUseTime

def Connection.construct (isDynamic : Bool) (clock : Int) : Connection Operation where
  isDynamic := isDynamic
  stage := .constructed
  mysqlHandle := false
  stmtList := []
  prepareError := false
  lastUseTime := clock
  cancel := false
  worker := .waiting

/-- The destructor up to the join of the worker. -/
def Connection.destroy (connection : Connection Operation) : Connection Operation :=
  { connection with stage := .closing, cancel := true }

/-- `std::vector::resize` on the list of statements. -/
def resize (size : Nat) (list : List (Option String)) : List (Option String) :=
  list.take size ++ List.replicate (size - list.length) none

def Connection.prepareStatement (statement : StringPreparedStatement) (succeeded : Bool)
    (connection : Connection Operation) : Connection Operation :=
  if !statement.isAsync then
    { connection with stmtList := connection.stmtList.set statement.index none }
  else if succeeded then
    { connection with stmtList := connection.stmtList.set statement.index statement.query }
  else
    { connection with prepareError := true }

/-- The moves of the thread that opens or destroys the connection. -/
def Connection.openingMove (shared : Shared Operation) (connection : Connection Operation) :
    Move → Option (Connection Operation)
  | .openHandle connected =>
      if connection.stage ≠ .constructed then
        none
      else if connected then
        some { connection with stage := .opened, mysqlHandle := true }
      else
        some connection.destroy
  | .addToPool supported =>
      if connection.stage ≠ .opened then
        none
      else if supported then
        some { connection with stage := .added }
      else
        some connection.destroy
  | .initPrepareStatement =>
      match shared.registry with
      | none => none
      | some registry =>
          if connection.stage = .added then
            some { connection with
              stage := .preparing registry.statements
              stmtList := resize registry.statementSize connection.stmtList }
          else
            none
  | .prepareStatement succeeded =>
      match connection.stage with
      | .preparing (statement :: todo) =>
          some { connection.prepareStatement statement succeeded with stage := .preparing todo }
      | _ => none
  | .finishOpening =>
      -- With a prepare error the process aborts, or the pool is closed.
      if connection.stage = .preparing [] ∧ connection.prepareError = false then
        some { connection with stage := .ready }
      else
        none
  | .testRemovable =>
      if connection.stage ≠ .ready then
        none
      else if connection.canRemoveConnection shared.clock then
        some { connection with stage := .condemned }
      else
        some connection
  | .destroy =>
      if connection.stage = .condemned then some connection.destroy else none
  | .close =>
      match connection.stage, connection.worker with
      | .closing, .stopped => some { connection with stage := .closed, mysqlHandle := false }
      | _, _ => none
  | _ => none

/-- The moves of the worker. -/
def Connection.workerMove (shared : Shared Operation) (connection : Connection Operation) :
    Move → Option (Shared Operation × Connection Operation)
  | .waitAndPop =>
      match connection.worker with
      | .waiting =>
          if connection.cancel then
            some (shared, { connection with worker := .popped none })
          else
            match shared.queue with
            | [] => none
            | operation :: queue =>
                some ({ shared with queue := queue },
                  { connection with worker := .popped (some operation) })
      | _ => none
  | .testCancel =>
      match connection.worker with
      | .popped operation =>
          -- The loop is left with whatever operation was taken.
          if connection.cancel then
            some (shared, { connection with worker := .stopped })
          else
            match operation with
            | none => some (shared, { connection with worker := .waiting })
            | some operation => some (shared, { connection with worker := .calling operation })
      | _ => none
  | .executeQuery =>
      match connection.worker with
      | .calling operation => some (shared, { connection with worker := .running operation })
      | _ => none
  | .finishQuery used lost =>
      match connection.worker with
      | .running operation =>
          some ({ shared with executed := shared.executed ++ [operation] },
            { connection with
              worker := .waiting
              lastUseTime := if used then shared.clock else connection.lastUseTime
              mysqlHandle := connection.mysqlHandle && !lost })
      | _ => none
  | _ => none

def Move.ofWorker : Move → Bool
  | .waitAndPop => true
  | .testCancel => true
  | .executeQuery => true
  | .finishQuery _ _ => true
  | _ => false

def Connection.move (label : Move) (shared : Shared Operation)
    (connection : Connection Operation) : Option (Shared Operation × Connection Operation) :=
  if label.ofWorker then
    connection.workerMove shared label
  else
    (connection.openingMove shared label).map fun changed => (shared, changed)

/-- The owner of `_cleanupMutex` and what it has still to do. -/
inductive CleanupMutex
  | free
  -- `CheckAsyncQueue` has this many connections still to open.
  | opening (todo : Nat)
  -- `CleanupConnections` has these connections still to test.
  | cleaning (todo : List Nat)
  deriving DecidableEq, Repr

structure State (Operation : Type) where
  shared : Shared Operation
  connections : List (Connection Operation)
  cleanupMutex : CleanupMutex
  -- The size that `CheckAsyncQueue` has read before it locks the mutex.
  queueSize : Option Nat

inductive Label (Operation : Type)
  | enqueue (operation : Operation)
  | setClock (time : Int)
  | doPrepareStatements (registry : Registry)
  | checkAsyncQueue
  | lockCleanupMutex
  | construct (isDynamic : Bool)
  | endCheck
  | cleanupConnections
  | endCleanup
  | connection (index : Nat) (move : Move)

def Connection.inPool (connection : Connection Operation) : Bool :=
  match connection.stage with
  | .added => true
  | .preparing _ => true
  | .ready => true
  | .condemned => true
  | _ => false

/-- The dynamic connection is being opened or removed by the owner of the
mutex. -/
def Connection.inTransit (connection : Connection Operation) : Bool :=
  match connection.stage with
  | .ready => false
  | .closed => false
  | _ => connection.isDynamic

def State.inTransit (state : State Operation) : Bool :=
  state.connections.any Connection.inTransit

/-- The owner of the mutex waits in the destructor of a dynamic connection. -/
def State.destroying (state : State Operation) : Bool :=
  state.connections.any fun connection => connection.isDynamic && connection.stage == .closing

/-- The indices of the connections in the pool. -/
def State.pool (state : State Operation) : List Nat :=
  (List.range state.connections.length).filter fun index =>
    state.connections[index]?.any Connection.inPool

/-- Who owns the mutex after a move, if the owner can let it happen now: a test
comes in the order of the pool, and a test or a destruction not before the
destructor that is running has ended. -/
def State.ownerAfter (state : State Operation) (index : Nat) : Move → Option CleanupMutex
  | .testRemovable =>
      match state.cleanupMutex with
      | .cleaning (next :: todo) =>
          if next = index ∧ state.destroying = false then some (.cleaning todo) else none
      | _ => none
  | .destroy => if state.destroying then none else some state.cleanupMutex
  | _ => some state.cleanupMutex

def start : State Operation where
  shared := { queue := [], registry := none, clock := 0, enqueued := [], executed := [] }
  connections := []
  cleanupMutex := .free
  queueSize := none

variable [DecidableEq Operation]

/-- One step of some thread.  The default connection is opened before the
statements are registered, and the scheduled tasks run only after that. -/
def step (maxAsyncQueueSize : Nat) (state : State Operation) :
    Label Operation → Option (State Operation)
  | .enqueue operation =>
      if operation ∈ state.shared.enqueued then
        none
      else
        some { state with shared := { state.shared with
          queue := state.shared.queue ++ [operation]
          enqueued := state.shared.enqueued ++ [operation] } }
  | .setClock time => some { state with shared := { state.shared with clock := time } }
  | .doPrepareStatements registry =>
      if state.shared.registry.isSome then
        none
      else
        some { state with shared := { state.shared with registry := some registry } }
  | .checkAsyncQueue =>
      match state.queueSize, state.cleanupMutex with
      | some _, _ => none
      -- The thread that checks the queue is still opening connections.
      | none, .opening _ => none
      | none, _ =>
          if state.shared.registry.isNone then
            none
          else
            some { state with queueSize := some state.shared.queue.length }
  | .lockCleanupMutex =>
      match state.queueSize with
      | none => none
      | some size =>
          if size < maxAsyncQueueSize then
            some { state with queueSize := none }
          else if state.cleanupMutex = .free then
            some { state with
              cleanupMutex := .opening ((size + maxAsyncQueueSize - 1) / maxAsyncQueueSize)
              queueSize := none }
          else
            none
  | .construct false =>
      if state.shared.registry.isSome then
        none
      else
        some { state with
          connections := state.connections ++ [Connection.construct false state.shared.clock] }
  | .construct true =>
      match state.cleanupMutex with
      | .opening (todo + 1) =>
          if state.inTransit then
            none
          else if maxAsyncConnections ≤ state.pool.length then
            some { state with cleanupMutex := .opening todo }
          else
            some { state with
              connections := state.connections ++ [Connection.construct true state.shared.clock]
              cleanupMutex := .opening todo }
      | _ => none
  | .endCheck =>
      if state.cleanupMutex = .opening 0 ∧ state.inTransit = false then
        some { state with cleanupMutex := .free }
      else
        none
  | .cleanupConnections =>
      if state.shared.registry.isSome ∧ state.cleanupMutex = .free then
        some { state with cleanupMutex := .cleaning state.pool }
      else
        none
  | .endCleanup =>
      if state.cleanupMutex = .cleaning [] ∧ state.inTransit = false then
        some { state with cleanupMutex := .free }
      else
        none
  | .connection index move =>
      (state.ownerAfter index move).bind fun owner =>
        (Parties.moveAt (Connection.move move) state.shared state.connections index).map
          fun result =>
            { state with shared := result.1, connections := result.2, cleanupMutex := owner }

section Examples

def exampleRegistry : Registry where
  statementSize := 1
  statements := [⟨0, "SELECT 1", .async⟩]
  distinct := by decide
  bounded := by decide

def openingSteps (index : Nat) : List (Label Nat) :=
  [.connection index (.openHandle true), .connection index (.addToPool true)]

def preparingSteps (index : Nat) : List (Label Nat) :=
  [.connection index .initPrepareStatement, .connection index (.prepareStatement true),
    .connection index .finishOpening]

def workerRound (index : Nat) : List (Label Nat) :=
  [.connection index .waitAndPop, .connection index .testCancel, .connection index .executeQuery,
    .connection index (.finishQuery true false)]

/-- The pool is opened, its queue is filled, and a dynamic connection is
constructed. -/
def overloadedPool : List (Label Nat) :=
  [.construct false] ++ openingSteps 0 ++ [.doPrepareStatements exampleRegistry] ++
    preparingSteps 0 ++ (List.range 10).map Label.enqueue ++
    [.checkAsyncQueue, .lockCleanupMutex, .construct true]

/-- The dynamic connection is opened, and the other worker empties the
queue; then a second passes. -/
def idleDynamicConnection : List (Label Nat) :=
  overloadedPool ++ openingSteps 1 ++ preparingSteps 1 ++ [.endCheck] ++
    (List.range 10).flatMap (fun _ => workerRound 0) ++ [.setClock 1000]

/-- `CleanupConnections` tests both connections and destroys the dynamic
one. -/
def cleanupSteps : List (Label Nat) :=
  [.cleanupConnections, .connection 0 .testRemovable, .connection 1 .testRemovable,
    .connection 1 .destroy]

end Examples

end AsyncQueue

end WarheadBot
