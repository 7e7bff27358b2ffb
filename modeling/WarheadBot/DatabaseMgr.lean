import Mathlib.Logic.Function.Basic
import WarheadBot.DatabaseWorkerPoolOpen
import WarheadBot.GuardedRuns

/-!
# The database manager

`AddDatabase` puts the operations of a database into four queues, and `Load` works them
off, one queue after the other.  Opening a database puts its pool on a stack; when an
operation fails, all pools on the stack are closed and the rest stays in the queues.  A pool
that cannot prepare its statements has closed itself before that.

A pool is named by a number.  The calls of `Open`, of the updater and of
`PrepareStatements` return and are answered in their order.
-/

namespace WarheadBot

namespace DatabaseManager

open PoolOpening (Attempt Build DatabaseWorkerPool)

inductive Phase
  | opening | populating | updating | preparing
  deriving DecidableEq, Repr

/-- What the operations of a database have captured. -/
structure Database where
  pool : Nat
  -- The option with the connection info is not empty.
  specified : Bool
  updatesEnabled : Bool
  deriving DecidableEq, Repr

inductive Event
  | ran (phase : Phase) (pool : Nat) (succeeded : Bool)
  -- `Close`, called by the manager
  | closed (pool : Nat)
  -- `Close`, called by `PrepareStatements` of the pool
  | closedItself (pool : Nat)
  deriving DecidableEq, Repr

/-- What `IsValidPrepareStatements` finds for a connection. -/
inductive Preparation
  | prepared | locked | failed
  deriving DecidableEq, Repr

structure Settings where
  build : Build
  updateFlags : UInt32
  autoSetup : Bool
  -- `Database.Reconnect.Attempts`
  attempts : UInt8

structure Answers where
  attempt : Nat → Attempt
  succeeds : Nat → Bool
  -- the answers of the connections of a pool, in their order
  prepares : Nat → Nat → Preparation

structure DatabaseMgr where
  queues : Phase → List Database
  closeStack : List Nat
  poolList : List Nat
  pools : Nat → DatabaseWorkerPool
  calls : Nat
  events : List Event

def start : DatabaseMgr where
  queues _ := []
  closeStack := []
  poolList := []
  pools _ := DatabaseWorkerPool.fresh
  calls := 0
  events := []

/-- `CR_CONNECTION_ERROR` -/
def connectionError : Nat := 2002

/-- `ER_BAD_DB_ERROR` -/
def badDbError : Nat := 1049

/-- `DBUpdater::IsEnabled` -/
def isEnabled (poolType updateMask : UInt32) : Bool := updateMask &&& poolType ≠ 0

/-- `Close` of a pool. -/
def closePool (pool : DatabaseWorkerPool) : DatabaseWorkerPool :=
  if pool.asyncConnections.isEmpty && pool.syncConnections.isEmpty then pool
  else { pool with asyncConnections := [], syncConnections := [] }

/-- `PrepareStatements` of a pool stops at the first connection that is not prepared. -/
def prepareStatements : List Preparation → Preparation
  | [] => .prepared
  | .prepared :: rest => prepareStatements rest
  | .locked :: _ => .locked
  | .failed :: _ => .failed

namespace DatabaseMgr

def enqueue (phase : Phase) (database : Database) (mgr : DatabaseMgr) : DatabaseMgr :=
  { mgr with queues := Function.update mgr.queues phase (mgr.queues phase ++ [database]) }

def addDatabase (settings : Settings) (pool : Nat) (poolType : UInt32) (specified : Bool)
    (mgr : DatabaseMgr) : DatabaseMgr :=
  let database : Database := ⟨pool, specified, isEnabled poolType settings.updateFlags⟩
  let opening := mgr.enqueue .opening database
  let updating :=
    if database.updatesEnabled then
      (opening.enqueue .populating database).enqueue .updating database
    else opening
  updating.enqueue .preparing database

variable (settings : Settings) (answers : Answers)

/-- One call of `Open` on a pool, with its error. -/
def callOpen (pool : Nat) (mgr : DatabaseMgr) : Nat × DatabaseMgr :=
  let result := (mgr.pools pool).openPool settings.build (answers.attempt mgr.calls)
  (result.1,
    { mgr with
      pools := Function.update mgr.pools pool result.2
      calls := mgr.calls + 1 })

/-- A call that only succeeds or fails. -/
def ask (mgr : DatabaseMgr) : Bool × DatabaseMgr :=
  (answers.succeeds mgr.calls, { mgr with calls := mgr.calls + 1 })

/-- The loop that tries to reconnect. -/
def reconnect (pool : Nat) : Nat → Nat → DatabaseMgr → Nat × DatabaseMgr
  | 0, error, mgr => (error, mgr)
  | left + 1, _, mgr =>
      let tried := callOpen settings answers pool mgr
      if tried.1 = connectionError then reconnect pool left tried.1 tried.2 else tried

def connect (pool : Nat) (mgr : DatabaseMgr) : Nat × DatabaseMgr :=
  let tried := callOpen settings answers pool mgr
  if tried.1 = connectionError then
    reconnect settings answers pool settings.attempts.toNat tried.1 tried.2
  else tried

/-- The database is created if it does not exist, and the pool is opened again. -/
def setUp (database : Database) (error : Nat) (mgr : DatabaseMgr) : Nat × DatabaseMgr :=
  if error = badDbError ∧ database.updatesEnabled = true ∧ settings.autoSetup = true then
    let created := ask answers mgr
    if created.1 then
      let tried := callOpen settings answers database.pool created.2
      (if tried.1 = 0 then 0 else error, tried.2)
    else (error, created.2)
  else (error, mgr)

def openDatabase (database : Database) (mgr : DatabaseMgr) : Bool × DatabaseMgr :=
  if database.specified then
    let connected := connect settings answers database.pool mgr
    let result := setUp settings answers database connected.1 connected.2
    if result.1 = 0 then
      (true, { result.2 with closeStack := database.pool :: result.2.closeStack })
    else (false, result.2)
  else (false, mgr)

/-- `DBUpdater::Populate` and `DBUpdater::Update`. -/
def updateDatabase (mgr : DatabaseMgr) : Bool × DatabaseMgr :=
  ask answers mgr

/-- A call of `Close` on a pool. -/
def callClose (event : Nat → Event) (mgr : DatabaseMgr) (pool : Nat) : DatabaseMgr :=
  { mgr with
    pools := Function.update mgr.pools pool (closePool (mgr.pools pool))
    events := mgr.events ++ [event pool] }

/-- What the connections of a pool answer to `PrepareStatements`. -/
def preparations (pool : Nat) (mgr : DatabaseMgr) : List Preparation :=
  let connections := (mgr.pools pool).asyncConnections ++ (mgr.pools pool).syncConnections
  (List.range connections.length).map (answers.prepares mgr.calls)

def prepareDatabase (database : Database) (mgr : DatabaseMgr) : Bool × DatabaseMgr :=
  let asked := { mgr with calls := mgr.calls + 1 }
  match prepareStatements (preparations answers database.pool mgr) with
  | .prepared => (true, { asked with poolList := asked.poolList ++ [database.pool] })
  | .locked => (false, asked)
  | .failed => (false, asked.callClose .closedItself database.pool)

/-- The operation at the front of a queue. -/
def predicate (phase : Phase) (database : Database) (mgr : DatabaseMgr) : Bool × DatabaseMgr :=
  let result :=
    match phase with
    | .opening => openDatabase settings answers database mgr
    | .populating => updateDatabase answers mgr
    | .updating => updateDatabase answers mgr
    | .preparing => prepareDatabase answers database mgr
  (result.1,
    { result.2 with events := result.2.events ++ [.ran phase database.pool result.1] })

def closeAllConnections (mgr : DatabaseMgr) : DatabaseMgr :=
  { mgr.closeStack.foldl (callClose .closed) mgr with closeStack := [] }

/-- `Process`; the loop takes one operation after the other. -/
def process (phase : Phase) : List Database → DatabaseMgr → Bool × DatabaseMgr
  | [], mgr => (true, { mgr with queues := Function.update mgr.queues phase [] })
  | database :: rest, mgr =>
      let result := predicate settings answers phase database mgr
      if result.1 then process phase rest result.2
      else
        let closed := result.2.closeAllConnections
        (false, { closed with queues := Function.update closed.queues phase (database :: rest) })

def loadPhases : List Phase → DatabaseMgr → Bool × DatabaseMgr
  | [], mgr => (true, mgr)
  | phase :: phases, mgr =>
      let result := process settings answers phase (mgr.queues phase) mgr
      if result.1 then loadPhases phases result.2 else (false, result.2)

def load (mgr : DatabaseMgr) : Bool × DatabaseMgr :=
  loadPhases settings answers [.opening, .populating, .updating, .preparing] mgr

/-- The manager has closed a pool. -/
def hasClosed (mgr : DatabaseMgr) : Bool :=
  mgr.events.any fun
    | .closed _ => true
    | _ => false

end DatabaseMgr

open DatabaseMgr

/-- What the program calls.  It does not load again after pools have been closed, since
operations that are left in the queues would work on them. -/
inductive Label
  | addDatabase (pool : Nat) (poolType : UInt32) (specified : Bool)
  | load
  | closeAllConnections
  deriving DecidableEq, Repr

def step (settings : Settings) (answers : Answers) (mgr : DatabaseMgr) :
    Label → Option DatabaseMgr
  | .addDatabase pool poolType specified =>
      some (mgr.addDatabase settings pool poolType specified)
  | .load => if mgr.hasClosed then none else some (mgr.load settings answers).2
  | .closeAllConnections => some mgr.closeAllConnections

end DatabaseManager

end WarheadBot
