import WarheadBot.GuardedRuns
import WarheadBot.MySQLConnection

/-!
# Synchronous connections of a pool

A thread that needs a synchronous connection scans the pool for one whose mutex
is free, opens a dynamic one if there is none, and then spins until some mutex
is free.  It holds the cleanup mutex meanwhile, and so does the scheduled
cleanup, which removes dynamic connections by the time of their last use.  The
thread that has got a connection runs a query on it and unlocks it without any
further lock.

Connections are named by the order in which they are opened; the pool is the
vector of those that belong to it.
-/

namespace WarheadBot

namespace SyncPool

structure Connection where
  isDynamic : Bool
  -- Whether `_mutex` is locked.
  locked : Bool
  lastUseTime : Int
  deriving DecidableEq, Repr

/-- The owner of `_cleanupMutex` and how far it has come. -/
inductive CleanupMutex
  | free
  -- `GetFreeConnection` has these connections still to try.
  | scanning (todo : List Nat)
  -- `GetFreeConnection` spins; the counter has eight bits.
  | spinning (i : UInt8)
  -- `CleanupConnections` has these connections still to test.
  | cleaning (todo : List Nat)
  deriving DecidableEq, Repr

structure State where
  connections : List Connection
  pool : List Nat
  cleanupMutex : CleanupMutex
  clock : Int
  deriving DecidableEq, Repr

inductive Label
  | setClock (time : Int)
  -- `GetFreeConnection` is called.
  | getFreeConnection
  | scan
  | openDynamicSyncConnect (connected : Bool)
  | spin
  -- The query on a locked connection ends; a successful one updates the time
  -- of the last use.
  | endQuery (index : Nat) (succeeded : Bool)
  | unlock (index : Nat)
  -- `CleanupConnections` is called.
  | cleanupConnections
  | testConnection
  | endCleanup
  deriving DecidableEq, Repr

def maxSyncConnections : Nat := 32

def Connection.canRemoveConnection (connection : Connection) (clock : Int) : Bool :=
  MySQL.canRemoveConnection connection.isDynamic clock connection.lastUseTime

def Connection.lock (connection : Connection) : Connection :=
  { connection with locked := true }

/-- `LockIfReady` on a connection; the new owner of the cleanup mutex if it
fails. -/
def State.lockIfReady (state : State) (index : Nat) (otherwise : CleanupMutex) :
    Option State :=
  (state.connections[index]?).map fun connection =>
    if connection.locked then
      { state with cleanupMutex := otherwise }
    else
      { state with
        connections := state.connections.modify index Connection.lock
        cleanupMutex := .free }

def State.updateHeld (state : State) (index : Nat) (change : Connection → Connection) :
    Option State :=
  (state.connections[index]?).bind fun connection =>
    if connection.locked then
      some { state with connections := state.connections.modify index change }
    else
      none

def step (state : State) : Label → Option State
  | .setClock time => some { state with clock := time }
  | .getFreeConnection =>
      match state.cleanupMutex with
      | .free => some { state with cleanupMutex := .scanning state.pool }
      | _ => none
  | .scan =>
      match state.cleanupMutex with
      | .scanning (index :: todo) => state.lockIfReady index (.scanning todo)
      | _ => none
  | .openDynamicSyncConnect connected =>
      match state.cleanupMutex with
      | .scanning [] =>
          if maxSyncConnections ≤ state.pool.length ∨ connected = false then
            some { state with cleanupMutex := .spinning 0 }
          else
            some { state with
              connections := state.connections ++ [⟨true, false, state.clock⟩]
              pool := state.pool ++ [state.connections.length]
              cleanupMutex := .spinning 0 }
      | _ => none
  | .spin =>
      match state.cleanupMutex with
      | .spinning i =>
          (state.pool[(i + 1).toNat % state.pool.length]?).bind fun index =>
            state.lockIfReady index (.spinning (i + 1))
      | _ => none
  | .endQuery index succeeded =>
      state.updateHeld index fun used =>
        { used with lastUseTime := if succeeded then state.clock else used.lastUseTime }
  | .unlock index =>
      state.updateHeld index fun used => { used with locked := false }
  | .cleanupConnections =>
      match state.cleanupMutex with
      | .free => some { state with cleanupMutex := .cleaning state.pool }
      | _ => none
  | .testConnection =>
      match state.cleanupMutex with
      | .cleaning (index :: todo) =>
          (state.connections[index]?).map fun connection =>
            { state with
              pool := if connection.canRemoveConnection state.clock then
                  state.pool.erase index
                else
                  state.pool
              cleanupMutex := .cleaning todo }
      | _ => none
  | .endCleanup =>
      match state.cleanupMutex with
      | .cleaning [] => some { state with cleanupMutex := .free }
      | _ => none

def start : State where
  connections := [⟨false, false, 0⟩]
  pool := [0]
  cleanupMutex := .free
  clock := 0

/-- The transitions of the pool, with what each of them has tested. -/
inductive PoolStep (state : State) : Label → State → Prop
  | clockSet (time : Int) : PoolStep state (.setClock time) { state with clock := time }
  | scanStarted (free : state.cleanupMutex = .free) :
      PoolStep state .getFreeConnection { state with cleanupMutex := .scanning state.pool }
  | scanned {index : Nat} {todo : List Nat} {next : State}
      (owner : state.cleanupMutex = .scanning (index :: todo))
      (tried : state.lockIfReady index (.scanning todo) = some next) :
      PoolStep state .scan next
  | notOpened (connected : Bool) (owner : state.cleanupMutex = .scanning [])
      (refused : maxSyncConnections ≤ state.pool.length ∨ connected = false) :
      PoolStep state (.openDynamicSyncConnect connected)
        { state with cleanupMutex := .spinning 0 }
  | opened (owner : state.cleanupMutex = .scanning [])
      (room : state.pool.length < maxSyncConnections) :
      PoolStep state (.openDynamicSyncConnect true)
        { state with
          connections := state.connections ++ [⟨true, false, state.clock⟩]
          pool := state.pool ++ [state.connections.length]
          cleanupMutex := .spinning 0 }
  | spun {i : UInt8} {index : Nat} {next : State} (owner : state.cleanupMutex = .spinning i)
      (found : state.pool[(i + 1).toNat % state.pool.length]? = some index)
      (tried : state.lockIfReady index (.spinning (i + 1)) = some next) :
      PoolStep state .spin next
  | queryEnded {index : Nat} {succeeded : Bool} {next : State}
      (updated : (state.updateHeld index fun used =>
        { used with lastUseTime := if succeeded then state.clock else used.lastUseTime }) =
          some next) :
      PoolStep state (.endQuery index succeeded) next
  | unlocked {index : Nat} {next : State}
      (updated : (state.updateHeld index fun used => { used with locked := false }) = some next) :
      PoolStep state (.unlock index) next
  | cleanupStarted (free : state.cleanupMutex = .free) :
      PoolStep state .cleanupConnections { state with cleanupMutex := .cleaning state.pool }
  | tested {index : Nat} {todo : List Nat} {connection : Connection}
      (owner : state.cleanupMutex = .cleaning (index :: todo))
      (found : state.connections[index]? = some connection) :
      PoolStep state .testConnection
        { state with
          pool := if connection.canRemoveConnection state.clock then
              state.pool.erase index
            else
              state.pool
          cleanupMutex := .cleaning todo }
  | cleanupEnded (owner : state.cleanupMutex = .cleaning []) :
      PoolStep state .endCleanup { state with cleanupMutex := .free }

theorem poolStep_of_step {state next : State} {label : Label}
    (moved : step state label = some next) : PoolStep state label next := by
  cases label with
  | setClock time =>
      cases moved
      exact .clockSet time
  | getFreeConnection =>
      simp only [step] at moved
      split at moved
      · rename_i free
        cases moved
        exact .scanStarted free
      · cases moved
  | scan =>
      simp only [step] at moved
      split at moved
      · rename_i index todo owner
        exact .scanned owner moved
      · cases moved
  | openDynamicSyncConnect connected =>
      simp only [step] at moved
      split at moved
      · rename_i owner
        split_ifs at moved with refused
        · cases moved
          exact .notOpened connected owner refused
        · cases moved
          rw [not_or, Nat.not_le, Bool.not_eq_false] at refused
          obtain ⟨room, rfl⟩ := refused
          exact .opened owner room
      · cases moved
  | spin =>
      simp only [step] at moved
      split at moved
      · rename_i i owner
        obtain ⟨index, found, tried⟩ := Option.bind_eq_some_iff.mp moved
        exact .spun owner found tried
      · cases moved
  | endQuery index succeeded => exact .queryEnded moved
  | unlock index => exact .unlocked moved
  | cleanupConnections =>
      simp only [step] at moved
      split at moved
      · rename_i free
        cases moved
        exact .cleanupStarted free
      · cases moved
  | testConnection =>
      simp only [step] at moved
      split at moved
      · rename_i index todo owner
        obtain ⟨connection, found, rfl⟩ := Option.map_eq_some_iff.mp moved
        exact .tested owner found
      · cases moved
  | endCleanup =>
      simp only [step] at moved
      split at moved
      · rename_i owner
        cases moved
        exact .cleanupEnded owner
      · cases moved

end SyncPool

end WarheadBot
