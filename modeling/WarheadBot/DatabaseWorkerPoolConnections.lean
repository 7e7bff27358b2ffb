import WarheadBot.AsyncQueue
import WarheadBot.DatabaseWorkerPoolOpen
import WarheadBot.MySQLConnectionStatements
import WarheadBot.SyncPool

/-!
# The two connection lists of a pool

`Open` puts one connection in each list.  Dynamic connections are added by
`GetFreeConnection`, `CheckAsyncQueue` and the two functions they call, and are
removed by `CleanupConnections`.  Each call is one step here; the answers of the
client library and the time come with the label, and between the calls the
connections are used and unlocked.

The connection info is shared by the pool and its connections.  A call gives
`none` if an assertion fails, the port is invalid or an answer is missing.
-/

namespace WarheadBot

namespace PoolConnections

open GuardedRuns
open AsyncQueue (Registry StringPreparedStatement maxAsyncConnections)
open MySQL (ConnectionFlags ConnectionInfo OpenReply Reply Statement)
open MySQL.Connection (PrepareReply)
open PoolOpening (InternalIndex)
open SyncPool (maxSyncConnections)

structure PoolConnection where
  -- The number of the connections that were made before.
  id : Nat
  isDynamic : Bool
  -- Whether `_mutex` is locked.
  locked : Bool
  lastUseTime : Int
  session : MySQL.Connection
  deriving DecidableEq, Repr

structure Pool where
  connectionInfo : ConnectionInfo
  registry : Registry
  asyncConnections : List PoolConnection
  syncConnections : List PoolConnection
  created : Nat
  clock : Int

structure Settings where
  minServerVersion : Nat
  maxAsyncQueueSize : Nat
  deriving DecidableEq, Repr

/-- The answers to one connection attempt, with one for each registered
statement. -/
structure Attempt where
  reply : OpenReply
  serverVersion : Nat
  prepares : List PrepareReply
  deriving DecidableEq, Repr

def connectionFlags : InternalIndex → ConnectionFlags
  | .async => .async
  | .sync => .sync

def maxConnections : InternalIndex → Nat
  | .async => maxAsyncConnections
  | .sync => maxSyncConnections

theorem maxConnections_eq (index : InternalIndex) : maxConnections index = 32 := by
  cases index <;> rfl

def PoolConnection.canRemoveConnection (connection : PoolConnection) (clock : Int) : Bool :=
  MySQL.canRemoveConnection connection.isDynamic clock connection.lastUseTime

/-- A change of the last element, which may not be possible. -/
def updateLast {α : Type*} (change : α → Option α) (list : List α) : Option (List α) :=
  list.getLast?.bind fun last => (change last).map fun changed => list.dropLast ++ [changed]

/-- A change of the element at a position, which may not be possible. -/
def updateAt {α : Type*} (change : α → Option α) (list : List α) (position : Nat) :
    Option (List α) :=
  list[position]?.bind fun element => (change element).map fun changed =>
    list.set position changed

def prepareAll : MySQL.Connection → List StringPreparedStatement → List PrepareReply →
    Option MySQL.Connection
  | session, [], _ => some session
  | _, _ :: _, [] => none
  | session, statement :: statements, reply :: replies =>
      (session.prepareStatement statement.index statement.query statement.connectionType
        reply).bind fun prepared => prepareAll prepared statements replies

def initPrepareStatement (registry : Registry) (replies : List PrepareReply)
    (connection : PoolConnection) : Option PoolConnection :=
  (prepareAll (connection.session.resizeStatements registry.statementSize)
    registry.statements replies).map fun session => { connection with session := session }

/-- `InitPrepareStatement` and the assertion that follows it. -/
def registerStatements (registry : Registry) (replies : List PrepareReply)
    (connection : PoolConnection) : Option PoolConnection :=
  (initPrepareStatement registry replies connection).bind fun initialized =>
    if initialized.session.prepareStatements then some initialized else none

namespace Pool

def connections (pool : Pool) : InternalIndex → List PoolConnection
  | .async => pool.asyncConnections
  | .sync => pool.syncConnections

def setConnections (pool : Pool) (index : InternalIndex) (list : List PoolConnection) : Pool :=
  match index with
  | .async => { pool with asyncConnections := list }
  | .sync => { pool with syncConnections := list }

/-- `OpenConnection`, with the error it returns. -/
def openConnection (settings : Settings) (pool : Pool) (index : InternalIndex)
    (isDynamic : Bool) (attempt : Attempt) : Option (Nat × Pool) :=
  ((MySQL.Connection.construct pool.connectionInfo (connectionFlags index)).open'
    attempt.reply).map fun (session, error) =>
      let tried := { pool with
        connectionInfo := session.connectionInfo
        created := pool.created + 1 }
      if error ≠ 0 then
        (error, tried)
      else if attempt.serverVersion < settings.minServerVersion then
        (1, tried)
      else
        (0, tried.setConnections index
          (pool.connections index ++ [⟨pool.created, isDynamic, false, pool.clock, session⟩]))

/-- `Open`, with the error it returns; the assertion is that of `AddTasks`. -/
def openPool (settings : Settings) (pool : Pool) (async sync : Attempt) :
    Option (Nat × Pool) :=
  (pool.openConnection settings .async false async).bind fun (asyncError, withAsync) =>
    if asyncError ≠ 0 then
      some (asyncError, withAsync)
    else
      (withAsync.openConnection settings .sync false sync).bind fun (syncError, opened) =>
        if syncError ≠ 0 then
          some (syncError, opened)
        else if 10 ≤ settings.maxAsyncQueueSize then
          some (0, opened)
        else
          none

/-- What `OpenDynamicAsyncConnect` and `OpenDynamicSyncConnect` do with their
list. -/
def openDynamicConnect (settings : Settings) (pool : Pool) (index : InternalIndex)
    (attempt : Attempt) : Option Pool :=
  if maxConnections index ≤ (pool.connections index).length then
    some pool
  else
    (pool.openConnection settings index true attempt).bind fun (error, opened) =>
      if error ≠ 0 then
        some opened
      else
        (updateLast (registerStatements opened.registry attempt.prepares)
          (opened.connections index)).map (opened.setConnections index)

def openDynamicAsyncConnect (settings : Settings) (pool : Pool) (attempt : Attempt) :
    Option Pool :=
  pool.openDynamicConnect settings .async attempt

def openDynamicSyncConnect (settings : Settings) (pool : Pool) (attempt : Attempt) :
    Option Pool :=
  pool.openDynamicConnect settings .sync attempt

def lockAt (pool : Pool) (position : Nat) : Option Pool :=
  (updateAt (fun connection => some { connection with locked := true })
    pool.syncConnections position).map (pool.setConnections .sync)

/-- `GetFreeConnection`.  The answers are used if no connection is free, and
`spins` tells how often the loop finds a locked one before another thread has
unlocked the one it comes to; its counter has eight bits. -/
def getFreeConnection (settings : Settings) (pool : Pool) (attempt : Attempt) (spins : Nat) :
    Option Pool :=
  match pool.syncConnections.findIdx? fun connection => !connection.locked with
  | some position => pool.lockAt position
  | none =>
      (pool.openDynamicSyncConnect settings attempt).bind fun opened =>
        opened.lockAt ((spins + 1) % 256 % opened.syncConnections.length)

/-- The loop of `CheckAsyncQueue` from the value `i` of its counter, with the
answers to each call. -/
def checkAsyncQueueLoop (settings : Settings) (queueSize : Nat) :
    Nat → Pool → List Attempt → Option Pool
  | i, pool, [] => if i < queueSize then none else some pool
  | i, pool, attempt :: attempts =>
      if i < queueSize then
        (pool.openDynamicAsyncConnect settings attempt).bind fun opened =>
          checkAsyncQueueLoop settings queueSize (i + settings.maxAsyncQueueSize) opened attempts
      else
        none

def checkAsyncQueue (settings : Settings) (pool : Pool) (queueSize : Nat)
    (attempts : List Attempt) : Option Pool :=
  if queueSize < settings.maxAsyncQueueSize then
    some pool
  else
    checkAsyncQueueLoop settings queueSize 0 pool attempts

def removeIf (pool : Pool) (index : InternalIndex) : Pool :=
  pool.setConnections index ((pool.connections index).filter fun connection =>
    !connection.canRemoveConnection pool.clock)

def cleanupConnections (pool : Pool) : Pool :=
  (pool.removeIf .sync).removeIf .async

end Pool

inductive Label
  | getFreeConnection (attempt : Attempt) (spins : Nat)
  | openDynamicSyncConnect (attempt : Attempt)
  | openDynamicAsyncConnect (attempt : Attempt)
  | checkAsyncQueue (queueSize : Nat) (attempts : List Attempt)
  | cleanupConnections
  | setClock (time : Int)
  -- A thread executes a statement on the connection it has got.
  | execute (index : InternalIndex) (position : Nat) (statement : Statement)
      (replies : List Reply)
  | unlock (position : Nat)

/-- A successful statement updates the time of the last use. -/
def PoolConnection.execute (clock : Int) (statement : Statement) (replies : List Reply)
    (connection : PoolConnection) : Option PoolConnection :=
  (connection.session.execute statement replies).map fun (session, succeeded) =>
    { connection with
      session := session
      lastUseTime := if succeeded then clock else connection.lastUseTime }

def step (settings : Settings) (pool : Pool) : Label → Option Pool
  | .getFreeConnection attempt spins => pool.getFreeConnection settings attempt spins
  | .openDynamicSyncConnect attempt => pool.openDynamicSyncConnect settings attempt
  | .openDynamicAsyncConnect attempt => pool.openDynamicAsyncConnect settings attempt
  | .checkAsyncQueue queueSize attempts => pool.checkAsyncQueue settings queueSize attempts
  | .cleanupConnections => some pool.cleanupConnections
  | .setClock time => some { pool with clock := time }
  | .execute index position statement replies =>
      (updateAt (PoolConnection.execute pool.clock statement replies)
        (pool.connections index) position).map (pool.setConnections index)
  | .unlock position =>
      (updateAt (fun connection => some { connection with locked := false })
        pool.syncConnections position).map (pool.setConnections .sync)

section Lists

variable {α : Type*} {change : α → Option α} {list changed : List α}

theorem updateLast_concat (element : α) :
    updateLast change (list ++ [element]) = (change element).map fun new => list ++ [new] := by
  simp [updateLast]

theorem updateAt_eq_some {position : Nat} (done : updateAt change list position = some changed) :
    ∃ element new, list[position]? = some element ∧ change element = some new ∧
      changed = list.set position new := by
  obtain ⟨element, found, result⟩ := Option.bind_eq_some_iff.mp done
  obtain ⟨new, possible, rfl⟩ := Option.map_eq_some_iff.mp result
  exact ⟨element, new, found, possible, rfl⟩

end Lists

@[simp]
theorem connections_setConnections (pool : Pool) (index : InternalIndex)
    (list : List PoolConnection) : (pool.setConnections index list).connections index = list := by
  cases index <;> rfl

theorem connections_setConnections_of_ne (pool : Pool) {index other : InternalIndex}
    (list : List PoolConnection) (distinct : other ≠ index) :
    (pool.setConnections index list).connections other = pool.connections other := by
  cases index <;> cases other <;> first | rfl | exact absurd rfl distinct

@[simp]
theorem setConnections_setConnections (pool : Pool) (index : InternalIndex)
    (first second : List PoolConnection) :
    (pool.setConnections index first).setConnections index second =
      pool.setConnections index second := by
  cases index <;> rfl

@[simp]
theorem registry_setConnections (pool : Pool) (index : InternalIndex)
    (list : List PoolConnection) : (pool.setConnections index list).registry = pool.registry := by
  cases index <;> rfl

/-- Every registered statement that the connection needs is in its list. -/
def Registered (registry : Registry) (flags : ConnectionFlags) (session : MySQL.Connection) :
    Prop :=
  ∀ statement ∈ registry.statements, flags.overlaps statement.connectionType = true →
    ∃ prepared, session.stmtList[statement.index]? = some (some prepared) ∧
      prepared.queryString = statement.query

section Preparing

variable {session after : MySQL.Connection}

/-- What `PrepareStatement` does if it does not fail. -/
theorem prepareStatement_cases {index : Nat} {sql : String} {flags : ConnectionFlags}
    {reply : PrepareReply}
    (returned : session.prepareStatement index sql flags reply = some after) :
    after.connectionFlags = session.connectionFlags ∧
      (after.prepareError = true ∨
        after.prepareError = session.prepareError ∧ index < session.stmtList.length ∧
          ∃ entry, after.stmtList = session.stmtList.set index entry ∧
            (session.connectionFlags.overlaps flags = true →
              ∃ prepared, entry = some prepared ∧ prepared.queryString = sql)) := by
  unfold MySQL.Connection.prepareStatement at returned
  split_ifs at returned with outside other
  · cases returned
    refine ⟨rfl, .inr ⟨rfl, Nat.not_le.mp outside, none, rfl, ?_⟩⟩
    intro overlapping
    rw [overlapping] at other
    cases other
  · split at returned
    · cases returned
    · rename_i handle paramCount opened
      cases returned
      exact ⟨rfl, .inr ⟨rfl, Nat.not_le.mp outside, _, rfl, fun _ => ⟨_, rfl, rfl⟩⟩⟩
    · cases returned
      exact ⟨rfl, .inl rfl⟩

theorem prepareAll_prepareError {statements : List StringPreparedStatement}
    {replies : List PrepareReply} (failed : session.prepareError = true)
    (returned : prepareAll session statements replies = some after) :
    after.prepareError = true := by
  induction statements generalizing session replies with
  | nil =>
      cases returned
      exact failed
  | cons statement statements ih =>
      cases replies with
      | nil => cases returned
      | cons reply replies =>
          obtain ⟨prepared, first, rest⟩ := Option.bind_eq_some_iff.mp returned
          refine ih ?_ rest
          rcases (prepareStatement_cases first).2 with failedNow | ⟨same, _⟩
          · exact failedNow
          · exact same.trans failed

/-- The entries of other indices are kept. -/
theorem prepareAll_stmtList_of_notMem {statements : List StringPreparedStatement}
    {replies : List PrepareReply} {index : Nat}
    (other : index ∉ statements.map StringPreparedStatement.index)
    (returned : prepareAll session statements replies = some after)
    (valid : after.prepareError = false) :
    after.stmtList[index]? = session.stmtList[index]? := by
  induction statements generalizing session replies with
  | nil =>
      cases returned
      rfl
  | cons statement statements ih =>
      cases replies with
      | nil => cases returned
      | cons reply replies =>
          obtain ⟨prepared, first, rest⟩ := Option.bind_eq_some_iff.mp returned
          rw [List.map_cons, List.mem_cons, not_or] at other
          rw [ih other.2 rest]
          rcases (prepareStatement_cases first).2 with failed | ⟨_, _, entry, changed, _⟩
          · rw [prepareAll_prepareError failed rest] at valid
            cases valid
          · rw [changed, List.getElem?_set_ne (Ne.symm other.1)]

theorem prepareAll_prepared {statements : List StringPreparedStatement}
    {replies : List PrepareReply}
    (distinct : (statements.map StringPreparedStatement.index).Nodup)
    (returned : prepareAll session statements replies = some after)
    (valid : after.prepareError = false) :
    ∀ statement ∈ statements,
      session.connectionFlags.overlaps statement.connectionType = true →
        ∃ prepared, after.stmtList[statement.index]? = some (some prepared) ∧
          prepared.queryString = statement.query := by
  induction statements generalizing session replies with
  | nil =>
      intro statement member
      cases member
  | cons first statements ih =>
      cases replies with
      | nil => cases returned
      | cons reply replies =>
          obtain ⟨prepared, done, rest⟩ := Option.bind_eq_some_iff.mp returned
          rw [List.map_cons, List.nodup_cons] at distinct
          have result := prepareStatement_cases done
          intro statement member needed
          rcases List.mem_cons.mp member with rfl | later
          · rw [prepareAll_stmtList_of_notMem distinct.1 rest valid]
            rcases result.2 with failed | ⟨_, bound, entry, changed, filled⟩
            · rw [prepareAll_prepareError failed rest] at valid
              cases valid
            · obtain ⟨stmt, rfl, text⟩ := filled needed
              refine ⟨stmt, ?_, text⟩
              rw [changed, List.getElem?_set_self bound]
          · rw [← result.1] at needed
            exact ih distinct.2 rest statement later needed

end Preparing

theorem registered_registerStatements {registry : Registry} {replies : List PrepareReply}
    {connection registered : PoolConnection}
    (returned : registerStatements registry replies connection = some registered) :
    registered.isDynamic = connection.isDynamic ∧
      Registered registry connection.session.connectionFlags registered.session := by
  obtain ⟨initialized, init, checked⟩ := Option.bind_eq_some_iff.mp returned
  obtain ⟨session, prepared, rfl⟩ := Option.map_eq_some_iff.mp init
  split_ifs at checked with valid
  cases checked
  refine ⟨rfl, ?_⟩
  have noError : session.prepareError = false := by
    simpa [MySQL.Connection.prepareStatements] using valid
  have registered := prepareAll_prepared registry.distinct prepared noError
  exact registered

/-- The connection that `Open` made comes first, and after it come only dynamic
connections whose statements are registered. -/
structure StableList (registry : Registry) (index : InternalIndex) (id : Nat)
    (list : List PoolConnection) : Prop where
  first : ∃ connection, list.head? = some connection ∧ connection.id = id ∧
    connection.isDynamic = false
  bounded : list.length ≤ maxConnections index
  others : ∀ connection ∈ list.tail, connection.isDynamic = true ∧
    Registered registry (connectionFlags index) connection.session

section StableLists

variable {registry : Registry} {index : InternalIndex} {id : Nat}
  {list changed : List PoolConnection}

theorem StableList.concat (stable : StableList registry index id list)
    (room : list.length < maxConnections index) {connection : PoolConnection}
    (dynamic : connection.isDynamic = true)
    (registered : Registered registry (connectionFlags index) connection.session) :
    StableList registry index id (list ++ [connection]) := by
  obtain ⟨first, head, identity⟩ := stable.first
  obtain ⟨rest, rfl⟩ := List.head?_eq_some_iff.mp head
  refine ⟨⟨first, rfl, identity⟩, by rwa [List.length_append], ?_⟩
  intro other member
  rw [List.cons_append, List.tail_cons] at member
  rcases List.mem_append.mp member with old | new
  · exact stable.others other old
  · rw [List.mem_singleton.mp new]
    exact ⟨dynamic, registered⟩

theorem StableList.filter (stable : StableList registry index id list) (clock : Int) :
    StableList registry index id
      (list.filter fun connection => !connection.canRemoveConnection clock) := by
  obtain ⟨first, head, identity, static⟩ := stable.first
  obtain ⟨rest, rfl⟩ := List.head?_eq_some_iff.mp head
  -- The first connection is not dynamic, so the filter keeps it.
  have kept : first.canRemoveConnection clock = false := by
    simp [PoolConnection.canRemoveConnection, MySQL.canRemoveConnection, static]
  rw [List.filter_cons_of_pos (by simp [kept])]
  refine ⟨⟨first, rfl, identity, static⟩, ?_, ?_⟩
  · exact Nat.le_trans (Nat.succ_le_succ (List.length_filter_le _ rest)) stable.bounded
  · intro other member
    exact stable.others other (List.mem_of_mem_filter member)

/-- A use of a connection keeps its name, its kind and its statements. -/
theorem StableList.updateAt (stable : StableList registry index id list) {position : Nat}
    {change : PoolConnection → Option PoolConnection}
    (keeps : ∀ connection new, change connection = some new → new.id = connection.id ∧
      new.isDynamic = connection.isDynamic ∧ new.session.stmtList = connection.session.stmtList)
    (done : PoolConnections.updateAt change list position = some changed) :
    StableList registry index id changed := by
  obtain ⟨element, new, found, possible, rfl⟩ := updateAt_eq_some done
  obtain ⟨sameId, sameKind, sameList⟩ := keeps element new possible
  obtain ⟨first, head, identity, static⟩ := stable.first
  obtain ⟨rest, rfl⟩ := List.head?_eq_some_iff.mp head
  cases position with
  | zero =>
      cases found
      exact ⟨⟨new, rfl, sameId.trans identity, sameKind.trans static⟩, stable.bounded,
        stable.others⟩
  | succ position =>
      refine ⟨⟨first, rfl, identity, static⟩, by simpa using stable.bounded, ?_⟩
      intro other member
      rw [List.set_cons_succ, List.tail_cons] at member
      rcases List.mem_or_eq_of_mem_set member with old | rfl
      · exact stable.others other old
      · have before := stable.others element (List.mem_of_getElem? found)
        rw [Registered, sameList]
        exact ⟨sameKind.trans before.1, before.2⟩

end StableLists

/-- Both lists are stable, with the connections that `Open` made. -/
structure Stable (registry : Registry) (id : InternalIndex → Nat) (pool : Pool) : Prop where
  sameRegistry : pool.registry = registry
  lists : ∀ index, StableList registry index (id index) (pool.connections index)

section Runs

variable {settings : Settings} {registry : Registry} {id : InternalIndex → Nat}
  {pool next : Pool}

theorem Stable.setConnections (stable : Stable registry id pool) {index : InternalIndex}
    {list : List PoolConnection} (stableList : StableList registry index (id index) list) :
    Stable registry id (pool.setConnections index list) := by
  refine ⟨by rw [registry_setConnections, stable.sameRegistry], ?_⟩
  intro other
  by_cases same : other = index
  · rw [same, connections_setConnections]
    exact stableList
  · rw [connections_setConnections_of_ne pool list same]
    exact stable.lists other

/-- All that `OpenConnection` can do to a pool. -/
theorem openConnection_cases {index : InternalIndex} {isDynamic : Bool} {attempt : Attempt}
    {error : Nat}
    (returned : pool.openConnection settings index isDynamic attempt = some (error, next)) :
    ∃ tried : Pool, tried.registry = pool.registry ∧ tried.connections = pool.connections ∧
      (error ≠ 0 ∧ next = tried ∨
        error = 0 ∧ ∃ connection, connection.isDynamic = isDynamic ∧
          connection.session.connectionFlags = connectionFlags index ∧
          next = tried.setConnections index (pool.connections index ++ [connection])) := by
  obtain ⟨⟨session, openError⟩, opened, result⟩ := Option.map_eq_some_iff.mp returned
  refine ⟨{ pool with
    connectionInfo := session.connectionInfo
    created := pool.created + 1 }, rfl, rfl, ?_⟩
  dsimp only at result
  split_ifs at result with refused old
  · cases result
    exact .inl ⟨refused, rfl⟩
  · cases result
    exact .inl ⟨Nat.one_ne_zero, rfl⟩
  · cases result
    have flags : session.connectionFlags = connectionFlags index := by
      cases reply : attempt.reply with
      | initFailed =>
          rw [reply] at opened
          cases opened
          rfl
      | refused errNo =>
          rw [reply] at opened
          obtain ⟨info, _, equal⟩ := Option.map_eq_some_iff.mp opened
          cases equal
          rfl
      | connected =>
          rw [reply] at opened
          obtain ⟨info, _, equal⟩ := Option.map_eq_some_iff.mp opened
          cases equal
          rfl
    exact .inr ⟨rfl, _, rfl, flags, rfl⟩

theorem Stable.of_same {tried : Pool} (stable : Stable registry id pool)
    (sameRegistry : tried.registry = pool.registry)
    (sameLists : tried.connections = pool.connections) : Stable registry id tried := by
  refine ⟨sameRegistry.trans stable.sameRegistry, ?_⟩
  rw [sameLists]
  exact stable.lists

theorem Stable.openDynamicConnect (stable : Stable registry id pool) {index : InternalIndex}
    {attempt : Attempt} (returned : pool.openDynamicConnect settings index attempt = some next) :
    Stable registry id next := by
  unfold Pool.openDynamicConnect at returned
  split_ifs at returned with full
  · cases returned
    exact stable
  · obtain ⟨⟨error, opened⟩, openedConnection, rest⟩ := Option.bind_eq_some_iff.mp returned
    dsimp only at rest
    obtain ⟨tried, sameRegistry, sameLists, ended⟩ := openConnection_cases openedConnection
    have stableTried := stable.of_same sameRegistry sameLists
    rcases ended with ⟨failed, rfl⟩ | ⟨rfl, connection, dynamic, flags, rfl⟩
    · rw [if_pos failed] at rest
      cases rest
      exact stableTried
    · rw [if_neg (not_not.mpr rfl), connections_setConnections, registry_setConnections,
        updateLast_concat] at rest
      obtain ⟨list, registration, rfl⟩ := Option.map_eq_some_iff.mp rest
      obtain ⟨registered, done, rfl⟩ := Option.map_eq_some_iff.mp registration
      obtain ⟨sameKind, statements⟩ := registered_registerStatements done
      rw [flags, stableTried.sameRegistry] at statements
      rw [setConnections_setConnections]
      exact stableTried.setConnections ((stable.lists index).concat (Nat.not_le.mp full)
        (sameKind.trans dynamic) statements)

theorem Stable.updateAt (stable : Stable registry id pool) (index : InternalIndex)
    {position : Nat} {change : PoolConnection → Option PoolConnection}
    (keeps : ∀ connection new, change connection = some new → new.id = connection.id ∧
      new.isDynamic = connection.isDynamic ∧ new.session.stmtList = connection.session.stmtList)
    (returned : (PoolConnections.updateAt change (pool.connections index) position).map
      (pool.setConnections index) = some next) :
    Stable registry id next := by
  obtain ⟨list, changed, rfl⟩ := Option.map_eq_some_iff.mp returned
  exact stable.setConnections ((stable.lists index).updateAt keeps changed)

theorem Stable.lockAt (stable : Stable registry id pool) {position : Nat}
    (returned : pool.lockAt position = some next) : Stable registry id next := by
  refine stable.updateAt .sync ?_ returned
  rintro connection new ⟨⟩
  exact ⟨rfl, rfl, rfl⟩

theorem Stable.getFreeConnection (stable : Stable registry id pool) {attempt : Attempt}
    {spins : Nat} (returned : pool.getFreeConnection settings attempt spins = some next) :
    Stable registry id next := by
  unfold Pool.getFreeConnection at returned
  split at returned
  · exact stable.lockAt returned
  · obtain ⟨opened, dynamic, locked⟩ := Option.bind_eq_some_iff.mp returned
    exact (stable.openDynamicConnect dynamic).lockAt locked

/-- By induction on the answers, one for each turn of the loop. -/
theorem Stable.checkAsyncQueueLoop {queueSize i : Nat} {attempts : List Attempt}
    (stable : Stable registry id pool)
    (returned : Pool.checkAsyncQueueLoop settings queueSize i pool attempts = some next) :
    Stable registry id next := by
  induction attempts generalizing i pool with
  | nil =>
      simp only [Pool.checkAsyncQueueLoop] at returned
      split_ifs at returned
      cases returned
      exact stable
  | cons attempt attempts ih =>
      simp only [Pool.checkAsyncQueueLoop] at returned
      split_ifs at returned
      obtain ⟨opened, dynamic, rest⟩ := Option.bind_eq_some_iff.mp returned
      exact ih (stable.openDynamicConnect dynamic) rest

theorem Stable.removeIf (stable : Stable registry id pool) (index : InternalIndex) :
    Stable registry id (pool.removeIf index) :=
  stable.setConnections ((stable.lists index).filter pool.clock)

theorem Stable.step (stable : Stable registry id pool) {label : Label}
    (moved : PoolConnections.step settings pool label = some next) :
    Stable registry id next := by
  cases label with
  | getFreeConnection attempt spins => exact stable.getFreeConnection moved
  | openDynamicSyncConnect attempt => exact stable.openDynamicConnect moved
  | openDynamicAsyncConnect attempt => exact stable.openDynamicConnect moved
  | checkAsyncQueue queueSize attempts =>
      simp only [PoolConnections.step, Pool.checkAsyncQueue] at moved
      split_ifs at moved
      · cases moved
        exact stable
      · exact stable.checkAsyncQueueLoop moved
  | cleanupConnections =>
      cases moved
      exact (stable.removeIf .sync).removeIf .async
  | setClock time =>
      cases moved
      exact stable.of_same rfl rfl
  | execute index position statement replies =>
      refine stable.updateAt index ?_ moved
      intro connection new executed
      obtain ⟨⟨session, succeeded⟩, returned, rfl⟩ := Option.map_eq_some_iff.mp executed
      obtain ⟨sent, result, equal⟩ := Option.map_eq_some_iff.mp returned
      cases equal
      exact ⟨rfl, rfl, MySQL.send_stmtList result⟩
  | unlock position =>
      refine stable.updateAt .sync ?_ moved
      rintro connection new ⟨⟩
      exact ⟨rfl, rfl, rfl⟩

/-- A successful `Open` on empty lists puts one connection in each. -/
theorem stable_openPool {async sync : Attempt} (empty : ∀ index, pool.connections index = [])
    (opened : pool.openPool settings async sync = some (0, next)) :
    ∃ first : InternalIndex → PoolConnection, (∀ index, next.connections index = [first index]) ∧
      Stable pool.registry (fun index => (first index).id) next := by
  obtain ⟨⟨asyncError, withAsync⟩, asyncReturned, rest⟩ := Option.bind_eq_some_iff.mp opened
  dsimp only at rest
  obtain ⟨tried, sameRegistry, sameLists, asyncEnd⟩ := openConnection_cases asyncReturned
  rcases asyncEnd with ⟨failed, _⟩ | ⟨rfl, asyncFirst, asyncStatic, _, rfl⟩
  · rw [if_pos failed] at rest
    cases rest
    exact absurd rfl failed
  · rw [if_neg (not_not.mpr rfl)] at rest
    obtain ⟨⟨syncError, withSync⟩, syncReturned, last⟩ := Option.bind_eq_some_iff.mp rest
    dsimp only at last
    obtain ⟨again, sameRegistry', sameLists', syncEnd⟩ := openConnection_cases syncReturned
    rcases syncEnd with ⟨failed, _⟩ | ⟨rfl, syncFirst, syncStatic, _, rfl⟩
    · rw [if_pos failed] at last
      cases last
      exact absurd rfl failed
    · rw [if_neg (not_not.mpr rfl)] at last
      split_ifs at last
      cases last
      let first : InternalIndex → PoolConnection
        | .async => asyncFirst
        | .sync => syncFirst
      have static : ∀ index, (first index).isDynamic = false := by
        intro index
        cases index with
        | async => exact asyncStatic
        | sync => exact syncStatic
      have lists : ∀ index, (again.setConnections .sync
          ((tried.setConnections .async (pool.connections .async ++ [asyncFirst])).connections
            .sync ++ [syncFirst])).connections index = [first index] := by
        intro index
        cases index with
        | async =>
            rw [connections_setConnections_of_ne again _ (by decide), sameLists',
              connections_setConnections, empty]
            rfl
        | sync =>
            rw [connections_setConnections,
              connections_setConnections_of_ne tried _ (by decide), sameLists, empty]
            rfl
      refine ⟨first, lists, ?_, ?_⟩
      · rw [registry_setConnections, sameRegistry', registry_setConnections, sameRegistry]
      · intro index
        rw [lists index]
        refine ⟨⟨first index, rfl, rfl, static index⟩, ?_, ?_⟩
        · rw [maxConnections_eq, List.length_singleton]
          decide
        · intro connection member
          cases member

end Runs

/-- After a successful `Open`, the connection that it made stays the first of its
list, and the rest of the list are dynamic connections whose statements are
registered, at most 31 of them. -/
theorem connections_stable_after_open {settings : Settings} {pool opened last : Pool}
    {async sync : Attempt} {labels : List Label}
    (empty : ∀ index, pool.connections index = [])
    (success : pool.openPool settings async sync = some (0, opened))
    (reached : exec (step settings) opened labels = some last) (index : InternalIndex) :
    1 ≤ (last.connections index).length ∧ (last.connections index).length ≤ 32 ∧
      (∃ first current, opened.connections index = [first] ∧
        (last.connections index)[0]? = some current ∧ current.id = first.id ∧
        current.isDynamic = false) ∧
      ∀ position connection, 0 < position →
        (last.connections index)[position]? = some connection →
          connection.isDynamic = true ∧
            Registered pool.registry (connectionFlags index) connection.session := by
  obtain ⟨first, lists, stable⟩ := stable_openPool empty success
  have kept : Stable pool.registry (fun index => (first index).id) last :=
    exec_invariant_of_step (fun stable moved => stable.step moved) reached stable
  obtain ⟨current, head, sameId, static⟩ := (kept.lists index).first
  obtain ⟨rest, list⟩ := List.head?_eq_some_iff.mp head
  have bounded := (kept.lists index).bounded
  have others := (kept.lists index).others
  rw [maxConnections_eq] at bounded
  rw [list] at bounded others ⊢
  refine ⟨Nat.succ_le_succ (Nat.zero_le _), bounded,
    ⟨first index, current, lists index, rfl, sameId, static⟩, ?_⟩
  intro position connection positive found
  cases position with
  | zero => cases positive
  | succ position => exact others connection (List.mem_of_getElem? found)

section Examples

def exampleSettings : Settings := ⟨50700, 10⟩

def examplePool : Pool where
  connectionInfo := MySQL.exampleInfo
  registry := AsyncQueue.exampleRegistry
  asyncConnections := []
  syncConnections := []
  created := 0
  clock := 0

def connectedAttempt : Attempt := ⟨.connected, 80000, [.prepared 0]⟩

/-- The only synchronous connection is in use when another one is needed, the
queue is overloaded while one attempt fails, and a second later the dynamic
connections are removed and the next is opened. -/
def exampleRun : List Label :=
  [.getFreeConnection connectedAttempt 0, .getFreeConnection connectedAttempt 0,
    .checkAsyncQueue 25 [connectedAttempt, ⟨.initFailed, 0, []⟩, connectedAttempt],
    .execute .sync 1 (.raw "SELECT 1") [.acknowledged], .setClock 1000, .cleanupConnections,
    .openDynamicSyncConnect connectedAttempt, .openDynamicAsyncConnect connectedAttempt]

def lengths (result : Option Pool) : Option (Nat × Nat) :=
  result.map fun pool => (pool.asyncConnections.length, pool.syncConnections.length)

end Examples

theorem connections_stable_in_example :
    ∃ opened last,
      examplePool.openPool exampleSettings connectedAttempt connectedAttempt =
        some (0, opened) ∧
      exec (step exampleSettings) opened exampleRun = some last ∧
      (∀ index, (last.connections index).length = 2) ∧
      ∀ index, 1 ≤ (last.connections index).length ∧ (last.connections index).length ≤ 32 ∧
        (∃ first current, opened.connections index = [first] ∧
          (last.connections index)[0]? = some current ∧ current.id = first.id ∧
          current.isDynamic = false) ∧
        ∀ position connection, 0 < position →
          (last.connections index)[position]? = some connection →
            connection.isDynamic = true ∧
              Registered examplePool.registry (connectionFlags index) connection.session := by
  have empty : ∀ index, examplePool.connections index = [] := by
    intro index
    cases index <;> rfl
  have ran : lengths ((examplePool.openPool exampleSettings connectedAttempt
      connectedAttempt).bind fun opened => exec (step exampleSettings) opened.2 exampleRun) =
        some (2, 2) := by
    decide
  have noError : (examplePool.openPool exampleSettings connectedAttempt connectedAttempt).map
      Prod.fst = some 0 := by
    decide
  obtain ⟨last, result, sizes⟩ := Option.map_eq_some_iff.mp ran
  obtain ⟨⟨error, opened⟩, success, reached⟩ := Option.bind_eq_some_iff.mp result
  rw [success] at noError
  cases noError
  refine ⟨opened, last, success, reached, ?_, ?_⟩
  · intro index
    cases index with
    | async => exact congrArg Prod.fst sizes
    | sync => exact congrArg Prod.snd sizes
  · exact connections_stable_after_open empty success reached

end PoolConnections

end WarheadBot
