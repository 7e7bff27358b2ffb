import WarheadBot.AsyncQueue

/-!
# The transitions of the asynchronous pool

The step functions of the pool as relations with one constructor for each
transition, which carries what the function has tested before it.  An invariant
is then proved by cases on the transitions, without unfolding the functions
again.
-/

namespace WarheadBot

namespace AsyncQueue

variable {Operation : Type}

/-- The transitions of the thread that opens or destroys the connection, with
the states they start from. -/
inductive Connection.OpeningStep (shared : Shared Operation) (connection : Connection Operation) :
    Move → Connection Operation → Prop
  | opened (stage : connection.stage = .constructed) :
      OpeningStep shared connection (.openHandle true)
        { connection with stage := .opened, mysqlHandle := true }
  | notOpened (stage : connection.stage = .constructed) :
      OpeningStep shared connection (.openHandle false) connection.destroy
  | added (stage : connection.stage = .opened) :
      OpeningStep shared connection (.addToPool true) { connection with stage := .added }
  | notSupported (stage : connection.stage = .opened) :
      OpeningStep shared connection (.addToPool false) connection.destroy
  | resized (registry : Registry) (known : shared.registry = some registry)
      (stage : connection.stage = .added) :
      OpeningStep shared connection .initPrepareStatement
        { connection with
          stage := .preparing registry.statements
          stmtList := resize registry.statementSize connection.stmtList }
  | prepared (statement : StringPreparedStatement) (todo : List StringPreparedStatement)
      (succeeded : Bool) (stage : connection.stage = .preparing (statement :: todo)) :
      OpeningStep shared connection (.prepareStatement succeeded)
        { connection.prepareStatement statement succeeded with stage := .preparing todo }
  | finished (stage : connection.stage = .preparing [])
      (noError : connection.prepareError = false) :
      OpeningStep shared connection .finishOpening { connection with stage := .ready }
  | condemned (stage : connection.stage = .ready)
      (removable : connection.canRemoveConnection shared.clock = true) :
      OpeningStep shared connection .testRemovable { connection with stage := .condemned }
  | kept (stage : connection.stage = .ready)
      (inUse : connection.canRemoveConnection shared.clock = false) :
      OpeningStep shared connection .testRemovable connection
  | destroyed (stage : connection.stage = .condemned) :
      OpeningStep shared connection .destroy connection.destroy
  | closed (stage : connection.stage = .closing) (stopped : connection.worker = .stopped) :
      OpeningStep shared connection .close
        { connection with stage := .closed, mysqlHandle := false }

/-- The transitions of the worker. -/
inductive Connection.WorkerStep (shared : Shared Operation) (connection : Connection Operation) :
    Move → Shared Operation → Connection Operation → Prop
  | released (waiting : connection.worker = .waiting) (cancelled : connection.cancel = true) :
      WorkerStep shared connection .waitAndPop shared
        { connection with worker := .popped none }
  | took (operation : Operation) (queue : List Operation)
      (waiting : connection.worker = .waiting) (uncancelled : connection.cancel = false)
      (first : shared.queue = operation :: queue) :
      WorkerStep shared connection .waitAndPop { shared with queue := queue }
        { connection with worker := .popped (some operation) }
  | stopped (operation : Option Operation) (popped : connection.worker = .popped operation)
      (cancelled : connection.cancel = true) :
      WorkerStep shared connection .testCancel shared { connection with worker := .stopped }
  | nothing (popped : connection.worker = .popped none)
      (uncancelled : connection.cancel = false) :
      WorkerStep shared connection .testCancel shared { connection with worker := .waiting }
  | passed (operation : Operation) (popped : connection.worker = .popped (some operation))
      (uncancelled : connection.cancel = false) :
      WorkerStep shared connection .testCancel shared
        { connection with worker := .calling operation }
  | called (operation : Operation) (calling : connection.worker = .calling operation) :
      WorkerStep shared connection .executeQuery shared
        { connection with worker := .running operation }
  | finished (operation : Operation) (used lost : Bool)
      (running : connection.worker = .running operation) :
      WorkerStep shared connection (.finishQuery used lost)
        { shared with executed := shared.executed ++ [operation] }
        { connection with
          worker := .waiting
          lastUseTime := if used then shared.clock else connection.lastUseTime
          mysqlHandle := connection.mysqlHandle && !lost }

/-- The steps of the pool. -/
inductive PoolStep (maxAsyncQueueSize : Nat) (state : State Operation) :
    Label Operation → State Operation → Prop
  | enqueued (operation : Operation) (new : operation ∉ state.shared.enqueued) :
      PoolStep maxAsyncQueueSize state (.enqueue operation)
        { state with shared := { state.shared with
          queue := state.shared.queue ++ [operation]
          enqueued := state.shared.enqueued ++ [operation] } }
  | clockSet (time : Int) :
      PoolStep maxAsyncQueueSize state (.setClock time)
        { state with shared := { state.shared with clock := time } }
  | registered (registry : Registry) (unregistered : state.shared.registry = none) :
      PoolStep maxAsyncQueueSize state (.doPrepareStatements registry)
        { state with shared := { state.shared with registry := some registry } }
  | sizeRead (known : state.shared.registry ≠ none) (idle : state.queueSize = none) :
      PoolStep maxAsyncQueueSize state .checkAsyncQueue
        { state with queueSize := some state.shared.queue.length }
  | shortQueue (size : Nat) (read : state.queueSize = some size)
      (short : size < maxAsyncQueueSize) :
      PoolStep maxAsyncQueueSize state .lockCleanupMutex { state with queueSize := none }
  | longQueue (size : Nat) (read : state.queueSize = some size)
      (long : maxAsyncQueueSize ≤ size) (free : state.cleanupMutex = .free) :
      PoolStep maxAsyncQueueSize state .lockCleanupMutex
        { state with
          cleanupMutex := .opening ((size + maxAsyncQueueSize - 1) / maxAsyncQueueSize)
          queueSize := none }
  | constructed (unregistered : state.shared.registry = none) :
      PoolStep maxAsyncQueueSize state (.construct false)
        { state with
          connections := state.connections ++ [Connection.construct false state.shared.clock] }
  | full (todo : Nat) (owner : state.cleanupMutex = .opening (todo + 1))
      (idle : state.inTransit = false) (limit : maxAsyncConnections ≤ state.pool.length) :
      PoolStep maxAsyncQueueSize state (.construct true)
        { state with cleanupMutex := .opening todo }
  | constructedDynamic (todo : Nat) (owner : state.cleanupMutex = .opening (todo + 1))
      (idle : state.inTransit = false) (room : state.pool.length < maxAsyncConnections) :
      PoolStep maxAsyncQueueSize state (.construct true)
        { state with
          connections := state.connections ++ [Connection.construct true state.shared.clock]
          cleanupMutex := .opening todo }
  | checkEnded (owner : state.cleanupMutex = .opening 0) (idle : state.inTransit = false) :
      PoolStep maxAsyncQueueSize state .endCheck { state with cleanupMutex := .free }
  | cleanupStarted (known : state.shared.registry ≠ none)
      (free : state.cleanupMutex = .free) :
      PoolStep maxAsyncQueueSize state .cleanupConnections
        { state with cleanupMutex := .cleaning state.pool }
  | cleanupEnded (owner : state.cleanupMutex = .cleaning []) (idle : state.inTransit = false) :
      PoolStep maxAsyncQueueSize state .endCleanup { state with cleanupMutex := .free }
  | moved (index : Nat) (move : Move) {owner : CleanupMutex} {shared : Shared Operation}
      {connections : List (Connection Operation)}
      (allowed : state.ownerAfter index move = some owner)
      (happened : Parties.moveAt (Connection.move move) state.shared state.connections index =
        some (shared, connections)) :
      PoolStep maxAsyncQueueSize state (.connection index move)
        { state with shared := shared, connections := connections, cleanupMutex := owner }

section Steps

variable {shared next : Shared Operation} {connection changed : Connection Operation} {move : Move}

theorem openingStep_of_openingMove (moved : connection.openingMove shared move = some changed) :
    connection.OpeningStep shared move changed := by
  cases move with
  | openHandle connected =>
      simp only [Connection.openingMove] at moved
      split_ifs at moved with stage success
      · cases moved
        subst success
        exact .opened (not_not.mp stage)
      · cases moved
        rw [Bool.not_eq_true] at success
        subst success
        exact .notOpened (not_not.mp stage)
  | addToPool supported =>
      simp only [Connection.openingMove] at moved
      split_ifs at moved with stage success
      · cases moved
        subst success
        exact .added (not_not.mp stage)
      · cases moved
        rw [Bool.not_eq_true] at success
        subst success
        exact .notSupported (not_not.mp stage)
  | initPrepareStatement =>
      simp only [Connection.openingMove] at moved
      split at moved
      · cases moved
      · rename_i registry known
        split_ifs at moved with stage
        cases moved
        exact .resized registry known stage
  | prepareStatement succeeded =>
      simp only [Connection.openingMove] at moved
      split at moved
      · rename_i statement todo stage
        cases moved
        exact .prepared statement todo succeeded stage
      · cases moved
  | finishOpening =>
      simp only [Connection.openingMove] at moved
      split_ifs at moved with done
      cases moved
      exact .finished done.1 done.2
  | testRemovable =>
      simp only [Connection.openingMove] at moved
      split_ifs at moved with stage removable
      · cases moved
        exact .condemned (not_not.mp stage) removable
      · cases moved
        exact .kept (not_not.mp stage) (by simpa using removable)
  | destroy =>
      simp only [Connection.openingMove] at moved
      split_ifs at moved with stage
      cases moved
      exact .destroyed stage
  | close =>
      simp only [Connection.openingMove] at moved
      split at moved
      · rename_i stage stopped
        cases moved
        exact .closed stage stopped
      · cases moved
  | _ => simp [Connection.openingMove] at moved

theorem workerStep_of_workerMove
    (moved : connection.workerMove shared move = some (next, changed)) :
    connection.WorkerStep shared move next changed := by
  cases move with
  | waitAndPop =>
      simp only [Connection.workerMove] at moved
      split at moved
      · rename_i waiting
        split_ifs at moved with cancelled
        · cases moved
          exact .released waiting cancelled
        · split at moved
          · cases moved
          · rename_i operation queue first
            cases moved
            exact .took operation queue waiting (by simpa using cancelled) first
      · cases moved
  | testCancel =>
      simp only [Connection.workerMove] at moved
      split at moved
      · rename_i operation popped
        split_ifs at moved with cancelled
        · cases moved
          exact .stopped operation popped cancelled
        · rw [Bool.not_eq_true] at cancelled
          cases operation with
          | none =>
              cases moved
              exact .nothing popped cancelled
          | some operation =>
              cases moved
              exact .passed operation popped cancelled
      · cases moved
  | executeQuery =>
      simp only [Connection.workerMove] at moved
      split at moved
      · rename_i operation calling
        cases moved
        exact .called operation calling
      · cases moved
  | finishQuery used lost =>
      simp only [Connection.workerMove] at moved
      split at moved
      · rename_i operation running
        cases moved
        exact .finished operation used lost running
      · cases moved
  | _ => simp [Connection.workerMove] at moved

/-- A move of a connection is one of its worker, or one of the thread that
opens or destroys it. -/
theorem steps_of_move (moved : connection.move move shared = some (next, changed)) :
    connection.WorkerStep shared move next changed ∨
      next = shared ∧ connection.OpeningStep shared move changed := by
  unfold Connection.move at moved
  split_ifs at moved
  · exact .inl (workerStep_of_workerMove moved)
  · obtain ⟨result, opened, equal⟩ := Option.map_eq_some_iff.mp moved
    cases equal
    exact .inr ⟨rfl, openingStep_of_openingMove opened⟩

theorem poolStep_of_step [DecidableEq Operation] {maxAsyncQueueSize : Nat}
    {state reached : State Operation} {label : Label Operation}
    (stepped : step maxAsyncQueueSize state label = some reached) :
    PoolStep maxAsyncQueueSize state label reached := by
  cases label with
  | enqueue operation =>
      simp only [step] at stepped
      split_ifs at stepped with old
      cases stepped
      exact .enqueued operation old
  | setClock time =>
      cases stepped
      exact .clockSet time
  | doPrepareStatements registry =>
      simp only [step] at stepped
      split_ifs at stepped with known
      cases stepped
      exact .registered registry (by simpa using known)
  | checkAsyncQueue =>
      simp only [step] at stepped
      split at stepped
      · cases stepped
      · cases stepped
      · rename_i idle _
        split_ifs at stepped with unknown
        cases stepped
        exact .sizeRead (by simpa using unknown) idle
  | lockCleanupMutex =>
      simp only [step] at stepped
      split at stepped
      · cases stepped
      · rename_i size read
        split_ifs at stepped with short free
        · cases stepped
          exact .shortQueue size read short
        · cases stepped
          exact .longQueue size read (Nat.le_of_not_lt short) free
  | construct isDynamic =>
      cases isDynamic with
      | false =>
          simp only [step] at stepped
          split_ifs at stepped with known
          cases stepped
          exact .constructed (by simpa using known)
      | true =>
          simp only [step] at stepped
          split at stepped
          · rename_i todo owner
            split_ifs at stepped with busy limit
            · cases stepped
              exact .full todo owner (by simpa using busy) limit
            · cases stepped
              exact .constructedDynamic todo owner (by simpa using busy)
                (Nat.lt_of_not_le limit)
          · cases stepped
  | endCheck =>
      simp only [step] at stepped
      split_ifs at stepped with done
      cases stepped
      exact .checkEnded done.1 done.2
  | cleanupConnections =>
      simp only [step] at stepped
      split_ifs at stepped with allowed
      cases stepped
      exact .cleanupStarted (Option.isSome_iff_ne_none.mp allowed.1) allowed.2
  | endCleanup =>
      simp only [step] at stepped
      split_ifs at stepped with done
      cases stepped
      exact .cleanupEnded done.1 done.2
  | connection index move =>
      simp only [step] at stepped
      obtain ⟨owner, allowed, rest⟩ := Option.bind_eq_some_iff.mp stepped
      obtain ⟨⟨shared, connections⟩, happened, rfl⟩ := Option.map_eq_some_iff.mp rest
      exact .moved index move allowed happened

end Steps

end AsyncQueue

end WarheadBot
