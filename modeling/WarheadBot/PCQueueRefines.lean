import WarheadBot.AsyncQueue
import WarheadBot.PCQueueWakeups

/-!
# Waiting for an operation as one move

The model of the asynchronous connections lets a worker take an operation in one move.
Here a worker that enters `WaitAndPop`, tests, waits, is woken or wakes up by itself, and
takes the mutex again is shown to do nothing else, as long as the queue is not cancelled.
-/

namespace WarheadBot

namespace PCQueue

open GuardedRuns

variable {Operation : Type}

/-- Workers that take an operation in one move. -/
structure Atomic (Operation : Type) where
  shared : AsyncQueue.Shared Operation
  connections : List (AsyncQueue.Connection Operation)

inductive AtomicLabel (Operation : Type)
  | construct
  | enqueue (operation : Operation)
  | destroy (index : Nat)
  | worker (index : Nat) (move : AsyncQueue.Move)

def atomicStart : Atomic Operation where
  shared := { queue := [], registry := none, clock := 0, enqueued := [], executed := [] }
  connections := []

def atomicStep (atomic : Atomic Operation) : AtomicLabel Operation → Option (Atomic Operation)
  | .construct =>
      some { atomic with
        connections := atomic.connections ++ [AsyncQueue.Connection.construct true 0] }
  | .enqueue operation =>
      some { atomic with shared := { atomic.shared with
        queue := atomic.shared.queue ++ [operation]
        enqueued := atomic.shared.enqueued ++ [operation] } }
  | .destroy index =>
      (Parties.moveAt (fun shared connection => some (shared, connection.destroy))
        atomic.shared atomic.connections index).map fun result => ⟨result.1, result.2⟩
  | .worker index move =>
      (Parties.moveAt (fun shared connection => connection.workerMove shared move)
        atomic.shared atomic.connections index).map fun result => ⟨result.1, result.2⟩

/-- The moves that are seen from outside of the queue. -/
def Label.atomic : Label Operation → List (AtomicLabel Operation)
  | .construct => [.construct]
  | .push operation _ => [.enqueue operation]
  | .thread index .take => [.worker index .waitAndPop]
  | .thread index .testCancel => [.worker index .testCancel]
  | .thread index .finish =>
      [.worker index .executeQuery, .worker index (.finishQuery false false)]
  | .thread index .beginDestroy => [.destroy index]
  | _ => []

def Place.worker : Place Operation → AsyncQueue.Worker Operation
  | .returned operation => .popped operation
  | .executing operation => .calling operation
  | .stopped => .stopped
  | _ => .waiting

def Thread.view (thread : Thread Operation) : AsyncQueue.Worker Operation × Bool :=
  (thread.place.worker, thread.cancel)

def connectionView (connection : AsyncQueue.Connection Operation) :
    AsyncQueue.Worker Operation × Bool :=
  (connection.worker, connection.cancel)

structure Refines (state : State Operation) (atomic : Atomic Operation) : Prop where
  queue : atomic.shared.queue = state.shared.queue
  enqueued : atomic.shared.enqueued = state.shared.pushed
  executed : atomic.shared.executed = state.shared.executed
  views : atomic.connections.map connectionView = state.threads.map Thread.view

section Steps

variable {state next : State Operation} {atomic : Atomic Operation} {index : Nat}
  {thread changed : Thread Operation}

theorem Refines.connection (refines : Refines state atomic)
    (found : state.threads[index]? = some thread) :
    ∃ connection, atomic.connections[index]? = some connection ∧
      connection.worker = thread.place.worker ∧ connection.cancel = thread.cancel := by
  have view : (atomic.connections.map connectionView)[index]? = some thread.view := by
    rw [refines.views, List.getElem?_map, found, Option.map_some]
  rw [List.getElem?_map, Option.map_eq_some_iff] at view
  obtain ⟨connection, there, equal⟩ := view
  rw [connectionView, Thread.view, Prod.mk.injEq] at equal
  exact ⟨connection, there, equal.1, equal.2⟩

theorem atomicStep_worker {connection result : AsyncQueue.Connection Operation}
    {shared : AsyncQueue.Shared Operation} {move : AsyncQueue.Move}
    (there : atomic.connections[index]? = some connection)
    (moved : connection.workerMove atomic.shared move = some (shared, result)) :
    atomicStep atomic (.worker index move) =
      some ⟨shared, atomic.connections.set index result⟩ := by
  simp [atomicStep, Parties.moveAt, there, moved]

theorem views_set {connections : List (AsyncQueue.Connection Operation)}
    {threads : List (Thread Operation)} {result : AsyncQueue.Connection Operation}
    (views : connections.map connectionView = threads.map Thread.view)
    (same : connectionView result = changed.view) :
    (connections.set index result).map connectionView =
      (threads.set index changed).map Thread.view := by
  rw [List.map_set, List.map_set, views, same]

/-- A step that is not seen from outside. -/
theorem views_set_thread {threads : List (Thread Operation)}
    (found : threads[index]? = some thread) (same : changed.view = thread.view) :
    (threads.set index changed).map Thread.view = threads.map Thread.view := by
  obtain ⟨inside, rfl⟩ := List.getElem?_eq_some_iff.mp found
  rw [List.map_set, same, ← List.map_set, List.set_getElem_self]

/-- A move of a worker on either side. -/
theorem refines_worker (refines : Refines state atomic)
    {connection result : AsyncQueue.Connection Operation} {move : AsyncQueue.Move}
    {queued : AsyncQueue.Shared Operation} {shared : Queue Operation}
    (there : atomic.connections[index]? = some connection)
    (moved : connection.workerMove atomic.shared move = some (queued, result))
    (queue : queued.queue = shared.queue) (enqueued : queued.enqueued = shared.pushed)
    (executed : queued.executed = shared.executed) (same : connectionView result = changed.view) :
    ∃ after, exec atomicStep atomic [.worker index move] = some after ∧
      Refines ⟨shared, state.threads.set index changed⟩ after :=
  ⟨_, exec_cons.mpr ⟨_, atomicStep_worker there moved, rfl⟩, queue, enqueued, executed,
    views_set refines.views same⟩

theorem refines_moved (sound : Sound .worker state) (isOpen : state.shared.shutdown = false)
    (refines : Refines state atomic) (found : state.threads[index]? = some thread)
    {move : Move} {shared : Queue Operation}
    (moves : thread.Moves .worker state.shared move shared changed) :
    ∃ after, exec atomicStep atomic (Label.atomic (.thread index move)) = some after ∧
      Refines ⟨shared, state.threads.set index changed⟩ after := by
  obtain ⟨connection, there, worker, cancel⟩ := refines.connection found
  have queue := refines.queue
  have unseen (same : changed.view = thread.view) :
      atomic.connections.map connectionView =
        (state.threads.set index changed).map Thread.view := by
    rw [refines.views, views_set_thread found same]
  cases moves with
  | locks outside free =>
      refine ⟨atomic, rfl, queue, refines.enqueued, refines.executed, unseen ?_⟩
      rcases outside with place | place <;> rw [Thread.view, Thread.view, place] <;> rfl
  | waits place empty _ kept =>
      refine ⟨atomic, rfl, queue, refines.enqueued, refines.executed, unseen ?_⟩
      rw [Thread.view, Thread.view, place]
      rfl
  | passes place goes =>
      refine ⟨atomic, rfl, queue, refines.enqueued, refines.executed, unseen ?_⟩
      rw [Thread.view, Thread.view, place]
      rfl
  | takes operation rest place first _ kept =>
      rw [place] at worker
      have uncancelled : connection.cancel = false := by
        simpa [Thread.released, cancel] using kept
      have moved : connection.workerMove atomic.shared .waitAndPop =
          some ({ atomic.shared with queue := rest },
            { connection with worker := .popped (some operation) }) := by
        simp [AsyncQueue.Connection.workerMove, worker, Place.worker, uncancelled, queue, first]
      exact refines_worker refines there moved rfl refines.enqueued refines.executed
        (congrArg (Prod.mk _) cancel)
  | takesNothing place goes =>
      rw [place] at worker
      -- The loop has been left because of an operation, which no other thread can have taken.
      have cancelled : connection.cancel = true := by
        have fits := sound.fits thread (List.mem_of_getElem? found)
        have reason := fits.passed place
        simp only [isOpen, Bool.false_eq_true, false_or] at goes reason
        have released : thread.released .worker = true := by tauto
        simpa [Thread.released, cancel] using released
      have moved : connection.workerMove atomic.shared .waitAndPop =
          some (atomic.shared, { connection with worker := .popped none }) := by
        simp [AsyncQueue.Connection.workerMove, worker, Place.worker, cancelled]
      exact refines_worker refines there moved queue refines.enqueued refines.executed
        (congrArg (Prod.mk _) cancel)
  | wakes place =>
      refine ⟨atomic, rfl, queue, refines.enqueued, refines.executed, unseen ?_⟩
      rw [Thread.view, Thread.view, place]
      rfl
  | stops operation place leaves =>
      rw [place] at worker
      have cancelled : connection.cancel = true := by
        simpa [Thread.leaves, cancel] using leaves
      have moved : connection.workerMove atomic.shared .testCancel =
          some (atomic.shared, { connection with worker := .stopped }) := by
        simp [AsyncQueue.Connection.workerMove, worker, Place.worker, cancelled]
      exact refines_worker refines there moved queue refines.enqueued refines.executed
        (congrArg (Prod.mk _) cancel)
  | again place stays =>
      rw [place] at worker
      have uncancelled : connection.cancel = false := by
        simpa [Thread.leaves, cancel] using stays
      have moved : connection.workerMove atomic.shared .testCancel =
          some (atomic.shared, { connection with worker := .waiting }) := by
        simp [AsyncQueue.Connection.workerMove, worker, Place.worker, uncancelled]
      exact refines_worker refines there moved queue refines.enqueued refines.executed
        (congrArg (Prod.mk _) cancel)
  | executes operation place stays =>
      rw [place] at worker
      have uncancelled : connection.cancel = false := by
        simpa [Thread.leaves, cancel] using stays
      have moved : connection.workerMove atomic.shared .testCancel =
          some (atomic.shared, { connection with worker := .calling operation }) := by
        simp [AsyncQueue.Connection.workerMove, worker, Place.worker, uncancelled]
      exact refines_worker refines there moved queue refines.enqueued refines.executed
        (congrArg (Prod.mk _) cancel)
  | finishes operation place =>
      rw [place] at worker
      have inside : index < atomic.connections.length :=
        (List.getElem?_eq_some_iff.mp there).1
      have called : connection.workerMove atomic.shared .executeQuery =
          some (atomic.shared, { connection with worker := .running operation }) := by
        simp [AsyncQueue.Connection.workerMove, worker, Place.worker]
      have calling := atomicStep_worker there called
      refine ⟨⟨{ atomic.shared with executed := atomic.shared.executed ++ [operation] },
        atomic.connections.set index { connection with worker := .waiting }⟩, ?_, queue,
        refines.enqueued, ?_, views_set refines.views ?_⟩
      · refine exec_cons.mpr ⟨_, calling, exec_cons.mpr ⟨_, atomicStep_worker
          (List.getElem?_set_self inside) rfl, ?_⟩⟩
        simp
      · exact congrArg (· ++ [operation]) refines.executed
      · exact congrArg (Prod.mk _) cancel
  | begins notBegun =>
      refine ⟨⟨atomic.shared, atomic.connections.set index connection.destroy⟩, ?_, queue,
        refines.enqueued, refines.executed, views_set refines.views ?_⟩
      · simp [exec, Label.atomic, atomicStep, Parties.moveAt, there]
      · exact congrArg (fun worker => (worker, true)) worker
  | joins place joining =>
      exact ⟨atomic, rfl, queue, refines.enqueued, refines.executed, unseen rfl⟩

theorem view_wake (thread : Thread Operation) : thread.wake.view = thread.view := by
  cases waits : thread.place.isWaiting with
  | false => rw [Thread.wake_of_not waits]
  | true =>
      rw [Thread.wake_waiting waits, Thread.view, Thread.view, place_of_isWaiting waits]
      rfl

theorem views_map_wake (threads : List (Thread Operation)) :
    (threads.map Thread.wake).map Thread.view = threads.map Thread.view := by
  rw [List.map_map]
  exact List.map_congr_left fun thread _ => view_wake thread

theorem refines_step {label : Label Operation} (sound : Sound .worker state)
    (isOpen : state.shared.shutdown = false) (refines : Refines state atomic)
    (uncancelled : label ≠ .cancel) (stepped : step .worker state label = some next) :
    next.shared.shutdown = false ∧
      ∃ after, exec atomicStep atomic label.atomic = some after ∧ Refines next after := by
  cases label with
  | thread index move =>
      obtain ⟨thread, changed, shared, found, moves, rfl⟩ := step_thread_eq_some stepped
      exact ⟨moves.shutdown_eq.trans isOpen, refines_moved sound isOpen refines found moves⟩
  | construct =>
      cases stepped
      refine ⟨isOpen, _, rfl, refines.queue, refines.enqueued, refines.executed, ?_⟩
      rw [List.map_append, List.map_append, refines.views]
      rfl
  | push operation woken =>
      cases step_of_step stepped with
      | pushed _ free noneWaits =>
          refine ⟨isOpen, _, rfl, ?_, ?_, refines.executed, refines.views⟩
          · exact congrArg (· ++ [operation]) refines.queue
          · exact congrArg (· ++ [operation]) refines.enqueued
      | pushedWaking _ index before after thread free split waits =>
          refine ⟨isOpen, _, rfl, ?_, ?_, refines.executed, ?_⟩
          · exact congrArg (· ++ [operation]) refines.queue
          · exact congrArg (· ++ [operation]) refines.enqueued
          · rw [refines.views, split]
            simp [view_wake]
  | cancel => exact absurd rfl uncancelled
  | notifyDestroy index =>
      cases step_of_step stepped with
      | notified _ before after thread free split flagged =>
          refine ⟨isOpen, atomic, rfl, refines.queue, refines.enqueued, refines.executed, ?_⟩
          rw [views_map_wake, refines.views, split]
          simp [Thread.view]

/-- As long as the queue is not cancelled, each run of the threads at the level of the mutex
and the condition is a run in which a worker takes an operation in one move, with the same
operations pushed, left and executed, and with each worker at the same place of its loop. -/
theorem waitAndPop_refines {labels : List (Label Operation)} {last : State Operation}
    (uncancelled : .cancel ∉ labels)
    (reached : exec (step .worker) start labels = some last) :
    ∃ atomic, exec atomicStep atomicStart (labels.flatMap Label.atomic) = some atomic ∧
      Refines last atomic := by
  have others : ∀ label ∈ labels, label ≠ .cancel := fun label member equal =>
    uncancelled (equal ▸ member)
  obtain ⟨atomic, matched, related⟩ := @exec_simulates _ _ (step .worker)
    (fun _ label => label ≠ .cancel) _ _ atomicStep
    (fun state atomic => Sound .worker state ∧ state.shared.shutdown = false ∧
      Refines state atomic) Label.atomic
    (by
      intro state next label atomic related other stepped
      obtain ⟨isOpen, after, matched, refines⟩ :=
        refines_step related.1 related.2.1 related.2.2 other stepped
      exact ⟨after, matched, sound_step related.1 stepped, isOpen, refines⟩)
    _ _ atomicStart _ (meets_of_forall others start) reached
    ⟨sound_start .worker, rfl, rfl, rfl, rfl, rfl⟩
  exact ⟨atomic, matched, related.2.2⟩

end Steps

/-- A worker waits, is woken for nothing, waits again, and takes what is pushed then. -/
def wokenForNothing : List (Label Nat) :=
  [.construct, .thread 0 .lock, .thread 0 .test, .thread 0 .wakeSpuriously, .thread 0 .lock,
    .thread 0 .test, .push 10 (some 0), .thread 0 .lock, .thread 0 .test, .thread 0 .take,
    .thread 0 .testCancel, .thread 0 .finish]

theorem waitAndPop_refines_woken :
    ∃ last atomic, exec (step .worker) start wokenForNothing = some last ∧
      exec atomicStep atomicStart (wokenForNothing.flatMap Label.atomic) = some atomic ∧
      Refines last atomic ∧ atomic.shared.executed = [10] := by
  obtain ⟨atomic, matched, refines⟩ := @waitAndPop_refines Nat wokenForNothing _ (by decide) rfl
  exact ⟨_, atomic, rfl, matched, refines, refines.executed⟩

end PCQueue

end WarheadBot
