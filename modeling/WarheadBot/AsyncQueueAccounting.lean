import WarheadBot.AsyncQueueTransitions
import Mathlib.Data.List.Nodup

/-!
# No operation is lost

A worker tests the cancel flag after it has taken an operation from the queue,
and leaves its loop with the operation when the flag is set by then.  Apart
from a cancellation that falls into this gap, every enqueued operation is in
the queue, held by one worker that will execute it, or executed once.
-/

namespace WarheadBot

namespace AsyncQueue

open GuardedRuns

variable {Operation : Type}

/-- The operation that the worker has taken and will execute. -/
def Connection.held (connection : Connection Operation) : List Operation :=
  match connection.worker with
  | .popped (some operation) => if connection.cancel then [] else [operation]
  | .calling operation => [operation]
  | .running operation => [operation]
  | _ => []

def State.held (state : State Operation) : List Operation :=
  state.connections.flatMap Connection.held

/-- Every enqueued operation is in exactly one of the three places. -/
def Accounted [DecidableEq Operation] (state : State Operation) : Prop :=
  ∀ operation ∈ state.shared.enqueued,
    state.shared.queue.count operation + state.held.count operation +
      state.shared.executed.count operation = 1

def Move.cancels : Move → Bool
  | .openHandle connected => !connected
  | .addToPool supported => !supported
  | .destroy => true
  | _ => false

def Worker.untested : Worker Operation → Bool
  | .popped (some _) => true
  | _ => false

def Label.cancels : Label Operation → Option Nat
  | .connection index move => if move.cancels then some index else none
  | _ => none

/-- No worker is cancelled between taking an operation and testing the
flag. -/
def CancelsClean (state : State Operation) (label : Label Operation) : Prop :=
  ∀ index ∈ label.cancels, ∀ connection ∈ state.connections[index]?,
    connection.worker.untested = false

instance (state : State Operation) (label : Label Operation) :
    Decidable (CancelsClean state label) :=
  inferInstanceAs (Decidable (∀ index ∈ label.cancels, _))

/-- An operation that was taken is not yet cancelled. -/
def Connection.Uncancelled (connection : Connection Operation) : Prop :=
  connection.worker.untested = true → connection.cancel = false

structure Balanced [DecidableEq Operation] (state : State Operation) : Prop where
  counts : ∀ operation, state.shared.queue.count operation + state.held.count operation +
    state.shared.executed.count operation = state.shared.enqueued.count operation
  distinct : state.shared.enqueued.Nodup
  uncancelled : ∀ connection ∈ state.connections, connection.Uncancelled

section Moves

variable {shared : Shared Operation} {connection changed : Connection Operation} {move : Move}

/-- The thread that opens or destroys a connection leaves its worker alone. -/
theorem openingStep_worker (stepped : connection.OpeningStep shared move changed) :
    changed.worker = connection.worker ∧
      (changed.cancel = connection.cancel ∨ move.cancels = true) := by
  cases stepped with
  | prepared statement todo succeeded stage =>
      simp only [Connection.prepareStatement]
      split_ifs <;> exact ⟨rfl, .inl rfl⟩
  | notOpened stage => exact ⟨rfl, .inr rfl⟩
  | notSupported stage => exact ⟨rfl, .inr rfl⟩
  | destroyed stage => exact ⟨rfl, .inr rfl⟩
  | _ => exact ⟨rfl, .inl rfl⟩

theorem openingStep_held (stepped : connection.OpeningStep shared move changed)
    (clean : move.cancels = true → connection.worker.untested = false) :
    changed.held = connection.held := by
  obtain ⟨worker, flag⟩ := openingStep_worker stepped
  rcases flag with same | cancels
  · simp only [Connection.held, worker, same]
  · have nothing := clean cancels
    simp only [Connection.held, worker]
    split
    · rename_i operation taken
      simp [taken, Worker.untested] at nothing
    all_goals rfl

theorem openingStep_uncancelled (stepped : connection.OpeningStep shared move changed)
    (clean : move.cancels = true → connection.worker.untested = false)
    (uncancelled : connection.Uncancelled) : changed.Uncancelled := by
  obtain ⟨worker, flag⟩ := openingStep_worker stepped
  intro taken
  rw [worker] at taken
  rcases flag with same | cancels
  · rw [same]
    exact uncancelled taken
  · rw [clean cancels] at taken
    cases taken

/-- A worker passes operations on from the queue to the executed ones. -/
theorem workerStep_counts [DecidableEq Operation] {next : Shared Operation}
    (stepped : connection.WorkerStep shared move next changed)
    (uncancelled : connection.Uncancelled) (operation : Operation) :
    next.queue.count operation + changed.held.count operation +
        next.executed.count operation =
      shared.queue.count operation + connection.held.count operation +
        shared.executed.count operation := by
  cases stepped with
  | released waiting cancelled => simp [Connection.held, waiting]
  | took first queue waiting running taken =>
      simp only [Connection.held, waiting, taken, running, Bool.false_eq_true, if_false,
        List.count_cons, List.count_nil]
      omega
  | stopped taken popped cancelled =>
      -- A worker that is cancelled here has taken nothing.
      have nothing : taken = none := by
        cases taken with
        | none => rfl
        | some operation =>
            rw [uncancelled (by rw [popped]; rfl)] at cancelled
            cases cancelled
      simp [Connection.held, popped, nothing]
  | nothing popped running => simp [Connection.held, popped]
  | passed taken popped running => simp [Connection.held, popped, running]
  | called taken calling => simp [Connection.held, calling]
  | finished taken used lost running =>
      simp only [Connection.held, running, List.count_append, List.count_nil]
      omega

theorem workerStep_uncancelled {next : Shared Operation}
    (stepped : connection.WorkerStep shared move next changed) : changed.Uncancelled := by
  intro untested
  cases stepped with
  | took operation queue waiting running taken => exact running
  | _ => cases untested

theorem move_counts [DecidableEq Operation] {next : Shared Operation}
    (moved : connection.move move shared = some (next, changed))
    (clean : move.cancels = true → connection.worker.untested = false)
    (uncancelled : connection.Uncancelled) :
    changed.Uncancelled ∧ next.enqueued = shared.enqueued ∧ ∀ operation,
      next.queue.count operation + changed.held.count operation +
        next.executed.count operation =
      shared.queue.count operation + connection.held.count operation +
        shared.executed.count operation := by
  rcases steps_of_move moved with stepped | ⟨rfl, stepped⟩
  · refine ⟨workerStep_uncancelled stepped, ?_, workerStep_counts stepped uncancelled⟩
    cases stepped <;> rfl
  · refine ⟨openingStep_uncancelled stepped clean uncancelled, rfl, ?_⟩
    intro operation
    rw [openingStep_held stepped clean]

end Moves

theorem held_construct (isDynamic : Bool) (clock : Int) :
    (Connection.construct isDynamic clock : Connection Operation).held = [] :=
  rfl

section Runs

variable [DecidableEq Operation] {maxAsyncQueueSize : Nat}

theorem balanced_start : Balanced (start : State Operation) := by
  constructor <;> simp [start, State.held]

theorem balanced_construct {state : State Operation} (balanced : Balanced state)
    (isDynamic : Bool) (owner : CleanupMutex) :
    Balanced { state with
      connections := state.connections ++ [Connection.construct isDynamic state.shared.clock]
      cleanupMutex := owner } := by
  refine ⟨?_, balanced.distinct, ?_⟩
  · intro operation
    simpa [State.held, held_construct] using balanced.counts operation
  · intro connection member
    rcases List.mem_append.mp member with old | new
    · exact balanced.uncancelled connection old
    · rw [List.mem_singleton.mp new]
      intro taken
      cases taken

theorem balanced_step {state next : State Operation} {label : Label Operation}
    (balanced : Balanced state) (clean : CancelsClean state label)
    (moved : step maxAsyncQueueSize state label = some next) : Balanced next := by
  cases poolStep_of_step moved with
  | enqueued operation new =>
      refine ⟨?_, ?_, balanced.uncancelled⟩
      · intro other
        have before := balanced.counts other
        simp only [State.held, List.count_append] at before ⊢
        omega
      · rw [List.nodup_append]
        refine ⟨balanced.distinct, by simp, ?_⟩
        intro first member second added same
        rw [List.mem_singleton.mp added] at same
        exact new (same ▸ member)
  | constructed unregistered => exact balanced_construct balanced false state.cleanupMutex
  | constructedDynamic todo owner idle room =>
      exact balanced_construct balanced true (.opening todo)
  | moved index move allowed happened =>
      have cleanAt : ∀ connection, state.connections[index]? = some connection →
          move.cancels = true → connection.worker.untested = false := by
        intro connection found cancels
        exact clean index (by simp [Label.cancels, cancels]) connection found
      obtain ⟨connection, changed, found, step, counts⟩ :=
        Parties.count_of_moveAt Connection.held happened
      have held := balanced.uncancelled connection (List.mem_of_getElem? found)
      obtain ⟨_, enqueued, passed⟩ := move_counts step (cleanAt connection found) held
      refine ⟨?_, ?_, ?_⟩
      · intro operation
        have before := balanced.counts operation
        have difference := counts operation
        have passedOn := passed operation
        simp only [State.held] at before ⊢
        rw [enqueued]
        omega
      · rw [enqueued]
        exact balanced.distinct
      · refine Parties.forall_of_moveAt happened ?_ balanced.uncancelled
        intro party result found uncancelled moves
        exact (move_counts moves (cleanAt party found) uncancelled).1
  | _ => exact ⟨balanced.counts, balanced.distinct, balanced.uncancelled⟩

/-- In a run that never cancels a worker between taking an operation and
testing the flag, every operation is at each moment in the queue, held by one
worker that will execute it, or executed once. -/
theorem operations_accounted (maxAsyncQueueSize : Nat) {labels : List (Label Operation)}
    {state : State Operation}
    (clean : Meets (step maxAsyncQueueSize) CancelsClean start labels)
    (reached : exec (step maxAsyncQueueSize) start labels = some state) : Accounted state := by
  have balanced : Balanced state := exec_invariant balanced_step clean reached balanced_start
  intro operation member
  rw [balanced.counts operation]
  exact List.count_eq_one_of_mem balanced.distinct member

end Runs

/-- The dynamic connection is destroyed while its worker waits for an
operation. -/
def cancelledWhileWaiting : List (Label Nat) :=
  idleDynamicConnection ++ cleanupSteps ++ [.enqueue 10, .connection 1 .waitAndPop,
    .connection 1 .testCancel]

theorem operations_accounted_after_cleanup :
    ∃ state, exec (step 10) start cancelledWhileWaiting = some state ∧ Accounted state := by
  have clean : Meets (step 10) CancelsClean start cancelledWhileWaiting := by
    decide +kernel
  exact ⟨_, rfl, operations_accounted 10 clean rfl⟩

/-- The same connection is destroyed after its worker has taken an
operation. -/
def cancelledWithOperation : List (Label Nat) :=
  idleDynamicConnection ++ [.enqueue 10, .connection 1 .waitAndPop] ++ cleanupSteps ++
    [.connection 1 .testCancel]

theorem cancelled_worker_drops_operation :
    ∃ state, exec (step 10) start cancelledWithOperation = some state ∧ ¬ Accounted state := by
  refine ⟨_, rfl, ?_⟩
  intro accounted
  have lost := accounted 10 (by decide +kernel)
  revert lost
  decide +kernel

end AsyncQueue

end WarheadBot
