import WarheadBot.PCQueueWakeups
import Mathlib.Data.List.Count

/-!
# What becomes of the operations

Operations are taken in the order in which they were pushed.  What has been taken is
executed, is in the hand of one thread, or was lost by a thread that has found its flag
set, and such a thread has stopped.
-/

namespace WarheadBot

namespace PCQueue

open GuardedRuns

variable {Operation : Type}

def Place.inHand : Place Operation → List Operation
  | .returned operation => operation.toList
  | .executing operation => [operation]
  | _ => []

def Place.hasStopped : Place Operation → Bool
  | .stopped => true
  | _ => false

def State.inHand (state : State Operation) : List Operation :=
  state.threads.flatMap fun thread => thread.place.inHand

structure Accounted [DecidableEq Operation] (state : State Operation) : Prop where
  order : state.shared.pushed = state.shared.taken ++ state.shared.deleted ++ state.shared.queue
  counts : ∀ operation, state.shared.executed.count operation +
    state.shared.lost.count operation + state.inHand.count operation =
      state.shared.taken.count operation
  lost : state.shared.lost.length ≤ state.threads.countP fun thread => thread.place.hasStopped
  noneDeleted : state.shared.shutdown = false → state.shared.deleted = []

section Moves

variable {kind : Kind} {label : Move} {shared next : Queue Operation}
  {thread changed : Thread Operation}

theorem Thread.Moves.order (moves : thread.Moves kind shared label next changed)
    (noneDeleted : shared.shutdown = false → shared.deleted = []) :
    next.pushed = shared.pushed ∧ next.deleted = shared.deleted ∧
      next.taken ++ next.deleted ++ next.queue =
        shared.taken ++ shared.deleted ++ shared.queue := by
  cases moves with
  | takes operation queue place first isOpen kept =>
      refine ⟨rfl, rfl, ?_⟩
      simp [first, noneDeleted isOpen]
  | _ => exact ⟨rfl, rfl, rfl⟩

theorem Thread.Moves.counts [DecidableEq Operation]
    (moves : thread.Moves kind shared label next changed) (operation : Operation) :
    next.executed.count operation + next.lost.count operation +
        changed.place.inHand.count operation + shared.taken.count operation =
      shared.executed.count operation + shared.lost.count operation +
        thread.place.inHand.count operation + next.taken.count operation := by
  cases moves with
  | locks outside free =>
      rcases outside with place | place <;> simp [place, Place.inHand]
  | waits place empty isOpen kept => simp [place, Place.inHand]
  | passes place goes => simp [place, Place.inHand]
  | takes first queue place front isOpen kept =>
      simp only [place, Place.inHand, List.count_append, Option.toList_some, List.count_nil]
      omega
  | takesNothing place goes => simp [place, Place.inHand]
  | wakes place => simp [place, Place.inHand]
  | stops taken place leaves =>
      simp only [place, Place.inHand, List.count_append, List.count_nil]
      omega
  | again place stays => simp [place, Place.inHand]
  | executes taken place stays => simp [place, Place.inHand]
  | finishes taken place =>
      simp only [place, Place.inHand, List.count_append, List.count_nil]
      omega
  | begins notBegun => rfl
  | joins place joining => rfl

theorem Thread.Moves.lost (moves : thread.Moves kind shared label next changed) :
    next.lost.length + thread.place.hasStopped.toNat ≤
      shared.lost.length + changed.place.hasStopped.toNat := by
  cases moves with
  | locks outside free =>
      rcases outside with place | place <;> simp [place, Place.hasStopped]
  | stops operation place leaves =>
      cases operation <;> simp [place, Place.hasStopped]
  | begins notBegun => exact Nat.le_refl _
  | joins place joining => exact Nat.le_refl _
  | waits place => simp [place, Place.hasStopped]
  | passes place => simp [place, Place.hasStopped]
  | takes operation queue place => simp [place, Place.hasStopped]
  | takesNothing place => simp [place, Place.hasStopped]
  | wakes place => simp [place, Place.hasStopped]
  | again place => simp [place, Place.hasStopped]
  | executes operation place => simp [place, Place.hasStopped]
  | finishes operation place => simp [place, Place.hasStopped]

@[simp]
theorem Thread.inHand_wake (thread : Thread Operation) :
    thread.wake.place.inHand = thread.place.inHand := by
  cases waits : thread.place.isWaiting with
  | false => rw [Thread.wake_of_not waits]
  | true =>
      rw [Thread.wake_waiting waits, place_of_isWaiting waits]
      rfl

@[simp]
theorem Thread.hasStopped_wake (thread : Thread Operation) :
    thread.wake.place.hasStopped = thread.place.hasStopped := by
  cases waits : thread.place.isWaiting with
  | false => rw [Thread.wake_of_not waits]
  | true =>
      rw [Thread.wake_waiting waits, place_of_isWaiting waits]
      rfl

end Moves

section Run

variable [DecidableEq Operation] {kind : Kind} {state next : State Operation}
  {label : Label Operation}

theorem accounted_start : Accounted (start : State Operation) :=
  ⟨rfl, fun _ => rfl, Nat.le_refl _, fun _ => rfl⟩

omit [DecidableEq Operation] in
theorem inHand_map_wake (threads : List (Thread Operation)) :
    (threads.map Thread.wake).flatMap (fun thread => thread.place.inHand) =
      threads.flatMap fun thread => thread.place.inHand := by
  simp only [List.flatMap_map, Thread.inHand_wake]

omit [DecidableEq Operation] in
theorem hasStopped_map_wake (threads : List (Thread Operation)) :
    (threads.map Thread.wake).countP (fun thread => thread.place.hasStopped) =
      threads.countP fun thread => thread.place.hasStopped := by
  rw [List.countP_map]
  congr 1
  funext thread
  exact thread.hasStopped_wake

/-- A cancelled queue has nothing left, and all threads are woken. -/
theorem accounted_cancel (accounted : Accounted state) :
    Accounted ⟨state.shared.cancel, state.threads.map Thread.wake⟩ := by
  refine ⟨?_, ?_, ?_, nofun⟩
  · have order := accounted.order
    dsimp only [Queue.cancel]
    rw [order]
    simp
  · intro operation
    rw [State.inHand, inHand_map_wake]
    exact accounted.counts operation
  · rw [hasStopped_map_wake]
    exact accounted.lost

theorem accounted_step (accounted : Accounted state)
    (stepped : step kind state label = some next) : Accounted next := by
  have order := accounted.order
  have counts := accounted.counts
  have lost := accounted.lost
  cases step_of_step stepped with
  | constructed =>
      refine ⟨order, ?_, ?_, accounted.noneDeleted⟩
      · simpa [State.inHand, construct, Place.inHand] using counts
      · simpa [construct, Place.hasStopped] using lost
  | pushed operation free noneWaits =>
      refine ⟨?_, counts, lost, accounted.noneDeleted⟩
      dsimp only
      rw [order, List.append_assoc]
  | pushedWaking operation index before after thread free split waits =>
      refine ⟨?_, ?_, ?_, accounted.noneDeleted⟩
      · dsimp only
        rw [order, List.append_assoc]
      · rw [State.inHand, split] at counts
        simpa [State.inHand] using counts
      · rw [split, countP_split] at lost
        rw [countP_split, Thread.hasStopped_wake]
        exact lost
  | cancelled free => exact accounted_cancel accounted
  | notified index before after thread free split flagged =>
      have joining : Accounted ⟨state.shared,
          before ++ { thread with destructor := .joining } :: after⟩ := by
        refine ⟨order, ?_, ?_, accounted.noneDeleted⟩
        · rw [State.inHand, split] at counts
          simpa [State.inHand] using counts
        · rw [split, countP_split] at lost
          rw [countP_split]
          exact lost
      cases kind with
      | worker =>
          refine ⟨joining.order, ?_, ?_, joining.noneDeleted⟩
          · rw [State.inHand, inHand_map_wake]
            exact joining.counts
          · rw [hasStopped_map_wake]
            exact joining.lost
      | checker => exact accounted_cancel joining
  | moved index move before after thread changed shared split moves =>
      obtain ⟨pushed, deleted, same⟩ := moves.order accounted.noneDeleted
      refine ⟨?_, ?_, ?_, ?_⟩
      · dsimp only
        rw [pushed, same, order]
      · intro operation
        have balance := moves.counts operation
        have before := counts operation
        simp only [State.inHand, split, List.flatMap_append, List.flatMap_cons,
          List.count_append] at before ⊢
        omega
      · have bound := moves.lost
        rw [split, countP_split] at lost
        rw [countP_split]
        dsimp only
        omega
      · dsimp only
        rw [moves.shutdown_eq, deleted]
        exact accounted.noneDeleted

theorem accounted_of_reached {labels : List (Label Operation)} {last : State Operation}
    (reached : exec (step kind) start labels = some last) : Accounted last :=
  exec_invariant_of_step (fun accounted stepped => accounted_step accounted stepped) reached
    accounted_start

end Run

end PCQueue

end WarheadBot
