import WarheadBot.GuardedRuns
import WarheadBot.Parties

/-!
# The queue of the worker threads

A `ProducerConsumerQueue` is guarded by a mutex and has a condition variable.
`WaitAndPop` gives the mutex back while it waits, so that one call of it has several
steps; what the other functions do under the mutex is one step.  The threads that
take from a queue are those of `AsyncDBQueueWorker`, which hand their cancel flag to
`WaitAndPop` and wake all threads when they are destroyed, or the one of
`AsyncDBQueueChecker`, whose destructor cancels the queue.
-/

namespace WarheadBot

namespace PCQueue

/-- Whose loop the threads of a queue run. -/
inductive Kind
  | worker
  | checker
  deriving DecidableEq, Repr

/-- The place of a thread in its loop. -/
inductive Place (Operation : Type)
  -- In `WaitAndPop`, without the mutex.
  | entering
  -- With the mutex, before the test of the loop.
  | testing
  -- With the mutex, behind the loop.
  | passed
  -- In `wait`, which has given the mutex back.
  | waiting
  -- In `wait`, which is to take the mutex again.
  | woken
  -- `WaitAndPop` has returned, and the flag is to be tested.
  | returned (operation : Option Operation)
  | executing (operation : Operation)
  | stopped
  deriving DecidableEq, Repr

/-- How far the destructor of the owner has come. -/
inductive Destructor
  | notBegun
  -- The cancel flag is set.
  | flagged
  -- The threads are notified, and the thread is to be joined.
  | joining
  | ended
  deriving DecidableEq, Repr

structure Thread (Operation : Type) where
  place : Place Operation
  cancel : Bool
  destructor : Destructor
  deriving DecidableEq, Repr

/-- What the threads share, with what has become of the operations so far. -/
structure Queue (Operation : Type) where
  queue : List Operation
  shutdown : Bool
  -- A thread holds the mutex between two of its steps.
  locked : Bool
  pushed : List Operation
  taken : List Operation
  deleted : List Operation
  executed : List Operation
  -- Taken by a thread that was cancelled before it tested its flag.
  lost : List Operation
  deriving DecidableEq, Repr

/-- The steps of a thread, and of the thread that destroys its owner. -/
inductive Move
  | lock
  | test
  | take
  | wakeSpuriously
  | testCancel
  | finish
  | beginDestroy
  | join
  deriving DecidableEq, Repr

variable {Operation : Type}

def Place.isWaiting : Place Operation → Bool
  | .waiting => true
  | _ => false

/-- The thread is told by its flag to leave `WaitAndPop`. -/
def Thread.released (kind : Kind) (thread : Thread Operation) : Bool :=
  kind = .worker && thread.cancel

/-- The test behind `WaitAndPop` that ends the loop. -/
def Thread.leaves (kind : Kind) (thread : Thread Operation) (operation : Option Operation) :
    Bool :=
  thread.cancel || (kind = .checker && operation.isNone)

def Thread.move (kind : Kind) (label : Move) (shared : Queue Operation)
    (thread : Thread Operation) : Option (Queue Operation × Thread Operation) :=
  match label, thread.place with
  | .lock, .entering | .lock, .woken =>
      if shared.locked then none
      else some ({ shared with locked := true }, { thread with place := .testing })
  | .test, .testing =>
      if shared.queue.isEmpty && !shared.shutdown && !thread.released kind then
        some ({ shared with locked := false }, { thread with place := .waiting })
      else some (shared, { thread with place := .passed })
  | .take, .passed =>
      match shared.queue, shared.shutdown || thread.released kind with
      | operation :: queue, false =>
          some ({ shared with
              queue := queue
              locked := false
              taken := shared.taken ++ [operation] },
            { thread with place := .returned (some operation) })
      | _, _ => some ({ shared with locked := false }, { thread with place := .returned none })
  | .wakeSpuriously, .waiting => some (shared, { thread with place := .woken })
  | .testCancel, .returned operation =>
      if thread.leaves kind operation then
        some ({ shared with lost := shared.lost ++ operation.toList },
          { thread with place := .stopped })
      else
        match operation with
        | none => some (shared, { thread with place := .entering })
        | some operation => some (shared, { thread with place := .executing operation })
  | .finish, .executing operation =>
      some ({ shared with executed := shared.executed ++ [operation] },
        { thread with place := .entering })
  | .beginDestroy, _ =>
      if thread.destructor = .notBegun then
        some (shared, { thread with cancel := true, destructor := .flagged })
      else none
  | .join, .stopped =>
      if thread.destructor = .joining then some (shared, { thread with destructor := .ended })
      else none
  | _, _ => none

def Thread.wake (thread : Thread Operation) : Thread Operation :=
  if thread.place.isWaiting then { thread with place := .woken } else thread

/-- `Cancel` on the queue itself. -/
def Queue.cancel (shared : Queue Operation) : Queue Operation :=
  { shared with
    queue := []
    shutdown := true
    deleted := shared.deleted ++ shared.queue }

structure State (Operation : Type) where
  shared : Queue Operation
  threads : List (Thread Operation)

inductive Label (Operation : Type)
  | construct
  -- `notify_one` wakes this thread, if one is waiting.
  | push (operation : Operation) (woken : Option Nat)
  | cancel
  -- The destructor calls `NotifyAll` or `Cancel`.
  | notifyDestroy (index : Nat)
  | thread (index : Nat) (move : Move)
  deriving DecidableEq, Repr

/-- The threads after `notify_one`, if it can wake this one. -/
def notifyOne (threads : List (Thread Operation)) : Option Nat → Option (List (Thread Operation))
  | none => if threads.any fun thread => thread.place.isWaiting then none else some threads
  | some index =>
      match threads[index]? with
      | none => none
      | some thread =>
          if thread.place.isWaiting then some (threads.set index thread.wake) else none

def start : State Operation where
  shared :=
    { queue := [], shutdown := false, locked := false, pushed := [], taken := [], deleted := [],
      executed := [], lost := [] }
  threads := []

def construct : Thread Operation := ⟨.entering, false, .notBegun⟩

/-- One step of some thread; a function that needs the mutex has to wait for it. -/
def step (kind : Kind) (state : State Operation) : Label Operation → Option (State Operation)
  | .construct => some { state with threads := state.threads ++ [construct] }
  | .push operation woken =>
      if state.shared.locked then none
      else
        (notifyOne state.threads woken).map fun threads =>
          { shared := { state.shared with
              queue := state.shared.queue ++ [operation]
              pushed := state.shared.pushed ++ [operation] }
            threads }
  | .cancel =>
      if state.shared.locked then none
      else some ⟨state.shared.cancel, state.threads.map Thread.wake⟩
  | .notifyDestroy index =>
      match state.threads[index]? with
      | none => none
      | some thread =>
          if state.shared.locked = false ∧ thread.destructor = .flagged then
            some
              { shared := if kind = .worker then state.shared else state.shared.cancel
                threads := (state.threads.set index { thread with destructor := .joining }).map
                  Thread.wake }
          else none
  | .thread index move =>
      (Parties.moveAt (Thread.move kind move) state.shared state.threads index).map fun result =>
        ⟨result.1, result.2⟩

/-- What one step of a thread can do. -/
inductive Thread.Moves (kind : Kind) (shared : Queue Operation) (thread : Thread Operation) :
    Move → Queue Operation → Thread Operation → Prop
  | locks (outside : thread.place = .entering ∨ thread.place = .woken)
      (free : shared.locked = false) :
      Moves kind shared thread .lock { shared with locked := true }
        { thread with place := .testing }
  | waits (place : thread.place = .testing) (empty : shared.queue = [])
      (isOpen : shared.shutdown = false) (kept : thread.released kind = false) :
      Moves kind shared thread .test { shared with locked := false }
        { thread with place := .waiting }
  | passes (place : thread.place = .testing)
      (goes : shared.queue ≠ [] ∨ shared.shutdown = true ∨ thread.released kind = true) :
      Moves kind shared thread .test shared { thread with place := .passed }
  | takes (operation : Operation) (queue : List Operation) (place : thread.place = .passed)
      (first : shared.queue = operation :: queue) (isOpen : shared.shutdown = false)
      (kept : thread.released kind = false) :
      Moves kind shared thread .take
        { shared with
          queue := queue
          locked := false
          taken := shared.taken ++ [operation] }
        { thread with place := .returned (some operation) }
  | takesNothing (place : thread.place = .passed)
      (goes : shared.queue = [] ∨ shared.shutdown = true ∨ thread.released kind = true) :
      Moves kind shared thread .take { shared with locked := false }
        { thread with place := .returned none }
  | wakes (place : thread.place = .waiting) :
      Moves kind shared thread .wakeSpuriously shared { thread with place := .woken }
  | stops (operation : Option Operation) (place : thread.place = .returned operation)
      (leaves : thread.leaves kind operation = true) :
      Moves kind shared thread .testCancel
        { shared with lost := shared.lost ++ operation.toList }
        { thread with place := .stopped }
  | again (place : thread.place = .returned none) (stays : thread.leaves kind none = false) :
      Moves kind shared thread .testCancel shared { thread with place := .entering }
  | executes (operation : Operation) (place : thread.place = .returned (some operation))
      (stays : thread.leaves kind (some operation) = false) :
      Moves kind shared thread .testCancel shared
        { thread with place := .executing operation }
  | finishes (operation : Operation) (place : thread.place = .executing operation) :
      Moves kind shared thread .finish
        { shared with executed := shared.executed ++ [operation] }
        { thread with place := .entering }
  | begins (notBegun : thread.destructor = .notBegun) :
      Moves kind shared thread .beginDestroy shared
        { thread with cancel := true, destructor := .flagged }
  | joins (place : thread.place = .stopped) (joining : thread.destructor = .joining) :
      Moves kind shared thread .join shared { thread with destructor := .ended }

theorem moves_of_move {kind : Kind} {label : Move} {shared next : Queue Operation}
    {thread changed : Thread Operation}
    (moved : thread.move kind label shared = some (next, changed)) :
    thread.Moves kind shared label next changed := by
  obtain ⟨place, cancel, destructor⟩ := thread
  cases label with
  | lock =>
      cases place with
      | entering =>
          simp only [Thread.move] at moved
          split_ifs at moved with held
          cases moved
          exact .locks (.inl rfl) (eq_false_of_ne_true held)
      | woken =>
          simp only [Thread.move] at moved
          split_ifs at moved with held
          cases moved
          exact .locks (.inr rfl) (eq_false_of_ne_true held)
      | _ => cases moved
  | test =>
      cases place with
      | testing =>
          simp only [Thread.move] at moved
          split_ifs at moved with idle
          · cases moved
            simp only [Bool.and_eq_true, List.isEmpty_iff, Bool.not_eq_true'] at idle
            exact .waits rfl idle.1.1 idle.1.2 idle.2
          · cases moved
            refine .passes rfl ?_
            by_contra none
            push Not at none
            exact idle (by simp [none.1, none.2])
      | _ => cases moved
  | take =>
      cases place with
      | passed =>
          simp only [Thread.move] at moved
          split at moved
          · rename_i operation queue first stays
            cases moved
            rw [Bool.or_eq_false_iff] at stays
            exact .takes operation queue rfl first stays.1 stays.2
          · rename_i other
            cases moved
            refine .takesNothing rfl ?_
            by_contra none
            push Not at none
            obtain ⟨operation, queue, first⟩ := List.exists_cons_of_ne_nil none.1
            exact other operation queue first (by simp [none.2])
      | _ => cases moved
  | wakeSpuriously =>
      cases place with
      | waiting =>
          cases moved
          exact .wakes rfl
      | _ => cases moved
  | testCancel =>
      cases place with
      | returned operation =>
          simp only [Thread.move] at moved
          split_ifs at moved with leaves
          · cases moved
            exact .stops operation rfl leaves
          · rw [Bool.not_eq_true] at leaves
            cases operation with
            | none =>
                cases moved
                exact .again rfl leaves
            | some operation =>
                cases moved
                exact .executes operation rfl leaves
      | _ => cases moved
  | finish =>
      cases place with
      | executing operation =>
          cases moved
          exact .finishes operation rfl
      | _ => cases moved
  | beginDestroy =>
      simp only [Thread.move] at moved
      split_ifs at moved with notBegun
      cases moved
      exact .begins notBegun
  | join =>
      cases place with
      | stopped =>
          simp only [Thread.move] at moved
          split_ifs at moved with joining
          cases moved
          exact .joins rfl joining
      | _ => cases moved

/-- The steps, with the thread that they are about between the others. -/
inductive Step (kind : Kind) (state : State Operation) : Label Operation → State Operation → Prop
  | constructed : Step kind state .construct { state with threads := state.threads ++ [construct] }
  | pushed (operation : Operation) (free : state.shared.locked = false)
      (noneWaits : ∀ thread ∈ state.threads, thread.place.isWaiting = false) :
      Step kind state (.push operation none)
        { state with shared := { state.shared with
          queue := state.shared.queue ++ [operation]
          pushed := state.shared.pushed ++ [operation] } }
  | pushedWaking (operation : Operation) (index : Nat) (before after : List (Thread Operation))
      (thread : Thread Operation) (free : state.shared.locked = false)
      (split : state.threads = before ++ thread :: after)
      (waits : thread.place.isWaiting = true) :
      Step kind state (.push operation (some index))
        { shared := { state.shared with
            queue := state.shared.queue ++ [operation]
            pushed := state.shared.pushed ++ [operation] }
          threads := before ++ thread.wake :: after }
  | cancelled (free : state.shared.locked = false) :
      Step kind state .cancel ⟨state.shared.cancel, state.threads.map Thread.wake⟩
  | notified (index : Nat) (before after : List (Thread Operation)) (thread : Thread Operation)
      (free : state.shared.locked = false) (split : state.threads = before ++ thread :: after)
      (flagged : thread.destructor = .flagged) :
      Step kind state (.notifyDestroy index)
        { shared := if kind = .worker then state.shared else state.shared.cancel
          threads := (before ++ { thread with destructor := .joining } :: after).map
            Thread.wake }
  | moved (index : Nat) (move : Move) (before after : List (Thread Operation))
      (thread changed : Thread Operation) (shared : Queue Operation)
      (split : state.threads = before ++ thread :: after)
      (moves : thread.Moves kind state.shared move shared changed) :
      Step kind state (.thread index move) ⟨shared, before ++ changed :: after⟩

theorem exists_split {Element : Type} {elements : List Element} {index : Nat}
    {element : Element} (found : elements[index]? = some element) (changed : Element) :
    ∃ before after, elements = before ++ element :: after ∧
      elements.set index changed = before ++ changed :: after := by
  obtain ⟨inside, rfl⟩ := List.getElem?_eq_some_iff.mp found
  refine ⟨elements.take index, elements.drop (index + 1), ?_, ?_⟩
  · rw [List.getElem_cons_drop, List.take_append_drop]
  · exact List.set_eq_take_append_cons_drop.trans (if_pos inside)

theorem step_of_step {kind : Kind} {state next : State Operation} {label : Label Operation}
    (stepped : step kind state label = some next) : Step kind state label next := by
  cases label with
  | construct =>
      cases stepped
      exact .constructed
  | push operation woken =>
      simp only [step] at stepped
      split_ifs at stepped with held
      rw [Bool.not_eq_true] at held
      obtain ⟨threads, notified, rfl⟩ := Option.map_eq_some_iff.mp stepped
      cases woken with
      | none =>
          simp only [notifyOne] at notified
          split_ifs at notified with waits
          cases notified
          refine .pushed operation held ?_
          intro thread member
          rw [List.any_eq_true] at waits
          exact eq_false_of_ne_true fun waiting => waits ⟨thread, member, waiting⟩
      | some index =>
          simp only [notifyOne] at notified
          split at notified
          · cases notified
          · rename_i thread found
            split_ifs at notified with waits
            cases notified
            obtain ⟨before, after, split, changed⟩ := exists_split found thread.wake
            rw [changed]
            exact .pushedWaking operation index before after thread held split waits
  | cancel =>
      simp only [step] at stepped
      split_ifs at stepped with held
      cases stepped
      exact .cancelled (eq_false_of_ne_true held)
  | notifyDestroy index =>
      simp only [step] at stepped
      split at stepped
      · cases stepped
      · rename_i thread found
        split at stepped
        · rename_i ready
          cases stepped
          obtain ⟨before, after, split, changed⟩ :=
            exists_split found { thread with destructor := .joining }
          rw [changed]
          exact .notified index before after thread ready.1 split ready.2
        · cases stepped
  | thread index move =>
      simp only [step] at stepped
      obtain ⟨⟨shared, threads⟩, happened, rfl⟩ := Option.map_eq_some_iff.mp stepped
      obtain ⟨before, thread, changed, after, split, -, moved, rfl⟩ :=
        Parties.moveAt_eq_some happened
      exact .moved index move before after thread changed shared split (moves_of_move moved)

theorem step_thread_eq_some {kind : Kind} {state next : State Operation} {index : Nat}
    {move : Move} (stepped : step kind state (.thread index move) = some next) :
    ∃ thread changed shared, state.threads[index]? = some thread ∧
      thread.Moves kind state.shared move shared changed ∧
      next = ⟨shared, state.threads.set index changed⟩ := by
  simp only [step] at stepped
  obtain ⟨⟨shared, threads⟩, happened, rfl⟩ := Option.map_eq_some_iff.mp stepped
  obtain ⟨thread, found, happened⟩ := Option.bind_eq_some_iff.mp happened
  obtain ⟨⟨store, changed⟩, moved, equal⟩ := Option.map_eq_some_iff.mp happened
  cases equal
  exact ⟨thread, changed, store, found, moves_of_move moved, rfl⟩

end PCQueue

end WarheadBot
