import WarheadBot.GuardedRuns
import WarheadBot.OrderedQueue

/-!
# The task scheduler

A `TaskScheduler` owns a multiset of shared `Task` objects ordered by their
member `_end`, and a queue of asynchronous callables.  `Update` runs the
callables first and then every task that has ended.  The handler of a task is
given a `TaskContext`, which may be copied and stored; all copies share one
flag that says whether the task was repeated from them.

Task objects are kept in a heap and named by their addresses, and a context is
named by its number, whichever copy of it is used.  A callable is named by the
number of the `Async` call that registered it.  Times and durations count clock
ticks.
-/

namespace WarheadBot

namespace TaskScheduling

open OrderedQueue

abbrev Group := UInt32

structure Task where
  endsAt : Int
  duration : Int
  group : Option Group
  repeated : UInt32
  handler : Nat
  deriving DecidableEq, Repr

def Task.isInGroup (group : Group) (task : Task) : Bool := task.group = some group

def Task.delay (duration : Int) (task : Task) : Task :=
  { task with endsAt := task.endsAt + duration }

def Task.rescheduleTo (time : Int) (task : Task) : Task :=
  { task with endsAt := time }

/-- A context and its copies: the associated task and the shared flag. -/
structure TaskContext where
  task : Nat
  consumed : Bool
  deriving DecidableEq, Repr

structure TaskScheduler where
  now : Int
  tasks : Nat → Task
  nextTask : Nat
  taskHolder : List Nat
  asyncHolder : List Nat
  nextAsync : Nat
  contexts : List TaskContext

namespace TaskScheduler

def endOf (tasks : Nat → Task) (task : Nat) : Int := (tasks task).endsAt

/-- `InsertTask`: the container compares the tasks by what they end at. -/
def insertTask (task : Nat) (scheduler : TaskScheduler) : TaskScheduler :=
  { scheduler with
    taskHolder := push (endOf scheduler.tasks) task scheduler.taskHolder }

/-- `ScheduleAt`: a new task object, not repeated yet. -/
def scheduleAt (base time : Int) (group : Option Group) (handler : Nat)
    (scheduler : TaskScheduler) : TaskScheduler :=
  insertTask scheduler.nextTask
    { scheduler with
      tasks := Function.update scheduler.tasks scheduler.nextTask
        ⟨base + time, time, group, 0, handler⟩
      nextTask := scheduler.nextTask + 1 }

def removeIf (filter : Task → Bool) (scheduler : TaskScheduler) : TaskScheduler :=
  { scheduler with
    taskHolder := scheduler.taskHolder.filter fun task => !filter (scheduler.tasks task) }

/-- The loop of `ModifyIf` over the container: the filter changes the tasks it
accepts, which move to the cache.  The result is the heap, what is left in the
container, and the cache. -/
def modifyLoop (filter : Task → Bool) (change : Task → Task) :
    List Nat → (Nat → Task) → (Nat → Task) × List Nat × List Nat
  | [], tasks => (tasks, [], [])
  | task :: rest, tasks =>
      if filter (tasks task) then
        let (final, kept, cache) :=
          modifyLoop filter change rest (Function.update tasks task (change (tasks task)))
        (final, kept, task :: cache)
      else
        let (final, kept, cache) := modifyLoop filter change rest tasks
        (final, task :: kept, cache)

def modifyIf (filter : Task → Bool) (change : Task → Task) (scheduler : TaskScheduler) :
    TaskScheduler :=
  let (tasks, kept, cache) := modifyLoop filter change scheduler.taskHolder scheduler.tasks
  { scheduler with
    tasks := tasks
    taskHolder := pushAll (endOf tasks) cache kept }

def async (scheduler : TaskScheduler) : TaskScheduler :=
  { scheduler with
    asyncHolder := scheduler.asyncHolder ++ [scheduler.nextAsync]
    nextAsync := scheduler.nextAsync + 1 }

def cancelAll (scheduler : TaskScheduler) : TaskScheduler :=
  { scheduler with
    taskHolder := []
    asyncHolder := [] }

def cancelGroup (group : Group) (scheduler : TaskScheduler) : TaskScheduler :=
  scheduler.removeIf (Task.isInGroup group)

def cancelGroupsOf (groups : List Group) (scheduler : TaskScheduler) : TaskScheduler :=
  groups.foldl (fun current group => current.cancelGroup group) scheduler

def delayAll (duration : Int) (scheduler : TaskScheduler) : TaskScheduler :=
  scheduler.modifyIf (fun _ => true) (Task.delay duration)

def delayGroup (group : Group) (duration : Int) (scheduler : TaskScheduler) : TaskScheduler :=
  scheduler.modifyIf (Task.isInGroup group) (Task.delay duration)

def rescheduleAll (duration : Int) (scheduler : TaskScheduler) : TaskScheduler :=
  scheduler.modifyIf (fun _ => true) (Task.rescheduleTo (scheduler.now + duration))

def rescheduleGroup (group : Group) (duration : Int) (scheduler : TaskScheduler) :
    TaskScheduler :=
  scheduler.modifyIf (Task.isInGroup group) (Task.rescheduleTo (scheduler.now + duration))

/-- `TaskContext::Repeat`; without an argument it keeps the duration.  The
assertion fails if the context was consumed. -/
def repeatTask (context : Nat) (duration : Option Int) (scheduler : TaskScheduler) :
    Option TaskScheduler :=
  match scheduler.contexts[context]? with
  | none => none
  | some found =>
      if found.consumed then none
      else
        let task := scheduler.tasks found.task
        let time := duration.getD task.duration
        some (insertTask found.task
          { scheduler with
            tasks := Function.update scheduler.tasks found.task
              { task with
                duration := time
                endsAt := task.endsAt + time
                repeated := task.repeated + 1 }
            contexts := scheduler.contexts.set context { found with consumed := true } })

/-- `TaskContext::SetGroup` and `ClearGroup`. -/
def setGroup (context : Nat) (group : Option Group) (scheduler : TaskScheduler) :
    Option TaskScheduler :=
  (scheduler.contexts[context]?).map fun found =>
    { scheduler with
      tasks := Function.update scheduler.tasks found.task
        { scheduler.tasks found.task with group := group } }

/-- `TaskContext::Schedule`, relative to the end of the associated task. -/
def contextSchedule (context : Nat) (time : Int) (group : Option Group) (handler : Nat)
    (scheduler : TaskScheduler) : Option TaskScheduler :=
  (scheduler.contexts[context]?).map fun found =>
    scheduler.scheduleAt (scheduler.tasks found.task).endsAt time group handler

/-- What outside code, a callable or a handler may do to the scheduler, through
the scheduler itself or through a context. -/
inductive Action
  | schedule (time : Int) (group : Option Group) (handler : Nat)
  | contextSchedule (context : Nat) (time : Int) (group : Option Group) (handler : Nat)
  | repeatTask (context : Nat) (duration : Option Int)
  | setGroup (context : Nat) (group : Option Group)
  | async
  | cancelAll
  | cancelGroup (group : Group)
  | cancelGroupsOf (groups : List Group)
  | delayAll (duration : Int)
  | delayGroup (group : Group) (duration : Int)
  | rescheduleAll (duration : Int)
  | rescheduleGroup (group : Group) (duration : Int)
  deriving DecidableEq, Repr

/-- An action that fails an assertion, or uses a context that does not exist,
has no result. -/
def perform (scheduler : TaskScheduler) : Action → Option TaskScheduler
  | .schedule time group handler =>
      some (scheduler.scheduleAt scheduler.now time group handler)
  | .contextSchedule context time group handler =>
      scheduler.contextSchedule context time group handler
  | .repeatTask context duration => scheduler.repeatTask context duration
  | .setGroup context group => scheduler.setGroup context group
  | .async => some scheduler.async
  | .cancelAll => some scheduler.cancelAll
  | .cancelGroup group => some (scheduler.cancelGroup group)
  | .cancelGroupsOf groups => some (scheduler.cancelGroupsOf groups)
  | .delayAll duration => some (scheduler.delayAll duration)
  | .delayGroup group duration => some (scheduler.delayGroup group duration)
  | .rescheduleAll duration => some (scheduler.rescheduleAll duration)
  | .rescheduleGroup group duration => some (scheduler.rescheduleGroup group duration)

def performAll (scheduler : TaskScheduler) : List Action → Option TaskScheduler
  | [] => some scheduler
  | action :: actions => (scheduler.perform action).bind fun next => next.performAll actions

/-- Only `Async` and `CancelAll` concern the callables. -/
theorem perform_asyncs {scheduler next : TaskScheduler} {action : Action}
    (performed : scheduler.perform action = some next) (notAsync : action ≠ .async)
    (notCancel : action ≠ .cancelAll) :
    next.asyncHolder = scheduler.asyncHolder ∧ next.nextAsync = scheduler.nextAsync := by
  cases action with
  | schedule time group handler =>
      cases performed
      exact ⟨rfl, rfl⟩
  | contextSchedule context time group handler =>
      obtain ⟨found, _, rfl⟩ := Option.map_eq_some_iff.mp performed
      exact ⟨rfl, rfl⟩
  | repeatTask context duration =>
      simp only [perform, repeatTask] at performed
      split at performed
      · cases performed
      · split_ifs at performed
        cases performed
        exact ⟨rfl, rfl⟩
  | setGroup context group =>
      obtain ⟨found, _, rfl⟩ := Option.map_eq_some_iff.mp performed
      exact ⟨rfl, rfl⟩
  | async => exact absurd rfl notAsync
  | cancelAll => exact absurd rfl notCancel
  | cancelGroup group =>
      cases performed
      exact ⟨rfl, rfl⟩
  | cancelGroupsOf groups =>
      cases performed
      induction groups generalizing scheduler with
      | nil => exact ⟨rfl, rfl⟩
      | cons group groups ih => exact @ih (scheduler.cancelGroup group) (by simp) (by simp)
  | delayAll duration =>
      cases performed
      exact ⟨rfl, rfl⟩
  | delayGroup group duration =>
      cases performed
      exact ⟨rfl, rfl⟩
  | rescheduleAll duration =>
      cases performed
      exact ⟨rfl, rfl⟩
  | rescheduleGroup group duration =>
      cases performed
      exact ⟨rfl, rfl⟩

/-- The first task, if it has ended. -/
def due (scheduler : TaskScheduler) : Option Nat :=
  match scheduler.taskHolder with
  | [] => none
  | first :: _ => if (scheduler.tasks first).endsAt > scheduler.now then none else some first

/-- `Pop`, and the new context for the task. -/
def popTask (task : Nat) (scheduler : TaskScheduler) : TaskScheduler :=
  { scheduler with
    taskHolder := scheduler.taskHolder.tail
    contexts := scheduler.contexts ++ [⟨task, false⟩] }

/-- `_now += difftime`. -/
def advance (difftime : Int) (scheduler : TaskScheduler) : TaskScheduler :=
  { scheduler with now := scheduler.now + difftime }

end TaskScheduler

open TaskScheduler

/-- Where `Dispatch` stands: outside, in the loop over the callables or inside
one of them, in the loop over the tasks or inside a handler; or it has popped
an empty queue. -/
inductive Phase
  | idle
  | asyncs
  | inAsync
  | tasks
  | inTask
  | poppedEmpty
  deriving DecidableEq, Repr

structure Machine where
  scheduler : TaskScheduler
  phase : Phase

/-- The steps of `Update` and what happens between them.  The validator is
asked by the steps that carry its answer. -/
inductive Label
  | update (difftime : Int) (valid : Bool)
  | act (action : Action)
  | runAsync
  | popAsync (valid : Bool)
  | asyncsDone
  | runTask
  | taskDone (valid : Bool)
  | finish
  deriving DecidableEq, Repr

def step (machine : Machine) : Label → Option Machine
  | .update difftime valid =>
      if machine.phase = .idle then
        some ⟨machine.scheduler.advance difftime, if valid then .asyncs else .idle⟩
      else none
  | .act action =>
      if machine.phase = .idle ∨ machine.phase = .inAsync ∨ machine.phase = .inTask then
        (machine.scheduler.perform action).map fun next => ⟨next, machine.phase⟩
      else none
  | .runAsync =>
      if machine.phase = .asyncs ∧ machine.scheduler.asyncHolder ≠ [] then
        some ⟨machine.scheduler, .inAsync⟩
      else none
  | .popAsync valid =>
      if machine.phase = .inAsync then
        match machine.scheduler.asyncHolder with
        | [] => some ⟨machine.scheduler, .poppedEmpty⟩
        | _ :: rest =>
            some ⟨{ machine.scheduler with asyncHolder := rest },
              if valid then .asyncs else .idle⟩
      else none
  | .asyncsDone =>
      if machine.phase = .asyncs ∧ machine.scheduler.asyncHolder = [] then
        some ⟨machine.scheduler, .tasks⟩
      else none
  | .runTask =>
      if machine.phase = .tasks then
        machine.scheduler.due.map fun task => ⟨machine.scheduler.popTask task, .inTask⟩
      else none
  | .taskDone valid =>
      if machine.phase = .inTask then
        some ⟨machine.scheduler, if valid then .tasks else .idle⟩
      else none
  | .finish =>
      if machine.phase = .tasks ∧ machine.scheduler.due = none then
        some ⟨machine.scheduler, .idle⟩
      else none

/-- An empty scheduler; the heap holds nothing that is used. -/
def TaskScheduler.start (now : Int) : TaskScheduler :=
  ⟨now, fun _ => ⟨0, 0, none, 0, 0⟩, 0, [], [], 0, []⟩

def Machine.start (now : Int) : Machine := ⟨TaskScheduler.start now, .idle⟩

/-- What one step can do. -/
inductive Moves : Machine → Label → Machine → Prop
  | update (scheduler : TaskScheduler) (difftime : Int) (valid : Bool) :
      Moves ⟨scheduler, .idle⟩ (.update difftime valid)
        ⟨scheduler.advance difftime, if valid then .asyncs else .idle⟩
  | act (scheduler next : TaskScheduler) (phase : Phase) (action : Action)
      (performed : scheduler.perform action = some next) :
      Moves ⟨scheduler, phase⟩ (.act action) ⟨next, phase⟩
  | runAsync (scheduler : TaskScheduler) (held : scheduler.asyncHolder ≠ []) :
      Moves ⟨scheduler, .asyncs⟩ .runAsync ⟨scheduler, .inAsync⟩
  | popEmpty (scheduler : TaskScheduler) (valid : Bool) (empty : scheduler.asyncHolder = []) :
      Moves ⟨scheduler, .inAsync⟩ (.popAsync valid) ⟨scheduler, .poppedEmpty⟩
  | popAsync (scheduler : TaskScheduler) (front : Nat) (rest : List Nat) (valid : Bool)
      (held : scheduler.asyncHolder = front :: rest) :
      Moves ⟨scheduler, .inAsync⟩ (.popAsync valid)
        ⟨{ scheduler with asyncHolder := rest }, if valid then .asyncs else .idle⟩
  | asyncsDone (scheduler : TaskScheduler) (empty : scheduler.asyncHolder = []) :
      Moves ⟨scheduler, .asyncs⟩ .asyncsDone ⟨scheduler, .tasks⟩
  | runTask (scheduler : TaskScheduler) (task : Nat) (isDue : scheduler.due = some task) :
      Moves ⟨scheduler, .tasks⟩ .runTask ⟨scheduler.popTask task, .inTask⟩
  | taskDone (scheduler : TaskScheduler) (valid : Bool) :
      Moves ⟨scheduler, .inTask⟩ (.taskDone valid)
        ⟨scheduler, if valid then .tasks else .idle⟩
  | finish (scheduler : TaskScheduler) (noneDue : scheduler.due = none) :
      Moves ⟨scheduler, .tasks⟩ .finish ⟨scheduler, .idle⟩

theorem moves_of_step {machine next : Machine} {label : Label}
    (moved : step machine label = some next) : Moves machine label next := by
  obtain ⟨scheduler, phase⟩ := machine
  cases label with
  | update difftime valid =>
      rw [step] at moved
      split at moved
      · rename_i idle
        cases idle
        cases moved
        exact .update scheduler difftime valid
      · cases moved
  | act action =>
      rw [step] at moved
      split at moved
      · obtain ⟨result, performed, rfl⟩ := Option.map_eq_some_iff.mp moved
        exact .act scheduler result phase action performed
      · cases moved
  | runAsync =>
      rw [step] at moved
      split at moved
      · rename_i loop
        obtain ⟨rfl, held⟩ := loop
        cases moved
        exact .runAsync scheduler held
      · cases moved
  | popAsync valid =>
      rw [step] at moved
      split at moved
      · rename_i running
        cases running
        split at moved
        · rename_i empty
          cases moved
          exact .popEmpty scheduler valid empty
        · rename_i front rest held
          cases moved
          exact .popAsync scheduler front rest valid held
      · cases moved
  | asyncsDone =>
      rw [step] at moved
      split at moved
      · rename_i loop
        obtain ⟨rfl, empty⟩ := loop
        cases moved
        exact .asyncsDone scheduler empty
      · cases moved
  | runTask =>
      rw [step] at moved
      split at moved
      · rename_i loop
        cases loop
        obtain ⟨task, isDue, rfl⟩ := Option.map_eq_some_iff.mp moved
        exact .runTask scheduler task isDue
      · cases moved
  | taskDone valid =>
      rw [step] at moved
      split at moved
      · rename_i running
        cases running
        cases moved
        exact .taskDone scheduler valid
      · cases moved
  | finish =>
      rw [step] at moved
      split at moved
      · rename_i loop
        obtain ⟨rfl, noneDue⟩ := loop
        cases moved
        exact .finish scheduler noneDue
      · cases moved

end TaskScheduling

end WarheadBot
