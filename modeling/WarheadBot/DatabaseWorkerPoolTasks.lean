import Mathlib.Data.PNat.Basic
import WarheadBot.TaskSchedulerQueue
import WarheadBot.TaskSchedulerUpdate

/-!
# The tasks of a worker pool

A `DatabaseWorkerPool` schedules three tasks, and each of them repeats itself:
the ping, the cleanup of the dynamic connections and the check of the queue.
The loop of `Update` looks at the queue again after every task, so it ends only
because the end of a repeated task moves on.

The scheduler counts nanoseconds in 64 bits.  Times never fall, and a state
with a time that is not representable is one that the source does not define.
-/

namespace WarheadBot

namespace TaskScheduling

open OrderedQueue
open TaskScheduler

namespace DatabaseWorkerPool

def milliseconds (count : Nat) : Int := count * 1000000

def seconds (count : Nat) : Int := milliseconds (count * 1000)

def minutes (count : Nat) : Int := seconds (count * 60)

/-- The greatest time of the clock. -/
def maxTicks : Int := 2 ^ 63 - 1

/-- `AddTasks`; the assertion is about the size of the queue. -/
def addTasks (maxQueueSize maxPingTime : UInt32) (scheduler : TaskScheduler) :
    Option TaskScheduler :=
  if maxQueueSize < 10 then none
  else
    some (((scheduler.scheduleAt scheduler.now (minutes maxPingTime.toNat) none 0).scheduleAt
      scheduler.now (seconds 10) none 1).scheduleAt scheduler.now (seconds 1) none 2)

/-- What the handlers do to the scheduler. -/
def repeats (run : HandlerRun) : List Action :=
  match run.handler with
  | 0 => [.repeatTask run.context none]
  | 1 => [.repeatTask run.context (some (seconds 1))]
  | _ => [.repeatTask run.context (some (seconds 5))]

def program : Program :=
  ⟨fun _ => [], fun trace _ => (trace.getLast?.map repeats).getD []⟩

/-- The time and the ends of the tasks fit into the clock. -/
def Representable (scheduler : TaskScheduler) : Prop :=
  scheduler.now ≤ maxTicks ∧
    ∀ task ∈ scheduler.taskHolder, (scheduler.tasks task).endsAt ≤ maxTicks

/-- Every one of the calls of `Update` with a positive difference comes to an
end, without an overflow. -/
def Terminates : List ℕ+ → TaskScheduler → List HandlerRun → Prop
  | [], _, _ => True
  | diff :: diffs, scheduler, trace =>
      ∃ fuel result, program.update fuel (milliseconds diff) scheduler trace = some result ∧
        Representable result.1 ∧ Terminates diffs result.1 result.2

/-- When a task is run for the first time, and the time between two runs. -/
structure Timer where
  delay : Int
  period : Int
  deriving DecidableEq, Repr

def timer (maxPingTime : UInt32) : Nat → Timer
  | 0 => ⟨minutes maxPingTime.toNat, minutes maxPingTime.toNat⟩
  | 1 => ⟨seconds 10, seconds 1⟩
  | _ => ⟨seconds 1, seconds 5⟩

def Timer.round (timer : Timer) (start : Int) (rounds : Nat) : Int :=
  start + timer.delay + rounds * timer.period

/-- The timer has a next round after this time that the clock can represent. -/
def Timer.Fits (timer : Timer) (start now : Int) : Prop :=
  ∃ rounds, now < timer.round start rounds ∧ timer.round start rounds ≤ maxTicks

/-- The end of a task is one of the rounds of its timer, and the round before
it is over. -/
def Timer.OnSchedule (timer : Timer) (start now endsAt : Int) : Prop :=
  ∃ rounds : Nat, endsAt = timer.round start rounds ∧
    (rounds = 0 ∨ endsAt - timer.period ≤ now)

theorem round_succ (timer : Timer) (start : Int) (rounds : Nat) :
    timer.round start (rounds + 1) = timer.round start rounds + timer.period := by
  rw [Timer.round, Timer.round, Int.natCast_succ, Int.add_mul, Int.one_mul]
  omega

theorem round_le {timer : Timer} (positive : 0 < timer.period) (start : Int)
    {first second : Nat} (before : first ≤ second) :
    timer.round start first ≤ timer.round start second := by
  have product : (first : Int) * timer.period ≤ second * timer.period :=
    Int.mul_le_mul_of_nonneg_right (by omega) positive.le
  simp only [Timer.round]
  omega

theorem lt_of_round_lt {timer : Timer} (positive : 0 < timer.period) {start : Int}
    {first second : Nat} (before : timer.round start first < timer.round start second) :
    first < second := by
  by_contra notBefore
  have reversed := round_le positive start (Nat.le_of_not_lt notBefore)
  omega

/-- The end of a task that is not due is representable if some later round is. -/
theorem fits_iff {timer : Timer} (positive : 0 < timer.period) {start now endsAt : Int}
    (onSchedule : timer.OnSchedule start now endsAt) (notDue : now < endsAt) :
    timer.Fits start now ↔ endsAt ≤ maxTicks := by
  obtain ⟨rounds, rfl, first⟩ := onSchedule
  constructor
  · rintro ⟨other, later, fits⟩
    have notBefore : rounds ≤ other := by
      rcases first with rfl | passed
      · exact Nat.zero_le other
      · cases rounds with
        | zero => exact Nat.zero_le other
        | succ rounds =>
            rw [round_succ] at passed
            have before : timer.round start rounds < timer.round start other := by omega
            exact lt_of_round_lt positive before
    exact (round_le positive start notBefore).trans fits
  · intro fits
    exact ⟨rounds, notDue, fits⟩

theorem fits_mono {timer : Timer} {start now later : Int} (fits : timer.Fits start later)
    (before : now ≤ later) : timer.Fits start now := by
  obtain ⟨rounds, after, representable⟩ := fits
  exact ⟨rounds, before.trans_lt after, representable⟩

/-- The three tasks are in the queue, each on its schedule, and the ping still
has the duration it was scheduled with. -/
structure Repeating (maxPingTime : UInt32) (start : Int) (scheduler : TaskScheduler) : Prop where
  consistent : Consistent scheduler
  noAsyncs : scheduler.asyncHolder = []
  held : ∀ task, task ∈ scheduler.taskHolder ↔ task < 3
  handler : ∀ task < 3, (scheduler.tasks task).handler = task
  duration : (scheduler.tasks 0).duration = (timer maxPingTime 0).period
  onSchedule : ∀ task < 3,
    (timer maxPingTime task).OnSchedule start scheduler.now (scheduler.tasks task).endsAt

/-- The scheduler after a due task has repeated itself. -/
def repeated (task : Nat) (time : Int) (scheduler : TaskScheduler) : TaskScheduler :=
  insertTask task
    { scheduler.popTask task with
      tasks := Function.update scheduler.tasks task
        { scheduler.tasks task with
          duration := time
          endsAt := (scheduler.tasks task).endsAt + time
          repeated := (scheduler.tasks task).repeated + 1 }
      contexts := scheduler.contexts ++ [⟨task, true⟩] }

theorem repeatTask_popTask (scheduler : TaskScheduler) (task : Nat) (duration : Option Int) :
    (scheduler.popTask task).repeatTask scheduler.contexts.length duration =
      some (repeated task (duration.getD (scheduler.tasks task).duration) scheduler) := by
  simp [repeatTask, popTask, repeated]

variable {maxPingTime : UInt32} {start : Int} {scheduler : TaskScheduler}

/-- Each handler repeats its task with the period of its timer. -/
theorem performAll_repeats (repeating : Repeating maxPingTime start scheduler) {task : Nat}
    (isTask : task < 3) (trace : List HandlerRun) :
    (scheduler.popTask task).performAll (program.handlers
        (trace ++ [⟨task, (scheduler.tasks task).handler, scheduler.contexts.length⟩])
        (scheduler.popTask task).tasks) =
      some (repeated task (timer maxPingTime task).period scheduler) := by
  have handler := repeating.handler task isTask
  have duration := repeating.duration
  simp only [program, List.getLast?_append, List.getLast?_singleton, Option.some_or,
    Option.map_some, Option.getD_some, handler]
  match task, isTask with
  | 0, _ =>
      simp only [repeats, performAll, perform, repeatTask_popTask, Option.bind_some,
        Option.getD_none, duration]
  | 1, _ =>
      simp only [repeats, performAll, perform, repeatTask_popTask, Option.bind_some,
        Option.getD_some, timer]
  | 2, _ =>
      simp only [repeats, performAll, perform, repeatTask_popTask, Option.bind_some,
        Option.getD_some, timer]

theorem repeated_tasks (task : Nat) (time : Int) (scheduler : TaskScheduler) :
    (repeated task time scheduler).tasks = Function.update scheduler.tasks task
      { scheduler.tasks task with
        duration := time
        endsAt := (scheduler.tasks task).endsAt + time
        repeated := (scheduler.tasks task).repeated + 1 } :=
  rfl

theorem endsAt_repeated (task : Nat) (time : Int) (scheduler : TaskScheduler) (other : Nat) :
    ((repeated task time scheduler).tasks other).endsAt =
      if other = task then (scheduler.tasks other).endsAt + time
      else (scheduler.tasks other).endsAt := by
  rw [repeated_tasks]
  split_ifs with same
  · subst same
    simp
  · rw [Function.update_of_ne same]

theorem onSchedule_mono {timer : Timer} {start now later endsAt : Int}
    (onSchedule : timer.OnSchedule start now endsAt) (before : now ≤ later) :
    timer.OnSchedule start later endsAt := by
  obtain ⟨rounds, isRound, ended⟩ := onSchedule
  exact ⟨rounds, isRound, ended.imp_right fun reached => reached.trans before⟩

theorem onSchedule_next {timer : Timer} {start now endsAt : Int}
    (onSchedule : timer.OnSchedule start now endsAt) (isDue : endsAt ≤ now) :
    timer.OnSchedule start now (endsAt + timer.period) := by
  obtain ⟨rounds, rfl, _⟩ := onSchedule
  refine ⟨rounds + 1, (round_succ timer start rounds).symm, .inr ?_⟩
  omega

theorem repeating_repeated (repeating : Repeating maxPingTime start scheduler) {task : Nat}
    (isDue : scheduler.due = some task) :
    Repeating maxPingTime start
      (repeated task (timer maxPingTime task).period scheduler) := by
  obtain ⟨rest, held, ended⟩ := due_eq_some isDue
  have isTask : task < 3 := (repeating.held task).mp (by simp [held])
  have again : (scheduler.popTask task).repeatTask scheduler.contexts.length
      (some (timer maxPingTime task).period) =
        some (repeated task (timer maxPingTime task).period scheduler) :=
    repeatTask_popTask scheduler task _
  refine ⟨?_, repeating.noAsyncs, ?_, ?_, ?_, ?_⟩
  · exact consistent_repeatTask (consistent_popTask repeating.consistent held) again
  · intro other
    rw [mem_repeatTask again, ← repeating.held other, popTask, held]
    simp [eq_comm, or_comm]
  · intro other isOther
    rw [repeated_tasks]
    by_cases same : other = task
    · subst same
      simpa using repeating.handler other isOther
    · rw [Function.update_of_ne same]
      exact repeating.handler other isOther
  · rw [repeated_tasks]
    by_cases same : 0 = task
    · subst same
      simp
    · rw [Function.update_of_ne same]
      exact repeating.duration
  · intro other isOther
    rw [endsAt_repeated]
    split_ifs with same
    · subst same
      exact onSchedule_next (repeating.onSchedule other isOther) ended
    · exact repeating.onSchedule other isOther

/-- One round of the loop. -/
theorem dispatchTasks_due (repeating : Repeating maxPingTime start scheduler) {task : Nat}
    (isDue : scheduler.due = some task) (fuel : Nat) (trace : List HandlerRun) :
    ∃ longer, program.dispatchTasks (fuel + 1) scheduler trace =
      program.dispatchTasks fuel (repeated task (timer maxPingTime task).period scheduler)
        longer := by
  obtain ⟨rest, held, _⟩ := due_eq_some isDue
  have isTask : task < 3 := (repeating.held task).mp (by simp [held])
  refine ⟨trace ++ [⟨task, (scheduler.tasks task).handler, scheduler.contexts.length⟩], ?_⟩
  rw [Program.dispatchTasks, isDue]
  dsimp only
  rw [performAll_repeats repeating isTask, Option.bind_some]

/-- Nothing is due exactly if all three tasks end later. -/
theorem due_eq_none_iff (repeating : Repeating maxPingTime start scheduler) :
    scheduler.due = none ↔ ∀ task < 3, scheduler.now < (scheduler.tasks task).endsAt := by
  cases isHeld : scheduler.taskHolder with
  | nil =>
      have member := (repeating.held 0).mpr (by omega)
      rw [isHeld] at member
      cases member
  | cons first rest =>
      have isFirst : first < 3 := (repeating.held first).mp (by simp [isHeld])
      have ordered := repeating.consistent.ordered
      rw [isHeld] at ordered
      rw [due, isHeld]
      dsimp only
      constructor
      · intro noneDue task isTask
        split_ifs at noneDue with early
        have member := (repeating.held task).mpr isTask
        rw [isHeld] at member
        rcases List.mem_cons.mp member with rfl | later
        · exact early
        · have notBefore := (List.pairwise_cons.mp ordered).1 task later
          simp only [endOf] at notBefore
          omega
      · intro later
        exact if_pos (later first isFirst)

theorem dispatchTasks_result (repeating : Repeating maxPingTime start scheduler) {fuel : Nat}
    {trace : List HandlerRun} {result : TaskScheduler × List HandlerRun}
    (dispatched : program.dispatchTasks fuel scheduler trace = some result) :
    Repeating maxPingTime start result.1 ∧ result.1.now = scheduler.now ∧
      result.1.due = none := by
  induction fuel generalizing scheduler trace with
  | zero => cases dispatched
  | succ fuel ih =>
      cases isDue : scheduler.due with
      | none =>
          rw [Program.dispatchTasks, isDue] at dispatched
          cases dispatched
          exact ⟨repeating, rfl, isDue⟩
      | some task =>
          obtain ⟨longer, continues⟩ := dispatchTasks_due repeating isDue fuel trace
          rw [continues] at dispatched
          obtain ⟨stillRepeating, sameTime, noneDue⟩ :=
            ih (repeating_repeated repeating isDue) dispatched
          exact ⟨stillRepeating, sameTime, noneDue⟩

/-- How far the end of a task lies back. -/
def lag (scheduler : TaskScheduler) (task : Nat) : Nat :=
  (scheduler.now + 1 - (scheduler.tasks task).endsAt).toNat

def backlog (scheduler : TaskScheduler) : Nat :=
  lag scheduler 0 + lag scheduler 1 + lag scheduler 2

theorem lag_repeated_of_ne {task other : Nat} (differs : other ≠ task) (time : Int) :
    lag (repeated task time scheduler) other = lag scheduler other := by
  rw [lag, endsAt_repeated, if_neg differs]
  rfl

theorem lag_repeated_lt {task : Nat} {time : Int} (positive : 0 < time)
    (ended : (scheduler.tasks task).endsAt ≤ scheduler.now) :
    lag (repeated task time scheduler) task < lag scheduler task := by
  have sameTime : (repeated task time scheduler).now = scheduler.now := rfl
  rw [lag, lag, endsAt_repeated, if_pos rfl, sameTime]
  omega

/-- The backlog falls in every round if the period is positive. -/
theorem backlog_repeated_lt {task : Nat} {time : Int} (positive : 0 < time) (isTask : task < 3)
    (ended : (scheduler.tasks task).endsAt ≤ scheduler.now) :
    backlog (repeated task time scheduler) < backlog scheduler := by
  have falls := lag_repeated_lt positive ended
  rw [backlog, backlog]
  match task, isTask with
  | 0, _ =>
      rw [lag_repeated_of_ne (show 1 ≠ 0 by omega), lag_repeated_of_ne (show 2 ≠ 0 by omega)]
      omega
  | 1, _ =>
      rw [lag_repeated_of_ne (show 0 ≠ 1 by omega), lag_repeated_of_ne (show 2 ≠ 1 by omega)]
      omega
  | 2, _ =>
      rw [lag_repeated_of_ne (show 0 ≠ 2 by omega), lag_repeated_of_ne (show 1 ≠ 2 by omega)]
      omega

theorem period_pos (pings : 0 < maxPingTime.toNat) (task : Nat) :
    0 < (timer maxPingTime task).period := by
  match task with
  | 0 =>
      simp only [timer, minutes, seconds, milliseconds]
      omega
  | 1 =>
      simp only [timer, seconds, milliseconds]
      omega
  | task + 2 =>
      simp only [timer, seconds, milliseconds]
      omega

/-- The loop ends if the ping has a positive period. -/
theorem exists_dispatchTasks (repeating : Repeating maxPingTime start scheduler)
    (pings : 0 < maxPingTime.toNat) {fuel : Nat} (enough : backlog scheduler < fuel)
    (trace : List HandlerRun) :
    ∃ result, program.dispatchTasks fuel scheduler trace = some result := by
  induction fuel generalizing scheduler trace with
  | zero => omega
  | succ fuel ih =>
      cases isDue : scheduler.due with
      | none =>
          refine ⟨(scheduler, trace), ?_⟩
          rw [Program.dispatchTasks, isDue]
      | some task =>
          obtain ⟨rest, held, ended⟩ := due_eq_some isDue
          have isTask : task < 3 := (repeating.held task).mp (by simp [held])
          have falls := backlog_repeated_lt (period_pos pings task) isTask ended
          obtain ⟨longer, continues⟩ := dispatchTasks_due repeating isDue fuel trace
          rw [continues]
          exact ih (repeating_repeated repeating isDue) (by omega) longer

/-- The loop never ends if a task is due that is repeated at once. -/
theorem dispatchTasks_eq_none (repeating : Repeating maxPingTime start scheduler)
    (atOnce : (timer maxPingTime 0).period = 0)
    (ended : (scheduler.tasks 0).endsAt ≤ scheduler.now) (fuel : Nat)
    (trace : List HandlerRun) : program.dispatchTasks fuel scheduler trace = none := by
  induction fuel generalizing scheduler trace with
  | zero => rfl
  | succ fuel ih =>
      cases isDue : scheduler.due with
      | none =>
          have later := (due_eq_none_iff repeating).mp isDue 0 (by omega)
          omega
      | some task =>
          obtain ⟨longer, continues⟩ := dispatchTasks_due repeating isDue fuel trace
          rw [continues]
          refine ih (repeating_repeated repeating isDue) ?_ longer
          have sameTime :
              (repeated task (timer maxPingTime task).period scheduler).now = scheduler.now := rfl
          rw [endsAt_repeated, sameTime]
          split_ifs with same
          · rw [← same, atOnce]
            omega
          · exact ended

theorem repeating_atTime (repeating : Repeating maxPingTime start scheduler) {later : Int}
    (before : scheduler.now ≤ later) :
    Repeating maxPingTime start (scheduler.atTime later) where
  consistent := repeating.consistent.of_same rfl rfl rfl rfl
  noAsyncs := repeating.noAsyncs
  held := repeating.held
  handler := repeating.handler
  duration := repeating.duration
  onSchedule := fun task isTask => onSchedule_mono (repeating.onSchedule task isTask) before

/-- After an update no overflow has occurred exactly if the timers fit. -/
theorem representable_iff (repeating : Repeating maxPingTime start scheduler)
    (pings : 0 < maxPingTime.toNat) (noneDue : scheduler.due = none) :
    Representable scheduler ↔
      ∀ task < 3, (timer maxPingTime task).Fits start scheduler.now := by
  have later := (due_eq_none_iff repeating).mp noneDue
  have fits : ∀ task < 3, ((timer maxPingTime task).Fits start scheduler.now ↔
      (scheduler.tasks task).endsAt ≤ maxTicks) := fun task isTask =>
    fits_iff (period_pos pings task) (repeating.onSchedule task isTask) (later task isTask)
  constructor
  · rintro ⟨_, representable⟩ task isTask
    exact (fits task isTask).mpr (representable task ((repeating.held task).mpr isTask))
  · intro allFit
    refine ⟨?_, ?_⟩
    · exact ((later 0 (by omega)).le).trans ((fits 0 (by omega)).mp (allFit 0 (by omega)))
    · intro task member
      have isTask := (repeating.held task).mp member
      exact (fits task isTask).mp (allFit task isTask)

/-- The time that passes in some updates, in milliseconds. -/
def total (diffs : List ℕ+) : Nat :=
  (diffs.map PNat.val).sum

theorem milliseconds_add (first second : Nat) :
    milliseconds (first + second) = milliseconds first + milliseconds second := by
  simp only [milliseconds]
  omega

theorem terminates_iff (repeating : Repeating maxPingTime start scheduler)
    (pings : 0 < maxPingTime.toNat) (diffs : List ℕ+) (trace : List HandlerRun) :
    Terminates diffs scheduler trace ↔ diffs = [] ∨ ∀ task < 3,
      (timer maxPingTime task).Fits start (scheduler.now + milliseconds (total diffs)) := by
  induction diffs generalizing scheduler trace with
  | nil => simp [Terminates]
  | cons diff diffs ih =>
      have before : scheduler.now ≤ scheduler.now + milliseconds diff := by
        simp only [milliseconds]
        omega
      have advanced := repeating_atTime repeating before
      have wholeTime : scheduler.now + milliseconds (total (diff :: diffs)) =
          scheduler.now + milliseconds diff + milliseconds (total diffs) := by
        rw [total, List.map_cons, List.sum_cons, milliseconds_add, Int.add_assoc]
        rfl
      have notEarlier : scheduler.now + milliseconds diff ≤
          scheduler.now + milliseconds diff + milliseconds (total diffs) := by
        simp only [milliseconds]
        omega
      rw [wholeTime]
      simp only [Terminates, Program.update_of_noAsyncs repeating.noAsyncs, List.cons_ne_nil,
        false_or]
      constructor
      · rintro ⟨fuel, result, dispatched, representable, rest⟩
        obtain ⟨stillRepeating, sameTime, noneDue⟩ := dispatchTasks_result advanced dispatched
        change result.1.now = scheduler.now + milliseconds diff at sameTime
        rw [ih stillRepeating] at rest
        rw [representable_iff stillRepeating pings noneDue] at representable
        rw [sameTime] at rest representable
        rcases rest with rfl | fits
        · simpa [total, milliseconds] using representable
        · exact fits
      · intro fits
        obtain ⟨result, dispatched⟩ :=
          exists_dispatchTasks advanced pings (Nat.lt_succ_self _) trace
        obtain ⟨stillRepeating, sameTime, noneDue⟩ := dispatchTasks_result advanced dispatched
        change result.1.now = scheduler.now + milliseconds diff at sameTime
        refine ⟨_, result, dispatched, ?_, ?_⟩
        · rw [representable_iff stillRepeating pings noneDue, sameTime]
          intro task isTask
          exact fits_mono (fits task isTask) notEarlier
        · rw [ih stillRepeating, sameTime]
          exact .inr fits

/-- The three tasks at their beginning. -/
theorem repeating_addTasks {maxQueueSize : UInt32}
    (accepted : addTasks maxQueueSize maxPingTime (TaskScheduler.start start) = some scheduler) :
    Repeating maxPingTime start scheduler ∧ scheduler.now = start ∧
      ∀ task < 3, (scheduler.tasks task).endsAt = (timer maxPingTime task).round start 0 := by
  unfold addTasks at accepted
  split_ifs at accepted
  cases accepted
  have ends : ∀ task < 3, ((((TaskScheduler.start start).scheduleAt start
      (minutes maxPingTime.toNat) none 0).scheduleAt start (seconds 10) none 1).scheduleAt start
        (seconds 1) none 2).tasks task =
          ⟨(timer maxPingTime task).round start 0, (timer maxPingTime task).delay, none, 0,
            task⟩ := by
    intro task isTask
    match task, isTask with
    | 0, _ => simp [scheduleAt, insertTask, TaskScheduler.start, timer, Timer.round]
    | 1, _ => simp [scheduleAt, insertTask, TaskScheduler.start, timer, Timer.round]
    | 2, _ => simp [scheduleAt, insertTask, TaskScheduler.start, timer, Timer.round]
  refine ⟨⟨?_, rfl, ?_, ?_, ?_, ?_⟩, rfl, ?_⟩
  · exact consistent_scheduleAt (consistent_scheduleAt (consistent_scheduleAt
      (consistent_start start) _ _ _ _) _ _ _ _) _ _ _ _
  · intro task
    rw [mem_scheduleAt, mem_scheduleAt, mem_scheduleAt]
    simp only [TaskScheduler.start, List.not_mem_nil, false_or, scheduleAt, insertTask, zero_add,
      Nat.reduceAdd]
    omega
  · intro task isTask
    exact congrArg Task.handler (ends task isTask)
  · exact congrArg Task.duration (ends 0 (by omega))
  · intro task isTask
    exact ⟨0, congrArg Task.endsAt (ends task isTask), .inl rfl⟩
  · intro task isTask
    exact congrArg Task.endsAt (ends task isTask)

/-- For every ping time that is accepted, every start of the clock and every
sequence of positive differences: the updates all terminate exactly if the first
ends of the tasks can be represented and, unless there is no update at all, the
ping time is not zero and each timer has a round after the last update that can
be represented. -/
theorem updates_terminate_iff {maxQueueSize maxPingTime : UInt32} {start : Nat}
    {scheduler : TaskScheduler}
    (accepted : addTasks maxQueueSize maxPingTime (TaskScheduler.start start) = some scheduler)
    (diffs : List ℕ+) :
    Representable scheduler ∧ Terminates diffs scheduler [] ↔
      (∀ task < 3, (timer maxPingTime task).round start 0 ≤ maxTicks) ∧
        (diffs = [] ∨ maxPingTime ≠ 0 ∧ ∀ task < 3,
          (timer maxPingTime task).Fits start (start + milliseconds (total diffs))) := by
  obtain ⟨repeating, isStart, ends⟩ := repeating_addTasks accepted
  have fits : Representable scheduler ↔
      ∀ task < 3, (timer maxPingTime task).round start 0 ≤ maxTicks := by
    constructor
    · rintro ⟨_, representable⟩ task isTask
      rw [← ends task isTask]
      exact representable task ((repeating.held task).mpr isTask)
    · intro allFit
      refine ⟨?_, ?_⟩
      · have first := allFit 2 (by omega)
        simp only [Timer.round, timer, seconds, milliseconds] at first
        omega
      · intro task member
        have isTask := (repeating.held task).mp member
        rw [ends task isTask]
        exact allFit task isTask
  rw [fits]
  refine and_congr_right fun _ => ?_
  by_cases pings : maxPingTime = 0
  · subst pings
    cases diffs with
    | nil => simp [Terminates]
    | cons diff diffs =>
        -- The ping is due in the first update and is repeated without end.
        have advanced : Repeating 0 start (scheduler.atTime (scheduler.now + milliseconds diff)) :=
          repeating_atTime repeating (by simp only [milliseconds]; omega)
        have ended : (scheduler.tasks 0).endsAt ≤ scheduler.now + milliseconds diff := by
          rw [ends 0 (by omega), isStart]
          simp only [Timer.round, timer, minutes, seconds, milliseconds, UInt32.toNat_zero]
          omega
        have never : ∀ fuel, program.dispatchTasks fuel
            (scheduler.atTime (scheduler.now + milliseconds diff)) [] = none := fun fuel =>
          dispatchTasks_eq_none advanced rfl ended fuel []
        simp [Terminates, Program.update_of_noAsyncs repeating.noAsyncs, never]
  · have positive : 0 < maxPingTime.toNat := by
      rw [Nat.pos_iff_ne_zero, ne_eq, ← UInt32.toNat_zero, UInt32.toNat_inj]
      exact pings
    rw [terminates_iff repeating positive, isStart]
    simp [pings]

/-- The pool with the default values of its options. -/
theorem updates_terminate_default :
    ∃ scheduler, addTasks 10 30 (TaskScheduler.start (0 : Nat)) = some scheduler ∧
      Terminates [1800000, 1, 3600000] scheduler [] := by
  refine ⟨_, rfl, ((@updates_terminate_iff 10 30 0 _ rfl [1800000, 1, 3600000]).mpr ?_).2⟩
  refine ⟨by decide, .inr ⟨by decide, ?_⟩⟩
  intro task isTask
  match task, isTask with
  | 0, _ => exact ⟨10, by decide, by decide⟩
  | 1, _ => exact ⟨10000, by decide, by decide⟩
  | 2, _ => exact ⟨10000, by decide, by decide⟩

/-- A ping time of zero: the first update never ends. -/
theorem update_never_ends :
    ∃ scheduler, addTasks 10 0 (TaskScheduler.start 0) = some scheduler ∧
      ¬ Terminates [1] scheduler [] := by
  obtain ⟨repeating, isStart, ends⟩ :=
    @repeating_addTasks 0 0 _ 10 (rfl : addTasks 10 0 (TaskScheduler.start 0) = some _)
  refine ⟨_, rfl, ?_⟩
  rintro ⟨fuel, result, updated, _⟩
  have never := dispatchTasks_eq_none
    (repeating_atTime repeating (show (0 : Int) ≤ 0 + milliseconds 1 by decide)) rfl (by decide)
    fuel []
  rw [Program.update_of_noAsyncs repeating.noAsyncs] at updated
  exact absurd (updated.symm.trans never) (by simp)

end DatabaseWorkerPool

end TaskScheduling

end WarheadBot
