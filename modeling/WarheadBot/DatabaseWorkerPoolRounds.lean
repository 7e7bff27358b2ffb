import WarheadBot.DatabaseWorkerPoolTasks

/-!
# When the tasks of a worker pool are run

However the time that passes is cut into updates, all of them return as long as the clock
can represent a further round of each timer, each task is run once for every round of its
timer that is over, and the tasks are run in the order in which they were due.
-/

namespace WarheadBot

namespace TaskScheduling

open OrderedQueue
open TaskScheduler

namespace DatabaseWorkerPool

/-- Updates that have come to an end, each without an overflow. -/
inductive Updates :
    List ℕ+ → TaskScheduler → List HandlerRun → TaskScheduler → List HandlerRun → Prop
  | done (scheduler : TaskScheduler) (trace : List HandlerRun) :
      Updates [] scheduler trace scheduler trace
  | update (diff : ℕ+) (diffs : List ℕ+) (fuel : Nat) (scheduler next last : TaskScheduler)
      (trace longer whole : List HandlerRun)
      (updated : program.update fuel (milliseconds diff) scheduler trace = some (next, longer))
      (representable : Representable next) (rest : Updates diffs next longer last whole) :
      Updates (diff :: diffs) scheduler trace last whole

def runs (task : Nat) (trace : List HandlerRun) : Nat :=
  trace.countP fun run => decide (run.task = task)

/-- When the runs of a trace were due, given how often each task was run before. -/
def dueTimes (maxPingTime : UInt32) (start : Int) : (Nat → Nat) → List HandlerRun → List Int
  | _, [] => []
  | before, run :: trace =>
      (timer maxPingTime run.task).round start (before run.task) ::
        dueTimes maxPingTime start
          (Function.update before run.task (before run.task + 1)) trace

theorem dueTimes_append (maxPingTime : UInt32) (start : Int) (before : Nat → Nat)
    (trace : List HandlerRun) (run : HandlerRun) :
    dueTimes maxPingTime start before (trace ++ [run]) =
      dueTimes maxPingTime start before trace ++
        [(timer maxPingTime run.task).round start (before run.task + runs run.task trace)] := by
  induction trace generalizing before with
  | nil => rfl
  | cons first trace ih =>
      rw [List.cons_append, dueTimes, ih, dueTimes, List.cons_append]
      congr 3
      by_cases same : first.task = run.task
      · rw [same, Function.update_self, runs, runs, List.countP_cons]
        simp only [same, decide_true, if_true]
        congr 1
        omega
      · rw [Function.update_of_ne (Ne.symm same), runs, runs, List.countP_cons]
        simp [same]

/-- The tasks that the trace has run, in their order. -/
structure Followed (maxPingTime : UInt32) (start : Int) (scheduler : TaskScheduler)
    (trace : List HandlerRun) : Prop where
  repeating : Repeating maxPingTime start scheduler
  counted : ∀ task < 3, (scheduler.tasks task).endsAt =
    (timer maxPingTime task).round start (runs task trace)
  ordered : (dueTimes maxPingTime start (fun _ => 0) trace).Pairwise (· ≤ ·)
  before : ∀ time ∈ dueTimes maxPingTime start (fun _ => 0) trace,
    ∀ task < 3, time ≤ (scheduler.tasks task).endsAt

variable {maxPingTime : UInt32} {start : Int} {scheduler : TaskScheduler}
  {trace : List HandlerRun}

/-- The task that is due first. -/
theorem endsAt_due_le (repeating : Repeating maxPingTime start scheduler) {task : Nat}
    (isDue : scheduler.due = some task) {other : Nat} (isOther : other < 3) :
    (scheduler.tasks task).endsAt ≤ (scheduler.tasks other).endsAt := by
  obtain ⟨rest, held, _⟩ := due_eq_some isDue
  have ordered := repeating.consistent.ordered
  have member := (repeating.held other).mpr isOther
  rw [held] at ordered member
  rcases List.mem_cons.mp member with rfl | later
  · exact Int.le_refl _
  · exact (List.pairwise_cons.mp ordered).1 other later

theorem followed_repeated (followed : Followed maxPingTime start scheduler trace)
    (pings : 0 < maxPingTime.toNat) {task : Nat} (isDue : scheduler.due = some task)
    (handler context : Nat) :
    Followed maxPingTime start (repeated task (timer maxPingTime task).period scheduler)
      (trace ++ [⟨task, handler, context⟩]) := by
  obtain ⟨rest, held, ended⟩ := due_eq_some isDue
  have isTask : task < 3 := (followed.repeating.held task).mp (by simp [held])
  have positive := period_pos pings task
  have due : (timer maxPingTime task).round start (0 + runs task trace) =
      (scheduler.tasks task).endsAt := by
    rw [Nat.zero_add, followed.counted task isTask]
  have later : ∀ other < 3, (scheduler.tasks other).endsAt ≤
      ((repeated task (timer maxPingTime task).period scheduler).tasks other).endsAt := by
    intro other _
    rw [endsAt_repeated]
    split_ifs <;> omega
  refine ⟨repeating_repeated followed.repeating isDue, ?_, ?_, ?_⟩
  · intro other isOther
    rw [endsAt_repeated, followed.counted other isOther, runs, runs, List.countP_append]
    split_ifs with same
    · subst same
      simpa using (round_succ (timer maxPingTime other) start _).symm
    · simp [Ne.symm same]
  · rw [dueTimes_append, due, List.pairwise_append]
    refine ⟨followed.ordered, List.pairwise_singleton _ _, ?_⟩
    intro time member last isLast
    rw [List.mem_singleton] at isLast
    rw [isLast]
    exact followed.before time member task isTask
  · intro time member other isOther
    rw [dueTimes_append, due, List.mem_append, List.mem_singleton] at member
    refine Int.le_trans ?_ (later other isOther)
    rcases member with earlier | rfl
    · exact followed.before time earlier other isOther
    · exact endsAt_due_le followed.repeating isDue isOther

theorem followed_dispatchTasks (followed : Followed maxPingTime start scheduler trace)
    (pings : 0 < maxPingTime.toNat) {fuel : Nat} {result : TaskScheduler × List HandlerRun}
    (dispatched : program.dispatchTasks fuel scheduler trace = some result) :
    Followed maxPingTime start result.1 result.2 := by
  induction fuel generalizing scheduler trace with
  | zero => cases dispatched
  | succ fuel ih =>
      rw [Program.dispatchTasks] at dispatched
      cases isDue : scheduler.due with
      | none =>
          rw [isDue] at dispatched
          cases dispatched
          exact followed
      | some task =>
          obtain ⟨rest, held, _⟩ := due_eq_some isDue
          have isTask : task < 3 := (followed.repeating.held task).mp (by simp [held])
          rw [isDue] at dispatched
          dsimp only at dispatched
          rw [performAll_repeats followed.repeating isTask, Option.bind_some] at dispatched
          exact ih (followed_repeated followed pings isDue _ _) dispatched

theorem followed_atTime (followed : Followed maxPingTime start scheduler trace) {later : Int}
    (before : scheduler.now ≤ later) :
    Followed maxPingTime start (scheduler.atTime later) trace :=
  ⟨repeating_atTime followed.repeating before, followed.counted, followed.ordered,
    followed.before⟩

theorem followed_updates {diffs : List ℕ+} {last : TaskScheduler} {whole : List HandlerRun}
    (updates : Updates diffs scheduler trace last whole) (pings : 0 < maxPingTime.toNat)
    (followed : Followed maxPingTime start scheduler trace) (noneDue : scheduler.due = none) :
    Followed maxPingTime start last whole ∧ last.due = none ∧
      last.now = scheduler.now + milliseconds (total diffs) := by
  induction updates with
  | done scheduler trace =>
      refine ⟨followed, noneDue, ?_⟩
      simp [total, milliseconds]
  | update diff diffs fuel scheduler next last trace longer whole updated representable rest ih =>
      have before : scheduler.now ≤ scheduler.now + milliseconds diff := by
        simp only [milliseconds]
        omega
      have advanced := followed_atTime followed before
      rw [Program.update_of_noAsyncs followed.repeating.noAsyncs] at updated
      obtain ⟨-, sameTime, stillNone⟩ := dispatchTasks_result advanced.repeating updated
      obtain ⟨final, atEnd, time⟩ := ih (followed_dispatchTasks advanced pings updated) stillNone
      refine ⟨final, atEnd, ?_⟩
      change next.now = scheduler.now + milliseconds diff at sameTime
      have sum : total (diff :: diffs) = diff + total diffs := by
        rw [total, List.map_cons, List.sum_cons]
        rfl
      rw [time, sameTime, sum, milliseconds_add, Int.add_assoc]

/-- The rounds of a timer that are over are those that were run. -/
theorem lt_runs_iff (followed : Followed maxPingTime start scheduler trace)
    (pings : 0 < maxPingTime.toNat) (noneDue : scheduler.due = none) {task : Nat}
    (isTask : task < 3) (rounds : Nat) :
    rounds < runs task trace ↔ (timer maxPingTime task).round start rounds ≤ scheduler.now := by
  have positive := period_pos pings task
  have later := (due_eq_none_iff followed.repeating).mp noneDue task isTask
  have counted := followed.counted task isTask
  constructor
  · intro earlier
    obtain ⟨others, isRound, ended⟩ := followed.repeating.onSchedule task isTask
    have same : others = runs task trace := by
      rw [counted] at isRound
      rcases Nat.lt_trichotomy others (runs task trace) with less | equal | more
      · have step := round_le positive start (Nat.succ_le_of_lt less)
        rw [round_succ] at step
        omega
      · exact equal
      · have step := round_le positive start (Nat.succ_le_of_lt more)
        rw [round_succ] at step
        omega
    rcases ended with none | passed
    · omega
    · have step := round_le positive start (Nat.succ_le_of_lt earlier)
      rw [round_succ] at step
      rw [counted] at passed
      omega
  · intro roundOver
    rw [counted] at later
    exact lt_of_round_lt positive (Int.lt_of_le_of_lt roundOver later)

theorem exists_updates {diffs : List ℕ+} (terminates : Terminates diffs scheduler trace) :
    ∃ last whole, Updates diffs scheduler trace last whole := by
  induction diffs generalizing scheduler trace with
  | nil => exact ⟨scheduler, trace, .done scheduler trace⟩
  | cons diff diffs ih =>
      obtain ⟨fuel, result, updated, representable, rest⟩ := terminates
      obtain ⟨last, whole, updates⟩ := ih rest
      exact ⟨last, whole, .update diff diffs fuel scheduler result.1 last trace result.2 whole
        updated representable updates⟩

/-- For every ping time but zero, every start of the clock and however the time is cut into
updates, as long as each timer has a round after the last update that the clock can
represent: all updates return, each of the three tasks has been run for exactly the rounds
of its timer that are over, and all runs were made in the order in which they were due. -/
theorem tasks_run_on_schedule {maxQueueSize maxPingTime : UInt32} {start : Nat}
    {scheduler : TaskScheduler} {diffs : List ℕ+}
    (accepted : addTasks maxQueueSize maxPingTime (TaskScheduler.start start) = some scheduler)
    (pings : maxPingTime ≠ 0)
    (fits : ∀ task < 3,
      (timer maxPingTime task).Fits start (start + milliseconds (total diffs))) :
    ∃ last trace, Updates diffs scheduler [] last trace ∧
      (∀ task < 3, ∀ rounds, rounds < runs task trace ↔
        (timer maxPingTime task).round start rounds ≤ start + milliseconds (total diffs)) ∧
      (dueTimes maxPingTime start (fun _ => 0) trace).Pairwise (· ≤ ·) := by
  have positive : 0 < maxPingTime.toNat := by
    rw [Nat.pos_iff_ne_zero, ne_eq, ← UInt32.toNat_zero, UInt32.toNat_inj]
    exact pings
  obtain ⟨repeating, isStart, ends⟩ := repeating_addTasks accepted
  obtain ⟨last, trace, updates⟩ := exists_updates
    ((terminates_iff repeating positive diffs []).mpr (.inr (isStart ▸ fits)))
  have followed : Followed maxPingTime start scheduler [] := ⟨repeating, ends, .nil,
    List.forall_mem_nil _⟩
  have noneDue : scheduler.due = none := by
    rw [due_eq_none_iff repeating]
    intro task isTask
    rw [ends task isTask, isStart, Timer.round]
    obtain rfl | rfl | rfl : task = 0 ∨ task = 1 ∨ task = 2 := by omega
    · simp only [timer, minutes, seconds, milliseconds]
      omega
    · simp only [timer, seconds, milliseconds]
      omega
    · simp only [timer, seconds, milliseconds]
      omega
  obtain ⟨final, stillNone, time⟩ := followed_updates updates positive followed noneDue
  refine ⟨last, trace, updates, ?_, final.ordered⟩
  intro task isTask rounds
  rw [lt_runs_iff final positive stillNone isTask, time, isStart]

/-- Ten seconds and one more after the start, with the default values of the options. -/
theorem tasks_run_on_schedule_default :
    ∃ scheduler, addTasks 10 30 (TaskScheduler.start (0 : Nat)) = some scheduler ∧
      ∃ last trace, Updates [10000, 1000] scheduler [] last trace ∧
        runs 0 trace = 0 ∧ runs 1 trace = 2 ∧ runs 2 trace = 3 ∧
        (dueTimes 30 0 (fun _ => 0) trace).Pairwise (· ≤ ·) := by
  obtain ⟨last, trace, updates, rounds, ordered⟩ :=
    @tasks_run_on_schedule 10 30 0 _ [10000, 1000] rfl (by decide) (by
      intro task isTask
      match task, isTask with
      | 0, _ => exact ⟨0, by decide, by decide⟩
      | 1, _ => exact ⟨2, by decide, by decide⟩
      | 2, _ => exact ⟨3, by decide, by decide⟩)
  refine ⟨_, rfl, last, trace, updates, ?_, ?_, ?_, ordered⟩
  · have notYet := mt (rounds 0 (by omega) 0).mp (by decide)
    omega
  · have second := (rounds 1 (by omega) 1).mpr (by decide)
    have notYet := mt (rounds 1 (by omega) 2).mp (by decide)
    omega
  · have third := (rounds 2 (by omega) 2).mpr (by decide)
    have notYet := mt (rounds 2 (by omega) 3).mp (by decide)
    omega

end DatabaseWorkerPool

end TaskScheduling

end WarheadBot
