import WarheadBot.TaskScheduler

/-!
# Updates as a whole

`Update` run to its end, with the code of the handlers given: what a handler
does may depend on everything that was run before it and on the task objects,
which is all that a context lets it see.  Nothing in a context tells the
current time, and an update to a later time runs the same handlers as one that
stops on the way.

The loops take fuel; an update terminates if some fuel is enough, and it has no
result if an assertion fails.
-/

namespace WarheadBot

namespace TaskScheduling

open GuardedRuns
open TaskScheduler

/-- A handler that was run: its task, the function of the task, and the context
it was given. -/
structure HandlerRun where
  task : Nat
  handler : Nat
  context : Nat
  deriving DecidableEq, Repr

/-- What the callables do, and what the handler that was run last does. -/
structure Program where
  callables : Nat → List Action
  handlers : List HandlerRun → (Nat → Task) → List Action

namespace Program

variable (program : Program)

def dispatchAsyncs : Nat → TaskScheduler → Option TaskScheduler
  | 0, _ => none
  | fuel + 1, scheduler =>
      match scheduler.asyncHolder with
      | [] => some scheduler
      | front :: _ =>
          (scheduler.performAll (program.callables front)).bind fun acted =>
            match acted.asyncHolder with
            | [] => none
            | _ :: rest => dispatchAsyncs fuel { acted with asyncHolder := rest }

def dispatchTasks : Nat → TaskScheduler → List HandlerRun →
    Option (TaskScheduler × List HandlerRun)
  | 0, _, _ => none
  | fuel + 1, scheduler, trace =>
      match scheduler.due with
      | none => some (scheduler, trace)
      | some task =>
          let popped := scheduler.popTask task
          let longer := trace ++
            [⟨task, (scheduler.tasks task).handler, scheduler.contexts.length⟩]
          (popped.performAll (program.handlers longer popped.tasks)).bind fun acted =>
            dispatchTasks fuel acted longer

/-- `Update` with the validator that is always true. -/
def update (fuel : Nat) (difftime : Int) (scheduler : TaskScheduler)
    (trace : List HandlerRun) : Option (TaskScheduler × List HandlerRun) :=
  (program.dispatchAsyncs fuel (scheduler.advance difftime)).bind fun dispatched =>
    program.dispatchTasks fuel dispatched trace

end Program

theorem exec_performAll {scheduler final : TaskScheduler} {phase : Phase}
    {actions : List Action}
    (allowed : phase = .idle ∨ phase = .inAsync ∨ phase = .inTask)
    (performed : scheduler.performAll actions = some final) :
    exec step ⟨scheduler, phase⟩ (actions.map .act) = some ⟨final, phase⟩ := by
  induction actions generalizing scheduler with
  | nil =>
      cases performed
      rfl
  | cons action actions ih =>
      obtain ⟨next, first, rest⟩ := Option.bind_eq_some_iff.mp performed
      refine exec_cons.mpr ⟨⟨next, phase⟩, ?_, ih rest⟩
      simp only [step, allowed, if_true, first, Option.map_some]

namespace Program

variable {program : Program}

theorem exec_dispatchAsyncs {fuel : Nat} {scheduler final : TaskScheduler}
    (dispatched : program.dispatchAsyncs fuel scheduler = some final) :
    ∃ labels, exec step ⟨scheduler, .asyncs⟩ labels = some ⟨final, .tasks⟩ := by
  induction fuel generalizing scheduler with
  | zero => cases dispatched
  | succ fuel ih =>
      rw [dispatchAsyncs] at dispatched
      cases held : scheduler.asyncHolder with
      | nil =>
          simp only [held] at dispatched
          cases dispatched
          refine ⟨[.asyncsDone], exec_cons.mpr ⟨⟨final, .tasks⟩, ?_, rfl⟩⟩
          simp [step, held]
      | cons front others =>
          simp only [held] at dispatched
          obtain ⟨acted, performed, rest⟩ := Option.bind_eq_some_iff.mp dispatched
          cases heldAfter : acted.asyncHolder with
          | nil => simp [heldAfter] at rest
          | cons removed remaining =>
              simp only [heldAfter] at rest
              obtain ⟨labels, reached⟩ := ih rest
              have acts := exec_performAll (Or.inr (Or.inl rfl)) performed
              refine ⟨.runAsync :: ((program.callables front).map .act ++
                .popAsync true :: labels), exec_cons.mpr ⟨⟨scheduler, .inAsync⟩, ?_, ?_⟩⟩
              · simp [step, held]
              · refine exec_append acts (exec_cons.mpr ⟨_, ?_, reached⟩)
                simp [step, heldAfter]

theorem exec_dispatchTasks {fuel : Nat} {scheduler : TaskScheduler} {trace : List HandlerRun}
    {result : TaskScheduler × List HandlerRun}
    (dispatched : program.dispatchTasks fuel scheduler trace = some result) :
    ∃ labels, exec step ⟨scheduler, .tasks⟩ labels = some ⟨result.1, .idle⟩ := by
  induction fuel generalizing scheduler trace with
  | zero => cases dispatched
  | succ fuel ih =>
      rw [dispatchTasks] at dispatched
      cases isDue : scheduler.due with
      | none =>
          simp only [isDue] at dispatched
          cases dispatched
          refine ⟨[.finish], exec_cons.mpr ⟨⟨scheduler, .idle⟩, ?_, rfl⟩⟩
          simp [step, isDue]
      | some task =>
          simp only [isDue] at dispatched
          obtain ⟨acted, performed, rest⟩ := Option.bind_eq_some_iff.mp dispatched
          obtain ⟨labels, reached⟩ := ih rest
          have acts := exec_performAll (Or.inr (Or.inr rfl)) performed
          refine ⟨.runTask :: (_ ++ .taskDone true :: labels),
            exec_cons.mpr ⟨⟨scheduler.popTask task, .inTask⟩, ?_,
              exec_append acts (exec_cons.mpr ⟨⟨acted, .tasks⟩, ?_, reached⟩)⟩⟩
          · simp [step, isDue]
          · simp [step]

/-- An update that terminates is a run of the machine. -/
theorem exec_update {fuel : Nat} {difftime : Int} {scheduler : TaskScheduler}
    {trace : List HandlerRun} {result : TaskScheduler × List HandlerRun}
    (updated : program.update fuel difftime scheduler trace = some result) :
    ∃ labels, exec step ⟨scheduler, .idle⟩ labels = some ⟨result.1, .idle⟩ := by
  obtain ⟨dispatched, asyncs, tasks⟩ := Option.bind_eq_some_iff.mp updated
  obtain ⟨first, reachedFirst⟩ := exec_dispatchAsyncs asyncs
  obtain ⟨second, reachedSecond⟩ := exec_dispatchTasks tasks
  refine ⟨.update difftime true :: (first ++ second),
    exec_cons.mpr ⟨⟨scheduler.advance difftime, .asyncs⟩, ?_,
      exec_append reachedFirst reachedSecond⟩⟩
  simp [step]

end Program

/-- Actions that neither read the clock nor register callables. -/
def TaskScheduler.Action.ignoresClock : Action → Bool
  | .schedule _ _ _ => false
  | .rescheduleAll _ => false
  | .rescheduleGroup _ _ => false
  | .async => false
  | _ => true

def TaskScheduler.atTime (now : Int) (scheduler : TaskScheduler) : TaskScheduler :=
  { scheduler with now := now }

theorem atTime_cancelGroupsOf (now : Int) (scheduler : TaskScheduler) (groups : List Group) :
    (scheduler.atTime now).cancelGroupsOf groups =
      (scheduler.cancelGroupsOf groups).atTime now := by
  induction groups generalizing scheduler with
  | nil => rfl
  | cons group groups ih => exact ih (scheduler.cancelGroup group)

theorem perform_atTime (now : Int) (scheduler : TaskScheduler) {action : Action}
    (ignores : action.ignoresClock = true) :
    (scheduler.atTime now).perform action = (scheduler.perform action).map (atTime now) := by
  cases action with
  | schedule time group handler => cases ignores
  | contextSchedule context time group handler =>
      simp only [perform, contextSchedule, Option.map_map]
      rfl
  | repeatTask context duration =>
      simp only [perform, repeatTask, atTime]
      cases scheduler.contexts[context]? with
      | none => rfl
      | some found =>
          dsimp only
          split <;> rfl
  | setGroup context group =>
      simp only [perform, TaskScheduler.setGroup, Option.map_map]
      rfl
  | async => cases ignores
  | cancelAll => rfl
  | cancelGroup group => rfl
  | cancelGroupsOf groups => exact congrArg some (atTime_cancelGroupsOf now scheduler groups)
  | delayAll duration => rfl
  | delayGroup group duration => rfl
  | rescheduleAll duration => cases ignores
  | rescheduleGroup group duration => cases ignores

theorem performAll_atTime (now : Int) (scheduler : TaskScheduler) {actions : List Action}
    (ignore : ∀ action ∈ actions, action.ignoresClock = true) :
    (scheduler.atTime now).performAll actions =
      (scheduler.performAll actions).map (atTime now) := by
  induction actions generalizing scheduler with
  | nil => rfl
  | cons action actions ih =>
      rw [performAll, performAll, perform_atTime now scheduler (ignore action List.mem_cons_self)]
      cases scheduler.perform action with
      | none => rfl
      | some next =>
          exact ih next fun other member => ignore other (List.mem_cons_of_mem _ member)

theorem performAll_asyncHolder {scheduler final : TaskScheduler} {actions : List Action}
    (ignore : ∀ action ∈ actions, action.ignoresClock = true)
    (performed : scheduler.performAll actions = some final)
    (empty : scheduler.asyncHolder = []) : final.asyncHolder = [] := by
  induction actions generalizing scheduler with
  | nil =>
      cases performed
      exact empty
  | cons action actions ih =>
      obtain ⟨next, first, rest⟩ := Option.bind_eq_some_iff.mp performed
      refine ih (fun other member => ignore other (List.mem_cons_of_mem _ member)) rest ?_
      have ignores := ignore action List.mem_cons_self
      by_cases isCancel : action = .cancelAll
      · subst isCancel
        cases first
        rfl
      · have notAsync : action ≠ .async := by
          rintro rfl
          cases ignores
        rw [(perform_asyncs first notAsync isCancel).1, empty]

namespace Program

variable {program : Program}

theorem dispatchTasks_succ {fuel : Nat} {scheduler : TaskScheduler} {trace : List HandlerRun}
    {result : TaskScheduler × List HandlerRun}
    (dispatched : program.dispatchTasks fuel scheduler trace = some result) :
    program.dispatchTasks (fuel + 1) scheduler trace = some result := by
  induction fuel generalizing scheduler trace with
  | zero => cases dispatched
  | succ fuel ih =>
      rw [dispatchTasks] at dispatched ⊢
      cases isDue : scheduler.due with
      | none =>
          simp only [isDue] at dispatched ⊢
          exact dispatched
      | some task =>
          simp only [isDue] at dispatched ⊢
          obtain ⟨acted, performed, rest⟩ := Option.bind_eq_some_iff.mp dispatched
          exact Option.bind_eq_some_iff.mpr ⟨acted, performed, ih rest⟩

/-- A dispatch up to a later time can be interrupted at an earlier one. -/
theorem dispatchTasks_interrupted
    (ignore : ∀ trace tasks, ∀ action ∈ program.handlers trace tasks,
      action.ignoresClock = true)
    {earlier later : Int} (before : earlier ≤ later) {fuel : Nat} {scheduler : TaskScheduler}
    {trace : List HandlerRun} {result : TaskScheduler × List HandlerRun}
    (empty : scheduler.asyncHolder = [])
    (dispatched : program.dispatchTasks fuel (scheduler.atTime later) trace = some result) :
    ∃ (stopped : TaskScheduler) (longer : List HandlerRun),
      program.dispatchTasks fuel (scheduler.atTime earlier) trace =
          some (stopped.atTime earlier, longer) ∧
        stopped.asyncHolder = [] ∧
          program.dispatchTasks fuel (stopped.atTime later) longer = some result := by
  induction fuel generalizing scheduler trace with
  | zero => cases dispatched
  | succ fuel ih =>
      cases isDue : (scheduler.atTime earlier).due with
      | none =>
          refine ⟨scheduler, trace, ?_, empty, dispatched⟩
          rw [dispatchTasks, isDue]
      | some task =>
          have isDueLater : (scheduler.atTime later).due = some task := by
            unfold due atTime at isDue ⊢
            dsimp only at isDue ⊢
            cases held : scheduler.taskHolder with
            | nil => simp [held] at isDue
            | cons first rest =>
                simp only [held] at isDue ⊢
                split_ifs at isDue with notEnded
                rw [if_neg (by omega)]
                exact isDue
          rw [dispatchTasks, isDueLater] at dispatched
          obtain ⟨acted, performed, rest⟩ := Option.bind_eq_some_iff.mp dispatched
          have popped : ∀ now, (scheduler.atTime now).popTask task =
              (scheduler.popTask task).atTime now := fun _ => rfl
          rw [popped, performAll_atTime later _ (ignore _ _)] at performed
          obtain ⟨next, nextPerformed, rfl⟩ := Option.map_eq_some_iff.mp performed
          have nextEmpty : next.asyncHolder = [] :=
            performAll_asyncHolder (ignore _ _) nextPerformed empty
          obtain ⟨stopped, longer, interrupted, stoppedEmpty, continued⟩ := ih nextEmpty rest
          refine ⟨stopped, longer, ?_, stoppedEmpty, dispatchTasks_succ continued⟩
          rw [dispatchTasks, isDue]
          refine Option.bind_eq_some_iff.mpr ⟨next.atTime earlier, ?_, interrupted⟩
          rw [popped, performAll_atTime earlier _ (ignore _ _)]
          exact congrArg (Option.map (atTime earlier)) nextPerformed

theorem update_of_noAsyncs {fuel : Nat} {difftime : Int} {scheduler : TaskScheduler}
    {trace : List HandlerRun} (empty : scheduler.asyncHolder = []) :
    program.update fuel difftime scheduler trace =
      program.dispatchTasks fuel (scheduler.atTime (scheduler.now + difftime)) trace := by
  have advanced : (scheduler.advance difftime).asyncHolder = [] := empty
  cases fuel with
  | zero => rfl
  | succ fuel =>
      rw [update, dispatchAsyncs, advanced]
      rfl

/-- If no callable waits and the handlers ignore the clock, then an update over
two durations together, if it terminates, runs the same handlers in the same
order and ends in the same state as one update after the other. -/
theorem update_add {scheduler : TaskScheduler} (empty : scheduler.asyncHolder = [])
    (ignore : ∀ trace tasks, ∀ action ∈ program.handlers trace tasks,
      action.ignoresClock = true)
    (first second : Nat) {fuel : Nat} {trace : List HandlerRun}
    {result : TaskScheduler × List HandlerRun}
    (terminates : program.update fuel (first + second) scheduler trace = some result) :
    ∃ middle, program.update fuel first scheduler trace = some middle ∧
      program.update fuel second middle.1 middle.2 = some result := by
  rw [update_of_noAsyncs empty, ← Int.add_assoc] at terminates
  have before : scheduler.now + (first : Int) ≤ scheduler.now + first + second := by omega
  obtain ⟨stopped, longer, interrupted, stoppedEmpty, continued⟩ :=
    dispatchTasks_interrupted ignore before empty terminates
  refine ⟨(stopped.atTime (scheduler.now + first), longer), ?_, ?_⟩
  · rw [update_of_noAsyncs empty]
    exact interrupted
  · have stillEmpty : (stopped.atTime (scheduler.now + first)).asyncHolder = [] := stoppedEmpty
    rw [update_of_noAsyncs stillEmpty]
    exact continued

/-- A handler repeats itself once, delays the other tasks and schedules a task;
every later handler does nothing. -/
def repeatsAndDelays : Program :=
  ⟨fun _ => [], fun trace _ =>
    if trace.length = 1 then
      [.repeatTask 0 (some 3), .delayAll 2, .contextSchedule 0 1 none 2]
    else []⟩

/-- One task ends at 5 and one at 6. -/
def twoTasks : TaskScheduler :=
  ((TaskScheduler.start 0).scheduleAt 0 5 none 0).scheduleAt 0 6 (some 1) 1

/-- The first update of the two runs the first task only; the second one runs
what is left, in the order of one long update. -/
theorem update_add_repeatsAndDelays :
    ∃ middle, repeatsAndDelays.update 9 (5 : Nat) twoTasks [] = some middle ∧
      middle.2 = [⟨0, 0, 0⟩] ∧
        (repeatsAndDelays.update 9 (7 : Nat) middle.1 middle.2).map Prod.snd =
          some [⟨0, 0, 0⟩, ⟨1, 1, 1⟩, ⟨0, 0, 2⟩, ⟨2, 2, 3⟩] := by
  have ignore : ∀ trace tasks, ∀ action ∈ repeatsAndDelays.handlers trace tasks,
      action.ignoresClock = true := by
    intro trace tasks action member
    simp only [repeatsAndDelays] at member
    split_ifs at member
    · simp only [List.mem_cons, List.not_mem_nil, or_false] at member
      obtain rfl | rfl | rfl := member <;> rfl
    · cases member
  obtain ⟨middle, interrupted, continued⟩ :=
    @update_add repeatsAndDelays twoTasks rfl ignore 5 7 9 [] _ rfl
  refine ⟨middle, interrupted, ?_, ?_⟩
  · have traced := congrArg (Option.map Prod.snd) interrupted
    exact (Option.some.inj traced).symm
  · rw [continued]
    rfl

end Program

end TaskScheduling

end WarheadBot
