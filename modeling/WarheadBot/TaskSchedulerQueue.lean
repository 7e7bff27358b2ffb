import Mathlib.Data.List.Nodup
import WarheadBot.TaskScheduler

/-!
# What the task queue holds

Tasks are shared: the queue and any number of contexts refer to one object,
and the member the queue is ordered by is changed in place.  The order survives
because a task is only changed while it is outside the queue.  `ModifyIf` takes
out what it changes, and `Repeat` needs a context that was not consumed, whose
task is in no other such context and not in the queue.
-/

namespace WarheadBot

namespace TaskScheduling

open GuardedRuns
open OrderedQueue
open TaskScheduler

def unconsumed (contexts : List TaskContext) : List Nat :=
  (contexts.filter fun context => !context.consumed).map TaskContext.task

structure Consistent (scheduler : TaskScheduler) : Prop where
  ordered : Ordered (endOf scheduler.tasks) scheduler.taskHolder
  distinct : scheduler.taskHolder.Nodup
  allocated : ∀ task ∈ scheduler.taskHolder, task < scheduler.nextTask
  contexts : ∀ context ∈ scheduler.contexts, context.task < scheduler.nextTask
  popped : ∀ task ∈ unconsumed scheduler.contexts, task ∉ scheduler.taskHolder
  single : (unconsumed scheduler.contexts).Nodup

theorem consistent_start (now : Int) : Consistent (TaskScheduler.start now) where
  ordered := List.Pairwise.nil
  distinct := List.nodup_nil
  allocated := by simp [TaskScheduler.start]
  contexts := by simp [TaskScheduler.start]
  popped := by simp [TaskScheduler.start, unconsumed]
  single := List.nodup_nil

/-- The clock and the callables do not matter. -/
theorem Consistent.of_same {scheduler other : TaskScheduler} (consistent : Consistent scheduler)
    (tasks : other.tasks = scheduler.tasks) (nextTask : other.nextTask = scheduler.nextTask)
    (taskHolder : other.taskHolder = scheduler.taskHolder)
    (contexts : other.contexts = scheduler.contexts) : Consistent other := by
  obtain ⟨now, _, _, _, asyncHolder, nextAsync, _⟩ := other
  subst tasks nextTask taskHolder contexts
  exact ⟨consistent.ordered, consistent.distinct, consistent.allocated, consistent.contexts,
    consistent.popped, consistent.single⟩

theorem mem_unconsumed_allocated {scheduler : TaskScheduler} (consistent : Consistent scheduler)
    {task : Nat} (isOpen : task ∈ unconsumed scheduler.contexts) :
    task < scheduler.nextTask := by
  obtain ⟨context, member, rfl⟩ := List.mem_map.mp isOpen
  exact consistent.contexts context (List.mem_filter.mp member).1

/-- A task that is put into the queue was in neither the queue nor a context
that can repeat it. -/
theorem consistent_insertTask {scheduler : TaskScheduler} {task : Nat}
    (consistent : Consistent scheduler) (fresh : task ∉ scheduler.taskHolder)
    (allocated : task < scheduler.nextTask) (closed : task ∉ unconsumed scheduler.contexts) :
    Consistent (scheduler.insertTask task) where
  ordered := ordered_push consistent.ordered
  distinct := nodup_push consistent.distinct fresh
  allocated := by
    intro other member
    rcases mem_push.mp member with rfl | old
    · exact allocated
    · exact consistent.allocated other old
  contexts := consistent.contexts
  popped := by
    intro other isOpen member
    rcases mem_push.mp member with rfl | old
    · exact closed isOpen
    · exact consistent.popped other isOpen old
  single := consistent.single

/-- A task outside the queue may be changed. -/
theorem ordered_update {scheduler : TaskScheduler} (consistent : Consistent scheduler)
    {task : Nat} (outside : task ∉ scheduler.taskHolder) (changed : Task) :
    Ordered (endOf (Function.update scheduler.tasks task changed)) scheduler.taskHolder := by
  refine ordered_of_keys_eq consistent.ordered ?_
  intro other member
  have differs : other ≠ task := fun same => outside (same ▸ member)
  rw [endOf, endOf, Function.update_of_ne differs]

theorem consistent_scheduleAt {scheduler : TaskScheduler} (consistent : Consistent scheduler)
    (base time : Int) (group : Option Group) (handler : Nat) :
    Consistent (scheduler.scheduleAt base time group handler) := by
  have fresh : scheduler.nextTask ∉ scheduler.taskHolder := fun member =>
    absurd (consistent.allocated _ member) (Nat.lt_irrefl _)
  have closed : scheduler.nextTask ∉ unconsumed scheduler.contexts := fun isOpen =>
    absurd (mem_unconsumed_allocated consistent isOpen) (Nat.lt_irrefl _)
  refine consistent_insertTask ?_ fresh (Nat.lt_succ_self _) closed
  refine ⟨ordered_update consistent fresh _, consistent.distinct, ?_, ?_, consistent.popped,
    consistent.single⟩
  · intro task member
    exact Nat.lt_succ_of_lt (consistent.allocated task member)
  · intro context member
    exact Nat.lt_succ_of_lt (consistent.contexts context member)

theorem consistent_removeIf {scheduler : TaskScheduler} (consistent : Consistent scheduler)
    (filter : Task → Bool) : Consistent (scheduler.removeIf filter) where
  ordered := ordered_sublist consistent.ordered List.filter_sublist
  distinct := consistent.distinct.sublist List.filter_sublist
  allocated := fun task member => consistent.allocated task (List.mem_filter.mp member).1
  contexts := consistent.contexts
  popped := fun task isOpen member =>
    consistent.popped task isOpen (List.mem_filter.mp member).1
  single := consistent.single

/-- What is changed in one pass over a container without repetitions. -/
theorem modifyLoop_eq (filter : Task → Bool) (change : Task → Task) {queue : List Nat}
    (distinct : queue.Nodup) (tasks : Nat → Task) :
    modifyLoop filter change queue tasks =
      (fun task => if task ∈ queue ∧ filter (tasks task) = true then change (tasks task)
          else tasks task,
        queue.filter fun task => !filter (tasks task),
        queue.filter fun task => filter (tasks task)) := by
  induction queue generalizing tasks with
  | nil => simp [modifyLoop]
  | cons first rest ih =>
      obtain ⟨notInRest, distinctRest⟩ := List.nodup_cons.mp distinct
      rw [modifyLoop]
      split_ifs with accepted
      · have sameRest : ∀ task ∈ rest,
            Function.update tasks first (change (tasks first)) task = tasks task := by
          intro task member
          have differs : task ≠ first := fun same => notInRest (same ▸ member)
          exact Function.update_of_ne differs _ _
        rw [ih distinctRest]
        refine Prod.ext ?_ (Prod.ext ?_ ?_)
        · funext task
          by_cases same : task = first
          · subst same
            simp [notInRest, accepted]
          · simp [same]
        · simp only [List.filter_cons, accepted, Bool.not_true, Bool.false_eq_true, if_false]
          exact List.filter_congr fun task member => by rw [sameRest task member]
        · simp only [List.filter_cons, accepted, if_true]
          congr 1
          exact List.filter_congr fun task member => by rw [sameRest task member]
      · rw [ih distinctRest]
        refine Prod.ext ?_ (Prod.ext ?_ ?_)
        · funext task
          by_cases same : task = first
          · subst same
            simp [notInRest, accepted]
          · simp [same]
        · simp [accepted]
        · simp [accepted]

theorem modifyIf_tasks {scheduler : TaskScheduler} (consistent : Consistent scheduler)
    (filter : Task → Bool) (change : Task → Task) (task : Nat) :
    (scheduler.modifyIf filter change).tasks task =
      if task ∈ scheduler.taskHolder ∧ filter (scheduler.tasks task) = true then
        change (scheduler.tasks task) else scheduler.tasks task := by
  rw [modifyIf, modifyLoop_eq filter change consistent.distinct]

theorem modifyIf_perm {scheduler : TaskScheduler} (consistent : Consistent scheduler)
    (filter : Task → Bool) (change : Task → Task) :
    (scheduler.modifyIf filter change).taskHolder.Perm scheduler.taskHolder := by
  rw [modifyIf, modifyLoop_eq filter change consistent.distinct]
  exact (pushAll_perm _ _ _).trans (List.filter_append_perm _ _)

theorem consistent_modifyIf {scheduler : TaskScheduler} (consistent : Consistent scheduler)
    (filter : Task → Bool) (change : Task → Task) :
    Consistent (scheduler.modifyIf filter change) where
  ordered := by
    rw [modifyIf, modifyLoop_eq filter change consistent.distinct]
    apply ordered_pushAll
    refine ordered_of_keys_eq (ordered_sublist consistent.ordered List.filter_sublist) ?_
    intro task member
    have rejected := (List.mem_filter.mp member).2
    simp only [Bool.not_eq_true'] at rejected
    simp [endOf, rejected]
  distinct := (modifyIf_perm consistent filter change).nodup_iff.mpr consistent.distinct
  allocated := fun task member =>
    consistent.allocated task ((modifyIf_perm consistent filter change).mem_iff.mp member)
  contexts := consistent.contexts
  popped := fun task isOpen member =>
    consistent.popped task isOpen ((modifyIf_perm consistent filter change).mem_iff.mp member)
  single := consistent.single

/-- Consuming a context closes its task and leaves the others open. -/
theorem unconsumed_set {contexts : List TaskContext} {context : Nat} {found : TaskContext}
    (present : contexts[context]? = some found) (fresh : found.consumed = false)
    (single : (unconsumed contexts).Nodup) :
    found.task ∈ unconsumed contexts ∧
      (unconsumed (contexts.set context { found with consumed := true })).Sublist
        (unconsumed contexts) ∧
      found.task ∉ unconsumed (contexts.set context { found with consumed := true }) := by
  obtain ⟨bound, isFound⟩ := List.getElem?_eq_some_iff.mp present
  have before : contexts = contexts.take context ++ found :: contexts.drop (context + 1) := by
    rw [← isFound, List.getElem_cons_drop, List.take_append_drop]
  have after : contexts.set context { found with consumed := true } =
      contexts.take context ++ { found with consumed := true } ::
        contexts.drop (context + 1) :=
    List.set_eq_take_append_cons_drop.trans (if_pos bound)
  have openBefore : unconsumed contexts = unconsumed (contexts.take context) ++
      found.task :: unconsumed (contexts.drop (context + 1)) := by
    conv_lhs => rw [before]
    simp [unconsumed, List.filter_append, fresh]
  have openAfter : unconsumed (contexts.set context { found with consumed := true }) =
      unconsumed (contexts.take context) ++ unconsumed (contexts.drop (context + 1)) := by
    rw [after]
    simp [unconsumed, List.filter_append]
  rw [openBefore, List.nodup_middle, List.nodup_cons] at single
  rw [openBefore, openAfter]
  exact ⟨by simp, (List.Sublist.refl _).append (List.sublist_cons_self _ _), single.1⟩

theorem consistent_repeatTask {scheduler next : TaskScheduler}
    (consistent : Consistent scheduler) {context : Nat} {duration : Option Int}
    (repeated : scheduler.repeatTask context duration = some next) : Consistent next := by
  unfold repeatTask at repeated
  split at repeated
  · cases repeated
  · rename_i found present
    split_ifs at repeated with consumed
    cases repeated
    rw [Bool.not_eq_true] at consumed
    obtain ⟨isOpen, fewer, closed⟩ := unconsumed_set present consumed consistent.single
    have outside := consistent.popped found.task isOpen
    have isAllocated := mem_unconsumed_allocated consistent isOpen
    refine consistent_insertTask ?_ outside isAllocated closed
    refine ⟨ordered_update consistent outside _, consistent.distinct, consistent.allocated, ?_,
      fun task stillOpen => consistent.popped task (fewer.subset stillOpen),
      consistent.single.sublist fewer⟩
    intro other member
    rcases List.mem_or_eq_of_mem_set member with old | rfl
    · exact consistent.contexts other old
    · exact isAllocated

/-- A new group leaves the order of the queue alone. -/
theorem consistent_setGroup {scheduler next : TaskScheduler}
    (consistent : Consistent scheduler) {context : Nat} {group : Option Group}
    (grouped : scheduler.setGroup context group = some next) : Consistent next := by
  obtain ⟨found, _, rfl⟩ := Option.map_eq_some_iff.mp grouped
  refine ⟨?_, consistent.distinct, consistent.allocated, consistent.contexts, consistent.popped,
    consistent.single⟩
  refine ordered_of_keys_eq consistent.ordered ?_
  intro task _
  by_cases same : task = found.task
  · subst same
    simp [endOf]
  · simp [endOf, same]

theorem consistent_cancelGroupsOf {scheduler : TaskScheduler}
    (consistent : Consistent scheduler) (groups : List Group) :
    Consistent (scheduler.cancelGroupsOf groups) := by
  induction groups generalizing scheduler with
  | nil => exact consistent
  | cons group groups ih => exact ih (consistent_removeIf consistent _)

theorem consistent_cancelAll {scheduler : TaskScheduler} (consistent : Consistent scheduler) :
    Consistent scheduler.cancelAll where
  ordered := List.Pairwise.nil
  distinct := List.nodup_nil
  allocated := by simp [cancelAll]
  contexts := consistent.contexts
  popped := by simp [cancelAll]
  single := consistent.single

theorem consistent_perform {scheduler next : TaskScheduler} {action : Action}
    (consistent : Consistent scheduler) (performed : scheduler.perform action = some next) :
    Consistent next := by
  cases action with
  | schedule time group handler =>
      cases performed
      exact consistent_scheduleAt consistent _ _ _ _
  | contextSchedule context time group handler =>
      obtain ⟨found, _, rfl⟩ := Option.map_eq_some_iff.mp performed
      exact consistent_scheduleAt consistent _ _ _ _
  | repeatTask context duration => exact consistent_repeatTask consistent performed
  | setGroup context group => exact consistent_setGroup consistent performed
  | async =>
      cases performed
      exact consistent.of_same rfl rfl rfl rfl
  | cancelAll =>
      cases performed
      exact consistent_cancelAll consistent
  | cancelGroup group =>
      cases performed
      exact consistent_removeIf consistent _
  | cancelGroupsOf groups =>
      cases performed
      exact consistent_cancelGroupsOf consistent groups
  | delayAll duration =>
      cases performed
      exact consistent_modifyIf consistent _ _
  | delayGroup group duration =>
      cases performed
      exact consistent_modifyIf consistent _ _
  | rescheduleAll duration =>
      cases performed
      exact consistent_modifyIf consistent _ _
  | rescheduleGroup group duration =>
      cases performed
      exact consistent_modifyIf consistent _ _

theorem due_eq_some {scheduler : TaskScheduler} {task : Nat}
    (isDue : scheduler.due = some task) :
    ∃ rest, scheduler.taskHolder = task :: rest ∧
      (scheduler.tasks task).endsAt ≤ scheduler.now := by
  unfold due at isDue
  split at isDue
  · cases isDue
  · rename_i first rest held
    split_ifs at isDue with early
    cases isDue
    exact ⟨rest, held, not_lt.mp early⟩

/-- The new context is the only one that can repeat the popped task. -/
theorem consistent_popTask {scheduler : TaskScheduler} (consistent : Consistent scheduler)
    {task : Nat} {rest : List Nat} (held : scheduler.taskHolder = task :: rest) :
    Consistent (scheduler.popTask task) := by
  have inQueue : task ∈ scheduler.taskHolder := by simp [held]
  have ordered := consistent.ordered
  have distinct := consistent.distinct
  rw [held] at ordered distinct
  have isOpen : unconsumed (scheduler.contexts ++ [⟨task, false⟩]) =
      unconsumed scheduler.contexts ++ [task] := by
    simp [unconsumed, List.filter_append]
  have restHeld : (scheduler.popTask task).taskHolder = rest := by
    rw [popTask, held, List.tail_cons]
  refine ⟨?_, ?_, ?_, ?_, ?_, ?_⟩
  · rw [restHeld]
    exact (List.pairwise_cons.mp ordered).2
  · rw [restHeld]
    exact (List.nodup_cons.mp distinct).2
  · intro other member
    rw [restHeld] at member
    exact consistent.allocated other (by simp [held, member])
  · intro context member
    rcases List.mem_append.mp member with old | new
    · exact consistent.contexts context old
    · rw [List.mem_singleton.mp new]
      exact consistent.allocated task inQueue
  · intro other stillOpen member
    rw [restHeld] at member
    change other ∈ unconsumed (scheduler.contexts ++ [⟨task, false⟩]) at stillOpen
    rw [isOpen] at stillOpen
    rcases List.mem_append.mp stillOpen with old | new
    · exact consistent.popped other old (by simp [held, member])
    · rw [List.mem_singleton.mp new] at member
      exact (List.nodup_cons.mp distinct).1 member
  · change (unconsumed (scheduler.contexts ++ [⟨task, false⟩])).Nodup
    rw [isOpen]
    refine consistent.single.append (List.nodup_singleton _) ?_
    exact List.disjoint_singleton.mpr fun old => consistent.popped task old inQueue

/-- Which tasks are waiting after an action: those that are scheduled or
repeated by it, and those that were and are not cancelled by it. -/
def waitingAfter (scheduler : TaskScheduler) (waiting : Nat → Prop) : Action → Nat → Prop
  | .schedule _ _ _, task => waiting task ∨ task = scheduler.nextTask
  | .contextSchedule _ _ _ _, task => waiting task ∨ task = scheduler.nextTask
  | .repeatTask context _, task =>
      waiting task ∨ (scheduler.contexts[context]?).map TaskContext.task = some task
  | .cancelAll, _ => False
  | .cancelGroup group, task => waiting task ∧ (scheduler.tasks task).group ≠ some group
  | .cancelGroupsOf groups, task =>
      waiting task ∧ ∀ group ∈ groups, (scheduler.tasks task).group ≠ some group
  | _, task => waiting task

theorem mem_scheduleAt {scheduler : TaskScheduler} {base time : Int} {group : Option Group}
    {handler task : Nat} :
    task ∈ (scheduler.scheduleAt base time group handler).taskHolder ↔
      task ∈ scheduler.taskHolder ∨ task = scheduler.nextTask := by
  rw [scheduleAt, insertTask, mem_push, or_comm]

theorem mem_removeIf {scheduler : TaskScheduler} {filter : Task → Bool} {task : Nat} :
    task ∈ (scheduler.removeIf filter).taskHolder ↔
      task ∈ scheduler.taskHolder ∧ filter (scheduler.tasks task) = false := by
  simp [removeIf]

theorem isInGroup_eq_false_iff {group : Group} {task : Task} :
    task.isInGroup group = false ↔ task.group ≠ some group :=
  decide_eq_false_iff_not

theorem mem_cancelGroup {scheduler : TaskScheduler} {group : Group} {task : Nat} :
    task ∈ (scheduler.cancelGroup group).taskHolder ↔
      task ∈ scheduler.taskHolder ∧ (scheduler.tasks task).group ≠ some group := by
  rw [cancelGroup, mem_removeIf, isInGroup_eq_false_iff]

theorem mem_cancelGroupsOf {scheduler : TaskScheduler} {groups : List Group} {task : Nat} :
    task ∈ (scheduler.cancelGroupsOf groups).taskHolder ↔
      task ∈ scheduler.taskHolder ∧
        ∀ group ∈ groups, (scheduler.tasks task).group ≠ some group := by
  induction groups generalizing scheduler with
  | nil => simp [cancelGroupsOf]
  | cons group groups ih =>
      have rest := @ih (scheduler.cancelGroup group)
      rw [mem_cancelGroup] at rest
      rw [List.forall_mem_cons, ← and_assoc]
      exact rest

theorem mem_repeatTask {scheduler next : TaskScheduler} {context : Nat} {duration : Option Int}
    (repeated : scheduler.repeatTask context duration = some next) (task : Nat) :
    task ∈ next.taskHolder ↔ task ∈ scheduler.taskHolder ∨
      (scheduler.contexts[context]?).map TaskContext.task = some task := by
  unfold repeatTask at repeated
  split at repeated
  · cases repeated
  · rename_i found present
    split_ifs at repeated
    cases repeated
    rw [insertTask, mem_push, present, Option.map_some, Option.some.injEq, or_comm,
      eq_comm]

/-- What the queue holds after an action. -/
theorem mem_perform {scheduler next : TaskScheduler} {action : Action}
    (consistent : Consistent scheduler) (performed : scheduler.perform action = some next)
    (task : Nat) :
    task ∈ next.taskHolder ↔
      waitingAfter scheduler (fun other => other ∈ scheduler.taskHolder) action task := by
  cases action with
  | schedule time group handler =>
      cases performed
      exact mem_scheduleAt
  | contextSchedule context time group handler =>
      obtain ⟨found, _, rfl⟩ := Option.map_eq_some_iff.mp performed
      exact mem_scheduleAt
  | repeatTask context duration => exact mem_repeatTask performed task
  | setGroup context group =>
      obtain ⟨found, _, rfl⟩ := Option.map_eq_some_iff.mp performed
      exact Iff.rfl
  | async =>
      cases performed
      exact Iff.rfl
  | cancelAll =>
      cases performed
      simp [cancelAll, waitingAfter]
  | cancelGroup group =>
      cases performed
      exact mem_cancelGroup
  | cancelGroupsOf groups =>
      cases performed
      exact mem_cancelGroupsOf
  | delayAll duration =>
      cases performed
      exact (modifyIf_perm consistent _ _).mem_iff
  | delayGroup group duration =>
      cases performed
      exact (modifyIf_perm consistent _ _).mem_iff
  | rescheduleAll duration =>
      cases performed
      exact (modifyIf_perm consistent _ _).mem_iff
  | rescheduleGroup group duration =>
      cases performed
      exact (modifyIf_perm consistent _ _).mem_iff

/-- The machine with a record of the tasks that were scheduled or repeated and
since then neither popped nor cancelled. -/
structure Tracked where
  machine : Machine
  waiting : Nat → Prop

namespace Tracked

def start (now : Int) : Tracked := ⟨Machine.start now, fun _ => False⟩

def waitingAfterStep (tracked : Tracked) : Label → Nat → Prop
  | .act action, task => waitingAfter tracked.machine.scheduler tracked.waiting action task
  | .runTask, task => tracked.waiting task ∧ tracked.machine.scheduler.due ≠ some task
  | _, task => tracked.waiting task

def step (tracked : Tracked) (label : Label) : Option Tracked :=
  (TaskScheduling.step tracked.machine label).map fun machine =>
    ⟨machine, tracked.waitingAfterStep label⟩

structure Sound (tracked : Tracked) : Prop where
  consistent : Consistent tracked.machine.scheduler
  exact : ∀ task, task ∈ tracked.machine.scheduler.taskHolder ↔ tracked.waiting task

theorem sound_start (now : Int) : Sound (start now) :=
  ⟨consistent_start now, by simp [start, Machine.start, TaskScheduler.start]⟩

theorem sound_step {tracked next : Tracked} {label : Label} (sound : Sound tracked)
    (moved : tracked.step label = some next) : Sound next := by
  obtain ⟨machine, stepped, rfl⟩ := Option.map_eq_some_iff.mp moved
  obtain ⟨before, waiting⟩ := tracked
  obtain ⟨consistent, exact⟩ := sound
  have waits : (fun task => task ∈ before.scheduler.taskHolder) = waiting :=
    funext fun task => propext (exact task)
  cases moves_of_step stepped with
  | update scheduler difftime valid => exact ⟨consistent.of_same rfl rfl rfl rfl, exact⟩
  | act scheduler result phase action performed =>
      refine ⟨consistent_perform consistent performed, ?_⟩
      intro task
      rw [mem_perform consistent performed task, waits]
      rfl
  | runAsync scheduler held => exact ⟨consistent, exact⟩
  | popEmpty scheduler valid empty => exact ⟨consistent, exact⟩
  | popAsync scheduler front rest valid held =>
      exact ⟨consistent.of_same rfl rfl rfl rfl, exact⟩
  | asyncsDone scheduler empty => exact ⟨consistent, exact⟩
  | runTask scheduler task isDue =>
      obtain ⟨rest, held, _⟩ := due_eq_some isDue
      refine ⟨consistent_popTask consistent held, ?_⟩
      intro other
      have distinct := consistent.distinct
      have same : other ∈ scheduler.taskHolder ↔ waiting other := exact other
      rw [held, List.nodup_cons] at distinct
      rw [held, List.mem_cons] at same
      simp only [popTask, held, List.tail_cons, waitingAfterStep, isDue, ← same, ne_eq,
        Option.some.injEq]
      constructor
      · intro member
        exact ⟨Or.inr member, fun equal => distinct.1 (equal ▸ member)⟩
      · rintro ⟨rfl | member, differs⟩
        · exact absurd rfl differs
        · exact member
  | taskDone scheduler valid => exact ⟨consistent, exact⟩
  | finish scheduler noneDue => exact ⟨consistent, exact⟩

theorem step_machine (tracked : Tracked) (label : Label) :
    (tracked.step label).map Tracked.machine = TaskScheduling.step tracked.machine label := by
  simp [step, Option.map_map, Function.comp_def]

/-- What an operation on a group does to the tasks. -/
theorem modifyIf_isInGroup {scheduler : TaskScheduler} (consistent : Consistent scheduler)
    (group : Group) (change : Task → Task) (task : Nat) :
    (scheduler.modifyIf (Task.isInGroup group) change).tasks task =
      if task ∈ scheduler.taskHolder ∧ (scheduler.tasks task).group = some group then
        change (scheduler.tasks task)
      else scheduler.tasks task := by
  rw [modifyIf_tasks consistent, Task.isInGroup]
  simp only [decide_eq_true_eq]

/-- In every state the scheduler can reach, by any operations from outside and
from any handlers: the queue is ordered by the members `_end`, holds no task
twice, and holds exactly the tasks that were scheduled or repeated and since
then neither popped nor cancelled; delaying a group moves the end of exactly the
queued tasks of that group by the duration, rescheduling it sets their end to
the duration from now, and nothing else about any task changes. -/
theorem queue_exact {now : Int} {labels : List Label} {machine : Machine}
    (reached : exec TaskScheduling.step (Machine.start now) labels = some machine) :
    ∃ tracked, exec step (start now) labels = some tracked ∧ tracked.machine = machine ∧
      Ordered (fun task => (machine.scheduler.tasks task).endsAt) machine.scheduler.taskHolder ∧
      machine.scheduler.taskHolder.Nodup ∧
      (∀ task, task ∈ machine.scheduler.taskHolder ↔ tracked.waiting task) ∧
      (∀ group duration task, (machine.scheduler.delayGroup group duration).tasks task =
        let before := machine.scheduler.tasks task
        if task ∈ machine.scheduler.taskHolder ∧ before.group = some group then
          { before with endsAt := before.endsAt + duration }
        else before) ∧
      (∀ group duration task, (machine.scheduler.rescheduleGroup group duration).tasks task =
        let before := machine.scheduler.tasks task
        if task ∈ machine.scheduler.taskHolder ∧ before.group = some group then
          { before with endsAt := machine.scheduler.now + duration }
        else before) := by
  obtain ⟨tracked, run, rfl⟩ := exists_exec_of_map step_machine (start now) reached
  have sound := exec_invariant_of_step sound_step run (sound_start now)
  refine ⟨tracked, run, rfl, sound.consistent.ordered, sound.consistent.distinct, sound.exact,
    ?_, ?_⟩
  · intro group duration task
    exact modifyIf_isInGroup sound.consistent group _ task
  · intro group duration task
    exact modifyIf_isInGroup sound.consistent group _ task

/-- Two tasks, of which the first is delayed behind the second and rescheduled in
front of it again, and then repeated from its handler. -/
def delayedAndRepeated : List Label :=
  [.act (.schedule 5 (some 1) 0), .act (.schedule 7 (some 2) 1), .act (.delayGroup 1 4),
    .act (.rescheduleGroup 1 5), .update 6 true, .asyncsDone, .runTask,
    .act (.repeatTask 0 (some 3)), .taskDone true, .finish]

/-- The repeated task ends at eight, behind the other one, which a delay of its
group by four would put last, and a rescheduling to one from now keeps first. -/
theorem queue_exact_delayed :
    ∃ machine, exec TaskScheduling.step (Machine.start 0) delayedAndRepeated = some machine ∧
      machine.scheduler.taskHolder = [1, 0] ∧ machine.scheduler.taskHolder.Nodup ∧
      ((machine.scheduler.delayGroup 2 4).tasks 1).endsAt = 11 ∧
      ((machine.scheduler.delayGroup 2 4).tasks 0).endsAt = 8 ∧
      ((machine.scheduler.rescheduleGroup 2 1).tasks 1).endsAt = 7 ∧
      (machine.scheduler.delayGroup 2 4).taskHolder = [0, 1] := by
  obtain ⟨_, _, _, _, distinct, _, delayed, rescheduled⟩ := @queue_exact 0 delayedAndRepeated _ rfl
  refine ⟨_, rfl, by decide, distinct, ?_, ?_, ?_, by decide⟩
  · rw [delayed]
    decide
  · rw [delayed]
    decide
  · rw [rescheduled]
    decide

end Tracked

end TaskScheduling

end WarheadBot
