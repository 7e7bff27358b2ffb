import Mathlib.Data.List.Nodup
import WarheadBot.TaskScheduler

/-!
# Asynchronous callables

`Dispatch` runs a callable while it is still the front of the queue and pops
the queue afterwards.  A callable that calls `Async` adds behind itself, but
one that calls `CancelAll` clears the queue it is the front of, and the pop
that follows meets an empty queue or removes a callable that was registered
in between.

The history below keeps the callables as a plain queue from which a callable is
taken when it starts, and records which were run and which were cancelled.
-/

namespace WarheadBot

namespace TaskScheduling

open GuardedRuns
open TaskScheduler

structure AsyncHistory where
  machine : Machine
  waiting : List Nat
  ran : List Nat
  cancelled : List Nat
  settled : Nat

namespace AsyncHistory

def start (now : Int) : AsyncHistory := ⟨Machine.start now, [], [], [], 0⟩

/-- `settled` counts the callables registered when the loop over the callables
last came to its end. -/
def record (history : AsyncHistory) (machine : Machine) : Label → AsyncHistory
  | .act .async =>
      { history with
        machine := machine
        waiting := history.waiting ++ [history.machine.scheduler.nextAsync] }
  | .act .cancelAll =>
      { history with
        machine := machine
        waiting := []
        cancelled := history.cancelled ++ history.waiting }
  | .runAsync =>
      { history with
        machine := machine
        waiting := history.waiting.tail
        ran := history.ran ++ history.machine.scheduler.asyncHolder.take 1 }
  | .asyncsDone =>
      { history with
        machine := machine
        settled := history.machine.scheduler.nextAsync }
  | _ => { history with machine := machine }

def step (history : AsyncHistory) (label : Label) : Option AsyncHistory :=
  (TaskScheduling.step history.machine label).map fun machine => history.record machine label

/-- No callable calls `CancelAll` while it is run. -/
def CancelsOutside (machine : Machine) (label : Label) : Prop :=
  label = .act .cancelAll → machine.phase ≠ .inAsync

instance (machine : Machine) (label : Label) : Decidable (CancelsOutside machine label) :=
  inferInstanceAs (Decidable (_ → _))

/-- What the queue holds in terms of the history: a callable that is run stays
at its front. -/
structure Holds (history : AsyncHistory) : Prop where
  nonempty : history.machine.phase ≠ .poppedEmpty
  running : history.machine.phase = .inAsync →
    ∃ front, history.machine.scheduler.asyncHolder = front :: history.waiting
  between : history.machine.phase ≠ .inAsync →
    history.machine.scheduler.asyncHolder = history.waiting

structure InOrder (history : AsyncHistory) : Prop where
  holds : Holds history
  order : (history.ran ++ history.waiting).Pairwise fun first second => first < second
  registered : ∀ id ∈ history.ran ++ history.waiting ++ history.cancelled,
    id < history.machine.scheduler.nextAsync
  cancelled : ∀ id ∈ history.cancelled, id ∉ history.ran ++ history.waiting
  complete : ∀ id < history.machine.scheduler.nextAsync,
    id ∈ history.ran ++ history.waiting ∨ id ∈ history.cancelled
  settled : ∀ id < history.settled,
    id < history.machine.scheduler.nextAsync ∧ id ∉ history.waiting

theorem inOrder_start (now : Int) : InOrder (start now) where
  holds := ⟨by simp [start, Machine.start], by simp [start, Machine.start], fun _ => rfl⟩
  order := List.Pairwise.nil
  registered := by simp [start]
  cancelled := by simp [start]
  complete := by simp [start, Machine.start, TaskScheduler.start]
  settled := by simp [start]

/-- A step that concerns no callable keeps the history in order. -/
theorem InOrder.unchanged {history : AsyncHistory} (inOrder : InOrder history)
    {machine : Machine} (sameNext : machine.scheduler.nextAsync =
      history.machine.scheduler.nextAsync)
    (holds : Holds { history with machine := machine }) :
    InOrder { history with machine := machine } where
  holds := holds
  order := inOrder.order
  registered := by
    rw [sameNext]
    exact inOrder.registered
  cancelled := inOrder.cancelled
  complete := by
    rw [sameNext]
    exact inOrder.complete
  settled := by
    rw [sameNext]
    exact inOrder.settled

theorem inOrder_async {history : AsyncHistory} (inOrder : InOrder history) :
    InOrder (history.record ⟨history.machine.scheduler.async, history.machine.phase⟩
      (.act .async)) where
  holds := by
    refine ⟨inOrder.holds.nonempty, ?_, ?_⟩
    · intro isRunning
      obtain ⟨front, held⟩ := inOrder.holds.running isRunning
      exact ⟨front, by simp [record, async, held]⟩
    · intro isBetween
      simp [record, async, inOrder.holds.between isBetween]
  order := by
    simp only [record, ← List.append_assoc]
    refine List.pairwise_append.mpr ⟨inOrder.order, List.pairwise_singleton _ _, ?_⟩
    intro id member last isLast
    rw [List.mem_singleton.mp isLast]
    exact inOrder.registered id (List.mem_append_left _ member)
  registered := by
    intro id member
    have before := inOrder.registered id
    simp only [record, async, List.mem_append, List.mem_singleton] at member before ⊢
    rcases member with (ran | waits | rfl) | cancelled
    · exact Nat.lt_succ_of_lt (before (Or.inl (Or.inl ran)))
    · exact Nat.lt_succ_of_lt (before (Or.inl (Or.inr waits)))
    · exact Nat.lt_succ_self _
    · exact Nat.lt_succ_of_lt (before (Or.inr cancelled))
  cancelled := by
    intro id member present
    have bound := inOrder.registered id (List.mem_append_right _ member)
    have absent := inOrder.cancelled id member
    simp only [record, List.mem_append, List.mem_singleton] at present absent
    rcases present with ran | waits | rfl
    · exact absent (Or.inl ran)
    · exact absent (Or.inr waits)
    · exact Nat.lt_irrefl _ bound
  complete := by
    intro id bound
    have before := inOrder.complete id
    simp only [record, async, List.mem_append, List.mem_singleton] at bound before ⊢
    rcases Nat.lt_succ_iff_lt_or_eq.mp bound with old | rfl
    · rcases before old with (ran | waits) | cancelled
      · exact Or.inl (Or.inl ran)
      · exact Or.inl (Or.inr (Or.inl waits))
      · exact Or.inr cancelled
    · exact Or.inl (Or.inr (Or.inr rfl))
  settled := by
    intro id bound
    obtain ⟨old, absent⟩ := inOrder.settled id bound
    simp only [record, async, List.mem_append, List.mem_singleton]
    refine ⟨Nat.lt_succ_of_lt old, ?_⟩
    rintro (waits | rfl)
    · exact absent waits
    · exact Nat.lt_irrefl _ old

theorem inOrder_cancelAll {history : AsyncHistory} (inOrder : InOrder history)
    (outside : history.machine.phase ≠ .inAsync) :
    InOrder (history.record ⟨history.machine.scheduler.cancelAll, history.machine.phase⟩
      (.act .cancelAll)) where
  holds := ⟨inOrder.holds.nonempty, fun isRunning => absurd isRunning outside, fun _ => rfl⟩
  order := by
    simp only [record, List.append_nil]
    exact (List.pairwise_append.mp inOrder.order).1
  registered := by
    intro id member
    apply inOrder.registered id
    simp only [record, List.append_nil, List.mem_append] at member ⊢
    tauto
  cancelled := by
    intro id member present
    simp only [record, List.append_nil, List.mem_append] at member present
    rcases member with cancelled | waits
    · exact inOrder.cancelled id cancelled (List.mem_append_left _ present)
    · have before := (List.pairwise_append.mp inOrder.order).2.2 id present id waits
      exact Nat.lt_irrefl _ before
  complete := by
    intro id bound
    have before := inOrder.complete id bound
    simp only [record, List.append_nil, List.mem_append] at before ⊢
    tauto
  settled := by
    intro id bound
    exact ⟨(inOrder.settled id bound).1, by simp [record]⟩

/-- The front of the queue is the callable that waits longest. -/
theorem inOrder_runAsync {scheduler : TaskScheduler} {waiting ran cancelled : List Nat}
    {settled : Nat}
    (inOrder : InOrder ⟨⟨scheduler, .asyncs⟩, waiting, ran, cancelled, settled⟩)
    (held : scheduler.asyncHolder ≠ []) :
    InOrder (record ⟨⟨scheduler, .asyncs⟩, waiting, ran, cancelled, settled⟩
      ⟨scheduler, .inAsync⟩ .runAsync) := by
  have same : scheduler.asyncHolder = waiting := inOrder.holds.between (by simp)
  obtain ⟨front, rest, split⟩ := List.exists_cons_of_ne_nil held
  rw [split] at same
  subst same
  have moved : ran ++ [front] ++ rest = ran ++ front :: rest := by simp
  have order := inOrder.order
  have registered := inOrder.registered
  have absent := inOrder.cancelled
  have complete := inOrder.complete
  simp only [record, split, List.tail_cons, List.take_succ_cons, List.take_zero]
  refine ⟨⟨by simp, fun _ => ⟨front, split⟩, by simp⟩, ?_, ?_, ?_, ?_, ?_⟩
  · rw [moved]
    exact order
  · rw [moved]
    exact registered
  · rw [moved]
    exact absent
  · rw [moved]
    exact complete
  · intro id bound
    obtain ⟨old, notWaiting⟩ := inOrder.settled id bound
    exact ⟨old, fun waits => notWaiting (List.mem_cons_of_mem _ waits)⟩

theorem inOrder_step {history next : AsyncHistory} {label : Label} (inOrder : InOrder history)
    (outside : CancelsOutside history.machine label)
    (moved : history.step label = some next) : InOrder next := by
  obtain ⟨machine, stepped, rfl⟩ := Option.map_eq_some_iff.mp moved
  obtain ⟨before, waiting, ran, cancelled, settled⟩ := history
  cases moves_of_step stepped with
  | update scheduler difftime valid =>
      have held : scheduler.asyncHolder = waiting := inOrder.holds.between (by simp)
      exact inOrder.unchanged rfl ⟨by cases valid <;> simp, by cases valid <;> simp,
        fun _ => held⟩
  | act scheduler result phase action performed =>
      by_cases isAsync : action = .async
      · subst isAsync
        cases performed
        exact inOrder_async inOrder
      by_cases isCancel : action = .cancelAll
      · subst isCancel
        cases performed
        exact inOrder_cancelAll inOrder (outside rfl)
      obtain ⟨sameHolder, sameNext⟩ := perform_asyncs performed isAsync isCancel
      have recorded : record ⟨⟨scheduler, phase⟩, waiting, ran, cancelled, settled⟩
          ⟨result, phase⟩ (.act action) = ⟨⟨result, phase⟩, waiting, ran, cancelled, settled⟩ := by
        cases action <;> simp_all [record]
      rw [recorded]
      refine inOrder.unchanged sameNext ⟨inOrder.holds.nonempty, ?_, ?_⟩
      · rw [sameHolder]
        exact inOrder.holds.running
      · rw [sameHolder]
        exact inOrder.holds.between
  | runAsync scheduler held => exact inOrder_runAsync inOrder held
  | popEmpty scheduler valid empty =>
      obtain ⟨front, held⟩ := inOrder.holds.running rfl
      rw [empty] at held
      cases held
  | popAsync scheduler front rest valid held =>
      obtain ⟨_, isFront⟩ := inOrder.holds.running rfl
      rw [held, List.cons.injEq] at isFront
      exact inOrder.unchanged rfl ⟨by cases valid <;> simp, by cases valid <;> simp,
        fun _ => isFront.2⟩
  | asyncsDone scheduler empty =>
      have none : waiting = [] := (inOrder.holds.between (by simp)).symm.trans empty
      subst none
      exact ⟨⟨by simp [record], by simp [record], fun _ => empty⟩, inOrder.order,
        inOrder.registered, inOrder.cancelled, inOrder.complete,
        fun id bound => ⟨bound, by simp [record]⟩⟩
  | runTask scheduler task isDue =>
      exact inOrder.unchanged rfl ⟨by simp, by simp, fun _ => inOrder.holds.between (by simp)⟩
  | taskDone scheduler valid =>
      have held : scheduler.asyncHolder = waiting := inOrder.holds.between (by simp)
      exact inOrder.unchanged rfl ⟨by cases valid <;> simp, by cases valid <;> simp,
        fun _ => held⟩
  | finish scheduler noneDue =>
      exact inOrder.unchanged rfl ⟨by simp, by simp, fun _ => inOrder.holds.between (by simp)⟩

theorem step_machine (history : AsyncHistory) (label : Label) :
    (history.step label).map AsyncHistory.machine =
      TaskScheduling.step history.machine label := by
  have recorded : ∀ machine, (history.record machine label).machine = machine := by
    intro machine
    unfold record
    split <;> rfl
  simp [step, Option.map_map, Function.comp_def, recorded]

/-- What was registered before the loop over the callables last came to its end
was run once, or was cancelled and not run, and the callables were run in the
order of their registration. -/
structure Settled (history : AsyncHistory) : Prop where
  inTurn : history.ran.Pairwise fun first second => first < second
  onceOrCancelled : ∀ id < history.settled,
    history.ran.count id = 1 ∧ id ∉ history.cancelled ∨
      history.ran.count id = 0 ∧ id ∈ history.cancelled

theorem InOrder.settles {history : AsyncHistory} (inOrder : InOrder history) :
    Settled history := by
  have inTurn := (List.pairwise_append.mp inOrder.order).1
  refine ⟨inTurn, ?_⟩
  intro id bound
  obtain ⟨isRegistered, notWaiting⟩ := inOrder.settled id bound
  have distinct : history.ran.Nodup := inTurn.imp fun before => Nat.ne_of_lt before
  rcases inOrder.complete id isRegistered with known | cancelled
  · rcases List.mem_append.mp known with ran | waits
    · refine Or.inl ⟨List.count_eq_one_of_mem distinct ran, ?_⟩
      exact fun cancelled => inOrder.cancelled id cancelled known
    · exact absurd waits notWaiting
  · refine Or.inr ⟨List.count_eq_zero.mpr ?_, cancelled⟩
    exact fun ran => inOrder.cancelled id cancelled (List.mem_append_left _ ran)

/-- As long as no callable calls `CancelAll` while it is run, no empty queue is
popped and every callable is run once and in turn, unless it is cancelled
before; a callable that calls `CancelAll` can always be followed by the pop of
an empty queue. -/
theorem callables_settled {now : Int} {labels : List Label} {machine : Machine}
    (meets : Meets TaskScheduling.step CancelsOutside (Machine.start now) labels)
    (reached : exec TaskScheduling.step (Machine.start now) labels = some machine) :
    ∃ history, exec step (start now) labels = some history ∧ history.machine = machine ∧
      machine.phase ≠ .poppedEmpty ∧ Settled history ∧
      ∀ label next, TaskScheduling.step machine label = some next →
        ¬ CancelsOutside machine label →
          ∃ later final, exec TaskScheduling.step next later = some final ∧
            final.phase = .poppedEmpty := by
  obtain ⟨history, run, rfl⟩ := exists_exec_of_map step_machine (start now) reached
  have historyMeets := @meets_of_map _ _ _ _ _ _ _ step_machine (start now) labels meets
  have inOrder := exec_invariant inOrder_step historyMeets run (inOrder_start now)
  refine ⟨history, run, rfl, inOrder.holds.nonempty, inOrder.settles, ?_⟩
  intro label next moved inside
  unfold CancelsOutside at inside
  push Not at inside
  obtain ⟨rfl, running⟩ := inside
  have cleared : next = ⟨history.machine.scheduler.cancelAll, .inAsync⟩ := by
    simp only [TaskScheduling.step, running, true_or, or_true, if_true, perform,
      Option.map_some, Option.some.injEq] at moved
    exact moved.symm
  exact ⟨[.popAsync true], ⟨next.scheduler, .poppedEmpty⟩, by subst cleared; rfl, rfl⟩

/-- The first callable registers a second one while it is run. -/
def registersAnother : List Label :=
  [.act .async, .update 0 true, .runAsync, .act .async, .popAsync true, .runAsync,
    .popAsync true, .asyncsDone, .finish]

theorem callables_settled_registersAnother :
    ∃ history, exec step (start 0) registersAnother = some history ∧
      history.ran = [0, 1] ∧ Settled history := by
  obtain ⟨history, run, _, _, settled, _⟩ :=
    @callables_settled 0 registersAnother _ (by decide) rfl
  refine ⟨history, run, ?_, settled⟩
  cases run
  decide

/-- A callable that calls `CancelAll`: the queue is empty when it is popped, or
a callable it registers afterwards is popped without being run. -/
theorem cancelAll_inside_callable :
    (∃ machine, exec TaskScheduling.step (Machine.start 0)
        [.act .async, .update 0 true, .runAsync, .act .cancelAll, .popAsync true] =
          some machine ∧ machine.phase = .poppedEmpty) ∧
    ∃ history, exec step (start 0)
        [.act .async, .update 0 true, .runAsync, .act .cancelAll, .act .async, .popAsync true,
          .asyncsDone, .finish] = some history ∧ ¬ Settled history := by
  refine ⟨⟨_, rfl, rfl⟩, _, rfl, ?_⟩
  intro settled
  have lost := settled.onceOrCancelled 1 (by decide)
  revert lost
  decide

end AsyncHistory

end TaskScheduling

end WarheadBot
