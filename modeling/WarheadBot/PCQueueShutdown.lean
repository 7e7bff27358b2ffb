import WarheadBot.PCQueueDrains

/-!
# A cancelled queue

The pool cancels the queue of its workers before it destroys them.  From then on nothing
is taken any more, a worker that is not destroyed goes round in its loop without waiting,
and an operation that is still pushed stays where it is.  The destructor of a worker joins
it all the same: a thread that has been notified makes at most six further steps, whatever
the others do.
-/

namespace WarheadBot

namespace PCQueue

open GuardedRuns

variable {Operation : Type}

/-- A thread that will not wait any more. -/
def Destructor.hasNotified : Destructor → Bool
  | .joining => true
  | .ended => true
  | _ => false

/-- The steps of the thread, with the one that joins it, that are left at most. -/
def Thread.stepsLeft (thread : Thread Operation) : Nat :=
  match thread.place, thread.destructor with
  | .stopped, .ended => 0
  | .stopped, _ => 1
  | .returned _, _ => 2
  | .passed, _ => 3
  | .testing, _ => 4
  | .executing _, _ => 6
  | _, _ => 5

/-- A step of the thread itself. -/
def Label.isOf (index : Nat) : Label Operation → Bool
  | .thread mover _ => mover = index
  | _ => false

section Moves

variable {kind : Kind} {label : Move} {shared next : Queue Operation}
  {thread changed : Thread Operation}

theorem Thread.Fits.cancel_of_notified (fits : thread.Fits kind shared)
    (notified : thread.destructor.hasNotified = true) :
    thread.cancel = true ∧ (thread.released kind = true ∨ shared.shutdown = true) ∧
      thread.place.isWaiting = false := by
  have cancelled : thread.cancel = true := by
    rw [fits.flag]
    intro notBegun
    rw [notBegun] at notified
    cases notified
  refine ⟨cancelled, ?_, ?_⟩
  · cases kind with
    | worker => exact .inl (by simp [Thread.released, cancelled])
    | checker =>
        right
        apply fits.closed rfl
        cases reached : thread.destructor with
        | joining => exact .inl rfl
        | ended => exact .inr rfl
        | notBegun => simp [reached, Destructor.hasNotified] at notified
        | flagged => simp [reached, Destructor.hasNotified] at notified
  · by_contra waits
    have flagged := fits.cancelledWaiting cancelled (eq_true_of_ne_false waits)
    rw [flagged] at notified
    cases notified

theorem Thread.Moves.stepsLeft (moves : thread.Moves kind shared label next changed)
    (fits : thread.Fits kind shared) (notified : thread.destructor.hasNotified = true) :
    changed.destructor.hasNotified = true ∧ changed.stepsLeft + 1 ≤ thread.stepsLeft := by
  obtain ⟨cancelled, goes, awake⟩ := fits.cancel_of_notified notified
  have leaves (operation : Option Operation) : thread.leaves kind operation = true := by
    simp [Thread.leaves, cancelled]
  cases moves with
  | locks outside free =>
      refine ⟨notified, ?_⟩
      rcases outside with place | place <;> simp [Thread.stepsLeft, place]
  | waits place empty isOpen kept =>
      rcases goes with released | isShut
      · cases kept.symm.trans released
      · cases isOpen.symm.trans isShut
  | passes place _ => exact ⟨notified, by simp [Thread.stepsLeft, place]⟩
  | takes operation queue place first isOpen kept =>
      exact ⟨notified, by simp [Thread.stepsLeft, place]⟩
  | takesNothing place _ => exact ⟨notified, by simp [Thread.stepsLeft, place]⟩
  | wakes place =>
      rw [place] at awake
      cases awake
  | stops operation place _ =>
      refine ⟨notified, ?_⟩
      have unended := fits.not_ended place (by simp)
      cases reached : thread.destructor with
      | ended => exact absurd reached unended
      | _ => simp [Thread.stepsLeft, place, reached]
  | again place stays => cases (leaves none).symm.trans stays
  | executes operation place stays => cases (leaves (some operation)).symm.trans stays
  | finishes operation place => exact ⟨notified, by simp [Thread.stepsLeft, place]⟩
  | begins notBegun =>
      rw [notBegun] at notified
      cases notified
  | joins place joining => exact ⟨rfl, by simp [Thread.stepsLeft, place, joining]⟩

end Moves

section Run

variable {kind : Kind} {state next : State Operation} {label : Label Operation} {index : Nat}
  {thread : Thread Operation}

theorem notified_step (sound : Sound kind state)
    (found : state.threads[index]? = some thread)
    (notified : thread.destructor.hasNotified = true)
    (stepped : step kind state label = some next) :
    ∃ changed, next.threads[index]? = some changed ∧
      changed.destructor.hasNotified = true ∧
      changed.stepsLeft + (label.isOf index).toNat ≤ thread.stepsLeft := by
  have fits := sound.fits thread (List.mem_of_getElem? found)
  have awake := (fits.cancel_of_notified notified).2.2
  have inside : index < state.threads.length := (List.getElem?_eq_some_iff.mp found).1
  cases label with
  | construct =>
      cases stepped
      refine ⟨thread, ?_, notified, Nat.le_refl _⟩
      rw [List.getElem?_append_left inside, found]
  | push operation woken =>
      refine ⟨thread, ?_, notified, Nat.le_refl _⟩
      simp only [step] at stepped
      split_ifs at stepped
      obtain ⟨threads, happened, rfl⟩ := Option.map_eq_some_iff.mp stepped
      cases woken with
      | none =>
          simp only [notifyOne] at happened
          split_ifs at happened
          cases happened
          exact found
      | some other =>
          simp only [notifyOne] at happened
          split at happened
          · cases happened
          · rename_i sleeper there
            split_ifs at happened with waits
            cases happened
            by_cases same : other = index
            · subst same
              rw [found, Option.some.injEq] at there
              rw [there, waits] at awake
              cases awake
            · rw [List.getElem?_set_ne same, found]
  | cancel =>
      refine ⟨thread, ?_, notified, Nat.le_refl _⟩
      simp only [step] at stepped
      split_ifs at stepped
      cases stepped
      rw [List.getElem?_map, found, Option.map_some, Thread.wake_of_not awake]
  | notifyDestroy other =>
      refine ⟨thread, ?_, notified, Nat.le_refl _⟩
      simp only [step] at stepped
      split at stepped
      · cases stepped
      · rename_i owner there
        split at stepped
        · rename_i ready
          cases stepped
          have different : other ≠ index := by
            rintro rfl
            rw [found, Option.some.injEq] at there
            rw [there, ready.2] at notified
            cases notified
          rw [List.getElem?_map, List.getElem?_set_ne different, found, Option.map_some,
            Thread.wake_of_not awake]
        · cases stepped
  | thread mover move =>
      obtain ⟨party, changed, shared, there, moves, rfl⟩ := step_thread_eq_some stepped
      by_cases same : mover = index
      · subst same
        rw [found, Option.some.injEq] at there
        subst there
        obtain ⟨still, fewer⟩ := moves.stepsLeft fits notified
        refine ⟨changed, List.getElem?_set_self inside, still, ?_⟩
        simpa [Label.isOf] using fewer
      · refine ⟨thread, ?_, notified, ?_⟩
        · exact (List.getElem?_set_ne same).trans found
        · simp [Label.isOf, same]

theorem notified_run {rest : List (Label Operation)} {last : State Operation}
    (sound : Sound kind state) (found : state.threads[index]? = some thread)
    (notified : thread.destructor.hasNotified = true)
    (continued : exec (step kind) state rest = some last) :
    ∃ changed, last.threads[index]? = some changed ∧
      changed.destructor.hasNotified = true ∧
      changed.stepsLeft + rest.countP (Label.isOf index) ≤ thread.stepsLeft := by
  induction rest generalizing state thread with
  | nil =>
      cases continued
      exact ⟨thread, found, notified, Nat.le_refl _⟩
  | cons label rest ih =>
      obtain ⟨next, stepped, continued⟩ := exec_cons.mp continued
      obtain ⟨middle, there, still, fewer⟩ := notified_step sound found notified stepped
      obtain ⟨changed, atLast, ended, later⟩ :=
        ih (sound_step sound stepped) there still continued
      refine ⟨changed, atLast, ended, ?_⟩
      rw [List.countP_cons]
      cases own : label.isOf index with
      | false =>
          rw [own] at fewer
          exact Nat.le_trans later fewer
      | true =>
          rw [own, Bool.toNat_true] at fewer
          simp only [if_true]
          omega

/-- A thread that is to be joined can make its next step, or waits for the mutex while the
thread that holds it can make its own. -/
theorem notified_moves (sound : Sound kind state)
    (found : state.threads[index]? = some thread)
    (notified : thread.destructor.hasNotified = true) (unended : thread.destructor ≠ .ended) :
    ∃ mover moving move next, state.threads[mover]? = some moving ∧
      (mover = index ∨ moving.place.holds = true) ∧
      step kind state (.thread mover move) = some next := by
  have fits := sound.fits thread (List.mem_of_getElem? found)
  have awake := (fits.cancel_of_notified notified).2.2
  by_cases stopped : thread.place = .stopped
  · have joining : thread.destructor = .joining := by
      cases reached : thread.destructor with
      | joining => rfl
      | ended => exact absurd reached unended
      | notBegun => simp [reached, Destructor.hasNotified] at notified
      | flagged => simp [reached, Destructor.hasNotified] at notified
    obtain ⟨next, stepped⟩ := step_thread found (Thread.move_join stopped joining)
    exact ⟨index, thread, .join, next, found, .inl rfl, stepped⟩
  · have notWaiting : thread.place ≠ .waiting := by
      intro waits
      rw [waits] at awake
      cases awake
    by_cases free : state.shared.locked = false
    · obtain ⟨move, result, -, moved⟩ :=
        thread.able kind state.shared notWaiting stopped fun _ => free
      obtain ⟨next, stepped⟩ := step_thread found moved
      exact ⟨index, thread, move, next, found, .inl rfl, stepped⟩
    · have holders := sound.holders
      rw [if_pos (eq_true_of_ne_false free)] at holders
      obtain ⟨holder, member, holds⟩ :=
        List.countP_pos_iff.mp (Nat.lt_of_lt_of_eq Nat.zero_lt_one holders.symm)
      obtain ⟨mover, there⟩ := List.mem_iff_getElem?.mp member
      obtain ⟨move, result, -, moved⟩ := holder.able_of_holds kind state.shared holds
      obtain ⟨next, stepped⟩ := step_thread there moved
      exact ⟨mover, holder, move, next, there, .inr holds, stepped⟩

theorem stepsLeft_le (thread : Thread Operation) : thread.stepsLeft ≤ 6 := by
  unfold Thread.stepsLeft
  split <;> decide

/-- Once the destructor of a worker has notified the threads, the worker makes at most six
further steps, the one that joins it included.  Until it is joined, it can make the next of
them, or the thread that holds the mutex can go on. -/
theorem destroyed_worker_joined {labels rest : List (Label Operation)} {last : State Operation}
    (reached : exec (step kind) start labels = some state)
    (found : state.threads[index]? = some thread) (joining : thread.destructor = .joining)
    (continued : exec (step kind) state rest = some last) :
    rest.countP (Label.isOf index) ≤ 6 ∧
      ∃ changed, last.threads[index]? = some changed ∧
        (changed.destructor = .ended ∨
          ∃ mover moving move next, last.threads[mover]? = some moving ∧
            (mover = index ∨ moving.place.holds = true) ∧
            step kind last (.thread mover move) = some next) := by
  have sound := sound_of_reached reached
  have notified : thread.destructor.hasNotified = true := by
    rw [joining]
    rfl
  obtain ⟨changed, atLast, still, bound⟩ := notified_run sound found notified continued
  have atMost := stepsLeft_le thread
  refine ⟨by omega, changed, atLast, ?_⟩
  by_cases ended : changed.destructor = .ended
  · exact .inl ended
  · right
    exact notified_moves (sound_of_reached (exec_append reached continued)) atLast still ended

theorem taken_step (isShut : state.shared.shutdown = true)
    (stepped : step kind state label = some next) :
    next.shared.shutdown = true ∧ next.shared.taken = state.shared.taken := by
  cases step_of_step stepped with
  | constructed => exact ⟨isShut, rfl⟩
  | pushed operation free noneWaits => exact ⟨isShut, rfl⟩
  | pushedWaking operation index before after thread free split waits => exact ⟨isShut, rfl⟩
  | cancelled free => exact ⟨rfl, rfl⟩
  | notified index before after thread free split flagged =>
      cases kind with
      | worker => exact ⟨isShut, rfl⟩
      | checker => exact ⟨rfl, rfl⟩
  | moved index move before after thread changed shared split moves =>
      refine ⟨moves.shutdown_eq.trans isShut, ?_⟩
      cases moves with
      | takes operation queue place first isOpen kept =>
          exact absurd (isOpen.symm.trans isShut) nofun
      | _ => rfl

/-- When the queue has been cancelled no thread waits and none takes anything.  What is
executed from then on was taken before, and what is pushed stays in the queue until it is
deleted. -/
theorem cancelled_queue_takes_nothing [DecidableEq Operation]
    {labels rest : List (Label Operation)} {last : State Operation}
    (reached : exec (step kind) start labels = some state)
    (isShut : state.shared.shutdown = true)
    (continued : exec (step kind) state rest = some last) :
    (∀ thread ∈ last.threads, thread.place ≠ .waiting) ∧
      (last.shared.executed ++ last.shared.lost ++ last.inHand).Perm state.shared.taken ∧
      last.shared.pushed = state.shared.taken ++ last.shared.deleted ++ last.shared.queue := by
  have whole := exec_append reached continued
  have sound := sound_of_reached whole
  have accounted := accounted_of_reached whole
  have kept : last.shared.shutdown = true ∧ last.shared.taken = state.shared.taken := by
    refine @exec_invariant_of_step _ _ (step kind)
      (fun middle => middle.shared.shutdown = true ∧ middle.shared.taken = state.shared.taken)
      ?_ _ _ _ continued ⟨isShut, rfl⟩
    intro middle next label kept stepped
    have after := taken_step kept.1 stepped
    exact ⟨after.1, after.2.trans kept.2⟩
  refine ⟨?_, ?_, ?_⟩
  · intro thread member waits
    have awake := (sound.fits thread member).notWaiting kept.1
    rw [waits] at awake
    cases awake
  · rw [← kept.2, List.perm_iff_count]
    intro operation
    rw [← accounted.counts operation, List.count_append, List.count_append]
  · rw [accounted.order, kept.2]

end Run

/-- The pool cancels the queue while its worker waits, and destroys the worker later. -/
def cancelledUnderWorker : List (Label Nat) :=
  [.construct, .thread 0 .lock, .thread 0 .test, .push 10 (some 0), .cancel, .push 20 none]

/-- The worker goes round in its loop, and is joined. -/
def spinsAndJoins : List (Label Nat) :=
  [.thread 0 .lock, .thread 0 .test, .thread 0 .take, .thread 0 .testCancel, .thread 0 .lock,
    .thread 0 .beginDestroy, .thread 0 .test, .thread 0 .take]

theorem cancelled_queue_takes_nothing_more :
    ∃ state last, exec (step .worker) start cancelledUnderWorker = some state ∧
      exec (step .worker) state spinsAndJoins = some last ∧
      (last.shared.executed ++ last.shared.lost ++ last.inHand).Perm state.shared.taken ∧
      last.shared.deleted = [10] ∧ last.shared.queue = [20] := by
  refine ⟨_, _, rfl, rfl, ?_, rfl, rfl⟩
  have result := @cancelled_queue_takes_nothing Nat .worker _ _ cancelledUnderWorker
    spinsAndJoins _ rfl rfl rfl
  exact result.2.1

def notifiesWorker : List (Label Nat) :=
  cancelledUnderWorker ++ spinsAndJoins ++ [.notifyDestroy 0]

def stopsWorker : List (Label Nat) :=
  [.push 30 none, .thread 0 .testCancel, .cancel, .thread 0 .join]

theorem destroyed_worker_joined_spinning :
    ∃ state last, exec (step .worker) start notifiesWorker = some state ∧
      exec (step .worker) state stopsWorker = some last ∧
      last.threads.map Thread.destructor = [.ended] ∧
      stopsWorker.countP (Label.isOf 0) ≤ 6 := by
  refine ⟨_, _, rfl, rfl, rfl, ?_⟩
  have result := @destroyed_worker_joined Nat .worker _ 0 _ notifiesWorker stopsWorker _ rfl rfl
    rfl rfl
  exact result.1

end PCQueue

end WarheadBot
