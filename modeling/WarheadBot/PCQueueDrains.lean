import Mathlib.Algebra.GroupWithZero.Nat
import WarheadBot.PCQueueAccounting

/-!
# The threads come to rest

Unless the queue of the workers is cancelled under them, each step that the threads and
the destructors make on their own takes some of the work away that is left.  When they
can make no further one, every destructor that has begun has joined its thread, and the
threads that are left have emptied the queue.
-/

namespace WarheadBot

namespace PCQueue

open GuardedRuns

variable {Operation : Type}

def Move.isInternal : Move → Bool
  | .wakeSpuriously => false
  | .beginDestroy => false
  | _ => true

/-- A step that is made without anything new from outside. -/
def Label.isInternal : Label Operation → Bool
  | .notifyDestroy _ => true
  | .thread _ move => move.isInternal
  | _ => false

def Place.work : Place Operation → Nat
  | .stopped => 0
  | .waiting => 1
  | .returned none => 2
  | .passed => 3
  | .testing => 4
  | .entering => 5
  | .woken => 5
  | .executing _ => 6
  | .returned (some _) => 7

/-- A destructor still has to wake all threads. -/
def Destructor.work (threads : Nat) : Destructor → Nat
  | .flagged => 4 * threads + 2
  | .joining => 1
  | _ => 0

def Thread.work (threads : Nat) (thread : Thread Operation) : Nat :=
  thread.place.work + thread.destructor.work threads

def State.work (state : State Operation) : Nat :=
  5 * state.shared.queue.length +
    (state.threads.map (Thread.work state.threads.length)).sum

/-- A worker whose queue is cancelled does not wait any more. -/
def Ends (kind : Kind) (state : State Operation) : Prop :=
  kind = .checker ∨ state.shared.shutdown = false

section Moves

variable {kind : Kind} {label : Move} {shared next : Queue Operation}
  {thread changed : Thread Operation}

theorem Thread.Moves.lowers (moves : thread.Moves kind shared label next changed)
    (internal : label.isInternal = true) (fits : thread.Fits kind shared)
    (ends : kind = .checker ∨ shared.shutdown = false) (threads : Nat) :
    5 * next.queue.length + changed.work threads <
      5 * shared.queue.length + thread.work threads := by
  cases moves with
  | locks outside free =>
      rcases outside with place | place <;> simp [Thread.work, place, Place.work]
  | waits place empty isOpen kept => simp [Thread.work, place, Place.work]
  | passes place goes => simp [Thread.work, place, Place.work]
  | takes operation queue place first isOpen kept =>
      simp only [Thread.work, place, Place.work, first, List.length_cons]
      omega
  | takesNothing place goes => simp [Thread.work, place, Place.work]
  | wakes place => cases internal
  | stops operation place leaves =>
      cases operation <;> simp [Thread.work, place, Place.work]
  | again place stays =>
      -- `WaitAndPop` returns without an operation only if its thread is to stop.
      exfalso
      simp only [Thread.leaves, Bool.or_eq_false_iff] at stays
      rcases fits.returnedNone place with isShut | released
      · rcases ends with isChecker | isOpen
        · simp [isChecker] at stays
        · cases isOpen.symm.trans isShut
      · simp [Thread.released, stays.1] at released
  | executes operation place stays => simp [Thread.work, place, Place.work]
  | finishes operation place => simp [Thread.work, place, Place.work]
  | begins notBegun => cases internal
  | joins place joining => simp [Thread.work, place, joining, Destructor.work]

/-- A thread goes on unless it waits for the condition or for the mutex. -/
theorem Thread.able (kind : Kind) (shared : Queue Operation) (thread : Thread Operation)
    (awake : thread.place ≠ .waiting) (notStopped : thread.place ≠ .stopped)
    (free : thread.place = .entering ∨ thread.place = .woken → shared.locked = false) :
    ∃ move result, move.isInternal = true ∧ thread.move kind move shared = some result := by
  suffices able : ∃ move : Move, move.isInternal = true ∧
      (thread.move kind move shared).isSome = true by
    obtain ⟨move, internal, able⟩ := able
    obtain ⟨result, moved⟩ := Option.isSome_iff_exists.mp able
    exact ⟨move, result, internal, moved⟩
  obtain ⟨place, cancel, destructor⟩ := thread
  cases place with
  | entering => exact ⟨.lock, rfl, by simp [Thread.move, free (.inl rfl)]⟩
  | woken => exact ⟨.lock, rfl, by simp [Thread.move, free (.inr rfl)]⟩
  | testing =>
      refine ⟨.test, rfl, ?_⟩
      simp only [Thread.move]
      split_ifs <;> rfl
  | passed =>
      refine ⟨.take, rfl, ?_⟩
      simp only [Thread.move]
      split <;> rfl
  | waiting => exact absurd rfl awake
  | returned operation =>
      refine ⟨.testCancel, rfl, ?_⟩
      simp only [Thread.move]
      split
      · rfl
      · cases operation <;> rfl
  | executing operation => exact ⟨.finish, rfl, rfl⟩
  | stopped => exact absurd rfl notStopped

theorem Thread.able_of_holds (kind : Kind) (shared : Queue Operation)
    (thread : Thread Operation) (holds : thread.place.holds = true) :
    ∃ move result, move.isInternal = true ∧ thread.move kind move shared = some result := by
  refine thread.able kind shared ?_ ?_ ?_
  · intro place
    rw [place] at holds
    cases holds
  · intro place
    rw [place] at holds
    cases holds
  · intro outside
    rcases outside with place | place <;> rw [place] at holds <;> cases holds

theorem Thread.move_join (stopped : thread.place = .stopped)
    (joining : thread.destructor = .joining) :
    thread.move kind .join shared = some (shared, { thread with destructor := .ended }) := by
  obtain ⟨place, cancel, destructor⟩ := thread
  dsimp only at stopped joining
  subst stopped joining
  rfl

theorem Thread.work_wake (thread : Thread Operation) (threads : Nat) :
    thread.wake.work threads ≤ thread.work threads + 4 := by
  cases waits : thread.place.isWaiting with
  | false =>
      rw [Thread.wake_of_not waits]
      exact Nat.le_add_right _ _
  | true =>
      have place := place_of_isWaiting waits
      rw [Thread.wake_waiting waits, Thread.work, Thread.work, place]
      simp only [Place.work]
      omega

theorem work_map_wake (threads : List (Thread Operation)) (number : Nat) :
    ((threads.map Thread.wake).map (Thread.work number)).sum ≤
      (threads.map (Thread.work number)).sum + 4 * threads.length := by
  induction threads with
  | nil => exact Nat.le_refl _
  | cons thread threads ih =>
      have here := thread.work_wake number
      simp only [List.map_cons, List.sum_cons, List.length_cons]
      omega

theorem work_split (number : Nat) (before after : List (Thread Operation))
    (thread : Thread Operation) :
    ((before ++ thread :: after).map (Thread.work number)).sum =
      ((before ++ after).map (Thread.work number)).sum + thread.work number := by
  simp only [List.map_append, List.map_cons, List.sum_append, List.sum_cons]
  omega

end Moves

section Run

variable {kind : Kind} {state next : State Operation} {label : Label Operation}

theorem ends_step (internal : label.isInternal = true) (ends : Ends kind state)
    (stepped : step kind state label = some next) : Ends kind next := by
  rcases ends with isChecker | isOpen
  · exact .inl isChecker
  · cases step_of_step stepped with
    | constructed => cases internal
    | pushed operation free noneWaits => cases internal
    | pushedWaking operation index before after thread free split waits => cases internal
    | cancelled free => cases internal
    | notified index before after thread free split flagged =>
        cases kind with
        | worker => exact .inr isOpen
        | checker => exact .inl rfl
    | moved index move before after thread changed shared split moves =>
        exact .inr (moves.shutdown_eq.trans isOpen)

theorem work_step (internal : label.isInternal = true) (sound : Sound kind state)
    (ends : Ends kind state) (stepped : step kind state label = some next) :
    next.work < state.work := by
  cases step_of_step stepped with
  | constructed => cases internal
  | pushed operation free noneWaits => cases internal
  | pushedWaking operation index before after thread free split waits => cases internal
  | cancelled free => cases internal
  | notified index before after thread free split flagged =>
      have number : state.threads.length = (before ++ after).length + 1 := by
        rw [split]
        simp only [List.length_append, List.length_cons]
        omega
      have woken := work_map_wake (before ++ { thread with destructor := .joining } :: after)
        state.threads.length
      have same : (before ++ { thread with destructor := .joining } :: after).length =
          state.threads.length := by simp [split]
      have queue : (if kind = .worker then state.shared
          else state.shared.cancel).queue.length ≤ state.shared.queue.length := by
        split_ifs
        · exact Nat.le_refl _
        · exact Nat.zero_le _
      have thread_work : thread.work state.threads.length =
          thread.place.work + (4 * state.threads.length + 2) := by
        rw [Thread.work, flagged, Destructor.work]
      have joining_work : ({ thread with destructor := .joining } : Thread Operation).work
          state.threads.length = thread.place.work + 1 := rfl
      have before_work : (state.threads.map (Thread.work state.threads.length)).sum =
          ((before ++ after).map (Thread.work state.threads.length)).sum +
            thread.work state.threads.length := by
        rw [← work_split, ← split]
      rw [work_split, same] at woken
      rw [State.work, State.work, List.length_map, same]
      dsimp only
      omega
  | moved index move before after thread changed shared split moves =>
      have fits := sound.fits thread (by simp [split])
      have lower := moves.lowers internal fits ends state.threads.length
      have same : (before ++ changed :: after).length = state.threads.length := by simp [split]
      have before_work : (state.threads.map (Thread.work state.threads.length)).sum =
          ((before ++ after).map (Thread.work state.threads.length)).sum +
            thread.work state.threads.length := by
        rw [← work_split, ← split]
      rw [State.work, State.work, same, work_split]
      dsimp only
      omega

/-- What one thread may be left with. -/
theorem step_thread {index : Nat} {move : Move} {thread changed : Thread Operation}
    {shared : Queue Operation} (found : state.threads[index]? = some thread)
    (moved : thread.move kind move state.shared = some (shared, changed)) :
    ∃ next, step kind state (.thread index move) = some next := by
  refine ⟨⟨shared, state.threads.set index changed⟩, ?_⟩
  simp [step, Parties.moveAt, found, moved]

/-- No thread can make a step on its own. -/
def Rests (kind : Kind) (state : State Operation) : Prop :=
  ∀ label : Label Operation, label.isInternal = true → step kind state label = none

theorem Rests.move_eq_none (rests : Rests kind state) {thread : Thread Operation}
    (member : thread ∈ state.threads) (move : Move) (internal : move.isInternal = true) :
    thread.move kind move state.shared = none := by
  obtain ⟨index, found⟩ := List.mem_iff_getElem?.mp member
  by_contra able
  obtain ⟨⟨shared, changed⟩, moved⟩ := Option.ne_none_iff_exists'.mp able
  obtain ⟨next, stepped⟩ := step_thread found moved
  rw [rests (.thread index move) internal] at stepped
  cases stepped

theorem Rests.holds_eq_false (rests : Rests kind state) {thread : Thread Operation}
    (member : thread ∈ state.threads) : thread.place.holds = false := by
  by_contra holds
  obtain ⟨move, result, internal, moved⟩ :=
    thread.able_of_holds kind state.shared (eq_true_of_ne_false holds)
  rw [rests.move_eq_none member move internal] at moved
  cases moved

theorem Rests.locked_eq_false (rests : Rests kind state) (sound : Sound kind state) :
    state.shared.locked = false := by
  by_contra held
  have holders := sound.holders
  rw [if_pos (eq_true_of_ne_false held)] at holders
  have nobody : state.threads.countP (fun thread => thread.place.holds) = 0 :=
    List.countP_eq_zero.mpr fun thread member => by simp [rests.holds_eq_false member]
  rw [nobody] at holders
  cases holders

theorem Rests.place (rests : Rests kind state) (sound : Sound kind state)
    {thread : Thread Operation} (member : thread ∈ state.threads) :
    thread.place = .waiting ∨ thread.place = .stopped := by
  by_contra busy
  rw [not_or] at busy
  obtain ⟨move, result, internal, moved⟩ := thread.able kind state.shared busy.1 busy.2
    fun _ => rests.locked_eq_false sound
  rw [rests.move_eq_none member move internal] at moved
  cases moved

theorem Rests.destructor (rests : Rests kind state) (sound : Sound kind state)
    {thread : Thread Operation} (member : thread ∈ state.threads) :
    thread.destructor = .notBegun ∨ thread.destructor = .ended := by
  have free := rests.locked_eq_false sound
  cases reached : thread.destructor with
  | notBegun => exact .inl rfl
  | ended => exact .inr rfl
  | flagged =>
      obtain ⟨index, found⟩ := List.mem_iff_getElem?.mp member
      have none := rests (.notifyDestroy index) rfl
      simp [step, found, free, reached] at none
  | joining =>
      have fits := sound.fits thread member
      have cancelled : thread.cancel = true := fits.flag.mpr (by simp [reached])
      rcases rests.place sound member with waits | stopped
      · have flagged := fits.cancelledWaiting cancelled (by rw [waits]; rfl)
        rw [reached] at flagged
        cases flagged
      · have none := rests.move_eq_none member .join rfl
        rw [Thread.move_join stopped reached] at none
        cases none

theorem rests_of_idle
    (idle : ∀ thread ∈ state.threads,
      (thread.place = .waiting ∨ thread.place = .stopped) ∧
        (thread.destructor = .notBegun ∨ thread.destructor = .ended)) :
    Rests kind state := by
  intro label internal
  by_contra able
  obtain ⟨next, stepped⟩ := Option.ne_none_iff_exists'.mp able
  cases step_of_step stepped with
  | constructed => cases internal
  | pushed operation free noneWaits => cases internal
  | pushedWaking operation index before after thread free split waits => cases internal
  | cancelled free => cases internal
  | notified index before after thread free split flagged =>
      have quiet := (idle thread (by simp [split])).2
      simp [flagged] at quiet
  | moved index move before after thread changed shared split moves =>
      have quiet := idle thread (by simp [split])
      cases moves with
      | locks outside free => rcases outside with place | place <;> simp [place] at quiet
      | waits place empty isOpen kept => simp [place] at quiet
      | passes place goes => simp [place] at quiet
      | takes operation queue place first isOpen kept => simp [place] at quiet
      | takesNothing place goes => simp [place] at quiet
      | wakes place => cases internal
      | stops operation place leaves => simp [place] at quiet
      | again place stays => simp [place] at quiet
      | executes operation place stays => simp [place] at quiet
      | finishes operation place => simp [place] at quiet
      | begins notBegun => cases internal
      | joins place joining => simp [joining] at quiet

/-- What the threads leave when they have come to rest. -/
structure Drained (state : State Operation) : Prop where
  destructors : ∀ thread ∈ state.threads,
    thread.destructor = .notBegun ∨ thread.destructor = .ended
  queue : (∃ thread ∈ state.threads, thread.place ≠ .stopped) → state.shared.queue = []
  taken : (∃ thread ∈ state.threads, thread.place ≠ .stopped) →
    state.shared.taken = state.shared.pushed
  executed : (∃ thread ∈ state.threads, thread.place ≠ .stopped) →
    (state.shared.executed ++ state.shared.lost).Perm state.shared.pushed
  lost : (∃ thread ∈ state.threads, thread.place ≠ .stopped) →
    state.shared.lost.length ≤
      state.threads.countP fun thread => decide (thread.destructor = .ended)

theorem Rests.isOpen (rests : Rests kind state) (sound : Sound kind state)
    (left : ∃ thread ∈ state.threads, thread.place ≠ .stopped) :
    state.shared.shutdown = false ∧ state.Waits := by
  obtain ⟨thread, member, notStopped⟩ := left
  have waits := (rests.place sound member).resolve_right notStopped
  have waiting : thread.place.isWaiting = true := by rw [waits]; rfl
  refine ⟨?_, thread, member, waiting⟩
  by_contra closed
  have awake := (sound.fits thread member).notWaiting (eq_true_of_ne_false closed)
  rw [awake] at waiting
  cases waiting

theorem Rests.queue_eq_nil (rests : Rests kind state) (sound : Sound kind state)
    (left : ∃ thread ∈ state.threads, thread.place ≠ .stopped) : state.shared.queue = [] := by
  obtain ⟨isOpen, waits⟩ := rests.isOpen sound left
  rcases sound.wakeups isOpen waits with ⟨thread, member, flagged⟩ | enough
  · rcases rests.destructor sound member with notBegun | atEnd
    · exact absurd (flagged.symm.trans notBegun) nofun
    · exact absurd (flagged.symm.trans atEnd) nofun
  · have nobody : state.threads.countP Thread.seeks = 0 := by
      rw [List.countP_eq_zero]
      intro thread member
      rcases rests.place sound member with place | place <;> simp [Thread.seeks, place]
    rw [nobody] at enough
    exact List.eq_nil_of_length_eq_zero (Nat.eq_zero_of_le_zero enough)

theorem Rests.inHand_eq_nil (rests : Rests kind state) (sound : Sound kind state) :
    state.inHand = [] := by
  rw [State.inHand, List.flatMap_eq_nil_iff]
  intro thread member
  rcases rests.place sound member with place | place <;> rw [place] <;> rfl

theorem Rests.drained [DecidableEq Operation] (rests : Rests kind state)
    (sound : Sound kind state) (accounted : Accounted state) : Drained state := by
  have order := accounted.order
  have counts := accounted.counts
  have taken (left : ∃ thread ∈ state.threads, thread.place ≠ .stopped) :
      state.shared.taken = state.shared.pushed := by
    rw [order, rests.queue_eq_nil sound left, accounted.noneDeleted (rests.isOpen sound left).1,
      List.append_nil, List.append_nil]
  refine ⟨fun thread member => rests.destructor sound member, rests.queue_eq_nil sound, taken,
    ?_, ?_⟩
  · intro left
    rw [← taken left, List.perm_iff_count]
    intro operation
    rw [← counts operation, rests.inHand_eq_nil sound, List.count_append]
    rfl
  · intro left
    refine Nat.le_trans accounted.lost (List.countP_mono_left ?_)
    intro thread member stopped
    have place : thread.place = .stopped := by
      rcases rests.place sound member with waits | place
      · rw [waits] at stopped
        cases stopped
      · exact place
    have fits := sound.fits thread member
    rcases fits.stopped place with cancelled | ⟨-, isShut⟩
    · have begun := fits.flag.mp cancelled
      exact decide_eq_true ((rests.destructor sound member).resolve_left begun)
    · exact absurd ((rests.isOpen sound left).1.symm.trans isShut) nofun

/-- From any state the threads and destructors come to rest by themselves, unless the
queue of workers is cancelled under them.  No destructor is stuck then, and if any thread is
left, every operation that was pushed has been taken, in this order, and has been executed
but for those that cancelled threads had in their hand. -/
theorem queue_drains [DecidableEq Operation] {labels inside : List (Label Operation)}
    {state last : State Operation} (reached : exec (step kind) start labels = some state)
    (ends : kind = .checker ∨ state.shared.shutdown = false)
    (internal : ∀ label ∈ inside, label.isInternal = true)
    (continued : exec (step kind) state inside = some last) :
    inside.length ≤ state.work ∧ (Rests kind last → Drained last) := by
  constructor
  · have sound := sound_of_reached reached
    have bound := @length_add_le_of_exec _ _ (step kind) (fun _ label => label.isInternal = true)
      (fun state => Sound kind state ∧ Ends kind state) State.work
      (fun kept internal stepped =>
        ⟨sound_step kept.1 stepped, ends_step internal kept.2 stepped⟩)
      (fun kept internal stepped => work_step internal kept.1 kept.2 stepped)
      state last inside (meets_of_forall internal state) continued ⟨sound, ends⟩
    exact Nat.le_trans (Nat.le_add_right _ _) bound
  · intro rests
    have whole := exec_append reached continued
    exact rests.drained (sound_of_reached whole) (accounted_of_reached whole)

end Run

/-- Two workers wait, and the one that the first push wakes is destroyed before it can
take anything. -/
def wokenWorkerDestroyed : List (Label Nat) :=
  [.construct, .construct, .thread 0 .lock, .thread 0 .test, .thread 1 .lock, .thread 1 .test,
    .push 10 (some 0), .thread 0 .beginDestroy]

def destroysAndDrains : List (Label Nat) :=
  [.thread 0 .lock, .thread 0 .test, .thread 0 .take, .thread 0 .testCancel, .notifyDestroy 0,
    .thread 0 .join, .thread 1 .lock, .thread 1 .test, .thread 1 .take, .thread 1 .testCancel,
    .thread 1 .finish, .thread 1 .lock, .thread 1 .test]

theorem queue_drains_after_destroy :
    ∃ state last, exec (step .worker) start wokenWorkerDestroyed = some state ∧
      exec (step .worker) state destroysAndDrains = some last ∧
      last.shared.executed = [10] ∧ Drained last := by
  refine ⟨_, _, rfl, rfl, rfl, ?_⟩
  have reached : exec (step .worker) start wokenWorkerDestroyed = some _ := rfl
  have internal : ∀ label ∈ destroysAndDrains, label.isInternal = true := by decide
  exact (queue_drains reached (.inr rfl) internal rfl).2 (rests_of_idle (by decide))

end PCQueue

end WarheadBot
