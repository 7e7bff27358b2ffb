import WarheadBot.PCQueue

/-!
# No wakeup is lost

A push wakes one waiting thread, and the woken thread may be one that is cancelled
before it takes anything.  The destructor that cancels it then wakes all others.  So
whenever a thread waits, there is another one on its way for each operation in the
queue, or a destructor that is still to wake all threads.
-/

namespace WarheadBot

namespace PCQueue

open GuardedRuns

variable {Operation : Type}

def Place.holds : Place Operation → Bool
  | .testing => true
  | .passed => true
  | _ => false

/-- The thread will take an operation if it finds one. -/
def Thread.seeks (thread : Thread Operation) : Bool :=
  !thread.cancel &&
    match thread.place with
    | .entering => true
    | .testing => true
    | .passed => true
    | .woken => true
    | _ => false

/-- What is known about one thread. -/
structure Thread.Fits (kind : Kind) (shared : Queue Operation) (thread : Thread Operation) :
    Prop where
  passed : thread.place = .passed →
    shared.queue ≠ [] ∨ shared.shutdown = true ∨ thread.released kind = true
  returnedNone : thread.place = .returned none →
    shared.shutdown = true ∨ thread.released kind = true
  flag : thread.cancel = true ↔ thread.destructor ≠ .notBegun
  notWaiting : shared.shutdown = true → thread.place.isWaiting = false
  cancelledWaiting : thread.cancel = true → thread.place.isWaiting = true →
    thread.destructor = .flagged
  stopped : thread.place = .stopped →
    thread.cancel = true ∨ kind = .checker ∧ shared.shutdown = true
  ended : thread.destructor = .ended → thread.place = .stopped
  closed : kind = .checker → thread.destructor = .joining ∨ thread.destructor = .ended →
    shared.shutdown = true

def State.Waits (state : State Operation) : Prop :=
  ∃ thread ∈ state.threads, thread.place.isWaiting = true

def State.Flagged (state : State Operation) : Prop :=
  ∃ thread ∈ state.threads, thread.destructor = .flagged

structure Sound (kind : Kind) (state : State Operation) : Prop where
  fits : ∀ thread ∈ state.threads, thread.Fits kind state.shared
  holders : state.threads.countP (fun thread => thread.place.holds) =
    if state.shared.locked then 1 else 0
  wakeups : state.shared.shutdown = false → state.Waits →
    state.Flagged ∨ state.shared.queue.length ≤ state.threads.countP Thread.seeks

section Threads

variable {kind : Kind} {label : Move} {shared next : Queue Operation}
  {thread changed other : Thread Operation}

theorem Thread.Moves.shutdown_eq (moves : thread.Moves kind shared label next changed) :
    next.shutdown = shared.shutdown := by
  cases moves <;> rfl

theorem Thread.Fits.not_ended (fits : thread.Fits kind shared) {place : Place Operation}
    (here : thread.place = place) (notStopped : place ≠ .stopped) :
    thread.destructor ≠ .ended := by
  intro atEnd
  exact notStopped (here.symm.trans (fits.ended atEnd))

/-- A thread that goes on without waiting and without its flag being set. -/
theorem Thread.Fits.moveTo (fits : thread.Fits kind shared) {before after : Place Operation}
    (here : thread.place = before) (notStopped : before ≠ .stopped)
    (notWaiting : after.isWaiting = false)
    (passed : after = .passed →
      shared.queue ≠ [] ∨ shared.shutdown = true ∨ thread.released kind = true)
    (returnedNone : after = .returned none →
      shared.shutdown = true ∨ thread.released kind = true)
    (stopped : after = .stopped →
      thread.cancel = true ∨ kind = .checker ∧ shared.shutdown = true)
    (queue : next.queue = shared.queue ∨ after ≠ .passed)
    (shutdown : next.shutdown = shared.shutdown) :
    ({ thread with place := after } : Thread Operation).Fits kind next where
  passed inside := by
    rw [queue.resolve_right (not_not.mpr inside), shutdown]
    exact passed inside
  returnedNone inside := by
    rw [shutdown]
    exact returnedNone inside
  flag := fits.flag
  notWaiting _ := notWaiting
  cancelledWaiting _ waits := absurd (notWaiting.symm.trans waits) nofun
  stopped inside := by
    rw [shutdown]
    exact stopped inside
  ended atEnd := absurd atEnd (fits.not_ended here notStopped)
  closed := by
    rw [shutdown]
    exact fits.closed

theorem Thread.Moves.fits (moves : thread.Moves kind shared label next changed)
    (fits : thread.Fits kind shared) : changed.Fits kind next := by
  cases moves with
  | locks outside free =>
      rcases outside with place | place
      · exact fits.moveTo place nofun rfl nofun nofun nofun (.inl rfl) rfl
      · exact fits.moveTo place nofun rfl nofun nofun nofun (.inl rfl) rfl
  | waits place empty isOpen kept =>
      refine ⟨nofun, nofun, fits.flag, ?_, ?_, nofun, ?_, fits.closed⟩
      · intro isShut
        exact absurd (isOpen.symm.trans isShut) nofun
      · intro cancelled _
        cases kind with
        | worker =>
            have uncancelled : thread.cancel = false := by simpa [Thread.released] using kept
            exact absurd (uncancelled.symm.trans cancelled) nofun
        | checker =>
            -- The queue of a checker that is being joined is shut down.
            cases begun : thread.destructor with
            | notBegun => exact absurd begun (fits.flag.mp cancelled)
            | flagged => rfl
            | joining => exact absurd (isOpen.symm.trans (fits.closed rfl (.inl begun))) nofun
            | ended => exact absurd (isOpen.symm.trans (fits.closed rfl (.inr begun))) nofun
      · intro atEnd
        exact absurd atEnd (fits.not_ended place nofun)
  | passes place goes =>
      exact fits.moveTo place nofun rfl (fun _ => goes) nofun nofun (.inl rfl) rfl
  | takes operation queue place first isOpen kept =>
      exact fits.moveTo place nofun rfl nofun nofun nofun (.inr nofun) rfl
  | takesNothing place goes =>
      refine fits.moveTo place nofun rfl nofun (fun _ => ?_) nofun (.inl rfl) rfl
      rcases fits.passed place with some | other
      · exact goes.resolve_left some
      · exact other
  | wakes place => exact fits.moveTo place nofun rfl nofun nofun nofun (.inl rfl) rfl
  | stops operation place leaves =>
      refine fits.moveTo place nofun rfl nofun nofun (fun _ => ?_) (.inl rfl) rfl
      simp only [Thread.leaves, Bool.or_eq_true, Bool.and_eq_true, decide_eq_true_eq,
        Option.isNone_iff_eq_none] at leaves
      rcases leaves with cancelled | ⟨isChecker, rfl⟩
      · exact .inl cancelled
      · rcases fits.returnedNone place with isShut | released
        · exact .inr ⟨isChecker, isShut⟩
        · simp [Thread.released, isChecker] at released
  | again place stays => exact fits.moveTo place nofun rfl nofun nofun nofun (.inl rfl) rfl
  | executes operation place stays =>
      exact fits.moveTo place nofun rfl nofun nofun nofun (.inl rfl) rfl
  | finishes operation place =>
      exact fits.moveTo place nofun rfl nofun nofun nofun (.inl rfl) rfl
  | begins notBegun =>
      -- A flag that was not set has released nobody.
      have uncancelled : thread.cancel = false := by
        have flag := fits.flag
        simpa [notBegun] using flag
      have unreleased : thread.released kind = false := by simp [Thread.released, uncancelled]
      refine ⟨?_, ?_, by simp, fits.notWaiting, fun _ _ => rfl, fun _ => .inl rfl, nofun, ?_⟩
      · intro place
        have reason := fits.passed place
        rw [unreleased] at reason
        exact reason.imp_right fun other => .inl (other.resolve_right nofun)
      · intro place
        have reason := fits.returnedNone place
        rw [unreleased] at reason
        exact .inl (reason.resolve_right nofun)
      · intro _ reached
        rcases reached with joining | atEnd
        · cases joining
        · cases atEnd
  | joins place joining =>
      have cancelled : thread.cancel = true := fits.flag.mpr (by simp [joining])
      refine ⟨?_, ?_, by simpa using cancelled, fits.notWaiting, ?_, fits.stopped,
        fun _ => place, ?_⟩
      · intro inside
        exact absurd (place.symm.trans inside) nofun
      · intro inside
        exact absurd (place.symm.trans inside) nofun
      · intro _ waits
        rw [place] at waits
        cases waits
      · intro isChecker _
        exact fits.closed isChecker (.inl joining)

/-- The other threads, of which at most one holds the mutex. -/
theorem Thread.Moves.fits_other (moves : thread.Moves kind shared label next changed)
    (exclusive : thread.place.holds = true → other.place.holds = false)
    (fits : other.Fits kind shared) : other.Fits kind next := by
  have shutdown := moves.shutdown_eq
  refine ⟨?_, ?_, fits.flag, ?_, fits.cancelledWaiting, ?_, fits.ended, ?_⟩
  · intro inside
    have reason := fits.passed inside
    cases moves with
    | takes operation queue place first isOpen kept =>
        have notHeld := exclusive (by rw [place]; rfl)
        rw [inside] at notHeld
        cases notHeld
    | _ => exact reason
  · rw [shutdown]
    exact fits.returnedNone
  · rw [shutdown]
    exact fits.notWaiting
  · rw [shutdown]
    exact fits.stopped
  · rw [shutdown]
    exact fits.closed

/-- A thread that takes an operation was on its way to one. -/
theorem Thread.Moves.wakeups (moves : thread.Moves kind shared label next changed)
    (fits : thread.Fits kind shared) (isOpen : shared.shutdown = false) :
    changed.destructor = .flagged ∨ next.queue = [] ∨
      (changed.place.isWaiting = true → thread.place.isWaiting = true) ∧
        (thread.destructor = .flagged → changed.destructor = .flagged) ∧
        next.queue.length + thread.seeks.toNat ≤ shared.queue.length + changed.seeks.toNat := by
  cases moves with
  | locks outside free =>
      rcases outside with place | place
      · exact .inr (.inr ⟨nofun, id, by simp [Thread.seeks, place]⟩)
      · exact .inr (.inr ⟨nofun, id, by simp [Thread.seeks, place]⟩)
  | waits place empty _ kept => exact .inr (.inl empty)
  | passes place goes => exact .inr (.inr ⟨nofun, id, by simp [Thread.seeks, place]⟩)
  | takes operation queue place first _ kept =>
      by_cases cancelled : thread.cancel = true
      · left
        cases begun : thread.destructor with
        | notBegun => exact absurd begun (fits.flag.mp cancelled)
        | flagged => rfl
        | joining =>
            cases kind with
            | worker => simp [Thread.released, cancelled] at kept
            | checker => exact absurd (isOpen.symm.trans (fits.closed rfl (.inl begun))) nofun
        | ended => exact absurd begun (fits.not_ended place nofun)
      · refine .inr (.inr ⟨nofun, id, ?_⟩)
        rw [Bool.not_eq_true] at cancelled
        simp [Thread.seeks, place, cancelled, first]
  | takesNothing place goes =>
      rcases goes with empty | isShut | released
      · exact .inr (.inl empty)
      · exact absurd (isOpen.symm.trans isShut) nofun
      · have cancelled : thread.cancel = true := by
          simp only [Thread.released, Bool.and_eq_true] at released
          exact released.2
        exact .inr (.inr ⟨nofun, id, by simp [Thread.seeks, cancelled]⟩)
  | wakes place => exact .inr (.inr ⟨nofun, id, by simp [Thread.seeks, place]⟩)
  | stops operation place leaves => exact .inr (.inr ⟨nofun, id, by simp [Thread.seeks, place]⟩)
  | again place stays => exact .inr (.inr ⟨nofun, id, by simp [Thread.seeks, place]⟩)
  | executes operation place stays =>
      exact .inr (.inr ⟨nofun, id, by simp [Thread.seeks, place]⟩)
  | finishes operation place => exact .inr (.inr ⟨nofun, id, by simp [Thread.seeks, place]⟩)
  | begins notBegun => exact .inl rfl
  | joins place joining => exact .inr (.inr ⟨id, by simp [joining], by simp [Thread.seeks, place]⟩)

/-- The mutex is taken by a thread that gets to hold it, and given back by one that held
it. -/
theorem Thread.Moves.holds (moves : thread.Moves kind shared label next changed) :
    thread.place.holds.toNat + (if next.locked then 1 else 0) =
        changed.place.holds.toNat + (if shared.locked then 1 else 0) ∨
      thread.place.holds = true ∧ changed.place.holds = false ∧ next.locked = false := by
  cases moves with
  | locks outside free =>
      rcases outside with place | place <;> simp [place, free, Place.holds]
  | waits place empty isOpen kept => simp [place, Place.holds]
  | passes place goes => simp [place, Place.holds]
  | takes operation queue place first isOpen kept => simp [place, Place.holds]
  | takesNothing place goes => simp [place, Place.holds]
  | wakes place => simp [place, Place.holds]
  | stops operation place leaves => simp [place, Place.holds]
  | again place stays => simp [place, Place.holds]
  | executes operation place stays => simp [place, Place.holds]
  | finishes operation place => simp [place, Place.holds]
  | begins notBegun => simp
  | joins place joining => simp [place]

theorem Thread.wake_waiting (waits : thread.place.isWaiting = true) :
    thread.wake = { thread with place := .woken } :=
  if_pos waits

theorem Thread.wake_of_not (awake : thread.place.isWaiting = false) : thread.wake = thread :=
  if_neg (by simp [awake])

theorem Thread.isWaiting_wake (thread : Thread Operation) :
    thread.wake.place.isWaiting = false := by
  cases waits : thread.place.isWaiting with
  | false => rw [Thread.wake_of_not waits, waits]
  | true =>
      rw [Thread.wake_waiting waits]
      rfl

@[simp]
theorem Thread.destructor_wake (thread : Thread Operation) :
    thread.wake.destructor = thread.destructor := by
  unfold Thread.wake
  split_ifs <;> rfl

theorem place_of_isWaiting {place : Place Operation} (waits : place.isWaiting = true) :
    place = .waiting := by
  cases place with
  | waiting => rfl
  | _ => cases waits

@[simp]
theorem Thread.holds_wake (thread : Thread Operation) :
    thread.wake.place.holds = thread.place.holds := by
  cases waits : thread.place.isWaiting with
  | false => rw [Thread.wake_of_not waits]
  | true =>
      rw [Thread.wake_waiting waits, place_of_isWaiting waits]
      rfl

theorem Thread.Fits.wake (fits : thread.Fits kind shared) : thread.wake.Fits kind shared := by
  cases waits : thread.place.isWaiting with
  | false =>
      rw [Thread.wake_of_not waits]
      exact fits
  | true =>
      rw [Thread.wake_waiting waits]
      exact fits.moveTo (place_of_isWaiting waits) nofun rfl nofun nofun nofun (.inl rfl) rfl

/-- A push changes nothing that is known about a thread. -/
theorem Thread.Fits.push (fits : thread.Fits kind shared) (operation : Operation) :
    thread.Fits kind
      { shared with
        queue := shared.queue ++ [operation]
        pushed := shared.pushed ++ [operation] } where
  passed _ := .inl (List.append_ne_nil_of_right_ne_nil _ (List.cons_ne_nil _ _))
  returnedNone := fits.returnedNone
  flag := fits.flag
  notWaiting := fits.notWaiting
  cancelledWaiting := fits.cancelledWaiting
  stopped := fits.stopped
  ended := fits.ended
  closed := fits.closed

/-- All threads are woken when the queue is cancelled. -/
theorem Thread.Fits.cancel (fits : thread.Fits kind shared) :
    thread.wake.Fits kind shared.cancel := by
  have woken := fits.wake
  exact
    { passed := fun _ => .inr (.inl rfl)
      returnedNone := fun _ => .inl rfl
      flag := woken.flag
      notWaiting := fun _ => thread.isWaiting_wake
      cancelledWaiting := woken.cancelledWaiting
      stopped := fun inside => (woken.stopped inside).imp_right fun reason => ⟨reason.1, rfl⟩
      ended := woken.ended
      closed := fun _ _ => rfl }

theorem Thread.wake_joining (thread : Thread Operation) :
    ({ thread with destructor := .joining } : Thread Operation).wake =
      { thread.wake with destructor := .joining } := by
  unfold Thread.wake
  split_ifs <;> rfl

/-- The destructor goes on after it has woken all threads. -/
theorem Thread.Fits.join (fits : thread.Fits kind shared)
    (flagged : thread.destructor = .flagged) (awake : thread.place.isWaiting = false)
    (closed : kind = .checker → shared.shutdown = true) :
    ({ thread with destructor := .joining } : Thread Operation).Fits kind shared where
  passed := fits.passed
  returnedNone := fits.returnedNone
  flag := by
    have cancelled : thread.cancel = true := fits.flag.mpr (by simp [flagged])
    simpa using cancelled
  notWaiting := fits.notWaiting
  cancelledWaiting _ waits := absurd (awake.symm.trans waits) nofun
  stopped := fits.stopped
  ended := nofun
  closed isChecker _ := closed isChecker

end Threads

section Threads

variable {kind : Kind} {shared : Queue Operation} {before after : List (Thread Operation)}
  {thread : Thread Operation}

theorem countP_split (test : Thread Operation → Bool) (before after : List (Thread Operation))
    (thread : Thread Operation) :
    (before ++ thread :: after).countP test =
      (before ++ after).countP test + (test thread).toNat := by
  rw [List.countP_append, List.countP_cons, List.countP_append]
  cases test thread with
  | false => simp
  | true =>
      simp only [if_true, Bool.toNat_true]
      omega

theorem forall_split {prop : Thread Operation → Prop} :
    (∀ other ∈ before ++ thread :: after, prop other) ↔
      prop thread ∧ ∀ other ∈ before ++ after, prop other := by
  simp only [List.mem_append, List.mem_cons]
  constructor
  · intro all
    exact ⟨all thread (by simp), fun other member => all other (by tauto)⟩
  · rintro ⟨this, others⟩ other member
    rcases member with first | rfl | last
    · exact others other (.inl first)
    · exact this
    · exact others other (.inr last)

theorem exists_split_iff {prop : Thread Operation → Prop} :
    (∃ other ∈ before ++ thread :: after, prop other) ↔
      prop thread ∨ ∃ other ∈ before ++ after, prop other := by
  have negated := not_congr (@forall_split Operation before after thread fun other => ¬ prop other)
  simpa only [not_forall, not_and_or, not_not, exists_prop] using negated

end Threads

section Run

variable {kind : Kind} {state next : State Operation} {label : Label Operation}

theorem sound_start (kind : Kind) : Sound kind (start : State Operation) where
  fits := nofun
  holders := rfl
  wakeups _ waits := by
    obtain ⟨thread, member, _⟩ := waits
    cases member

theorem not_waits_map_wake (shared : Queue Operation) (threads : List (Thread Operation)) :
    ¬ State.Waits ⟨shared, threads.map Thread.wake⟩ := by
  rintro ⟨thread, member, waits⟩
  obtain ⟨sleeper, -, rfl⟩ := List.mem_map.mp member
  rw [Thread.isWaiting_wake] at waits
  cases waits

theorem holders_map_wake (threads : List (Thread Operation)) :
    (threads.map Thread.wake).countP (fun thread => thread.place.holds) =
      threads.countP (fun thread => thread.place.holds) := by
  rw [List.countP_map]
  congr 1
  funext thread
  exact thread.holds_wake

/-- A thread that makes a step with the mutex is the only one that holds it. -/
theorem Sound.exclusive (sound : Sound kind state) {before after : List (Thread Operation)}
    {thread : Thread Operation} (split : state.threads = before ++ thread :: after)
    (holds : thread.place.holds = true) :
    state.shared.locked = true ∧ ∀ other ∈ before ++ after, other.place.holds = false := by
  have holders := sound.holders
  rw [split, countP_split, holds] at holders
  have locked : state.shared.locked = true := by
    by_contra free
    rw [if_neg free] at holders
    cases holders
  refine ⟨locked, ?_⟩
  rw [if_pos locked] at holders
  have nobody := List.countP_eq_zero.mp (Nat.succ.inj holders)
  intro other member
  exact eq_false_of_ne_true (nobody other member)

theorem sound_moved (sound : Sound kind state) {move : Move}
    {before after : List (Thread Operation)} {thread changed : Thread Operation}
    {shared : Queue Operation} (split : state.threads = before ++ thread :: after)
    (moves : thread.Moves kind state.shared move shared changed) :
    Sound kind ⟨shared, before ++ changed :: after⟩ := by
  have fits := sound.fits
  have wakeups := sound.wakeups
  have holders := sound.holders
  have exclusive := @Sound.exclusive _ _ _ sound _ _ _ split
  rw [split, forall_split] at fits
  refine ⟨forall_split.mpr ⟨moves.fits fits.1, ?_⟩, ?_, ?_⟩
  · intro other member
    exact moves.fits_other (fun holds => (exclusive holds).2 other member) (fits.2 other member)
  · rw [split, countP_split] at holders
    rw [countP_split]
    rcases moves.holds with balanced | ⟨held, given, free⟩
    · dsimp only
      omega
    · have nobody := (exclusive held).1
      rw [nobody, held, if_pos rfl] at holders
      dsimp only
      rw [given, free]
      simpa using Nat.succ.inj holders
  · intro isOpen waits
    dsimp only at isOpen ⊢
    rw [moves.shutdown_eq] at isOpen
    rw [State.Waits, exists_split_iff] at waits
    rw [State.Flagged, exists_split_iff]
    rcases moves.wakeups fits.1 isOpen with flagged | empty | ⟨wasWaiting, wasFlagged, counts⟩
    · exact .inl (.inl flagged)
    · right
      rw [empty]
      exact Nat.zero_le _
    · have before := wakeups isOpen (by
        rw [State.Waits, split, exists_split_iff]
        exact waits.imp_left wasWaiting)
      rw [State.Flagged, split, exists_split_iff, countP_split] at before
      rcases before with flagged | enough
      · exact .inl (flagged.imp_left wasFlagged)
      · right
        rw [countP_split]
        omega

theorem sound_step (sound : Sound kind state) (stepped : step kind state label = some next) :
    Sound kind next := by
  have wakeups := sound.wakeups
  cases step_of_step stepped with
  | constructed =>
      refine ⟨?_, ?_, ?_⟩
      · intro thread member
        rcases List.mem_append.mp member with old | new
        · exact sound.fits thread old
        · rw [List.mem_singleton] at new
          subst new
          exact ⟨nofun, nofun, by simp [construct], fun _ => rfl, nofun, nofun, nofun,
            by simp [construct]⟩
      · rw [List.countP_append]
        exact sound.holders
      · intro isOpen waits
        have waited : state.Waits := by
          obtain ⟨thread, member, waits⟩ := waits
          rcases List.mem_append.mp member with old | new
          · exact ⟨thread, old, waits⟩
          · rw [List.mem_singleton] at new
            subst new
            cases waits
        rcases wakeups isOpen waited with ⟨thread, member, flagged⟩ | enough
        · exact .inl ⟨thread, List.mem_append_left _ member, flagged⟩
        · right
          rw [List.countP_append]
          exact Nat.le_add_right_of_le enough
  | pushed operation free noneWaits =>
      refine ⟨fun thread member => (sound.fits thread member).push operation, sound.holders, ?_⟩
      rintro - ⟨thread, member, waits⟩
      exact absurd ((noneWaits thread member).symm.trans waits) nofun
  | pushedWaking operation index before after thread free split waits =>
      have fits := sound.fits
      have holders := sound.holders
      rw [split, forall_split] at fits
      refine ⟨forall_split.mpr ⟨fits.1.wake.push operation, ?_⟩, ?_, ?_⟩
      · exact fun other member => (fits.2 other member).push operation
      · rw [split, countP_split] at holders
        rw [countP_split, Thread.holds_wake]
        exact holders
      · intro isOpen _
        have waited : state.Waits := ⟨thread, by simp [split], waits⟩
        have before := wakeups isOpen waited
        rw [State.Flagged, split, exists_split_iff, countP_split] at before
        rw [State.Flagged, exists_split_iff, countP_split, Thread.destructor_wake]
        rcases before with flagged | enough
        · exact .inl flagged
        · by_cases cancelled : thread.cancel = true
          -- Whoever cancels the woken thread will wake the others.
          · exact .inl (.inl (fits.1.cancelledWaiting cancelled waits))
          · right
            have asleep : thread.seeks = false := by
              simp [Thread.seeks, place_of_isWaiting waits]
            have woken : thread.wake.seeks = true := by
              simp [Thread.seeks, Thread.wake_waiting waits, cancelled]
            rw [asleep] at enough
            rw [woken, List.length_append, List.length_singleton]
            exact Nat.succ_le_succ enough
  | cancelled free =>
      refine ⟨?_, ?_, nofun⟩
      · intro thread member
        obtain ⟨sleeper, old, rfl⟩ := List.mem_map.mp member
        exact (sound.fits sleeper old).cancel
      · rw [holders_map_wake]
        exact sound.holders
  | notified index before after thread free split flagged =>
      have fits := sound.fits
      have holders := sound.holders
      rw [split, forall_split] at fits
      rw [split, countP_split] at holders
      have held : ((before ++ { thread with destructor := .joining } :: after).map
          Thread.wake).countP (fun thread => thread.place.holds) =
            if state.shared.locked then 1 else 0 := by
        rw [holders_map_wake, countP_split]
        exact holders
      cases kind with
      | worker =>
          refine ⟨?_, held, ?_⟩
          · rw [List.map_append, List.map_cons, forall_split, Thread.wake_joining]
            refine ⟨fits.1.wake.join ?_ thread.isWaiting_wake nofun, ?_⟩
            · rw [Thread.destructor_wake, flagged]
            · intro other member
              rw [← List.map_append] at member
              obtain ⟨sleeper, old, rfl⟩ := List.mem_map.mp member
              exact (fits.2 sleeper old).wake
          · intro _ waits
            exact absurd waits (not_waits_map_wake _ _)
      | checker =>
          refine ⟨?_, held, nofun⟩
          rw [List.map_append, List.map_cons, forall_split, Thread.wake_joining]
          refine ⟨fits.1.cancel.join ?_ thread.isWaiting_wake fun _ => rfl, ?_⟩
          · rw [Thread.destructor_wake, flagged]
          · intro other member
            rw [← List.map_append] at member
            obtain ⟨sleeper, old, rfl⟩ := List.mem_map.mp member
            exact (fits.2 sleeper old).cancel
  | moved index move before after thread changed shared split moves =>
      exact sound_moved sound split moves

theorem sound_of_reached {labels : List (Label Operation)} {last : State Operation}
    (reached : exec (step kind) start labels = some last) : Sound kind last :=
  exec_invariant_of_step (fun sound stepped => sound_step sound stepped) reached
    (sound_start kind)

end Run

end PCQueue

end WarheadBot
