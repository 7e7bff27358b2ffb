import Mathlib.Data.Nat.Find
import WarheadBot.TransactionTask

/-!
# Which attempts follow a failed one

The loop of further attempts does not look at the error of an attempt.  An
executor therefore repeats deadlocks only if no attempt of its loop fails for
another reason while the limit of the loop is not reached, and a task ends only
if an attempt succeeds or the clock passes the limit.
-/

namespace WarheadBot

namespace Transactions

open Iteration
open MySQL

variable {scheme : Scheme} {results : Nat → Int}

/-- The loop has made some retries, which have all failed. -/
def Looping (scheme : Scheme) (results : Nat → Int) (retries : Nat) : Prop :=
  results 0 = lockDeadlock ∧
    ∀ earlier < retries, scheme.mayRetry earlier = true ∧ results (earlier + 1) ≠ 0

theorem looping_succ {retries : Nat} :
    Looping scheme results (retries + 1) ↔ Looping scheme results retries ∧
      scheme.mayRetry retries = true ∧ results (retries + 1) ≠ 0 := by
  simp only [Looping, Nat.lt_succ_iff_lt_or_eq, or_imp, forall_and, forall_eq, and_assoc]
  tauto

/-- What an execution has done so far. -/
inductive Reached (scheme : Scheme) (results : Nat → Int) : Execution → Prop
  | start : Reached scheme results .start
  | retrying (retries : Nat) (looping : Looping scheme results retries) :
      Reached scheme results
        ⟨.retrying retries, ((List.range (retries + 1)).map results).map .attempt⟩
  | succeeded (success : results 0 = 0) :
      Reached scheme results ⟨.finished, .attempt (results 0) :: scheme.onSuccess⟩
  | retrySucceeded (retries : Nat) (looping : Looping scheme results retries)
      (goesOn : scheme.mayRetry retries = true) (success : results (retries + 1) = 0) :
      Reached scheme results
        ⟨.finished, ((List.range (retries + 2)).map results).map .attempt ++
          scheme.onRetrySuccess⟩
  | failed (failure : results 0 ≠ 0) (other : results 0 ≠ lockDeadlock) :
      Reached scheme results ⟨.finished, .attempt (results 0) :: scheme.onFailure⟩
  | gaveUp (retries : Nat) (looping : Looping scheme results retries)
      (limit : scheme.mayRetry retries = false) :
      Reached scheme results
        ⟨.finished, ((List.range (retries + 1)).map results).map .attempt ++ scheme.onFailure⟩

theorem attempts_succ (retries : Nat) :
    ((List.range (retries + 1)).map results).map Event.attempt ++
        [.attempt (results (retries + 1))] =
      ((List.range (retries + 2)).map results).map Event.attempt := by
  rw [List.range_succ (n := retries + 1)]
  simp

theorem reached_step {execution : Execution} (reached : Reached scheme results execution) :
    Reached scheme results (execution.step scheme results) := by
  cases reached with
  | start =>
      simp only [Execution.step, Execution.start, Execution.proceed, List.nil_append]
      split_ifs with success deadlock
      · exact .succeeded success
      · exact .retrying 0 ⟨deadlock, by simp⟩
      · exact .failed success deadlock
  | retrying retries looping =>
      simp only [Execution.step, Execution.proceed]
      split_ifs with goesOn success
      · rw [← List.singleton_append, ← List.append_assoc, attempts_succ]
        exact .retrySucceeded retries looping goesOn success
      · rw [attempts_succ]
        exact .retrying (retries + 1) (looping_succ.mpr ⟨looping, goesOn, success⟩)
      · exact .gaveUp retries looping (by simpa using goesOn)
  | succeeded success => exact .succeeded success
  | retrySucceeded retries looping goesOn success =>
      exact .retrySucceeded retries looping goesOn success
  | failed failure other => exact .failed failure other
  | gaveUp retries looping limit => exact .gaveUp retries looping limit

theorem reached_run (steps : Nat) :
    Reached scheme results (Execution.run scheme results steps) :=
  iterate_invariant (fun _ => reached_step) .start steps

/-- A loop that goes on for some retries is run as far as they go. -/
theorem run_of_looping {retries : Nat} (looping : Looping scheme results retries) :
    Execution.run scheme results (retries + 1) =
      ⟨.retrying retries, ((List.range (retries + 1)).map results).map .attempt⟩ := by
  induction retries with
  | zero =>
      simp [Execution.run, Execution.step, Execution.start, Execution.proceed, looping.1,
        lockDeadlock]
  | succ retries ih =>
      obtain ⟨before, goesOn, failure⟩ := looping_succ.mp looping
      have last := ih before
      rw [Execution.run] at last ⊢
      rw [Function.iterate_succ_apply', last]
      simp only [Execution.step, goesOn, failure, if_true, if_false, Execution.proceed]
      rw [attempts_succ]

/-- The executors do nothing but attempts in their loops. -/
structure Scheme.Quiet (scheme : Scheme) : Prop where
  success : Execution.attempts ⟨.finished, scheme.onSuccess⟩ = []
  retrySuccess : Execution.attempts ⟨.finished, scheme.onRetrySuccess⟩ = []
  failure : Execution.attempts ⟨.finished, scheme.onFailure⟩ = []

theorem Executor.quiet (executor : Executor) (clock : Nat → Int) :
    (executor.scheme clock).Quiet := by
  cases executor with
  | transactionTask => exact ⟨rfl, rfl, rfl⟩
  | transactionWithResultTask => exact ⟨rfl, rfl, rfl⟩
  | directCommitTransaction => exact ⟨rfl, rfl, rfl⟩

theorem attempts_map (phase : Phase) (codes : List Int) (events : List Event)
    (quiet : Execution.attempts ⟨phase, events⟩ = []) :
    Execution.attempts ⟨phase, codes.map .attempt ++ events⟩ = codes := by
  simp only [Execution.attempts, List.filterMap_append, List.filterMap_map] at quiet ⊢
  rw [quiet, List.append_nil]
  exact List.filterMap_some

/-- The attempts of an execution are the first ones of the sequence, and every
one but the first is made by the loop. -/
theorem attempts_reached (quiet : scheme.Quiet) {execution : Execution}
    (reached : Reached scheme results execution) :
    ∃ count, execution.attempts = (List.range count).map results ∧
      ∀ retries, retries + 1 < count →
        Looping scheme results retries ∧ scheme.mayRetry retries = true := by
  have earlier : ∀ {retries last}, Looping scheme results last → retries < last →
      Looping scheme results retries ∧ scheme.mayRetry retries = true := by
    intro retries last looping before
    refine ⟨⟨looping.1, ?_⟩, (looping.2 retries before).1⟩
    intro sooner less
    exact looping.2 sooner (less.trans before)
  cases reached with
  | start => exact ⟨0, rfl, by simp⟩
  | retrying retries looping =>
      refine ⟨retries + 1, ?_, ?_⟩
      · rw [← List.append_nil (List.map Event.attempt _)]
        exact attempts_map (.retrying retries) _ [] rfl
      · intro fewer before
        exact earlier looping (by omega)
  | succeeded success =>
      exact ⟨1, attempts_map .finished [results 0] _ quiet.success, by omega⟩
  | retrySucceeded retries looping goesOn success =>
      refine ⟨retries + 2, attempts_map .finished _ _ quiet.retrySuccess, ?_⟩
      intro fewer before
      rcases Nat.lt_or_eq_of_le (show fewer ≤ retries by omega) with less | rfl
      · exact earlier looping less
      · exact ⟨looping, goesOn⟩
  | failed failure other =>
      exact ⟨1, attempts_map .finished [results 0] _ quiet.failure, by omega⟩
  | gaveUp retries looping limit =>
      refine ⟨retries + 1, attempts_map .finished _ _ quiet.failure, ?_⟩
      intro fewer before
      exact earlier looping (by omega)

/-- A loop that goes on makes another attempt. -/
theorem attempts_of_looping (quiet : scheme.Quiet) {retries : Nat}
    (looping : Looping scheme results retries) (goesOn : scheme.mayRetry retries = true) :
    (Execution.run scheme results (retries + 2)).attempts =
      (List.range (retries + 2)).map results := by
  have last := run_of_looping looping
  rw [Execution.run] at last ⊢
  rw [Function.iterate_succ_apply', last]
  simp only [Execution.step, goesOn, if_true, Execution.proceed]
  split_ifs with success
  · rw [← List.singleton_append, ← List.append_assoc, attempts_succ]
    exact attempts_map .finished _ _ quiet.retrySuccess
  · rw [attempts_succ, ← List.append_nil (List.map Event.attempt _)]
    exact attempts_map (.retrying (retries + 1)) _ [] rfl

/-- If a retry fails with another error than a deadlock, the limit of the loop
is reached. -/
def StopsAtOtherErrors (scheme : Scheme) (results : Nat → Int) : Prop :=
  ∀ retry, (∀ earlier ≤ retry, results earlier = lockDeadlock) →
    (∀ earlier ≤ retry + 1, scheme.mayRetry earlier = true) →
      results (retry + 1) = 0 ∨ results (retry + 1) = lockDeadlock

/-- If the first attempt ends in a deadlock, a later one succeeds or the limit
of the loop is reached. -/
def LoopEnds (scheme : Scheme) (results : Nat → Int) : Prop :=
  results 0 = lockDeadlock →
    ∃ retries, scheme.mayRetry retries = false ∨ results (retries + 1) = 0

/-- What is expected of an executor, at any time of its execution. -/
structure Correct (executor : Executor) (clock results : Nat → Int) : Prop where
  repeatsDeadlocks : ∀ steps,
    (Execution.run (executor.scheme clock) results steps).attempts.IsChain
      fun (previous : Int) _ => previous = lockDeadlock
  stopsAfterSuccess : ∀ steps,
    (Execution.run (executor.scheme clock) results steps).attempts.IsChain
      fun (previous : Int) _ => previous ≠ 0
  promiseSetOnce : executor = .transactionWithResultTask →
    ∃ steps value, (Execution.run (executor.scheme clock) results steps).phase = .finished ∧
      (Execution.run (executor.scheme clock) results steps).promised = [value] ∧
        (value = true ↔ 0 ∈ (Execution.run (executor.scheme clock) results steps).attempts)

theorem deadlocks_of_looping (stops : StopsAtOtherErrors scheme results) {retries : Nat}
    (looping : Looping scheme results retries) (goesOn : scheme.mayRetry retries = true) :
    ∀ earlier ≤ retries, results earlier = lockDeadlock := by
  induction retries with
  | zero =>
      intro earlier before
      rw [Nat.le_zero.mp before]
      exact looping.1
  | succ retries ih =>
      obtain ⟨sooner, wentOn, failure⟩ := looping_succ.mp looping
      have deadlocks := ih sooner wentOn
      intro earlier before
      rcases Nat.le_succ_iff.mp before with less | rfl
      · exact deadlocks earlier less
      · refine (stops retries deadlocks ?_).resolve_left failure
        intro other within
        rcases Nat.le_succ_iff.mp within with less | rfl
        · exact (looping.2 other (by omega)).1
        · exact goesOn

theorem repeatsDeadlocks_iff (quiet : scheme.Quiet) :
    (∀ steps, (Execution.run scheme results steps).attempts.IsChain
      fun (previous : Int) _ => previous = lockDeadlock) ↔ StopsAtOtherErrors scheme results := by
  constructor
  · intro chained retry deadlocks limits
    by_contra other
    rw [not_or] at other
    have looping : Looping scheme results (retry + 1) := by
      refine ⟨deadlocks 0 (by omega), ?_⟩
      intro earlier before
      refine ⟨limits earlier (by omega), ?_⟩
      rcases Nat.lt_or_eq_of_le (Nat.le_of_lt_succ before) with less | rfl
      · rw [deadlocks (earlier + 1) (by omega)]
        decide
      · exact other.1
    have chain := chained (retry + 3)
    rw [attempts_of_looping quiet looping (limits (retry + 1) le_rfl), List.isChain_map,
      List.isChain_range] at chain
    exact other.2 (chain (retry + 1) (by omega))
  · intro stops steps
    obtain ⟨count, attempts, made⟩ := attempts_reached quiet (reached_run steps)
    rw [attempts, List.isChain_map, List.isChain_range]
    intro retries before
    obtain ⟨looping, goesOn⟩ := made retries (by omega)
    exact deadlocks_of_looping stops looping goesOn retries le_rfl

theorem stopsAfterSuccess (quiet : scheme.Quiet) (steps : Nat) :
    (Execution.run scheme results steps).attempts.IsChain
      fun (previous : Int) _ => previous ≠ 0 := by
  obtain ⟨count, attempts, made⟩ := attempts_reached quiet (reached_run steps)
  rw [attempts, List.isChain_map, List.isChain_range]
  intro retries before
  obtain ⟨looping, _⟩ := made retries (by omega)
  cases retries with
  | zero =>
      rw [looping.1]
      decide
  | succ retries => exact (looping.2 retries (by omega)).2

theorem finished_of_loopEnds (ends : LoopEnds scheme results) :
    ∃ steps, (Execution.run scheme results steps).phase = .finished := by
  by_cases deadlock : results 0 = lockDeadlock
  · obtain ⟨stops, least⟩ : ∃ retries,
        (scheme.mayRetry retries = false ∨ results (retries + 1) = 0) ∧
          ∀ fewer < retries, ¬ (scheme.mayRetry fewer = false ∨ results (fewer + 1) = 0) := by
      classical
      exact ⟨Nat.find (ends deadlock), Nat.find_spec (ends deadlock),
        fun fewer less => Nat.find_min (ends deadlock) less⟩
    have looping : Looping scheme results stops := by
      refine ⟨deadlock, ?_⟩
      intro earlier before
      simpa using least.2 earlier before
    have last := run_of_looping looping
    refine ⟨stops + 2, ?_⟩
    rw [Execution.run] at last ⊢
    rw [Function.iterate_succ_apply', last]
    rcases least.1 with limit | success
    · simp [Execution.step, limit, Execution.proceed]
    · simp only [Execution.step, success, if_true, Execution.proceed]
      split_ifs <;> rfl
  · refine ⟨1, ?_⟩
    simp only [Execution.run, Function.iterate_one, Execution.step, Execution.start, deadlock,
      if_false, Execution.proceed]
    split_ifs <;> rfl

theorem loopEnds_of_finished {execution : Execution}
    (reached : Reached scheme results execution) (finished : execution.phase = .finished) :
    LoopEnds scheme results := by
  intro deadlock
  cases reached with
  | start => cases finished
  | retrying retries looping => cases finished
  | succeeded success =>
      rw [success] at deadlock
      cases deadlock
  | retrySucceeded retries looping goesOn success => exact ⟨retries, .inr success⟩
  | failed failure other => exact absurd deadlock other
  | gaveUp retries looping limit => exact ⟨retries, .inl limit⟩

theorem promised_map (codes : List Int) (events : List Event) :
    Execution.promised ⟨.finished, codes.map .attempt ++ events⟩ =
      Execution.promised ⟨.finished, events⟩ := by
  induction codes with
  | nil => rfl
  | cons code codes ih => exact ih

/-- A task that has ended has promised whether its last attempt, and so any of
its attempts, has succeeded. -/
theorem promised_of_finished {clock : Nat → Int} {execution : Execution}
    (reached : Reached (transactionWithResultTask clock) results execution)
    (finished : execution.phase = .finished) :
    ∃ value, execution.promised = [value] ∧ (value = true ↔ 0 ∈ execution.attempts) := by
  have quiet : (transactionWithResultTask clock).Quiet := ⟨rfl, rfl, rfl⟩
  have failures : ∀ {retries}, Looping (transactionWithResultTask clock) results retries →
      0 ∉ (List.range (retries + 1)).map results := by
    intro retries looping member
    obtain ⟨index, inRange, zero⟩ := List.mem_map.mp member
    rw [List.mem_range] at inRange
    cases index with
    | zero =>
        rw [looping.1] at zero
        cases zero
    | succ index => exact (looping.2 index (by omega)).2 zero
  cases reached with
  | start => cases finished
  | retrying retries looping => cases finished
  | succeeded success =>
      refine ⟨true, promised_map [results 0] _, ?_⟩
      have attempts := attempts_map .finished [results 0] _ quiet.success
      simp_all
  | retrySucceeded retries looping goesOn success =>
      refine ⟨true, promised_map _ _, ?_⟩
      rw [attempts_map .finished _ _ quiet.retrySuccess]
      have last : results (retries + 1) ∈ (List.range (retries + 2)).map results :=
        List.mem_map_of_mem (List.mem_range.mpr (by omega))
      rw [success] at last
      simpa using last
  | failed failure other =>
      refine ⟨false, promised_map [results 0] _, ?_⟩
      have attempts := attempts_map .finished [results 0] _ quiet.failure
      simp_all [Ne.symm failure]
  | gaveUp retries looping limit =>
      refine ⟨false, promised_map _ _, ?_⟩
      rw [attempts_map .finished _ _ quiet.failure]
      simpa using failures looping

/-- For all results and all readings of the clock: the executors repeat nothing
but deadlocks, stop after a success, and the task with a result sets its promise
once and to whether an attempt has succeeded, exactly if no retry fails with
another error before the limit of the loop and the loop of that task ends. -/
theorem correct_iff (executor : Executor) (clock results : Nat → Int) :
    Correct executor clock results ↔
      StopsAtOtherErrors (executor.scheme clock) results ∧
        (executor = .transactionWithResultTask → LoopEnds (executor.scheme clock) results) := by
  have quiet := executor.quiet clock
  constructor
  · intro correct
    refine ⟨(repeatsDeadlocks_iff quiet).mp correct.repeatsDeadlocks, ?_⟩
    intro withResult
    obtain ⟨steps, _, finished, _⟩ := correct.promiseSetOnce withResult
    exact loopEnds_of_finished (reached_run steps) finished
  · rintro ⟨stops, ends⟩
    refine ⟨(repeatsDeadlocks_iff quiet).mpr stops, stopsAfterSuccess quiet, ?_⟩
    intro withResult
    obtain ⟨steps, finished⟩ := finished_of_loopEnds (ends withResult)
    subst withResult
    obtain ⟨value, promised, isSuccess⟩ := promised_of_finished (reached_run steps) finished
    exact ⟨steps, value, finished, promised, isSuccess⟩

/-- A deadlock, then another error, then a success: the error is followed by
another attempt. -/
def deadlockThenError : Nat → Int
  | 0 => lockDeadlock
  | 1 => 1062
  | _ => 0

theorem retry_after_other_error :
    ¬ Correct .transactionTask (fun _ => 0) deadlockThenError ∧
      ¬ Correct .transactionWithResultTask (fun _ => 0) deadlockThenError ∧
        ¬ Correct .directCommitTransaction (fun _ => 0) deadlockThenError := by
  refine ⟨fun correct => ?_, fun correct => ?_, fun correct => ?_⟩
  all_goals
    have chain := correct.repeatsDeadlocks 3
    revert chain
    decide

end Transactions

end WarheadBot
