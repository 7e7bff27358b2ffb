import WarheadBot.MySQLConnection

/-!
# Opening a worker pool

`DatabaseWorkerPool::Open` opens an asynchronous connection and then a
synchronous one.  It does not take back the first if the second fails, and
`DatabaseMgr` calls it again on the same pool.

A connection object is named by the number of those that were made before it.
-/

namespace WarheadBot

namespace PoolOpening

open MySQL (ErrorCode)

inductive InternalIndex
  | async | sync
  deriving DecidableEq, Repr

/-- The answer to one connection attempt. -/
inductive Opening
  | failed (errNo : ErrorCode)
  | connected (serverVersion : Nat)
  deriving DecidableEq, Repr

/-- The answers to one call of `Open`; the second is used if the first
connection is accepted. -/
structure Attempt where
  async : Opening
  sync : Opening
  deriving DecidableEq, Repr

structure DatabaseWorkerPool where
  asyncConnections : List Nat
  syncConnections : List Nat
  created : Nat
  deriving DecidableEq, Repr

def DatabaseWorkerPool.fresh : DatabaseWorkerPool := ⟨[], [], 0⟩

/-- `MIN_DB_SERVER_VERSION`, which depends on the client library of the build. -/
structure Build where
  minServerVersion : Nat
  deriving DecidableEq, Repr

/-- The error of `OpenConnection`. -/
def Build.errorOf (build : Build) : Opening → Nat
  | .failed errNo => errNo
  | .connected serverVersion => if serverVersion < build.minServerVersion then 1 else 0

namespace DatabaseWorkerPool

def emplaceBack (pool : DatabaseWorkerPool) : InternalIndex → DatabaseWorkerPool
  | .async => { pool with asyncConnections := pool.asyncConnections ++ [pool.created] }
  | .sync => { pool with syncConnections := pool.syncConnections ++ [pool.created] }

def openConnection (build : Build) (pool : DatabaseWorkerPool) (index : InternalIndex)
    (opening : Opening) : Nat × DatabaseWorkerPool :=
  let error := build.errorOf opening
  if error ≠ 0 then (error, { pool with created := pool.created + 1 })
  else (0, { pool.emplaceBack index with created := pool.created + 1 })

/-- `Open`, with the error it returns. -/
def openPool (build : Build) (pool : DatabaseWorkerPool) (attempt : Attempt) :
    Nat × DatabaseWorkerPool :=
  let (asyncError, withAsync) := pool.openConnection build .async attempt.async
  if asyncError ≠ 0 then (asyncError, withAsync)
  else withAsync.openConnection build .sync attempt.sync

/-- The pool after some calls of `Open`. -/
def afterAttempts (build : Build) (pool : DatabaseWorkerPool) (attempts : List Attempt) :
    DatabaseWorkerPool :=
  attempts.foldl (fun current attempt => (current.openPool build attempt).2) pool

def SameLists (first second : DatabaseWorkerPool) : Prop :=
  first.asyncConnections = second.asyncConnections ∧
    first.syncConnections = second.syncConnections

end DatabaseWorkerPool

open DatabaseWorkerPool

/-- The error of a call of `Open`, which does not depend on the pool. -/
def Build.attemptError (build : Build) (attempt : Attempt) : Nat :=
  if build.errorOf attempt.async ≠ 0 then build.errorOf attempt.async
  else build.errorOf attempt.sync

/-- The asynchronous connection is accepted and the synchronous one is not. -/
def Build.HalfOpen (build : Build) (attempt : Attempt) : Prop :=
  build.errorOf attempt.async = 0 ∧ build.errorOf attempt.sync ≠ 0

instance (build : Build) : DecidablePred build.HalfOpen :=
  fun _ => inferInstanceAs (Decidable (_ ∧ _))

/-- All that a call of `Open` can do. -/
theorem openPool_cases (build : Build) (pool : DatabaseWorkerPool) (attempt : Attempt) :
    (build.errorOf attempt.async ≠ 0 ∧
      pool.openPool build attempt =
        (build.errorOf attempt.async, { pool with created := pool.created + 1 })) ∨
    (build.HalfOpen attempt ∧
      pool.openPool build attempt = (build.errorOf attempt.sync,
        { pool with
          asyncConnections := pool.asyncConnections ++ [pool.created]
          created := pool.created + 2 })) ∨
    (build.errorOf attempt.async = 0 ∧ build.errorOf attempt.sync = 0 ∧
      pool.openPool build attempt = (0,
        { pool with
          asyncConnections := pool.asyncConnections ++ [pool.created]
          syncConnections := pool.syncConnections ++ [pool.created + 1]
          created := pool.created + 2 })) := by
  by_cases asyncFails : build.errorOf attempt.async ≠ 0
  · exact .inl ⟨asyncFails, by simp [openPool, openConnection, asyncFails]⟩
  · have asyncOpens : build.errorOf attempt.async = 0 := not_not.mp asyncFails
    by_cases syncFails : build.errorOf attempt.sync ≠ 0
    · refine .inr (.inl ⟨⟨asyncOpens, syncFails⟩, ?_⟩)
      simp [openPool, openConnection, asyncOpens, syncFails, emplaceBack]
    · refine .inr (.inr ⟨asyncOpens, not_not.mp syncFails, ?_⟩)
      simp [openPool, openConnection, asyncOpens, not_not.mp syncFails, emplaceBack]

theorem openPool_error (build : Build) (pool : DatabaseWorkerPool) (attempt : Attempt) :
    (pool.openPool build attempt).1 = build.attemptError attempt := by
  rcases openPool_cases build pool attempt with ⟨fails, opened⟩ | ⟨half, opened⟩ |
    ⟨asyncOpens, syncOpens, opened⟩
  · simp [opened, Build.attemptError, fails]
  · simp [opened, Build.attemptError, half.1]
  · simp [opened, Build.attemptError, asyncOpens, syncOpens]

/-- A failing call leaves the lists alone exactly if it is not half open. -/
theorem sameLists_openPool_iff {build : Build} (pool : DatabaseWorkerPool) {attempt : Attempt}
    (fails : build.attemptError attempt ≠ 0) :
    SameLists (pool.openPool build attempt).2 pool ↔ ¬ build.HalfOpen attempt := by
  rcases openPool_cases build pool attempt with ⟨asyncFails, opened⟩ | ⟨half, opened⟩ |
    ⟨asyncOpens, syncOpens, opened⟩
  · simp [opened, SameLists, Build.HalfOpen, asyncFails]
  · simp [opened, SameLists, half]
  · simp [Build.attemptError, asyncOpens, syncOpens] at fails

theorem afterAttempts_append (build : Build) (pool : DatabaseWorkerPool)
    (first second : List Attempt) :
    pool.afterAttempts build (first ++ second) =
      (pool.afterAttempts build first).afterAttempts build second :=
  List.foldl_append

theorem afterAttempts_singleton (build : Build) (pool : DatabaseWorkerPool) (attempt : Attempt) :
    pool.afterAttempts build [attempt] = (pool.openPool build attempt).2 :=
  rfl

/-- What the lists should be in a sequence of attempts on a fresh pool. -/
structure Clean (build : Build) (attempts : List Attempt) : Prop where
  unchanged : ∀ before attempt after, attempts = before ++ attempt :: after →
    build.attemptError attempt ≠ 0 →
      SameLists (fresh.afterAttempts build (before ++ [attempt]))
        (fresh.afterAttempts build before)
  opened : ∀ before attempt after, attempts = before ++ attempt :: after →
    (∀ earlier ∈ before, build.attemptError earlier ≠ 0) → build.attemptError attempt = 0 →
      (fresh.afterAttempts build (before ++ [attempt])).asyncConnections.length = 1 ∧
        (fresh.afterAttempts build (before ++ [attempt])).syncConnections.length = 1
  failed : (∀ attempt ∈ attempts, build.attemptError attempt ≠ 0) →
    SameLists (fresh.afterAttempts build attempts) fresh

/-- Failing attempts leave the lists empty if none of them is half open. -/
theorem sameLists_afterAttempts {build : Build} (pool : DatabaseWorkerPool)
    {attempts : List Attempt} (fail : ∀ attempt ∈ attempts, build.attemptError attempt ≠ 0)
    (whole : ∀ attempt ∈ attempts, ¬ build.HalfOpen attempt) :
    SameLists (pool.afterAttempts build attempts) pool := by
  induction attempts generalizing pool with
  | nil => exact ⟨rfl, rfl⟩
  | cons attempt attempts ih =>
      have first := (sameLists_openPool_iff pool (fail attempt List.mem_cons_self)).mpr
        (whole attempt List.mem_cons_self)
      have rest := ih (pool.openPool build attempt).2
        (fun later member => fail later (List.mem_cons_of_mem _ member))
        (fun later member => whole later (List.mem_cons_of_mem _ member))
      exact ⟨rest.1.trans first.1, rest.2.trans first.2⟩

theorem opened_of_attemptError {build : Build} {pool : DatabaseWorkerPool}
    (isEmpty : SameLists pool fresh) {attempt : Attempt}
    (succeeds : build.attemptError attempt = 0) :
    (pool.openPool build attempt).2.asyncConnections.length = 1 ∧
      (pool.openPool build attempt).2.syncConnections.length = 1 := by
  obtain ⟨noAsync, noSync⟩ := isEmpty
  rcases openPool_cases build pool attempt with ⟨fails, opened⟩ | ⟨half, opened⟩ |
    ⟨asyncOpens, syncOpens, opened⟩
  · simp [Build.attemptError, fails] at succeeds
  · simp [Build.attemptError, half.1, half.2] at succeeds
  · simp [opened, noAsync, noSync, fresh]

/-- For every sequence of attempts to open a fresh pool and all answers to their
connection attempts: failing attempts leave the lists as they were, the first
success leaves one connection of each kind and failure leaves none, exactly if
no attempt is half open. -/
theorem clean_iff (build : Build) (attempts : List Attempt) :
    Clean build attempts ↔ ∀ attempt ∈ attempts, ¬ build.HalfOpen attempt := by
  constructor
  · intro clean attempt member half
    obtain ⟨before, after, split⟩ := List.append_of_mem member
    have fails : build.attemptError attempt ≠ 0 := by
      simpa [Build.attemptError, half.1] using half.2
    have same := clean.unchanged before attempt after split fails
    rw [afterAttempts_append, afterAttempts_singleton, sameLists_openPool_iff _ fails] at same
    exact same half
  · intro whole
    have wholeBefore : ∀ before attempt after, attempts = before ++ attempt :: after →
        ∀ earlier ∈ before, ¬ build.HalfOpen earlier := by
      intro before attempt after split earlier member
      exact whole earlier (by simp [split, member])
    refine ⟨?_, ?_, ?_⟩
    · intro before attempt after split fails
      rw [afterAttempts_append, afterAttempts_singleton, sameLists_openPool_iff _ fails]
      exact whole attempt (by simp [split])
    · intro before attempt after split fail succeeds
      rw [afterAttempts_append, afterAttempts_singleton]
      exact opened_of_attemptError
        (sameLists_afterAttempts fresh fail (wholeBefore before attempt after split)) succeeds
    · intro fail
      exact sameLists_afterAttempts fresh fail whole

/-- The synchronous connection is refused once (`CR_CONNECTION_ERROR`): after the
retry the pool holds two asynchronous connections. -/
theorem halfOpen_retried :
    ¬ Clean ⟨50700⟩ [⟨.connected 80000, .failed ⟨2002, by decide⟩⟩,
        ⟨.connected 80000, .connected 80000⟩] ∧
      fresh.afterAttempts ⟨50700⟩ [⟨.connected 80000, .failed ⟨2002, by decide⟩⟩,
        ⟨.connected 80000, .connected 80000⟩] = ⟨[0, 2], [3], 4⟩ := by
  refine ⟨?_, by decide⟩
  intro clean
  have same := clean.unchanged [] _ _ rfl (by decide)
  exact absurd same.1 (by decide)

section DatabaseMgr

/-- `CR_CONNECTION_ERROR`. -/
def connectionError : Nat := 2002

/-- `ER_BAD_DB_ERROR`. -/
def badDbError : Nat := 1049

/-- The pool after the calls of `Open` so far, and the error of the last one. -/
structure Progress where
  pool : DatabaseWorkerPool
  error : Nat
  calls : Nat
  deriving DecidableEq, Repr

variable (build : Build) (answers : Nat → Attempt)

def Progress.openAgain (progress : Progress) : Progress :=
  let (error, pool) := progress.pool.openPool build (answers progress.calls)
  ⟨pool, error, progress.calls + 1⟩

/-- The loop of `AddDatabase` over the attempts that are left. -/
def Progress.reconnect : Nat → Progress → Progress
  | 0, progress => progress
  | left + 1, progress =>
      let next := progress.openAgain build answers
      if next.error = connectionError then reconnect left next else next

/-- The database is created if it does not exist and opened once more. -/
def Progress.setup (autoSetup created : Bool) (progress : Progress) : Progress :=
  if progress.error = badDbError ∧ autoSetup = true ∧ created = true then
    let next := progress.openAgain build answers
    { next with error := if next.error = 0 then 0 else progress.error }
  else
    progress

/-- The open operation of `AddDatabase`: it succeeds if no error is left. -/
def openOperation (attempts : UInt8) (autoSetup created : Bool) : Progress :=
  let first := Progress.openAgain build answers ⟨fresh, 0, 0⟩
  if first.error = 0 then first
  else
    let reconnected :=
      if first.error = connectionError then first.reconnect build answers attempts.toNat
      else first
    reconnected.setup build answers autoSetup created

/-- The pool is the one after the first answers; all of them but the last are
failures, and the last is one if there is an error. -/
structure Progress.Reached (progress : Progress) : Prop where
  called : 0 < progress.calls
  pool : progress.pool = fresh.afterAttempts build ((List.range progress.calls).map answers)
  failures : ∀ call, call + 1 < progress.calls → build.attemptError (answers call) ≠ 0
  last : ∀ call, call + 1 = progress.calls →
    (build.attemptError (answers call) = 0 ↔ progress.error = 0)

variable {build answers}

theorem reached_openAgain {progress : Progress}
    (isPool : progress.pool =
      fresh.afterAttempts build ((List.range progress.calls).map answers))
    (fails : ∀ call < progress.calls, build.attemptError (answers call) ≠ 0) :
    (progress.openAgain build answers).Reached build answers := by
  have error := openPool_error build progress.pool (answers progress.calls)
  refine ⟨Nat.succ_pos _, ?_, ?_, ?_⟩
  · simp only [Progress.openAgain]
    rw [List.range_succ, List.map_append, afterAttempts_append, ← isPool]
    rfl
  · intro call before
    simp only [Progress.openAgain] at before
    exact fails call (by omega)
  · intro call isLast
    simp only [Progress.openAgain] at isLast
    obtain rfl : call = progress.calls := by omega
    simp only [Progress.openAgain, error]

/-- All calls up to now have failed if there is an error. -/
theorem failures_of_error {progress : Progress} (reached : progress.Reached build answers)
    (error : progress.error ≠ 0) :
    ∀ call < progress.calls, build.attemptError (answers call) ≠ 0 := by
  intro call before
  by_cases isLast : call + 1 = progress.calls
  · rw [ne_eq, reached.last call isLast]
    exact error
  · exact reached.failures call (by omega)

theorem reached_reconnect {progress : Progress} (reached : progress.Reached build answers)
    (error : progress.error ≠ 0) (left : Nat) :
    (progress.reconnect build answers left).Reached build answers := by
  induction left generalizing progress with
  | zero => exact reached
  | succ left ih =>
      have next := reached_openAgain reached.pool (failures_of_error reached error)
      rw [Progress.reconnect]
      split_ifs with again
      · exact ih next (by rw [again]; decide)
      · exact next

theorem reached_setup {progress : Progress} (reached : progress.Reached build answers)
    (autoSetup created : Bool) :
    (progress.setup build answers autoSetup created).Reached build answers := by
  rw [Progress.setup]
  split_ifs with missing
  · have error : progress.error ≠ 0 := by
      rw [missing.1]
      decide
    have next := reached_openAgain reached.pool (failures_of_error reached error)
    refine ⟨next.called, next.pool, next.failures, ?_⟩
    intro call isLast
    rw [next.last call isLast]
    by_cases opened : (progress.openAgain build answers).error = 0
    · simp [opened]
    · simp [opened, error]
  · exact reached

theorem reached_openOperation (attempts : UInt8) (autoSetup created : Bool) :
    (openOperation build answers attempts autoSetup created).Reached build answers := by
  have first : (Progress.openAgain build answers ⟨fresh, 0, 0⟩).Reached build answers :=
    reached_openAgain rfl (by simp)
  rw [openOperation]
  dsimp only
  split_ifs with opened lost
  · exact first
  · exact reached_setup (reached_reconnect first opened _) autoSetup created
  · exact reached_setup first autoSetup created

/-- What `DatabaseMgr` leaves if no attempt it makes is half open: one connection
of each kind if the pool is opened, and none otherwise. -/
theorem openOperation_lists (attempts : UInt8) (autoSetup created : Bool)
    (whole : ∀ call, ¬ build.HalfOpen (answers call)) :
    let progress := openOperation build answers attempts autoSetup created
    if progress.error = 0 then
      progress.pool.asyncConnections.length = 1 ∧ progress.pool.syncConnections.length = 1
    else
      SameLists progress.pool fresh := by
  have reached := @reached_openOperation build answers attempts autoSetup created
  dsimp only
  generalize openOperation build answers attempts autoSetup created = progress at reached ⊢
  obtain ⟨last, isLast⟩ : ∃ last, last + 1 = progress.calls :=
    ⟨progress.calls - 1, Nat.succ_pred_eq_of_pos reached.called⟩
  have wholeAll : ∀ count, ∀ attempt ∈ (List.range count).map answers,
      ¬ build.HalfOpen attempt := by
    intro count attempt member
    obtain ⟨call, _, rfl⟩ := List.mem_map.mp member
    exact whole call
  split_ifs with opened
  · have earlier : SameLists (fresh.afterAttempts build ((List.range last).map answers)) fresh := by
      refine sameLists_afterAttempts fresh ?_ (wholeAll last)
      intro attempt member
      obtain ⟨call, before, rfl⟩ := List.mem_map.mp member
      rw [List.mem_range] at before
      exact reached.failures call (by omega)
    have succeeds := (reached.last last isLast).mpr opened
    have lists := opened_of_attemptError earlier succeeds
    rw [reached.pool, ← isLast, List.range_succ, List.map_append, afterAttempts_append]
    exact lists
  · rw [reached.pool]
    refine sameLists_afterAttempts fresh ?_ (wholeAll _)
    intro attempt member
    obtain ⟨call, before, rfl⟩ := List.mem_map.mp member
    exact failures_of_error reached opened call (List.mem_range.mp before)

end DatabaseMgr

end PoolOpening

end WarheadBot
