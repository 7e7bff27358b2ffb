import Mathlib.Data.List.Range
import WarheadBot.Iteration
import WarheadBot.MySQLConnection

/-!
# Committing a transaction

A transaction is committed by `TransactionTask`, by `TransactionWithResultTask`
or by `DirectCommitTransaction`.  All three try once, and if that ends in a
deadlock they go into a loop of further attempts, which is limited by time for
the tasks and by a counter for the direct commit.  The loop only looks at
whether an attempt has succeeded, so an attempt that fails for another reason
than a deadlock is followed by further ones too.

The results of `ExecuteTransaction` and the readings of the clock are given as
sequences; the first reading is taken when the loop begins and one after each
attempt of it that fails.
-/

namespace WarheadBot

namespace Transactions

open Iteration
open MySQL

inductive Event
  | attempt (errorCode : Int)
  | setValue (value : Bool)
  | cleanup
  | unlock
  deriving DecidableEq, Repr

/-- `DEADLOCK_MAX_RETRY_TIME_MS`. -/
def deadlockMaxRetryTime : Int := 60000

def getMSTimeDiff (oldMSTime newMSTime : Int) : Int :=
  if oldMSTime > newMSTime then oldMSTime - newMSTime else newMSTime - oldMSTime

/-- The loop condition of the tasks after some retries. -/
def withinRetryTime (clock : Nat → Int) : Nat → Bool
  | 0 => decide (0 ≤ deadlockMaxRetryTime)
  | retries + 1 =>
      decide (getMSTimeDiff (clock 0) (clock (retries + 1)) ≤ deadlockMaxRetryTime)

/-- What the three executors differ in: the loop condition, and what they do
when the first attempt or a later one succeeds and when they give up. -/
structure Scheme where
  mayRetry : Nat → Bool
  onSuccess : List Event
  onRetrySuccess : List Event
  onFailure : List Event

inductive Executor
  | transactionTask
  | transactionWithResultTask
  | directCommitTransaction
  deriving DecidableEq, Repr

/-- `TransactionTask::ExecuteQuery`. -/
def transactionTask (clock : Nat → Int) : Scheme :=
  { mayRetry := withinRetryTime clock
    onSuccess := []
    onRetrySuccess := []
    onFailure := [.cleanup] }

/-- `TransactionWithResultTask::ExecuteQuery`. -/
def transactionWithResultTask (clock : Nat → Int) : Scheme :=
  { mayRetry := withinRetryTime clock
    onSuccess := [.setValue true]
    onRetrySuccess := [.setValue true]
    onFailure := [.cleanup, .setValue false] }

def loopBreaker : Nat := 5

/-- `DirectCommitTransaction`, whose loop is left by `break`. -/
def directCommitTransaction : Scheme :=
  { mayRetry := fun retries => decide (retries < loopBreaker)
    onSuccess := [.unlock]
    onRetrySuccess := [.cleanup, .unlock]
    onFailure := [.cleanup, .unlock] }

def Executor.scheme (clock : Nat → Int) : Executor → Scheme
  | transactionTask => Transactions.transactionTask clock
  | transactionWithResultTask => Transactions.transactionWithResultTask clock
  | directCommitTransaction => Transactions.directCommitTransaction

inductive Phase
  | first
  | retrying (retries : Nat)
  | finished
  deriving DecidableEq, Repr

structure Execution where
  phase : Phase
  events : List Event
  deriving DecidableEq, Repr

namespace Execution

def start : Execution := ⟨.first, []⟩

def proceed (execution : Execution) (phase : Phase) (events : List Event) : Execution :=
  ⟨phase, execution.events ++ events⟩

/-- One attempt, or the end of the loop. -/
def step (scheme : Scheme) (results : Nat → Int) (execution : Execution) : Execution :=
  match execution.phase with
  | .first =>
      if results 0 = 0 then
        execution.proceed .finished (.attempt (results 0) :: scheme.onSuccess)
      else if results 0 = lockDeadlock then
        execution.proceed (.retrying 0) [.attempt (results 0)]
      else
        execution.proceed .finished (.attempt (results 0) :: scheme.onFailure)
  | .retrying retries =>
      if scheme.mayRetry retries then
        if results (retries + 1) = 0 then
          execution.proceed .finished (.attempt (results (retries + 1)) :: scheme.onRetrySuccess)
        else
          execution.proceed (.retrying (retries + 1)) [.attempt (results (retries + 1))]
      else
        execution.proceed .finished scheme.onFailure
  | .finished => execution

def run (scheme : Scheme) (results : Nat → Int) (steps : Nat) : Execution :=
  (step scheme results)^[steps] start

/-- The results of the attempts that were made. -/
def attempts (execution : Execution) : List Int :=
  execution.events.filterMap fun event =>
    match event with
    | .attempt errorCode => some errorCode
    | _ => none

/-- The values the promise was set to. -/
def promised (execution : Execution) : List Bool :=
  execution.events.filterMap fun event =>
    match event with
    | .setValue value => some value
    | _ => none

end Execution

end Transactions

end WarheadBot
