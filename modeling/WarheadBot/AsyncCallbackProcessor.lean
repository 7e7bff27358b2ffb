import Mathlib.Data.List.Count
import Mathlib.Data.List.Nodup
import WarheadBot.GuardedRuns

/-!
# The asynchronous callback processor

`AsyncCallbackProcessor` keeps the callbacks that are not completed in a
vector.  `ProcessReadyCallbacks` moves the vector out, polls what was in it
with `remove_if`, and puts what remains behind the callbacks that were added
in the meantime by the polled callbacks themselves.

Callbacks are numbered in the order in which they are added, and every poll is
written to a log with what it returned; the source has neither.
-/

namespace WarheadBot

namespace AsyncCallbacks

open GuardedRuns

structure Entry (T : Type) where
  id : Nat
  callback : T
  deriving DecidableEq, Repr

structure Poll where
  id : Nat
  completed : Bool
  deriving DecidableEq, Repr

/-- What one `InvokeIfReady` does: its result, the callback afterwards, and the
callbacks it has added to the processor. -/
structure Outcome (T : Type) where
  completed : Bool
  callback : T
  added : List T

structure Processor (T : Type) where
  callbacks : List (Entry T)
  nextId : Nat
  log : List Poll
  deriving DecidableEq, Repr

namespace Processor

variable {T Error : Type}

def start : Processor T := ⟨[], 0, []⟩

def addCallback (callback : T) (processor : Processor T) : Processor T :=
  { processor with
    callbacks := processor.callbacks ++ [⟨processor.nextId, callback⟩]
    nextId := processor.nextId + 1 }

def addAll (callbacks : List T) (processor : Processor T) : Processor T :=
  callbacks.foldl (fun current callback => current.addCallback callback) processor

/-- `remove_if` over the vector that was moved out: each callback is polled
once, and those that return false are kept in their order.  `invoke` may depend
on the number of polls before it. -/
def removeIf (invoke : Nat → T → Except Error (Outcome T)) :
    List (Entry T) → Processor T → Except Error (List (Entry T) × Processor T)
  | [], processor => .ok ([], processor)
  | entry :: entries, processor => do
      let outcome ← invoke processor.log.length entry.callback
      let polled := addAll outcome.added
        { processor with log := processor.log ++ [⟨entry.id, outcome.completed⟩] }
      let (kept, last) ← removeIf invoke entries polled
      if outcome.completed then .ok (kept, last)
      else .ok (⟨entry.id, outcome.callback⟩ :: kept, last)

def processReadyCallbacks (invoke : Nat → T → Except Error (Outcome T))
    (processor : Processor T) : Except Error (Processor T) :=
  if processor.callbacks.isEmpty then .ok processor
  else do
    let (kept, last) ← removeIf invoke processor.callbacks { processor with callbacks := [] }
    .ok { last with callbacks := last.callbacks ++ kept }

inductive Call (T : Type)
  | addCallback (callback : T)
  | processReadyCallbacks
  deriving DecidableEq, Repr

/-- One call from outside; a run stops where an `InvokeIfReady` fails. -/
def step (invoke : Nat → T → Except Error (Outcome T)) (processor : Processor T) :
    Call T → Option (Processor T)
  | .addCallback callback => some (processor.addCallback callback)
  | .processReadyCallbacks => (processor.processReadyCallbacks invoke).toOption

def ids (processor : Processor T) : List Nat := processor.callbacks.map Entry.id

/-- The numbers of the callbacks whose poll has returned true. -/
def completions (polls : List Poll) : List Nat :=
  (polls.filter Poll.completed).map Poll.id

@[simp]
theorem addCallback_ids (callback : T) (processor : Processor T) :
    (processor.addCallback callback).ids = processor.ids ++ [processor.nextId] := by
  simp [addCallback, ids]

@[simp]
theorem addAll_nil (processor : Processor T) : addAll [] processor = processor :=
  rfl

theorem addAll_cons (callback : T) (callbacks : List T) (processor : Processor T) :
    addAll (callback :: callbacks) processor =
      addAll callbacks (processor.addCallback callback) :=
  rfl

/-- Callbacks that are added take the next numbers. -/
theorem addAll_spec (callbacks : List T) (processor : Processor T) :
    (addAll callbacks processor).nextId = processor.nextId + callbacks.length ∧
      (addAll callbacks processor).ids =
        processor.ids ++ List.range' processor.nextId callbacks.length ∧
        (addAll callbacks processor).log = processor.log := by
  induction callbacks generalizing processor with
  | nil => simp
  | cons callback callbacks ih =>
      obtain ⟨nextId, ids, log⟩ := ih (processor.addCallback callback)
      rw [addAll_cons, nextId, ids, log, addCallback_ids]
      refine ⟨?_, ?_, rfl⟩
      · simp only [addCallback, List.length_cons]
        omega
      · simp [addCallback, List.range'_succ]

/-- What the loop of `remove_if` does to the numbers: it polls each entry once
and in order, keeps or completes each, and what is added in between comes
behind. -/
structure Removed (entries kept : List (Entry T)) (before last : Processor T) : Prop where
  polls : ∃ polls, last.log = before.log ++ polls ∧ polls.map Poll.id = entries.map Entry.id ∧
    ∀ id, (kept.map Entry.id).count id + (completions polls).count id =
      (entries.map Entry.id).count id
  added : ∃ count, last.nextId = before.nextId + count ∧
    last.ids = before.ids ++ List.range' before.nextId count

theorem completions_cons (poll : Poll) (polls : List Poll) :
    completions (poll :: polls) =
      if poll.completed then poll.id :: completions polls else completions polls := by
  unfold completions
  rw [List.filter_cons]
  split <;> rfl

theorem completions_append (first second : List Poll) :
    completions (first ++ second) = completions first ++ completions second := by
  simp [completions]

variable {invoke : Nat → T → Except Error (Outcome T)}

theorem removeIf_cons {entry : Entry T} {entries kept : List (Entry T)}
    {before last : Processor T}
    (succeeded : removeIf invoke (entry :: entries) before = .ok (kept, last)) :
    ∃ outcome others, invoke before.log.length entry.callback = .ok outcome ∧
      removeIf invoke entries (addAll outcome.added
        { before with log := before.log ++ [⟨entry.id, outcome.completed⟩] }) =
          .ok (others, last) ∧
      kept = if outcome.completed then others else ⟨entry.id, outcome.callback⟩ :: others := by
  simp only [removeIf, bind, Except.bind] at succeeded
  cases invoked : invoke before.log.length entry.callback with
  | error failure => simp [invoked] at succeeded
  | ok outcome =>
      simp only [invoked] at succeeded
      cases rest : removeIf invoke entries (addAll outcome.added
          { before with log := before.log ++ [⟨entry.id, outcome.completed⟩] }) with
      | error failure => simp [rest] at succeeded
      | ok result =>
          simp only [rest] at succeeded
          refine ⟨outcome, result.1, rfl, ?_⟩
          split at succeeded
          · rename_i completed
            cases succeeded
            exact ⟨rest, by simp [completed]⟩
          · rename_i pending
            cases succeeded
            exact ⟨rest, by simp [pending]⟩

theorem removed_of_removeIf {entries kept : List (Entry T)} {before last : Processor T}
    (succeeded : removeIf invoke entries before = .ok (kept, last)) :
    Removed entries kept before last := by
  induction entries generalizing before kept with
  | nil =>
      cases succeeded
      exact ⟨⟨[], by simp, rfl, by simp [completions]⟩, ⟨0, rfl, by simp⟩⟩
  | cons entry entries ih =>
      obtain ⟨outcome, others, _, rest, keeps⟩ := removeIf_cons succeeded
      obtain ⟨nextId, ids, log⟩ := addAll_spec outcome.added
        { before with log := before.log ++ [⟨entry.id, outcome.completed⟩] }
      obtain ⟨⟨polls, logged, polledIds, counted⟩, ⟨count, lastId, lastIds⟩⟩ := ih rest
      refine ⟨⟨⟨entry.id, outcome.completed⟩ :: polls, ?_, ?_, ?_⟩,
        ⟨outcome.added.length + count, ?_, ?_⟩⟩
      · rw [logged, log, List.append_assoc, List.singleton_append]
      · rw [List.map_cons, List.map_cons, polledIds]
      · intro id
        have countRest := counted id
        rw [keeps, completions_cons]
        cases outcome.completed <;>
          simp only [if_true, if_false, List.map_cons, List.count_cons, Bool.false_eq_true] <;>
          omega
      · rw [lastId, nextId, Nat.add_assoc]
      · rw [lastIds, nextId, ids, List.append_assoc, List.range'_append_1]
        rfl

/-- Every callback that was added is pending once and was never completed, or
is not pending and was completed once. -/
def Accounted (processor : Processor T) : Prop :=
  ∀ id, processor.ids.count id + (completions processor.log).count id =
    if id < processor.nextId then 1 else 0

theorem accounted_start : Accounted (start : Processor T) := by
  intro id
  simp [start, ids, completions]

theorem accounted_addCallback {processor : Processor T} (accounted : Accounted processor)
    (callback : T) : Accounted (processor.addCallback callback) := by
  intro id
  have before := accounted id
  have nextId : (processor.addCallback callback).nextId = processor.nextId + 1 := rfl
  have log : (processor.addCallback callback).log = processor.log := rfl
  rw [addCallback_ids, nextId, log, List.count_append, List.count_singleton]
  split_ifs at before ⊢ <;> simp_all <;> omega

/-- What one `ProcessReadyCallbacks` does: it polls the pending callbacks, each
once and in their order, and no other. -/
theorem processReadyCallbacks_polls {processor next : Processor T}
    (processed : processor.processReadyCallbacks invoke = .ok next) :
    ∃ polls added, next.log = processor.log ++ polls ∧
      polls.map Poll.id = processor.ids ∧
        next.nextId = processor.nextId + added ∧
          ∀ id, next.ids.count id + (completions polls).count id =
            processor.ids.count id + (List.range' processor.nextId added).count id := by
  unfold processReadyCallbacks at processed
  split at processed
  · rename_i empty
    cases processed
    rw [List.isEmpty_iff] at empty
    exact ⟨[], 0, by simp, by simp [ids, empty], rfl, by simp [completions]⟩
  · simp only [bind, Except.bind] at processed
    cases rest : removeIf invoke processor.callbacks { processor with callbacks := [] } with
    | error failure => simp [rest] at processed
    | ok result =>
        simp only [rest, Except.ok.injEq] at processed
        obtain ⟨⟨polls, logged, polledIds, counted⟩, ⟨count, lastId, lastIds⟩⟩ :=
          removed_of_removeIf rest
        refine ⟨polls, count, ?_, polledIds, ?_, ?_⟩
        · rw [← processed]
          exact logged
        · rw [← processed]
          exact lastId
        · intro id
          have countKept := counted id
          have behind : next.ids = result.2.ids ++ result.1.map Entry.id := by
            rw [← processed]
            simp [ids]
          have noneBefore : ids { processor with callbacks := ([] : List (Entry T)) } = [] := rfl
          rw [behind, lastIds, noneBefore, List.nil_append, List.count_append]
          change _ = processor.ids.count id at countKept
          change (List.range' processor.nextId count).count id + _ + _ = _
          omega

theorem accounted_processReadyCallbacks {processor next : Processor T}
    (accounted : Accounted processor)
    (processed : processor.processReadyCallbacks invoke = .ok next) : Accounted next := by
  obtain ⟨polls, added, logged, _, nextId, counted⟩ := processReadyCallbacks_polls processed
  intro id
  have before := accounted id
  have during := counted id
  rw [List.count_range_1'] at during
  rw [logged, completions_append, List.count_append, nextId]
  split_ifs at before during ⊢ <;> omega

theorem accounted_step {processor next : Processor T} {call : Call T}
    (accounted : Accounted processor) (moved : step invoke processor call = some next) :
    Accounted next := by
  cases call with
  | addCallback callback =>
      cases moved
      exact accounted_addCallback accounted callback
  | processReadyCallbacks =>
      simp only [step] at moved
      cases processed : processor.processReadyCallbacks invoke with
      | error failure => simp [processed, Except.toOption] at moved
      | ok last =>
          simp only [processed, Except.toOption, Option.some.injEq] at moved
          subst moved
          exact accounted_processReadyCallbacks accounted processed

theorem accounted_of_reached {calls : List (Call T)} {processor : Processor T}
    (reached : exec (step invoke) start calls = some processor) : Accounted processor :=
  exec_invariant_of_step accounted_step reached accounted_start

/-- Whatever the callbacks return and add: between calls every callback that
was added is pending once, or was removed by the one poll of it that returned
true; and a call polls what was pending at its start, each once and in order,
and nothing that was added during it. -/
theorem callbacks_pending_or_completed {calls : List (Call T)} {processor : Processor T}
    (reached : exec (step invoke) start calls = some processor) :
    (∀ id < processor.nextId,
      processor.ids.count id = 1 ∧ (completions processor.log).count id = 0 ∨
        processor.ids.count id = 0 ∧ (completions processor.log).count id = 1) ∧
      ∀ next, processor.processReadyCallbacks invoke = .ok next →
        ∃ polls, next.log = processor.log ++ polls ∧
          polls.map Poll.id = processor.ids ∧ (polls.map Poll.id).Nodup ∧
            ∀ poll ∈ polls, poll.id < processor.nextId := by
  have accounted := accounted_of_reached reached
  refine ⟨?_, ?_⟩
  · intro id added
    have once := accounted id
    rw [if_pos added] at once
    omega
  · intro next processed
    obtain ⟨polls, _, logged, polledIds, _⟩ := processReadyCallbacks_polls processed
    refine ⟨polls, logged, polledIds, ?_, ?_⟩
    · rw [polledIds, List.nodup_iff_count_le_one]
      intro id
      have once := accounted id
      split_ifs at once <;> omega
    · intro poll polled
      by_contra notAdded
      have once := accounted poll.id
      rw [if_neg notAdded] at once
      have pending : poll.id ∈ processor.ids := polledIds ▸ List.mem_map_of_mem polled
      have positive := List.count_pos_iff.mpr pending
      omega

/-- A callback counts the polls it still waits for, and adds another one at
the first. -/
def countdown (_ waits : Nat) : Except Unit (Outcome Nat) :=
  .ok ⟨waits == 0, waits - 1, if waits = 2 then [0] else []⟩

/-- The callback that was added during the first call completes in the second,
and the first one is still pending. -/
theorem pending_or_completed_countdown :
    ∃ processor, exec (step countdown) start
        [.addCallback 2, .processReadyCallbacks, .processReadyCallbacks] = some processor ∧
      processor.log = [⟨0, false⟩, ⟨1, true⟩, ⟨0, false⟩] ∧
        ∀ id < processor.nextId,
          processor.ids.count id = 1 ∧ (completions processor.log).count id = 0 ∨
            processor.ids.count id = 0 ∧ (completions processor.log).count id = 1 := by
  refine ⟨⟨[⟨0, 0⟩], 2, [⟨0, false⟩, ⟨1, true⟩, ⟨0, false⟩]⟩, rfl, rfl, ?_⟩
  exact (@callbacks_pending_or_completed Nat Unit countdown
    [.addCallback 2, .processReadyCallbacks, .processReadyCallbacks] _ rfl).1

end Processor

end AsyncCallbacks

end WarheadBot
