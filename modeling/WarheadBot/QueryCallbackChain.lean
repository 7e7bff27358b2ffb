import Mathlib.Data.List.Basic
import Mathlib.Data.List.Infix
import WarheadBot.QueryCallback

/-!
# Chains of one kind

As long as an object, its callbacks and the queries they set are of one kind,
every flag agrees with the active member it stands for.  Such an object is
given by its kind, its pending query and the names of its callbacks, and the
polls of it follow the behaviour of its callbacks: each ready poll invokes the
next registered callback with the query the previous one has set.
-/

namespace WarheadBot

namespace QueryCallbacks

open QueryCallback

variable {α : Type}

@[simp]
theorem Member.read_construct (isPrepared : Bool) (value : α) :
    (Member.construct isPrepared value).read isPrepared = .ok value := by
  cases isPrepared <;> rfl

@[simp]
theorem Tagged.read_make (isPrepared : Bool) (value : α) :
    (Tagged.make isPrepared value).read = .ok value := by
  simp [Tagged.read, Tagged.make]

@[simp]
theorem Tagged.isPrepared_make (isPrepared : Bool) (value : α) :
    (Tagged.make isPrepared value).isPrepared = isPrepared :=
  rfl

theorem Tagged.moveFrom_make (isPrepared : Bool) (old value : α) :
    (Tagged.make isPrepared old).moveFrom (Tagged.make isPrepared value) =
      .ok (Tagged.make isPrepared value) := by
  simp [Tagged.moveFrom, Tagged.make, bind, Except.bind]

namespace QueryCallback

/-- An object whose flags, members and callbacks are all of one kind. -/
def ofKind (isPrepared : Bool) (pending : Option Query) (queue : List Callback) :
    QueryCallback :=
  ⟨Tagged.make isPrepared pending, queue.map (Tagged.make isPrepared)⟩

def Action.isPrepared : Action → Bool
  | .setNextQuery isPrepared _ => isPrepared
  | .withCallback isPrepared _ => isPrepared

/-- The query that is set last. -/
def Action.nextQuery : List Action → Option Query
  | [] => none
  | .setNextQuery _ query :: actions => (nextQuery actions).or (some query)
  | .withCallback _ _ :: actions => nextQuery actions

def Action.registrations : List Action → List Callback
  | [] => []
  | .setNextQuery _ _ :: actions => registrations actions
  | .withCallback _ callback :: actions => callback :: registrations actions

theorem withCallbackOf_ofKind (isPrepared : Bool) (pending : Option Query)
    (queue : List Callback) (callback : Callback) :
    (ofKind isPrepared pending queue).withCallbackOf isPrepared callback =
      .ok (ofKind isPrepared pending (queue ++ [callback])) := by
  cases isPrepared <;>
    simp [withCallbackOf, withChainingCallback, withChainingPreparedCallback, ofKind,
      Tagged.make]

theorem setNextQuery_ofKind (isPrepared : Bool) (pending : Option Query)
    (queue : List Callback) (query : Query) :
    (ofKind isPrepared pending queue).setNextQuery (ofQuery isPrepared query) =
      .ok (ofKind isPrepared (some query) queue) := by
  simp [QueryCallback.setNextQuery, ofKind, ofQuery, Tagged.moveFrom_make, bind, Except.bind]

theorem performAll_ofKind {isPrepared : Bool} {actions : List Action}
    (sameKind : ∀ action ∈ actions, action.isPrepared = isPrepared) (pending : Option Query)
    (queue : List Callback) :
    (ofKind isPrepared pending queue).performAll actions =
      .ok (ofKind isPrepared ((Action.nextQuery actions).or pending)
        (queue ++ Action.registrations actions)) := by
  induction actions generalizing pending queue with
  | nil => simp [performAll, Action.nextQuery, Action.registrations]
  | cons action actions ih =>
      have others : ∀ other ∈ actions, other.isPrepared = isPrepared :=
        fun other member => sameKind other (List.mem_cons_of_mem _ member)
      have own := sameKind action List.mem_cons_self
      cases action with
      | setNextQuery kind query =>
          change kind = isPrepared at own
          subst own
          simp only [performAll, perform, setNextQuery_ofKind, bind, Except.bind]
          rw [ih others]
          simp [Action.nextQuery, Action.registrations]
      | withCallback kind callback =>
          change kind = isPrepared at own
          subst own
          simp only [performAll, perform, withCallbackOf_ofKind, bind, Except.bind]
          rw [ih others]
          simp [Action.nextQuery, Action.registrations]

theorem checkState_ofKind (isPrepared : Bool) (pending : Option Query) (invoked : Callback)
    (queue : List Callback) (lastSetsNone : queue = [] → pending = none) :
    (ofKind isPrepared pending (invoked :: queue)).checkStateAndReturnCompletion =
      .ok (queue.isEmpty || pending.isNone, ofKind isPrepared pending queue) := by
  cases queue with
  | nil =>
      rw [lastSetsNone rfl]
      simp [checkStateAndReturnCompletion, ofKind, bind, Except.bind]
  | cons front queue =>
      cases pending <;> simp [checkStateAndReturnCompletion, ofKind, bind, Except.bind]

theorem invokeIfReady_unready (isPrepared : Bool) (pending : Option Query) (front : Callback)
    (queue : List Callback) (actions : List Action) :
    (ofKind isPrepared pending (front :: queue)).invokeIfReady false actions =
      .ok ⟨false, none, ofKind isPrepared pending (front :: queue)⟩ := by
  cases pending <;> simp [invokeIfReady, ofKind, bind, Except.bind]

/-- A ready poll invokes the front callback with the pending query. -/
theorem invokeIfReady_ready {isPrepared : Bool} {actions : List Action}
    (sameKind : ∀ action ∈ actions, action.isPrepared = isPrepared) (query : Query)
    (front : Callback) (queue : List Callback)
    (lastSetsNone : queue ++ Action.registrations actions = [] →
      Action.nextQuery actions = none) :
    (ofKind isPrepared (some query) (front :: queue)).invokeIfReady true actions =
      .ok ⟨(queue ++ Action.registrations actions).isEmpty ||
          (Action.nextQuery actions).isNone, some (front, query),
        ofKind isPrepared (Action.nextQuery actions)
          (queue ++ Action.registrations actions)⟩ := by
  have acted := performAll_ofKind sameKind none (front :: queue)
  rw [Option.or_none] at acted
  have checked := checkState_ofKind isPrepared (Action.nextQuery actions) front
    (queue ++ Action.registrations actions) lastSetsNone
  have invoked : (Tagged.make isPrepared front).member.read isPrepared = .ok front :=
    Member.read_construct isPrepared front
  rw [List.cons_append] at acted
  simp only [invokeIfReady, ofKind, List.map_cons, Tagged.read_make, bind, Except.bind, if_true,
    Tagged.isPrepared_make, invoked]
  simp only [ofKind, List.map_cons] at acted checked
  simp only [acted, checked]

end QueryCallback

section Chain

variable (callbacks : List Callback) (query : Query) (behaviour : Nat → List Action)

/-- The callbacks registered before the polls and by the first `count`
invocations, in this order. -/
def registered (count : Nat) : List Callback :=
  callbacks ++ (List.range count).flatMap fun index => Action.registrations (behaviour index)

/-- The query whose result an invocation is given: the initial one, or the one
that the invocation before it has set. -/
def queryOf : Nat → Option Query
  | 0 => some query
  | index + 1 => Action.nextQuery (behaviour index)

/-- No callback is left after this invocation, or it has set no next query. -/
def ChainEnds (index : Nat) : Prop :=
  (registered callbacks behaviour (index + 1)).length = index + 1 ∨
    Action.nextQuery (behaviour index) = none

def LastSetsNone : Prop :=
  ∀ index, (registered callbacks behaviour (index + 1)).length = index + 1 →
    Action.nextQuery (behaviour index) = none

theorem registered_succ (count : Nat) :
    registered callbacks behaviour (count + 1) =
      registered callbacks behaviour count ++ Action.registrations (behaviour count) := by
  simp [registered, List.range_succ, List.flatMap_append]

/-- The polls so far have followed the behaviour of the callbacks. -/
structure Follows (isPrepared : Bool) (queue : List Callback) (run : Run) : Prop where
  object : run.object = ofKind isPrepared (queryOf query behaviour run.log.length) queue
  invoked : run.log.map Prod.fst ++ queue = registered callbacks behaviour run.log.length
  queries : ∀ index entry, run.log[index]? = some entry →
    queryOf query behaviour index = some entry.2
  running : run.completed = false →
    queue ≠ [] ∧ queryOf query behaviour run.log.length ≠ none
  ended : run.completed = true →
    ∃ index, run.log.length = index + 1 ∧ ChainEnds callbacks behaviour index

variable {callbacks query behaviour} {isPrepared : Bool} {queue : List Callback} {run : Run}

theorem follows_start (nonempty : callbacks ≠ []) :
    Follows callbacks query behaviour isPrepared callbacks
      (Run.start (ofKind isPrepared (some query) callbacks)) where
  object := rfl
  invoked := by simp [Run.start, registered]
  queries := by
    intro index entry present
    simp [Run.start] at present
  running := fun _ => ⟨nonempty, by simp [queryOf, Run.start]⟩
  ended := by simp [Run.start]

theorem Follows.poll_unready
    (follows : Follows callbacks query behaviour isPrepared queue run)
    (running : run.completed = false) : run.poll behaviour false = .ok run := by
  obtain ⟨object, log, completed⟩ := run
  obtain ⟨front, others, rfl⟩ := List.exists_cons_of_ne_nil (follows.running running).1
  have unchanged : object.invokeIfReady false (behaviour log.length) =
      .ok ⟨false, none, object⟩ := by
    rw [show object = _ from follows.object]
    exact invokeIfReady_unready isPrepared _ front others _
  change completed = false at running
  simp [Run.poll, running, unchanged, bind, Except.bind]

theorem Follows.poll_ready
    (sameKind : ∀ index, ∀ action ∈ behaviour index, action.isPrepared = isPrepared)
    (lastSetsNone : LastSetsNone callbacks behaviour)
    (follows : Follows callbacks query behaviour isPrepared queue run)
    (running : run.completed = false) :
    ∃ next queueNext, run.poll behaviour true = .ok next ∧
      Follows callbacks query behaviour isPrepared queueNext next ∧
        next.log.length = run.log.length + 1 ∧
          (next.completed = true ↔ ChainEnds callbacks behaviour run.log.length) := by
  obtain ⟨object, log, completed⟩ := run
  obtain ⟨nonempty, pending⟩ := follows.running running
  obtain ⟨front, others, rfl⟩ := List.exists_cons_of_ne_nil nonempty
  obtain ⟨current, isCurrent⟩ := Option.ne_none_iff_exists'.mp pending
  have registeredNext := registered_succ callbacks behaviour log.length
  rw [← follows.invoked, List.append_assoc, List.cons_append] at registeredNext
  have lengths := congrArg List.length registeredNext
  simp only [List.length_append, List.length_map, List.length_cons] at lengths
  have empty_iff : others ++ Action.registrations (behaviour log.length) = [] ↔
      (registered callbacks behaviour (log.length + 1)).length = log.length + 1 := by
    rw [← List.length_eq_zero_iff, List.length_append]
    omega
  have polled := invokeIfReady_ready (sameKind log.length) current front others
    (fun empty => lastSetsNone log.length (empty_iff.mp empty))
  have startsWith : object = ofKind isPrepared (some current) (front :: others) := by
    rw [← isCurrent]
    exact follows.object
  have ends_iff : ((others ++ Action.registrations (behaviour log.length)).isEmpty ||
      (Action.nextQuery (behaviour log.length)).isNone) = true ↔
        ChainEnds callbacks behaviour log.length := by
    rw [ChainEnds, ← empty_iff, Bool.or_eq_true, List.isEmpty_iff, Option.isNone_iff_eq_none]
  refine ⟨⟨ofKind isPrepared (Action.nextQuery (behaviour log.length))
      (others ++ Action.registrations (behaviour log.length)), log ++ [(front, current)],
      (others ++ Action.registrations (behaviour log.length)).isEmpty ||
        (Action.nextQuery (behaviour log.length)).isNone⟩,
    others ++ Action.registrations (behaviour log.length), ?_, ?_, by simp, ends_iff⟩
  · change completed = false at running
    simp [Run.poll, running, startsWith, polled, bind, Except.bind]
  · refine ⟨?_, ?_, ?_, ?_, ?_⟩
    · simp [queryOf]
    · simpa using registeredNext.symm
    · intro index entry present
      rw [List.getElem?_append] at present
      split_ifs at present with inside
      · exact follows.queries index entry present
      · rw [List.getElem?_singleton] at present
        split_ifs at present
        cases present
        have atEnd : index = log.length := by omega
        rw [atEnd]
        exact isCurrent
    · intro unfinished
      rw [Bool.or_eq_false_iff] at unfinished
      refine ⟨by simpa [List.isEmpty_iff] using unfinished.1, ?_⟩
      simpa [queryOf, Option.isSome_iff_ne_none] using unfinished.2
    · intro finished
      exact ⟨log.length, by simp, ends_iff.mp finished⟩

theorem Run.pollAll_completed (completed : run.completed = true) (readiness : List Bool) :
    run.pollAll behaviour readiness = .ok run := by
  induction readiness with
  | nil => rfl
  | cons ready readiness ih =>
      have unchanged : run.poll behaviour ready = .ok run := by simp [Run.poll, completed]
      simp only [Run.pollAll, unchanged, bind, Except.bind]
      exact ih

theorem Run.pollAll_cons {ready : Bool} {readiness : List Bool} {next last : Run}
    (polled : run.poll behaviour ready = .ok next)
    (rest : next.pollAll behaviour readiness = .ok last) :
    run.pollAll behaviour (ready :: readiness) = .ok last := by
  simp only [Run.pollAll, polled, bind, Except.bind]
  exact rest

/-- While the chain has not ended, every ready poll invokes a callback. -/
theorem Follows.pollAll
    (sameKind : ∀ index, ∀ action ∈ behaviour index, action.isPrepared = isPrepared)
    (lastSetsNone : LastSetsNone callbacks behaviour) (readiness : List Bool)
    (follows : Follows callbacks query behaviour isPrepared queue run) :
    ∃ last queueLast, run.pollAll behaviour readiness = .ok last ∧
      Follows callbacks query behaviour isPrepared queueLast last ∧
        (last.completed = false →
          last.log.length = run.log.length + readiness.count true) := by
  induction readiness generalizing run queue with
  | nil => exact ⟨run, queue, rfl, follows, fun _ => rfl⟩
  | cons ready readiness ih =>
      cases running : run.completed with
      | true =>
          exact ⟨run, queue, Run.pollAll_completed running _, follows, by simp [running]⟩
      | false =>
          cases ready with
          | false =>
              obtain ⟨last, queueLast, rest, lastFollows, counted⟩ := ih follows
              have polled := Run.pollAll_cons (follows.poll_unready running) rest
              exact ⟨last, queueLast, polled, lastFollows, by simpa using counted⟩
          | true =>
              obtain ⟨next, queueNext, moved, nextFollows, longer, _⟩ :=
                follows.poll_ready sameKind lastSetsNone running
              obtain ⟨last, queueLast, rest, lastFollows, counted⟩ := ih nextFollows
              refine ⟨last, queueLast, Run.pollAll_cons moved rest, lastFollows, ?_⟩
              intro unfinished
              have total := counted unfinished
              rw [List.count_cons_self]
              omega

/-- Registering callbacks of the kind of the query builds an object of one
kind. -/
theorem performAll_register (isPrepared : Bool) (query : Query) (callbacks : List Callback) :
    (ofQuery isPrepared query).performAll (callbacks.map (.withCallback isPrepared)) =
      .ok (ofKind isPrepared (some query) callbacks) := by
  have nextQuery : Action.nextQuery (callbacks.map (.withCallback isPrepared)) = none := by
    induction callbacks with
    | nil => rfl
    | cons callback callbacks ih => exact ih
  have registrations : Action.registrations (callbacks.map (.withCallback isPrepared)) =
      callbacks := by
    induction callbacks with
    | nil => rfl
    | cons callback callbacks ih => exact congrArg (List.cons callback) (ih nextQuery)
  have sameKind : ∀ action ∈ callbacks.map (Action.withCallback isPrepared),
      action.isPrepared = isPrepared := by
    intro action member
    obtain ⟨callback, _, rfl⟩ := List.mem_map.mp member
    rfl
  have performed := performAll_ofKind sameKind (some query) []
  rw [nextQuery, registrations] at performed
  exact performed

/-- However many callbacks of the kind of the query are registered, if they set
queries and register callbacks of that kind only and the last one sets none,
then any polls, each ready or not, invoke a prefix of the registered callbacks
in order, each with the query the one before it has set; a further poll does
nothing while the future is not ready, and completes exactly when it ends the
chain.  No assertion fails. -/
theorem polls_follow_chain {callbacks : List Callback} (nonempty : callbacks ≠ [])
    (isPrepared : Bool) (query : Query) {behaviour : Nat → List Action}
    (sameKind : ∀ index, ∀ action ∈ behaviour index, action.isPrepared = isPrepared)
    (lastSetsNone : LastSetsNone callbacks behaviour) (readiness : List Bool) :
    ∃ object run,
      (ofQuery isPrepared query).performAll (callbacks.map (.withCallback isPrepared)) =
          .ok object ∧
      (Run.start object).pollAll behaviour readiness = .ok run ∧
      run.log.map Prod.fst <+: registered callbacks behaviour run.log.length ∧
      (∀ index entry, run.log[index]? = some entry →
        queryOf query behaviour index = some entry.2) ∧
      (run.completed = false → ∀ ready, ∃ next, run.poll behaviour ready = .ok next ∧
        (ready = false → next = run) ∧
        (next.completed = true ↔
          ready = true ∧ ChainEnds callbacks behaviour run.log.length)) := by
  obtain ⟨run, queue, polled, follows, _⟩ :=
    (@follows_start callbacks query behaviour isPrepared nonempty).pollAll sameKind
      lastSetsNone readiness
  refine ⟨_, run, performAll_register isPrepared query callbacks, polled, ?_,
    follows.queries, ?_⟩
  · rw [← follows.invoked]
    exact List.prefix_append _ _
  · intro running ready
    cases ready with
    | false => exact ⟨run, follows.poll_unready running, fun _ => rfl, by simp [running]⟩
    | true =>
        obtain ⟨next, _, moved, _, _, completed⟩ :=
          follows.poll_ready sameKind lastSetsNone running
        exact ⟨next, moved, by simp, by simpa using completed⟩

end Chain

/-- The first invocation sets a query of the given kind, the others do
nothing. -/
def firstSets (isPrepared : Bool) (query : Query) : Nat → List Action
  | 0 => [.setNextQuery isPrepared query]
  | _ + 1 => []

theorem firstSets_lastSetsNone (isPrepared : Bool) (query : Query) :
    LastSetsNone [0, 1] (firstSets isPrepared query) := by
  intro index exhausted
  cases index with
  | zero => simp [registered, firstSets, Action.registrations] at exhausted
  | succ index => rfl

/-- Two string callbacks, of which the first sets a string query, under an
unready and two ready polls. -/
theorem polls_follow_two_callbacks :
    ∃ object run,
      (ofQuery false 7).performAll ([0, 1].map (.withCallback false)) = .ok object ∧
      (Run.start object).pollAll (firstSets false 8) [false, true, true] = .ok run ∧
      run.log.map Prod.fst <+: registered [0, 1] (firstSets false 8) run.log.length := by
  have sameKind : ∀ index, ∀ action ∈ firstSets false 8 index, action.isPrepared = false := by
    intro index action member
    cases index with
    | zero =>
        rw [firstSets, List.mem_singleton] at member
        rw [member]
        rfl
    | succ index => cases member
  obtain ⟨object, run, built, polled, invoked, _⟩ :=
    @polls_follow_chain [0, 1] (by decide) false 7 (firstSets false 8) sameKind
      (firstSets_lastSetsNone false 8) [false, true, true]
  exact ⟨object, run, built, polled, invoked⟩

/-- The first of two string callbacks sets a prepared query, and an object
without callbacks is polled. -/
theorem polls_fail_on_other_kind :
    LastSetsNone [0, 1] (firstSets true 8) ∧
      (∃ object,
        (ofQuery false 7).performAll ([0, 1].map (.withCallback false)) = .ok object ∧
        (Run.start object).pollAll (firstSets true 8) [true] =
          .error (.assertion "to->_isPrepared == from._isPrepared")) ∧
      (Run.start (ofQuery false 7)).pollAll (firstSets true 8) [false] = .error .emptyQueue := by
  refine ⟨firstSets_lastSetsNone true 8, ⟨ofKind false (some 7) [0, 1], ?_, ?_⟩, ?_⟩
  · exact performAll_register false 7 [0, 1]
  · rfl
  · rfl

end QueryCallbacks

end WarheadBot
