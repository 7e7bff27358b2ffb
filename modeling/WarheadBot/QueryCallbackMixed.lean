import Mathlib.Data.List.Basic
import Mathlib.Data.List.Infix
import WarheadBot.QueryCallbackChain

/-!
# Chains that mix string and prepared queries

Only the first callback has to be of the kind of the initial query when it is
registered, and a poll compares the next query with the next callback, as if a
chain could change its kind.  But `SetNextQuery` moves the new future into the
member that is active, and asserts that both are of the same kind.  A chain
therefore runs to its end exactly if it never changes its kind.
-/

namespace WarheadBot

namespace QueryCallbacks

open QueryCallback

/-- Every callback but the last sets a query of the kind of the next one. -/
def mixedBehaviour (kinds : List Bool) (queries : Nat → Query) (index : Nat) : List Action :=
  match kinds[index + 1]? with
  | some kind => [.setNextQuery kind (queries (index + 1))]
  | none => []

/-- The callbacks are registered in the order of their numbers. -/
def mixedRegistrations (kinds : List Bool) : List Action :=
  kinds.zipIdx.map fun entry => .withCallback entry.1 entry.2

def mixedCallbacks (kinds : List Bool) : List (Tagged Callback) :=
  kinds.zipIdx.map fun entry => Tagged.make entry.1 entry.2

/-- No assertion fails under any polls, and enough ready polls invoke every
callback in turn with the query that was set for it. -/
def RunsThrough (first : Bool) (rest : List Bool) (queries : Nat → Query) : Prop :=
  ∃ object,
    (ofQuery first (queries 0)).performAll (mixedRegistrations (first :: rest)) = .ok object ∧
    ∀ readiness, ∃ run,
      (Run.start object).pollAll (mixedBehaviour (first :: rest) queries) readiness = .ok run ∧
      (rest.length + 1 ≤ readiness.count true →
        run.completed = true ∧
          run.log = (List.range (rest.length + 1)).map fun index => (index, queries index))

theorem withCallbackOf_nonempty {object : QueryCallback} (nonempty : object.callbacks ≠ [])
    (isPrepared : Bool) (callback : Callback) :
    object.withCallbackOf isPrepared callback =
      .ok { object with callbacks := object.callbacks ++ [Tagged.make isPrepared callback] } := by
  cases isPrepared <;>
    simp [withCallbackOf, withChainingCallback, withChainingPreparedCallback, nonempty]

theorem performAll_register_nonempty (entries : List (Bool × Nat)) {object : QueryCallback}
    (nonempty : object.callbacks ≠ []) :
    object.performAll (entries.map fun entry => .withCallback entry.1 entry.2) =
      .ok { object with callbacks := object.callbacks ++
        (entries.map fun entry => Tagged.make entry.1 entry.2) } := by
  induction entries generalizing object with
  | nil => simp [performAll]
  | cons entry entries ih =>
      simp only [List.map_cons, performAll, perform, withCallbackOf_nonempty nonempty, bind,
        Except.bind]
      rw [ih (by simp)]
      simp

/-- Registration asks only for the kind of the first callback. -/
theorem performAll_mixedRegistrations (first : Bool) (rest : List Bool) (query : Query) :
    (ofQuery first query).performAll (mixedRegistrations (first :: rest)) =
      .ok ⟨Tagged.make first (some query), mixedCallbacks (first :: rest)⟩ := by
  have registeredFirst := withCallbackOf_ofKind first (some query) [] 0
  simp only [mixedRegistrations, mixedCallbacks, List.zipIdx_cons, List.map_cons, performAll,
    perform, bind, Except.bind]
  rw [show ofQuery first query = ofKind first (some query) [] from rfl, registeredFirst]
  simp only [Nat.zero_add]
  rw [performAll_register_nonempty _ (by simp [ofKind])]
  simp [ofKind]

theorem invokeIfReady_sameKind (kind : Bool) (query next : Query) (callback : Callback)
    (front : Callback) (others : List (Tagged Callback)) :
    invokeIfReady true [.setNextQuery kind next]
        ⟨Tagged.make kind (some query),
          Tagged.make kind callback :: Tagged.make kind front :: others⟩ =
      .ok ⟨false, some (callback, query),
        ⟨Tagged.make kind (some next), Tagged.make kind front :: others⟩⟩ := by
  have invoked : (Tagged.make kind callback).member.read kind = .ok callback :=
    Member.read_construct kind callback
  simp [invokeIfReady, performAll, perform, QueryCallback.setNextQuery, ofQuery,
    Tagged.moveFrom_make, checkStateAndReturnCompletion, invoked, bind, Except.bind]

/-- The assertion of `MoveFrom` fails when a callback sets a query of the other
kind. -/
theorem invokeIfReady_otherKind {kind other : Bool} (differs : other ≠ kind)
    (query next : Query) (callback : Callback) (others : List (Tagged Callback)) :
    invokeIfReady true [.setNextQuery other next]
        ⟨Tagged.make kind (some query), Tagged.make kind callback :: others⟩ =
      .error (.assertion "to->_isPrepared == from._isPrepared") := by
  have invoked : (Tagged.make kind callback).member.read kind = .ok callback :=
    Member.read_construct kind callback
  simp [invokeIfReady, performAll, perform, QueryCallback.setNextQuery, ofQuery,
    Tagged.moveFrom, invoked, Ne.symm differs, bind, Except.bind]

theorem mixedCallbacks_drop {kinds : List Bool} {index : Nat} {kind : Bool}
    (present : kinds[index]? = some kind) :
    (mixedCallbacks kinds).drop index =
      Tagged.make kind index :: (mixedCallbacks kinds).drop (index + 1) := by
  obtain ⟨bound, isKind⟩ := List.getElem?_eq_some_iff.mp present
  have length : (mixedCallbacks kinds).length = kinds.length := by simp [mixedCallbacks]
  rw [List.drop_eq_getElem_cons (by omega)]
  simp [mixedCallbacks, isKind]

/-- The polls reach the first change of kind and fail there. -/
theorem pollAll_changing {kinds : List Bool} {queries : Nat → Query} {kind other : Bool}
    (differs : other ≠ kind) (agreeing : Nat) {index : Nat} {run : Run}
    (agree : ∀ offset ≤ agreeing, kinds[index + offset]? = some kind)
    (changes : kinds[index + agreeing + 1]? = some other)
    (object : run.object =
      ⟨Tagged.make kind (some (queries index)), (mixedCallbacks kinds).drop index⟩)
    (logged : run.log.length = index) (running : run.completed = false) :
    run.pollAll (mixedBehaviour kinds queries) (List.replicate (agreeing + 1) true) =
      .error (.assertion "to->_isPrepared == from._isPrepared") := by
  induction agreeing generalizing index run with
  | zero =>
      have here : kinds[index]? = some kind := agree 0 le_rfl
      have sets : mixedBehaviour kinds queries index =
          [.setNextQuery other (queries (index + 1))] := by
        simp only [Nat.add_zero] at changes
        simp [mixedBehaviour, changes]
      have polled := invokeIfReady_otherKind differs (queries index) (queries (index + 1)) index
        ((mixedCallbacks kinds).drop (index + 1))
      rw [← mixedCallbacks_drop here, ← object, ← sets, ← logged] at polled
      simp [Run.pollAll, Run.poll, running, polled, bind, Except.bind]
  | succ agreeing ih =>
      have here : kinds[index]? = some kind := agree 0 (by omega)
      have following : kinds[index + 1]? = some kind := agree 1 (by omega)
      have sets : mixedBehaviour kinds queries index =
          [.setNextQuery kind (queries (index + 1))] := by
        simp [mixedBehaviour, following]
      have polled := invokeIfReady_sameKind kind (queries index) (queries (index + 1)) index
        (index + 1) ((mixedCallbacks kinds).drop (index + 1 + 1))
      rw [← mixedCallbacks_drop following, ← mixedCallbacks_drop here, ← object, ← sets,
        ← logged] at polled
      rw [List.replicate_succ]
      simp only [Run.pollAll, Run.poll, running, polled, bind, Except.bind, Option.toList]
      subst logged
      refine @ih (run.log.length + 1) _ ?_ ?_ rfl (by simp) rfl
      · intro offset bound
        have agreed := agree (offset + 1) (by omega)
        rwa [← Nat.add_assoc, Nat.add_right_comm] at agreed
      · rwa [← Nat.add_assoc, Nat.add_right_comm run.log.length] at changes

theorem exists_change {first : Bool} {rest : List Bool} {kind : Bool} (mixed : kind ∈ rest)
    (differs : kind ≠ first) :
    ∃ agreeing other, other ≠ first ∧
      (∀ offset ≤ agreeing, (first :: rest)[offset]? = some first) ∧
        (first :: rest)[agreeing + 1]? = some other := by
  induction rest with
  | nil => cases mixed
  | cons next rest ih =>
      by_cases same : next = first
      · subst same
        have later : kind ∈ rest := (List.mem_cons.mp mixed).resolve_left differs
        obtain ⟨agreeing, other, otherDiffers, agree, changes⟩ := ih later
        refine ⟨agreeing + 1, other, otherDiffers, ?_, changes⟩
        intro offset bound
        cases offset with
        | zero => rfl
        | succ offset => exact agree offset (by omega)
      · refine ⟨0, next, same, ?_, rfl⟩
        intro offset bound
        rw [Nat.le_zero.mp bound]
        rfl

section OneKind

variable {kind : Bool} {count : Nat} {queries : Nat → Query}

theorem mixedCallbacks_replicate :
    mixedCallbacks (List.replicate count kind) =
      (List.range count).map (Tagged.make kind) := by
  apply List.ext_getElem?
  intro index
  simp only [mixedCallbacks, List.getElem?_map, List.getElem?_zipIdx, List.getElem?_replicate]
  split_ifs <;> simp_all

theorem mixedBehaviour_replicate (index : Nat) :
    mixedBehaviour (List.replicate count kind) queries index =
      if index + 1 < count then [.setNextQuery kind (queries (index + 1))] else [] := by
  simp only [mixedBehaviour, List.getElem?_replicate]
  split_ifs <;> rfl

theorem registered_mixedBehaviour (callbacks : List Callback) (kinds : List Bool)
    (invocations : Nat) :
    registered callbacks (mixedBehaviour kinds queries) invocations = callbacks := by
  have none : ∀ index, Action.registrations (mixedBehaviour kinds queries index) = [] := by
    intro index
    unfold mixedBehaviour
    split <;> rfl
  simp [registered, none]

theorem nextQuery_replicate (index : Nat) :
    Action.nextQuery (mixedBehaviour (List.replicate count kind) queries index) =
      if index + 1 < count then some (queries (index + 1)) else none := by
  rw [mixedBehaviour_replicate]
  split_ifs <;> rfl

theorem queryOf_replicate {index : Nat} (bound : index < count) :
    queryOf (queries 0) (mixedBehaviour (List.replicate count kind) queries) index =
      some (queries index) := by
  cases index with
  | zero => rfl
  | succ index => rw [queryOf, nextQuery_replicate, if_pos bound]

/-- The log of a chain of one kind is what its callbacks are numbered by. -/
theorem Follows.log_replicate {queue : List Callback} {run : Run}
    (follows : Follows (List.range count) (queries 0)
      (mixedBehaviour (List.replicate count kind) queries) kind queue run) :
    run.log.length ≤ count ∧
      run.log = (List.range run.log.length).map fun index => (index, queries index) := by
  have invoked := follows.invoked
  rw [registered_mixedBehaviour] at invoked
  have lengths := congrArg List.length invoked
  simp only [List.length_append, List.length_map, List.length_range] at lengths
  refine ⟨by omega, ?_⟩
  apply List.ext_getElem?
  intro index
  cases present : run.log[index]? with
  | none =>
      have beyond := List.getElem?_eq_none_iff.mp present
      symm
      simpa using beyond
  | some entry =>
      have bound := (List.getElem?_eq_some_iff.mp present).1
      have position : (run.log.map Prod.fst ++ queue)[index]? = some entry.1 := by
        rw [List.getElem?_append_left (by simpa using bound), List.getElem?_map, present]
        rfl
      rw [invoked, List.getElem?_range (by omega), Option.some.injEq] at position
      have given := follows.queries index entry present
      rw [queryOf_replicate (by omega), Option.some.injEq] at given
      rw [List.getElem?_map, List.getElem?_range bound, Option.map_some, Option.some.injEq]
      exact Prod.ext position.symm given.symm

end OneKind

theorem runsThrough_replicate (first : Bool) (length : Nat) (queries : Nat → Query) :
    RunsThrough first (List.replicate length first) queries := by
  have kinds : first :: List.replicate length first = List.replicate (length + 1) first := rfl
  have built := performAll_mixedRegistrations first (List.replicate length first) (queries 0)
  rw [RunsThrough]
  refine ⟨_, built, ?_⟩
  rw [kinds, mixedCallbacks_replicate]
  intro readiness
  have sameKind : ∀ index, ∀ action ∈ mixedBehaviour (List.replicate (length + 1) first)
      queries index, action.isPrepared = first := by
    intro index action member
    rw [mixedBehaviour_replicate] at member
    split_ifs at member
    · rw [List.mem_singleton.mp member]
      rfl
    · cases member
  have lastSetsNone : LastSetsNone (List.range (length + 1))
      (mixedBehaviour (List.replicate (length + 1) first) queries) := by
    intro index exhausted
    rw [registered_mixedBehaviour, List.length_range] at exhausted
    rw [nextQuery_replicate, if_neg (by omega)]
  obtain ⟨run, queue, polled, follows, counted⟩ :=
    (follows_start (by simp)).pollAll sameKind lastSetsNone readiness
  obtain ⟨bound, log⟩ := follows.log_replicate
  refine ⟨run, polled, ?_⟩
  rw [List.length_replicate]
  intro enough
  have completed : run.completed = true := by
    by_contra unfinished
    rw [Bool.not_eq_true] at unfinished
    have total := counted unfinished
    have invoked := congrArg List.length follows.invoked
    have remaining := List.length_pos_iff.mpr (follows.running unfinished).1
    rw [registered_mixedBehaviour] at invoked
    simp only [Run.start, List.length_append, List.length_map, List.length_range,
      List.length_nil] at invoked total
    omega
  refine ⟨completed, ?_⟩
  obtain ⟨index, atEnd, ends⟩ := follows.ended completed
  have all : run.log.length = length + 1 := by
    rw [ChainEnds, registered_mixedBehaviour, List.length_range, nextQuery_replicate] at ends
    rcases ends with exhausted | unset
    · omega
    · split_ifs at unset
      omega
  rw [all] at log
  exact log

/-- A chain whose first callback is of the kind of the initial query, and in
which every callback but the last sets a query of the kind of the next one,
runs through exactly if all callbacks are of that one kind. -/
theorem runsThrough_iff (first : Bool) (rest : List Bool) (queries : Nat → Query) :
    RunsThrough first rest queries ↔ ∀ kind ∈ rest, kind = first := by
  constructor
  · rintro ⟨object, built, polled⟩ kind member
    by_contra differs
    obtain ⟨agreeing, other, otherDiffers, agree, changes⟩ := exists_change member differs
    rw [performAll_mixedRegistrations, Except.ok.injEq] at built
    subst built
    obtain ⟨run, succeeded, _⟩ := polled (List.replicate (agreeing + 1) true)
    have failed := @pollAll_changing _ queries _ _ otherDiffers agreeing 0
      (Run.start ⟨Tagged.make first (some (queries 0)), mixedCallbacks (first :: rest)⟩)
      (by simpa using agree) (by simpa using changes) rfl rfl rfl
    rw [failed] at succeeded
    cases succeeded
  · intro same
    rw [List.eq_replicate_of_mem same]
    exact runsThrough_replicate first rest.length queries

/-- A string query whose callback sets a prepared one for the next callback:
the assertion of `MoveFrom` fails. -/
theorem string_then_prepared_fails :
    ¬ RunsThrough false [true] id ∧
      (Run.start ⟨Tagged.make false (some 0), mixedCallbacks [false, true]⟩).pollAll
          (mixedBehaviour [false, true] id) [true] =
        .error (.assertion "to->_isPrepared == from._isPrepared") := by
  refine ⟨?_, rfl⟩
  rintro ⟨object, built, polled⟩
  rw [performAll_mixedRegistrations, Except.ok.injEq] at built
  subst built
  obtain ⟨run, succeeded, _⟩ := polled [true]
  cases succeeded

end QueryCallbacks

end WarheadBot
