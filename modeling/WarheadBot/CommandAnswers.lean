import WarheadBot.AsyncCallbackRegistration

/-!
# Answers to commands

The handler of a slash command issues a query, registers its callback with the
query processor and then blocks until the callback has set its promise.  The
worker of the asynchronous connection executes the queries in the order in which
they were issued, also while the main loop polls the callbacks.

`AsyncQuery`, `AddCallback`, `WithPreparedCallback` and `ProcessReadyCallbacks` are steps here,
each as a whole.  The source does not synchronise them, so that a call of `AddCallback` may
also run into another or into `ProcessReadyCallbacks`; nothing is said about such runs.

As long as no handler is disturbed while it registers, every handler is answered
at most once and after its own query, and none of them has to wait longer than
until the worker has caught up and the loop has run once more.
-/

namespace WarheadBot

namespace AsyncCallbacks

open GuardedRuns
open QueryCallbacks
open QueryCallbacks.QueryCallback

namespace Registry

/-- The polls of a call, from a number of polls on. -/
def pollsOf (ready : Nat → Bool) : Nat → List (Entry QueryCallback) → List Poll
  | _, [] => []
  | polls, entry :: entries => ⟨entry.id, ready polls⟩ :: pollsOf ready (polls + 1) entries

/-- The entries whose query is not ready. -/
def unready (ready : Nat → Bool) :
    Nat → List (Entry QueryCallback) → List (Entry QueryCallback)
  | _, [] => []
  | polls, entry :: entries =>
      if ready polls then unready ready (polls + 1) entries
      else entry :: unready ready (polls + 1) entries

theorem removeIf_exact (ready : Nat → Bool) {entries : List (Entry QueryCallback)}
    (complete : ∀ entry ∈ entries, ∃ query callback,
      entry.callback = ofKind true (some query) [callback])
    (before : Processor QueryCallback) :
    Processor.removeIf (invoke ready) entries before =
      .ok (unready ready before.log.length entries,
        { before with log := before.log ++ pollsOf ready before.log.length entries }) := by
  induction entries generalizing before with
  | nil => simp [Processor.removeIf, unready, pollsOf]
  | cons entry entries ih =>
      obtain ⟨query, callback, isObject⟩ := complete entry List.mem_cons_self
      obtain ⟨object, invoked, unchanged⟩ :=
        invoke_ofKind ready before.log.length query callback
      have rest := ih (fun other member => complete other (List.mem_cons_of_mem _ member))
        { before with log := before.log ++ [⟨entry.id, ready before.log.length⟩] }
      rw [List.length_append, List.length_singleton] at rest
      rw [← isObject] at invoked unchanged
      cases isReady : ready before.log.length with
      | true =>
          rw [isReady] at invoked rest
          simp only [Processor.removeIf, invoked, bind, Except.bind, Processor.addAll_nil, rest,
            if_true, unready, pollsOf, isReady, List.append_assoc, List.singleton_append]
      | false =>
          rw [isReady] at invoked rest
          rw [unchanged isReady] at invoked
          simp only [Processor.removeIf, invoked, bind, Except.bind, Processor.addAll_nil, rest,
            Bool.false_eq_true, if_false, unready, pollsOf, isReady, List.append_assoc,
            List.singleton_append]

/-- Between its calls no handler is left, so that every query has its
function. -/
theorem complete_of_sound {registry : Registry} (sound : Sound registry)
    (undisturbed : registry.registering = []) :
    ∀ entry ∈ registry.processor.callbacks, ∃ query callback,
      entry.callback = ofKind true (some query) [callback] := by
  intro entry member
  obtain ⟨query, queue, isObject, short⟩ := sound.entries entry member
  match queue with
  | [] =>
      obtain ⟨index, present⟩ := List.mem_iff_getElem?.mp member
      obtain ⟨handler, registers, _⟩ :=
        sound.incomplete index entry present (by simp [isObject, ofKind])
      rw [undisturbed] at registers
      cases registers
  | [callback] => exact ⟨query, callback, isObject⟩
  | _ :: _ :: _ => simp at short

/-- What a call leaves of the processor. -/
def processed (ready : Nat → Bool) (processor : Processor QueryCallback) :
    Processor QueryCallback :=
  { processor with
    callbacks := unready ready processor.log.length processor.callbacks
    log := processor.log ++ pollsOf ready processor.log.length processor.callbacks }

theorem processReadyCallbacks_eq {registry : Registry} (sound : Sound registry)
    (undisturbed : registry.registering = []) (ready : Nat → Bool) :
    registry.processor.processReadyCallbacks (invoke ready) =
      .ok (processed ready registry.processor) := by
  unfold Processor.processReadyCallbacks processed
  split_ifs with empty
  · rw [List.isEmpty_iff] at empty
    simp only [empty, unready, pollsOf, List.append_nil]
    rw [← empty]
  · simp only [bind, Except.bind, removeIf_exact ready (complete_of_sound sound undisturbed),
      List.nil_append]

theorem processor_processReadyCallbacks {registry : Registry} (sound : Sound registry)
    (undisturbed : registry.registering = []) (ready : Nat → Bool) (spare : Nat) :
    (registry.processReadyCallbacks ready spare).processor =
      processed ready registry.processor := by
  have called := processReadyCallbacks_eq sound undisturbed ready
  unfold processReadyCallbacks
  split_ifs with empty
  · rw [Processor.processReadyCallbacks, if_pos empty] at called
    exact Except.ok.inj called
  · rw [called]
    rfl

theorem mem_completions_cons {poll : Poll} {polls : List Poll} {id : Nat} :
    id ∈ Processor.completions (poll :: polls) ↔
      poll.completed = true ∧ poll.id = id ∨ id ∈ Processor.completions polls := by
  rw [Processor.completions_cons]
  split_ifs with completed
  · simp [completed, eq_comm]
  · simp [completed]

/-- The entries that a call has completed. -/
theorem mem_completions_pollsOf {ready : Nat → Bool} {polls id : Nat}
    {entries : List (Entry QueryCallback)} :
    id ∈ Processor.completions (pollsOf ready polls entries) ↔
      ∃ (index : Nat) (entry : Entry QueryCallback), entries[index]? = some entry ∧
        entry.id = id ∧ ready (polls + index) = true := by
  induction entries generalizing polls with
  | nil => simp [pollsOf, Processor.completions]
  | cons first entries ih =>
      rw [pollsOf, mem_completions_cons, ih]
      constructor
      · rintro (⟨done, same⟩ | ⟨index, entry, place, same, done⟩)
        · exact ⟨0, first, rfl, same, done⟩
        · exact ⟨index + 1, entry, place, same, by rwa [Nat.add_right_comm] at done⟩
      · rintro ⟨index, entry, place, same, done⟩
        cases index with
        | zero =>
            obtain rfl := Option.some.inj place
            exact .inl ⟨done, same⟩
        | succ index => exact .inr ⟨index, entry, place, same, by rwa [Nat.add_right_comm]⟩

/-- An entry that stays was not ready. -/
theorem mem_unready_iff {ready : Nat → Bool} {polls : Nat} {entries : List (Entry QueryCallback)}
    {entry : Entry QueryCallback} :
    entry ∈ unready ready polls entries ↔
      ∃ index : Nat, entries[index]? = some entry ∧ ready (polls + index) = false := by
  induction entries generalizing polls with
  | nil => simp [unready]
  | cons first entries ih =>
      have later : (∃ index : Nat, entries[index]? = some entry ∧
            ready (polls + 1 + index) = false) ↔
          ∃ index : Nat, (first :: entries)[index + 1]? = some entry ∧
            ready (polls + (index + 1)) = false := by
        simp only [List.getElem?_cons_succ, Nat.add_right_comm, ← Nat.add_assoc]
      rw [unready]
      split_ifs with done
      · rw [ih, later]
        constructor
        · rintro ⟨index, place, waits⟩
          exact ⟨index + 1, place, waits⟩
        · rintro ⟨index, place, waits⟩
          cases index with
          | zero =>
              rw [Nat.add_zero, done] at waits
              cases waits
          | succ index => exact ⟨index, place, waits⟩
      · rw [List.mem_cons, ih, later]
        constructor
        · rintro (rfl | ⟨index, place, waits⟩)
          · exact ⟨0, rfl, by simpa using done⟩
          · exact ⟨index + 1, place, waits⟩
        · rintro ⟨index, place, waits⟩
          cases index with
          | zero => exact .inl (Option.some.inj place).symm
          | succ index => exact .inr ⟨index, place, waits⟩

end Registry

/-- What a handler has asked for: the entry of its callback, and its query. -/
structure Request where
  entry : Nat
  query : Query
  deriving DecidableEq, Repr

/-- The processor with the queue of the asynchronous connection.  The handlers
in `asking` have issued their queries and not called `AddCallback` yet. -/
structure Bot where
  registry : Registry
  issued : Nat
  asking : List Query
  requests : List Request
  queue : List Query
  executed : List Query
  replied : List Nat
  deriving DecidableEq, Repr

namespace Bot

inductive Label
  -- `AsyncQuery`: the query is enqueued, and its future returned.
  | asyncQuery
  | addCallback (query : Query) (spare : Nat)
  | withPreparedCallback (handler : Registering) (callback : Callback)
  -- The worker takes a query and sets its promise.
  | executeQuery
  -- The worker finishes queries while the callbacks are polled; `progress` is
  -- how many there are at the poll of an entry.
  | processReadyCallbacks (finished : Nat) (progress : Nat → Nat) (spare : Nat)
  -- The promise of the handler is set, and it replies.
  | reply (entry : Nat)

def start : Bot := ⟨Registry.start, 0, [], [], [], [], []⟩

/-- The entries whose callbacks have been invoked. -/
def answered (bot : Bot) : List Nat :=
  Processor.completions bot.registry.processor.log

/-- Whether the future of the entry that is polled is ready. -/
def ready (bot : Bot) (finished : Nat) (progress : Nat → Nat) (polls : Nat) : Bool :=
  let index := polls - bot.registry.processor.log.length
  match bot.registry.processor.callbacks[index]? with
  | none => false
  | some entry =>
      match entry.callback.future.read with
      | .ok (some query) =>
          decide (query ∈ bot.executed ++ bot.queue.take (min (progress index) finished))
      | _ => false

def step (bot : Bot) : Label → Option Bot
  | .asyncQuery =>
      some { bot with
        issued := bot.issued + 1
        asking := bot.asking ++ [bot.issued]
        queue := bot.queue ++ [bot.issued] }
  | .addCallback query spare =>
      if query ∈ bot.asking then
        (bot.registry.step (.addCallback query spare)).map fun registry =>
          { bot with
            registry := registry
            asking := bot.asking.erase query
            requests := bot.requests ++ [⟨bot.registry.processor.nextId, query⟩] }
      else none
  | .withPreparedCallback handler callback =>
      (bot.registry.step (.withPreparedCallback handler callback)).map fun registry =>
        { bot with registry := registry }
  | .executeQuery =>
      match bot.queue with
      | [] => none
      | query :: queue => some { bot with queue := queue, executed := bot.executed ++ [query] }
  | .processReadyCallbacks finished progress spare =>
      (bot.registry.step (.processReadyCallbacks (bot.ready finished progress) spare)).map
        fun registry =>
          { bot with
            registry := registry
            queue := bot.queue.drop finished
            executed := bot.executed ++ bot.queue.take finished }
  | .reply entry =>
      if entry ∈ bot.answered ∧ entry ∉ bot.replied then
        some { bot with replied := bot.replied ++ [entry] }
      else none

/-- No handler is disturbed between its two calls. -/
def Undisturbed (bot : Bot) : Label → Prop
  | .addCallback query spare => bot.registry.Undisturbed (.addCallback query spare)
  | .processReadyCallbacks finished progress spare =>
      bot.registry.Undisturbed (.processReadyCallbacks (bot.ready finished progress) spare)
  | _ => True

structure Answering (bot : Bot) : Prop where
  sound : bot.registry.Sound
  accounted : bot.registry.processor.Accounted
  inOrder : bot.executed ++ bot.queue = List.range bot.issued
  numbered : bot.requests.map Request.entry = List.range bot.registry.processor.nextId
  distinct : (bot.asking ++ bot.requests.map Request.query).Nodup
  known : ∀ query ∈ bot.asking ++ bot.requests.map Request.query, query < bot.issued
  pending : ∀ entry ∈ bot.registry.processor.callbacks, ∃ query queue,
    entry.callback = ofKind true (some query) queue ∧ ⟨entry.id, query⟩ ∈ bot.requests
  answered : ∀ request ∈ bot.requests, request.entry ∈ bot.answered →
    request.query ∈ bot.executed
  replied : bot.replied.Nodup ∧ ∀ entry ∈ bot.replied, entry ∈ bot.answered

theorem answering_start : Answering start where
  sound := Registry.sound_start
  accounted := Processor.accounted_start
  inOrder := rfl
  numbered := rfl
  distinct := List.nodup_nil
  known := nofun
  pending := nofun
  answered := nofun
  replied := ⟨List.nodup_nil, nofun⟩

theorem answering_asyncQuery {bot : Bot} (answering : Answering bot) :
    Answering { bot with
      issued := bot.issued + 1
      asking := bot.asking ++ [bot.issued]
      queue := bot.queue ++ [bot.issued] } where
  sound := answering.sound
  accounted := answering.accounted
  inOrder := by rw [← List.append_assoc, answering.inOrder, List.range_succ]
  numbered := answering.numbered
  distinct := by
    have fresh : bot.issued ∉ bot.asking ++ bot.requests.map Request.query :=
      fun member => Nat.lt_irrefl _ (answering.known _ member)
    rw [List.append_assoc, List.singleton_append]
    exact (List.perm_middle.nodup_iff).mpr (List.nodup_cons.mpr ⟨fresh, answering.distinct⟩)
  known := by
    intro query member
    rw [List.append_assoc, List.singleton_append] at member
    rcases List.mem_cons.mp (List.perm_middle.mem_iff.mp member) with rfl | old
    · exact Nat.lt_succ_self _
    · exact Nat.lt_succ_of_lt (answering.known query old)
  pending := answering.pending
  answered := answering.answered
  replied := answering.replied

theorem answering_executeQuery {bot : Bot} (answering : Answering bot) (count : Nat) :
    Answering { bot with
      queue := bot.queue.drop count
      executed := bot.executed ++ bot.queue.take count } where
  sound := answering.sound
  accounted := answering.accounted
  inOrder := by rw [List.append_assoc, List.take_append_drop, answering.inOrder]
  numbered := answering.numbered
  distinct := answering.distinct
  known := answering.known
  pending := answering.pending
  answered := fun request member done =>
    List.mem_append_left _ (answering.answered request member done)
  replied := answering.replied

theorem step_registry {registry : Registry} (sound : registry.Sound) :
    (∀ query spare, registry.step (.addCallback query spare) =
      some (registry.addCallback query spare)) ∧
    (∀ handler callback, registry.step (.withPreparedCallback handler callback) =
      if handler ∈ registry.registering then
        some (registry.withPreparedCallback handler callback)
      else none) ∧
    ∀ ready spare, registry.step (.processReadyCallbacks ready spare) =
      some (registry.processReadyCallbacks ready spare) := by
  simp [Registry.step, sound.running]

@[simp]
theorem processor_addCallback (registry : Registry) (query : Query) (spare : Nat) :
    (registry.addCallback query spare).processor =
      registry.processor.addCallback (ofQuery true query) := by
  unfold Registry.addCallback
  dsimp only
  split_ifs
  · rfl
  · rfl

theorem answering_addCallback {bot : Bot} (answering : Answering bot) {query : Query}
    (asked : query ∈ bot.asking) (spare : Nat)
    (undisturbed : bot.Undisturbed (.addCallback query spare)) :
    Answering { bot with
      registry := bot.registry.addCallback query spare
      asking := bot.asking.erase query
      requests := bot.requests ++ [⟨bot.registry.processor.nextId, query⟩] } := by
  have moved : ((bot.asking.erase query) ++ (bot.requests.map Request.query ++ [query])).Perm
      (bot.asking ++ bot.requests.map Request.query) := by
    rw [← List.append_assoc]
    exact (List.perm_append_singleton query _).trans
      (((List.perm_cons_erase asked).symm.append_right _))
  refine
    { sound := Registry.sound_addCallback answering.sound query spare undisturbed
      accounted := ?_
      inOrder := answering.inOrder
      numbered := ?_
      distinct := ?_
      known := ?_
      pending := ?_
      answered := ?_
      replied := ?_ }
  · rw [processor_addCallback]
    exact Processor.accounted_addCallback answering.accounted _
  · rw [processor_addCallback, List.map_append, answering.numbered]
    exact (List.range_succ).symm
  · rw [List.map_append]
    exact moved.nodup_iff.mpr answering.distinct
  · intro other member
    rw [List.map_append] at member
    exact answering.known other (moved.mem_iff.mp member)
  · intro entry member
    rw [processor_addCallback] at member
    rcases List.mem_append.mp member with old | new
    · obtain ⟨pending, queue, isObject, requested⟩ := answering.pending entry old
      exact ⟨pending, queue, isObject, List.mem_append_left _ requested⟩
    · rw [List.mem_singleton.mp new]
      exact ⟨query, [], rfl, by simp⟩
  · intro request member done
    have before : request.entry ∈ bot.answered := by
      rw [Bot.answered, processor_addCallback] at done
      exact done
    rcases List.mem_append.mp member with old | new
    · exact answering.answered request old before
    · -- The new entry has not been polled yet.
      rw [List.mem_singleton.mp new] at before
      have once := answering.accounted bot.registry.processor.nextId
      rw [if_neg (Nat.lt_irrefl _)] at once
      have positive := List.count_pos_iff.mpr before
      unfold Bot.answered at positive
      dsimp only at positive
      omega
  · rw [Bot.answered, processor_addCallback]
    exact answering.replied

theorem answering_withPreparedCallback {bot : Bot} (answering : Answering bot)
    {handler : Registering} (waiting : handler ∈ bot.registry.registering)
    (callback : Callback) :
    Answering { bot with registry := bot.registry.withPreparedCallback handler callback } := by
  obtain ⟨sameStorage, query, present⟩ := answering.sound.referenced handler waiting
  have attaches : (ofKind true (some query) []).withChainingPreparedCallback callback =
      .ok (ofKind true (some query) [callback]) :=
    withCallbackOf_ofKind true (some query) [] callback
  have processor : (bot.registry.withPreparedCallback handler callback).processor =
      { bot.registry.processor with
        callbacks := bot.registry.processor.callbacks.set handler.reference.index
          ⟨handler.entry, ofKind true (some query) [callback]⟩ } := by
    unfold Registry.withPreparedCallback
    simp only [sameStorage, if_true, present, attaches]
  obtain ⟨inside, entry⟩ := List.getElem?_eq_some_iff.mp present
  have ids : ((bot.registry.withPreparedCallback handler callback).processor).ids =
      bot.registry.processor.ids := by
    rw [processor]
    unfold Processor.ids
    dsimp only
    rw [List.map_set]
    have bound : handler.reference.index <
        (bot.registry.processor.callbacks.map Entry.id).length := by
      rwa [List.length_map]
    have same : handler.entry =
        (bot.registry.processor.callbacks.map Entry.id)[handler.reference.index] := by
      rw [List.getElem_map, entry]
    rw [same, List.set_getElem_self]
  refine
    { sound := Registry.sound_withPreparedCallback answering.sound waiting callback
      accounted := ?_
      inOrder := answering.inOrder
      numbered := ?_
      distinct := answering.distinct
      known := answering.known
      pending := ?_
      answered := ?_
      replied := ?_ }
  · intro id
    have once := answering.accounted id
    rw [ids]
    rw [processor]
    exact once
  · rw [answering.numbered, processor]
  · intro entry member
    rw [processor] at member
    rcases List.mem_or_eq_of_mem_set member with old | rfl
    · exact answering.pending entry old
    · obtain ⟨pending, queue, isObject, requested⟩ :=
        answering.pending _ (List.mem_of_getElem? present)
      have same : pending = query := by
        have parts := isObject.symm
        simp only [ofKind, Tagged.make, Member.construct, QueryCallback.mk.injEq] at parts
        simpa using parts.1
      subst same
      exact ⟨pending, [callback], rfl, requested⟩
  · rw [Bot.answered, processor]
    exact answering.answered
  · rw [Bot.answered, processor]
    exact answering.replied

/-- Every entry is pending, or its callback has been invoked once. -/
theorem count_answered {bot : Bot} (answering : Answering bot) (entry : Nat) :
    bot.registry.processor.ids.count entry + bot.answered.count entry =
      if entry < bot.registry.processor.nextId then 1 else 0 :=
  answering.accounted entry

/-- An entry is ready if and only if its query has been executed by its poll. -/
theorem ready_iff {bot : Bot} (answering : Answering bot) {finished index : Nat}
    {progress : Nat → Nat} {entry : Entry QueryCallback}
    (present : bot.registry.processor.callbacks[index]? = some entry) {query : Query}
    (requested : ⟨entry.id, query⟩ ∈ bot.requests) :
    bot.ready finished progress (bot.registry.processor.log.length + index) = true ↔
      query ∈ bot.executed ++ bot.queue.take (min (progress index) finished) := by
  obtain ⟨pending, queue, isObject, asked⟩ :=
    answering.pending entry (List.mem_of_getElem? present)
  have entries : (bot.requests.map Request.entry).Nodup := by
    rw [answering.numbered]
    exact List.nodup_range
  have same := List.inj_on_of_nodup_map entries asked requested rfl
  obtain rfl : pending = query := congrArg Request.query same
  have read : entry.callback.future.read = .ok (some pending) := by
    rw [isObject]
    exact Tagged.read_make true (some pending)
  unfold ready
  simp only [Nat.add_sub_cancel_left, present, read, decide_eq_true_eq]

theorem answering_processReadyCallbacks {bot : Bot} (answering : Answering bot)
    (undisturbed : bot.registry.registering = []) (finished : Nat) (progress : Nat → Nat)
    (spare : Nat) :
    Answering { bot with
      registry := bot.registry.processReadyCallbacks (bot.ready finished progress) spare
      queue := bot.queue.drop finished
      executed := bot.executed ++ bot.queue.take finished } := by
  have processor := Registry.processor_processReadyCallbacks answering.sound undisturbed
    (bot.ready finished progress) spare
  have later := answering_executeQuery answering finished
  have answeredLater : ∀ id, id ∈ Processor.completions
      (bot.registry.processReadyCallbacks (bot.ready finished progress) spare).processor.log ↔
        id ∈ bot.answered ∨ id ∈ Processor.completions (Registry.pollsOf
          (bot.ready finished progress) bot.registry.processor.log.length
            bot.registry.processor.callbacks) := by
    intro id
    rw [processor, Registry.processed, Processor.completions_append, List.mem_append]
    rfl
  refine
    { sound := Registry.sound_processReadyCallbacks answering.sound undisturbed _ spare
      accounted := ?_
      inOrder := later.inOrder
      numbered := ?_
      distinct := later.distinct
      known := later.known
      pending := ?_
      answered := ?_
      replied := ?_ }
  · rw [processor]
    exact Processor.accounted_processReadyCallbacks answering.accounted
      (Registry.processReadyCallbacks_eq answering.sound undisturbed _)
  · rw [answering.numbered, processor, Registry.processed]
  · intro entry member
    rw [processor, Registry.processed] at member
    obtain ⟨index, present, _⟩ := Registry.mem_unready_iff.mp member
    exact answering.pending entry (List.mem_of_getElem? present)
  · intro request member done
    rcases (answeredLater _).mp done with before | now
    · exact later.answered request member before
    · obtain ⟨index, entry, present, same, isReady⟩ := Registry.mem_completions_pollsOf.mp now
      have requested : (⟨entry.id, request.query⟩ : Request) ∈ bot.requests := by
        rw [same]
        exact member
      rcases List.mem_append.mp ((ready_iff answering present requested).mp isReady) with
        earlier | during
      · exact List.mem_append_left _ earlier
      · apply List.mem_append_right
        exact (List.take_subset_take_left _ (Nat.min_le_right _ _)) during
  · exact ⟨answering.replied.1, fun entry member =>
      (answeredLater entry).mpr (.inl (answering.replied.2 entry member))⟩

theorem answering_step {bot next : Bot} {label : Label} (answering : Answering bot)
    (undisturbed : bot.Undisturbed label) (moved : step bot label = some next) :
    Answering next := by
  obtain ⟨adds, attaches, processes⟩ := step_registry answering.sound
  cases label with
  | asyncQuery =>
      cases moved
      exact answering_asyncQuery answering
  | addCallback query spare =>
      simp only [step, adds] at moved
      split_ifs at moved with asked
      cases moved
      exact answering_addCallback answering asked spare undisturbed
  | withPreparedCallback handler callback =>
      simp only [step, attaches] at moved
      split_ifs at moved with waiting
      · cases moved
        exact answering_withPreparedCallback answering waiting callback
      · cases moved
  | executeQuery =>
      simp only [step] at moved
      split at moved
      · cases moved
      · rename_i query queue front
        cases moved
        have executed := answering_executeQuery answering 1
        rw [front] at executed
        exact executed
  | processReadyCallbacks finished progress spare =>
      simp only [step, processes] at moved
      cases moved
      exact answering_processReadyCallbacks answering undisturbed finished progress spare
  | reply entry =>
      simp only [step] at moved
      split_ifs at moved with due
      cases moved
      refine { answering with replied := ⟨?_, ?_⟩ }
      · rw [List.nodup_append]
        refine ⟨answering.replied.1, List.nodup_singleton _, ?_⟩
        intro other member last isLast same
        rw [List.mem_singleton.mp isLast] at same
        exact due.2 (same ▸ member)
      · intro other member
        rcases List.mem_append.mp member with before | now
        · exact answering.replied.2 other before
        · rw [List.mem_singleton.mp now]
          exact due.1

theorem step_processReadyCallbacks {bot : Bot} (answering : Answering bot) (finished : Nat)
    (progress : Nat → Nat) (spare : Nat) :
    step bot (.processReadyCallbacks finished progress spare) =
      some { bot with
        registry := bot.registry.processReadyCallbacks (bot.ready finished progress) spare
        queue := bot.queue.drop finished
        executed := bot.executed ++ bot.queue.take finished } := by
  rw [step, (step_registry answering.sound).2.2, Option.map_some]

/-- The worker executes all queries, and then the main loop runs once. -/
def catchUp (bot : Bot) : List Label :=
  List.replicate bot.queue.length .executeQuery ++ [.processReadyCallbacks 0 (fun _ => 0) 0]

theorem exec_executeQuery (bot : Bot) :
    exec step bot (List.replicate bot.queue.length .executeQuery) =
      some { bot with queue := [], executed := bot.executed ++ bot.queue } := by
  obtain ⟨registry, issued, asking, requests, queue, executed, replied⟩ := bot
  dsimp only
  induction queue generalizing executed with
  | nil => simp
  | cons query queue ih =>
      rw [List.length_cons, List.replicate_succ, exec]
      simp only [step, Option.bind_some]
      rw [ih, List.append_assoc, List.singleton_append]

/-- Once the worker has caught up and the loop has run, all callbacks have been
invoked. -/
theorem exec_catchUp {bot : Bot} (answering : Answering bot)
    (undisturbed : bot.registry.registering = []) :
    ∃ last, exec step bot (catchUp bot) = some last ∧ last.requests = bot.requests ∧
      ∀ request ∈ bot.requests, request.entry ∈ last.answered := by
  have idle := answering_executeQuery answering bot.queue.length
  rw [List.drop_length, List.take_length] at idle
  have processor := Registry.processor_processReadyCallbacks idle.sound undisturbed
    (Bot.ready { bot with queue := [], executed := bot.executed ++ bot.queue } 0 fun _ => 0) 0
  refine ⟨_, exec_append (exec_executeQuery bot) (exec_cons.mpr
    ⟨_, step_processReadyCallbacks idle 0 (fun _ => 0) 0, rfl⟩), rfl, ?_⟩
  intro request member
  unfold answered
  rw [processor, Registry.processed, Processor.completions_append, List.mem_append]
  -- An entry that has not been completed yet is pending, and its query is executed.
  by_cases before : request.entry ∈ bot.answered
  · exact .inl before
  · right
    have once := count_answered answering request.entry
    have numbered : request.entry < bot.registry.processor.nextId := by
      rw [← List.mem_range, ← answering.numbered]
      exact List.mem_map_of_mem member
    rw [if_pos numbered, List.count_eq_zero_of_not_mem before, Nat.add_zero] at once
    have pending : request.entry ∈ bot.registry.processor.ids :=
      List.count_pos_iff.mp (by omega)
    obtain ⟨entry, inside, same⟩ := List.mem_map.mp pending
    obtain ⟨index, present⟩ := List.mem_iff_getElem?.mp inside
    have requested : (⟨entry.id, request.query⟩ : Request) ∈ bot.requests := by
      rw [same]
      exact member
    have issued : request.query < bot.issued :=
      answering.known _ (List.mem_append_right _ (List.mem_map_of_mem member))
    have executed : request.query ∈ (bot.executed ++ bot.queue) ++
        ([] : List Query).take (min 0 0) := by
      rw [List.take_nil, List.append_nil, answering.inOrder]
      exact List.mem_range.mpr issued
    have isReady := (@ready_iff _ idle 0 index (fun _ => 0) entry present request.query
      requested).mpr executed
    exact Registry.mem_completions_pollsOf.mpr ⟨index, entry, present, same, isReady⟩

/-- Whatever the order of the calls of the handlers, the worker and the main loop, none of
which overlap, as long as no handler is disturbed while it registers: no callback fails; a
handler replies at most once, and only when its own query has been executed; and at any time at
which no handler is registering, every handler that waits is answered when the
worker has caught up and the main loop has run once. -/
theorem commands_answered {labels : List Label} {bot : Bot}
    (undisturbed : Meets step Undisturbed start labels)
    (reached : exec step start labels = some bot) :
    bot.registry.failure = none ∧
    (bot.requests.map Request.query).Nodup ∧
    bot.replied.Nodup ∧
    (∀ entry ∈ bot.replied, ∃ request ∈ bot.requests,
      request.entry = entry ∧ request.query ∈ bot.executed) ∧
    (bot.registry.registering = [] → ∃ last, exec step bot (catchUp bot) = some last ∧
      ∀ request ∈ bot.requests, request.entry ∈ last.answered) := by
  have answering : Answering bot :=
    exec_invariant answering_step undisturbed reached answering_start
  refine ⟨answering.sound.running, (List.nodup_append.mp answering.distinct).2.1,
    answering.replied.1, ?_, ?_⟩
  · intro entry member
    have done := answering.replied.2 entry member
    have once := count_answered answering entry
    have positive := List.count_pos_iff.mpr done
    have numbered : entry < bot.registry.processor.nextId := by
      by_contra beyond
      rw [if_neg beyond] at once
      omega
    rw [← List.mem_range, ← answering.numbered] at numbered
    obtain ⟨request, requested, rfl⟩ := List.mem_map.mp numbered
    exact ⟨request, requested, rfl, answering.answered request requested done⟩
  · intro idle
    obtain ⟨last, caughtUp, _, all⟩ := exec_catchUp answering idle
    exact ⟨last, caughtUp, all⟩

/-- Two commands, of which the first is answered before the second registers
its callback. -/
def twoCommands : List Label :=
  [.asyncQuery, .asyncQuery, .addCallback 1 0, .withPreparedCallback ⟨⟨1, 0⟩, 0⟩ 5,
    .processReadyCallbacks 1 (fun _ => 0) 0, .executeQuery,
    .processReadyCallbacks 0 (fun _ => 0) 0, .reply 0, .addCallback 0 0,
    .withPreparedCallback ⟨⟨4, 0⟩, 1⟩ 6]

theorem commands_answered_two :
    ∃ bot, exec step start twoCommands = some bot ∧ bot.replied = [0] ∧
      ∃ last, exec step bot (catchUp bot) = some last ∧ 1 ∈ last.answered := by
  have meets : Meets step Undisturbed start twoCommands := by
    refine ⟨trivial, ?_⟩
    rintro _ ⟨⟩
    refine ⟨trivial, ?_⟩
    rintro _ ⟨⟩
    refine ⟨fun _ => rfl, ?_⟩
    rintro _ ⟨⟩
    refine ⟨trivial, ?_⟩
    rintro _ ⟨⟩
    refine ⟨rfl, ?_⟩
    rintro _ ⟨⟩
    refine ⟨trivial, ?_⟩
    rintro _ ⟨⟩
    refine ⟨rfl, ?_⟩
    rintro _ ⟨⟩
    refine ⟨trivial, ?_⟩
    rintro _ ⟨⟩
    refine ⟨fun _ => rfl, ?_⟩
    rintro _ ⟨⟩
    exact ⟨trivial, fun _ _ => trivial⟩
  obtain ⟨_, _, _, _, catches⟩ := commands_answered meets rfl
  obtain ⟨last, caughtUp, all⟩ := catches rfl
  exact ⟨_, rfl, rfl, last, caughtUp, all ⟨1, 0⟩ (by decide)⟩

end Bot

end AsyncCallbacks

end WarheadBot
