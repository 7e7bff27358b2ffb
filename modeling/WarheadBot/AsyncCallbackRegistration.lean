import Mathlib.Data.List.Nodup
import WarheadBot.AsyncCallbackProcessor
import WarheadBot.QueryCallbackChain

/-!
# Registering a query callback

A Discord handler registers a callback in two calls: `AddCallback` puts the
query into the vector of the processor and returns a reference to it, and
`WithPreparedCallback` attaches the function through that reference.  The main
loop runs on another thread and may process the vector between the two calls,
and so may other handlers add to it.

A reference is a place in the storage of the vector.  The storage is replaced
when the vector is full, and when its contents are moved out and back by
`ProcessReadyCallbacks`; how much room the new one has is left open.
-/

namespace WarheadBot

namespace AsyncCallbacks

open GuardedRuns
open QueryCallbacks
open QueryCallbacks.QueryCallback

structure Reference where
  storage : Nat
  index : Nat
  deriving DecidableEq, Repr

/-- A handler between its two calls: its reference, and the number of the
entry it has added. -/
structure Registering where
  reference : Reference
  entry : Nat
  deriving DecidableEq, Repr

inductive Failure
  | poll (fault : Fault)
  | attach (fault : Fault)
  | danglingReference
  deriving DecidableEq, Repr

/-- The processor with the storage of its vector; `attached` pairs the number of
the entry a handler has added with the one its function went to. -/
structure Registry where
  processor : Processor QueryCallback
  storage : Nat
  capacity : Nat
  allocated : Nat
  registering : List Registering
  attached : List (Nat × Nat)
  failure : Option Failure
  deriving DecidableEq, Repr

namespace Registry

def start : Registry := ⟨Processor.start, 0, 0, 1, [], [], none⟩

def size (registry : Registry) : Nat := registry.processor.callbacks.length

/-- The vector moves to a new storage, with room for `spare` more elements. -/
def reallocate (spare : Nat) (registry : Registry) : Registry :=
  { registry with
    storage := registry.allocated
    capacity := registry.size + spare
    allocated := registry.allocated + 1 }

/-- `AddCallback(AsyncQuery(stmt))`. -/
def addCallback (query : Query) (spare : Nat) (registry : Registry) : Registry :=
  let room := if registry.capacity ≤ registry.size then registry.reallocate (spare + 1)
    else registry
  { room with
    processor := room.processor.addCallback (ofQuery true query)
    registering := room.registering ++
      [⟨⟨room.storage, registry.size⟩, registry.processor.nextId⟩] }

/-- `WithPreparedCallback` on the reference of a handler. -/
def withPreparedCallback (handler : Registering) (callback : Callback) (registry : Registry) :
    Registry :=
  let waiting := { registry with registering := registry.registering.erase handler }
  if handler.reference.storage = registry.storage then
    match registry.processor.callbacks[handler.reference.index]? with
    | none => { waiting with failure := some .danglingReference }
    | some entry =>
        match entry.callback.withChainingPreparedCallback callback with
        | .error fault => { waiting with failure := some (.attach fault) }
        | .ok object =>
            { waiting with
              processor := { registry.processor with
                callbacks := registry.processor.callbacks.set handler.reference.index
                  ⟨entry.id, object⟩ }
              attached := registry.attached ++ [(handler.entry, entry.id)] }
  else
    { waiting with failure := some .danglingReference }

/-- A callback attached by `WithPreparedCallback` cannot reach the object it is
invoked from. -/
def invoke (ready : Nat → Bool) (polls : Nat) (object : QueryCallback) :
    Except Fault (Outcome QueryCallback) := do
  let polled ← object.invokeIfReady (ready polls) []
  .ok ⟨polled.completed, polled.object, []⟩

def processReadyCallbacks (ready : Nat → Bool) (spare : Nat) (registry : Registry) : Registry :=
  if registry.processor.callbacks.isEmpty then registry
  else
    match registry.processor.processReadyCallbacks (invoke ready) with
    | .error fault => { registry with failure := some (.poll fault) }
    | .ok processor => reallocate spare { registry with processor := processor }

inductive Call
  | addCallback (query : Query) (spare : Nat)
  | withPreparedCallback (handler : Registering) (callback : Callback)
  | processReadyCallbacks (ready : Nat → Bool) (spare : Nat)

/-- One whole call of a handler or of the main loop; nothing is called after a
failure. -/
def step (registry : Registry) (call : Call) : Option Registry :=
  if registry.failure.isSome then none
  else
    match call with
    | .addCallback query spare => some (registry.addCallback query spare)
    | .withPreparedCallback handler callback =>
        if handler ∈ registry.registering then
          some (registry.withPreparedCallback handler callback)
        else none
    | .processReadyCallbacks ready spare => some (registry.processReadyCallbacks ready spare)

/-- The loop does not run, and the vector does not grow into a new storage,
while a handler is between its two calls. -/
def Undisturbed (registry : Registry) : Call → Prop
  | .addCallback _ _ => registry.capacity ≤ registry.size → registry.registering = []
  | .withPreparedCallback _ _ => True
  | .processReadyCallbacks _ _ => registry.registering = []

/-- The entries without a function are those of the handlers that are
registering, and their references lead to them. -/
structure Sound (registry : Registry) : Prop where
  running : registry.failure = none
  attached : ∀ pair ∈ registry.attached, pair.1 = pair.2
  fresh : registry.storage < registry.allocated
  entries : ∀ entry ∈ registry.processor.callbacks,
    ∃ query queue, entry.callback = ofKind true (some query) queue ∧ queue.length ≤ 1
  incomplete : ∀ (index : Nat) (entry : Entry QueryCallback),
    registry.processor.callbacks[index]? = some entry → entry.callback.callbacks = [] →
      ∃ handler ∈ registry.registering, handler.reference.index = index
  referenced : ∀ handler ∈ registry.registering,
    handler.reference.storage = registry.storage ∧ ∃ query,
      registry.processor.callbacks[handler.reference.index]? =
        some ⟨handler.entry, ofKind true (some query) []⟩
  distinct : (registry.registering.map fun handler => handler.reference.index).Nodup

theorem sound_start : Sound start where
  running := rfl
  attached := by simp [start]
  fresh := by simp [start]
  entries := by simp [start, Processor.start]
  incomplete := by simp [start, Processor.start]
  referenced := by simp [start]
  distinct := List.nodup_nil

/-- The entry that was added is the last one, and its handler refers to it. -/
theorem sound_addCallback {registry : Registry} (sound : Sound registry) (query : Query)
    (spare : Nat)
    (undisturbed : registry.capacity ≤ registry.size → registry.registering = []) :
    Sound (registry.addCallback query spare) := by
  have room : ∃ storage capacity allocated,
      registry.addCallback query spare =
        { registry with
          storage := storage
          capacity := capacity
          allocated := allocated
          processor := registry.processor.addCallback (ofQuery true query)
          registering := registry.registering ++
            [⟨⟨storage, registry.size⟩, registry.processor.nextId⟩] } ∧
      storage < allocated ∧
        ∀ handler ∈ registry.registering, handler.reference.storage = storage := by
    unfold addCallback
    split
    · rename_i full
      refine ⟨_, _, _, rfl, Nat.lt_succ_self _, ?_⟩
      rw [undisturbed full]
      simp
    · exact ⟨_, _, _, rfl, sound.fresh, fun handler member => (sound.referenced handler member).1⟩
  obtain ⟨storage, capacity, allocated, isRoom, fresh, kept⟩ := room
  rw [isRoom]
  refine ⟨sound.running, sound.attached, fresh, ?_, ?_, ?_, ?_⟩
  · intro entry member
    rcases List.mem_append.mp member with old | new
    · exact sound.entries entry old
    · rw [List.mem_singleton.mp new]
      exact ⟨query, [], rfl, by simp⟩
  · intro index entry present empty
    simp only [Processor.addCallback, List.getElem?_append] at present
    split_ifs at present with inside
    · obtain ⟨handler, member, atIndex⟩ := sound.incomplete index entry present empty
      exact ⟨handler, List.mem_append_left _ member, atIndex⟩
    · have bound := (List.getElem?_eq_some_iff.mp present).1
      rw [List.length_singleton] at bound
      refine ⟨_, List.mem_append_right _ List.mem_cons_self, ?_⟩
      simp only [size]
      omega
  · intro handler member
    rcases List.mem_append.mp member with old | new
    · obtain ⟨_, pending, present⟩ := sound.referenced handler old
      refine ⟨kept handler old, pending, ?_⟩
      simp only [Processor.addCallback]
      rw [List.getElem?_append_left (List.getElem?_eq_some_iff.mp present).1]
      exact present
    · rw [List.mem_singleton.mp new]
      exact ⟨rfl, query, by simp [Processor.addCallback, size, ofQuery, ofKind]⟩
  · have unused : registry.size ∉
        registry.registering.map fun handler => handler.reference.index := by
      intro used
      obtain ⟨handler, member, atSize⟩ := List.mem_map.mp used
      obtain ⟨_, pending, present⟩ := sound.referenced handler member
      have bound := (List.getElem?_eq_some_iff.mp present).1
      simp only [size] at atSize
      omega
    rw [List.map_append]
    exact sound.distinct.append (List.nodup_singleton _) (List.disjoint_singleton.mpr unused)

theorem sound_withPreparedCallback {registry : Registry} (sound : Sound registry)
    {handler : Registering} (waiting : handler ∈ registry.registering) (callback : Callback) :
    Sound (registry.withPreparedCallback handler callback) := by
  obtain ⟨sameStorage, query, present⟩ := sound.referenced handler waiting
  have attaches : (ofKind true (some query) []).withChainingPreparedCallback callback =
      .ok (ofKind true (some query) [callback]) :=
    withCallbackOf_ofKind true (some query) [] callback
  have others : ∀ other ∈ registry.registering, other ≠ handler →
      other.reference.index ≠ handler.reference.index := by
    intro other member differs sameIndex
    exact differs (List.inj_on_of_nodup_map sound.distinct member waiting sameIndex)
  have distinctHandlers : registry.registering.Nodup := List.Nodup.of_map _ sound.distinct
  have bound := (List.getElem?_eq_some_iff.mp present).1
  unfold withPreparedCallback
  simp only [sameStorage, if_true, present, attaches]
  refine ⟨sound.running, ?_, sound.fresh, ?_, ?_, ?_, ?_⟩
  · intro pair member
    rcases List.mem_append.mp member with old | new
    · exact sound.attached pair old
    · rw [List.mem_singleton.mp new]
  · intro entry member
    rcases List.mem_or_eq_of_mem_set member with old | rfl
    · exact sound.entries entry old
    · exact ⟨query, [callback], rfl, by simp⟩
  · intro index entry found empty
    by_cases same : handler.reference.index = index
    · subst same
      simp only [List.getElem?_set_self bound, Option.some.injEq] at found
      subst found
      simp [ofKind] at empty
    · rw [List.getElem?_set_ne same] at found
      obtain ⟨other, member, atIndex⟩ := sound.incomplete index entry found empty
      refine ⟨other, ?_, atIndex⟩
      apply (List.mem_erase_of_ne ?_).mpr member
      rintro rfl
      exact same atIndex
  · intro other member
    obtain ⟨differs, pending⟩ := (distinctHandlers.mem_erase_iff).mp member
    obtain ⟨otherStorage, otherQuery, otherPresent⟩ := sound.referenced other pending
    refine ⟨otherStorage, otherQuery, ?_⟩
    rw [List.getElem?_set_ne (Ne.symm (others other pending differs))]
    exact otherPresent
  · exact sound.distinct.sublist (List.erase_sublist.map _)

/-- A query with its function is polled without failure: it stays as it is, or
the function is invoked and the entry is done. -/
theorem invoke_ofKind (ready : Nat → Bool) (polls : Nat) (query : Query)
    (callback : Callback) :
    ∃ object, invoke ready polls (ofKind true (some query) [callback]) =
        .ok ⟨ready polls, object, []⟩ ∧
      (ready polls = false → object = ofKind true (some query) [callback]) := by
  cases isReady : ready polls with
  | false =>
      refine ⟨_, ?_, fun _ => rfl⟩
      simp only [invoke, isReady, invokeIfReady_unready, bind, Except.bind]
  | true =>
      have noActions : ∀ action ∈ ([] : List Action), action.isPrepared = true := by simp
      refine ⟨ofKind true none [], ?_, by simp⟩
      simp only [invoke, isReady, bind, Except.bind]
      rw [invokeIfReady_ready noActions query callback [] (fun _ => rfl)]
      rfl

theorem removeIf_complete (ready : Nat → Bool) {entries : List (Entry QueryCallback)}
    (complete : ∀ entry ∈ entries, ∃ query callback,
      entry.callback = ofKind true (some query) [callback])
    (before : Processor QueryCallback) :
    ∃ kept last, Processor.removeIf (invoke ready) entries before = .ok (kept, last) ∧
      kept ⊆ entries ∧ last.callbacks = before.callbacks := by
  induction entries generalizing before with
  | nil => exact ⟨[], before, rfl, List.Subset.refl _, rfl⟩
  | cons entry entries ih =>
      obtain ⟨query, callback, isObject⟩ := complete entry List.mem_cons_self
      obtain ⟨object, invoked, unchanged⟩ :=
        invoke_ofKind ready before.log.length query callback
      obtain ⟨kept, last, rest, keptOld, lastCallbacks⟩ :=
        ih (fun other member => complete other (List.mem_cons_of_mem _ member))
          { before with log := before.log ++ [⟨entry.id, ready before.log.length⟩] }
      rw [← isObject] at invoked unchanged
      cases isReady : ready before.log.length with
      | true =>
          rw [isReady] at invoked rest
          refine ⟨kept, last, ?_, List.subset_cons_of_subset _ keptOld, lastCallbacks⟩
          simp only [Processor.removeIf, invoked, bind, Except.bind, Processor.addAll_nil, rest,
            if_true]
      | false =>
          rw [isReady] at invoked rest
          rw [unchanged isReady] at invoked
          refine ⟨entry :: kept, last, ?_, List.cons_subset_cons _ keptOld, lastCallbacks⟩
          simp only [Processor.removeIf, invoked, bind, Except.bind, Processor.addAll_nil, rest,
            Bool.false_eq_true, if_false]

theorem sound_processReadyCallbacks {registry : Registry} (sound : Sound registry)
    (undisturbed : registry.registering = []) (ready : Nat → Bool) (spare : Nat) :
    Sound (registry.processReadyCallbacks ready spare) := by
  have complete : ∀ entry ∈ registry.processor.callbacks, ∃ query callback,
      entry.callback = ofKind true (some query) [callback] := by
    intro entry member
    obtain ⟨query, queue, isObject, short⟩ := sound.entries entry member
    cases queue with
    | nil =>
        obtain ⟨index, present⟩ := List.mem_iff_getElem?.mp member
        obtain ⟨handler, registers, _⟩ :=
          sound.incomplete index entry present (by simp [isObject, ofKind])
        simp [undisturbed] at registers
    | cons callback others =>
        cases others with
        | nil => exact ⟨query, callback, isObject⟩
        | cons second others => simp at short
  unfold processReadyCallbacks
  split
  · exact sound
  · rename_i nonempty
    obtain ⟨kept, last, removed, keptOld, lastCallbacks⟩ :=
      removeIf_complete ready complete { registry.processor with callbacks := [] }
    have processed : registry.processor.processReadyCallbacks (invoke ready) =
        .ok { last with callbacks := kept } := by
      simp only [Processor.processReadyCallbacks, nonempty, bind, Except.bind, removed,
        lastCallbacks, List.nil_append, Bool.false_eq_true, if_false]
    rw [processed]
    refine ⟨sound.running, sound.attached, Nat.lt_succ_self _, ?_, ?_, ?_, ?_⟩
    · intro entry member
      exact sound.entries entry (keptOld member)
    · intro index entry present empty
      obtain ⟨query, callback, isObject⟩ :=
        complete entry (keptOld (List.mem_of_getElem? present))
      simp [isObject, ofKind] at empty
    · intro handler member
      simp [reallocate, undisturbed] at member
    · simp [reallocate, undisturbed]

theorem sound_step {registry next : Registry} {call : Call} (sound : Sound registry)
    (undisturbed : Undisturbed registry call) (moved : step registry call = some next) :
    Sound next := by
  simp only [step, sound.running, Option.isSome_none, Bool.false_eq_true, if_false] at moved
  cases call with
  | addCallback query spare =>
      cases moved
      exact sound_addCallback sound query spare undisturbed
  | withPreparedCallback handler callback =>
      dsimp only at moved
      split_ifs at moved with waiting
      cases moved
      exact sound_withPreparedCallback sound waiting callback
  | processReadyCallbacks ready spare =>
      cases moved
      exact sound_processReadyCallbacks sound undisturbed ready spare

/-- Polling a query without a function fails. -/
theorem removeIf_incomplete (ready : Nat → Bool) {entries : List (Entry QueryCallback)}
    {entry : Entry QueryCallback} (member : entry ∈ entries)
    (empty : entry.callback.callbacks = []) (before : Processor QueryCallback) :
    ∃ fault, Processor.removeIf (invoke ready) entries before = .error fault := by
  induction entries generalizing before with
  | nil => cases member
  | cons first entries ih =>
      cases invoked : invoke ready before.log.length first.callback with
      | error fault => exact ⟨fault, by simp [Processor.removeIf, invoked, bind, Except.bind]⟩
      | ok outcome =>
          have later : entry ∈ entries := by
            rcases List.mem_cons.mp member with rfl | later
            · simp [invoke, invokeIfReady, empty, bind, Except.bind] at invoked
            · exact later
          obtain ⟨fault, failed⟩ := ih later (Processor.addAll outcome.added
            { before with log := before.log ++ [⟨first.id, outcome.completed⟩] })
          refine ⟨fault, ?_⟩
          simp only [Processor.removeIf, invoked, bind, Except.bind, failed]

theorem processReadyCallbacks_fails {registry : Registry} (sound : Sound registry)
    {handler : Registering} (waiting : handler ∈ registry.registering) (ready : Nat → Bool)
    (spare : Nat) : (registry.processReadyCallbacks ready spare).failure ≠ none := by
  obtain ⟨_, query, present⟩ := sound.referenced handler waiting
  have member := List.mem_of_getElem? present
  have nonempty : registry.processor.callbacks.isEmpty = false := by
    rw [List.isEmpty_eq_false_iff]
    exact List.ne_nil_of_mem member
  obtain ⟨fault, failed⟩ := removeIf_incomplete ready member rfl
    { registry.processor with callbacks := [] }
  have processed : registry.processor.processReadyCallbacks (invoke ready) = .error fault := by
    simp only [Processor.processReadyCallbacks, nonempty, bind, Except.bind, failed,
      Bool.false_eq_true, if_false]
  simp [processReadyCallbacks, nonempty, processed]

/-- A handler whose reference was left behind by a new storage fails. -/
theorem withPreparedCallback_fails {registry : Registry} {handler : Registering}
    (moved : handler.reference.storage ≠ registry.storage) (callback : Callback) :
    (registry.withPreparedCallback handler callback).failure ≠ none := by
  simp [withPreparedCallback, moved]

theorem disturbed_fails {registry next : Registry} {call : Call} (sound : Sound registry)
    (disturbed : ¬ Undisturbed registry call) (moved : step registry call = some next) :
    ∃ later final, exec step next later = some final ∧ final.failure ≠ none := by
  simp only [step, sound.running, Option.isSome_none, Bool.false_eq_true, if_false] at moved
  cases call with
  | withPreparedCallback handler callback => exact absurd trivial disturbed
  | processReadyCallbacks ready spare =>
      cases moved
      obtain ⟨handler, others, waiting⟩ := List.exists_cons_of_ne_nil disturbed
      have member : handler ∈ registry.registering := by simp [waiting]
      exact ⟨[], _, rfl, processReadyCallbacks_fails sound member ready spare⟩
  | addCallback query spare =>
      cases moved
      simp only [Undisturbed, not_forall] at disturbed
      obtain ⟨full, busy⟩ := disturbed
      obtain ⟨handler, others, waiting⟩ := List.exists_cons_of_ne_nil busy
      have member : handler ∈ registry.registering := by simp [waiting]
      have grown : (registry.addCallback query spare).storage = registry.allocated := by
        simp [addCallback, full, reallocate]
      have leftBehind : handler.reference.storage ≠
          (registry.addCallback query spare).storage := by
        rw [(sound.referenced handler member).1, grown]
        exact Nat.ne_of_lt sound.fresh
      have running : (registry.addCallback query spare).failure = none := by
        simp [addCallback, full, reallocate, sound.running]
      have stillWaiting : handler ∈ (registry.addCallback query spare).registering := by
        simp [addCallback, full, reallocate, member]
      refine ⟨[.withPreparedCallback handler 0], _, exec_cons.mpr ⟨_, ?_, rfl⟩,
        withPreparedCallback_fails leftBehind 0⟩
      simp [step, running, stillWaiting]

/-- Handlers and the main loop may interleave their calls in any way, and the
queries may complete at any time: as long as the loop does not run and the
vector does not move to a new storage while a handler is between its two calls,
no query is polled without a function and every function goes to the entry its
handler has added; a call that breaks this condition fails at once or makes the
second call of a handler fail. -/
theorem registration_sound {calls : List Call} {registry : Registry}
    (meets : Meets step Undisturbed start calls)
    (reached : exec step start calls = some registry) :
    registry.failure = none ∧ (∀ pair ∈ registry.attached, pair.1 = pair.2) ∧
      ∀ call next, step registry call = some next → ¬ Undisturbed registry call →
        ∃ later final, exec step next later = some final ∧ final.failure ≠ none := by
  have sound := exec_invariant sound_step meets reached sound_start
  exact ⟨sound.running, sound.attached, fun call next moved disturbed =>
    disturbed_fails sound disturbed moved⟩

/-- A handler makes both calls before the loop runs. -/
theorem registration_sound_in_turn :
    ∃ registry, exec step start [.addCallback 7 0, .withPreparedCallback ⟨⟨1, 0⟩, 0⟩ 0,
        .processReadyCallbacks (fun _ => true) 0] = some registry ∧
      registry.failure = none ∧ registry.attached = [(0, 0)] ∧
        ∀ pair ∈ registry.attached, pair.1 = pair.2 := by
  have meets : Meets step Undisturbed start [.addCallback 7 0,
      .withPreparedCallback ⟨⟨1, 0⟩, 0⟩ 0, .processReadyCallbacks (fun _ => true) 0] := by
    refine ⟨fun _ => rfl, ?_⟩
    rintro _ ⟨⟩
    refine ⟨trivial, ?_⟩
    rintro _ ⟨⟩
    exact ⟨rfl, fun _ _ => trivial⟩
  obtain ⟨running, attached, _⟩ := registration_sound meets rfl
  exact ⟨_, rfl, running, rfl, attached⟩

/-- The loop runs between the two calls of a handler, and a second handler adds
between the two calls of the first. -/
theorem registration_disturbed :
    (∃ registry, exec step start
        [.addCallback 7 0, .processReadyCallbacks (fun _ => false) 0] = some registry ∧
      registry.failure = some (.poll .emptyQueue)) ∧
    ∃ registry, exec step start
        [.addCallback 7 0, .addCallback 8 0, .withPreparedCallback ⟨⟨1, 0⟩, 0⟩ 0] =
          some registry ∧
      registry.failure = some .danglingReference :=
  ⟨⟨_, rfl, rfl⟩, ⟨_, rfl, rfl⟩⟩

end Registry

end AsyncCallbacks

end WarheadBot
