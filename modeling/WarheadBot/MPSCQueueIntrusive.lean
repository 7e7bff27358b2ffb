import WarheadBot.AppendChain
import WarheadBot.GuardedRuns

/-!
# The intrusive queue without locks

The elements of an `MPSCQueueIntrusive` are its nodes.  Any number of threads call
`Enqueue`, one calls `Dequeue`, which has to put a dummy node behind an element
that is the only one before it can take it.  Each access to an atomic is a step of
its own, and the steps of all threads interleave in any order; the order of the
accesses of one thread is that of the program.
-/

namespace WarheadBot

namespace MPSCQueueIntrusive

open AppendChain
open GuardedRuns

inductive Node (Element : Type)
  | dummy
  | element (data : Element)
  deriving DecidableEq, Repr

/-- The access that `Dequeue` makes next. -/
inductive Consumer (Element : Type)
  | idle
  | loadsNext (tail : Node Element)
  -- The tail is the dummy and is to be moved to the node behind it.
  | passesDummy (next : Node Element)
  | loadsAgain (tail : Node Element)
  -- The tail is to be moved to the next node and is returned.
  | takes (tail next : Node Element)
  | loadsHead (tail : Node Element)
  | enqueuesDummy (tail : Node Element) (append : Appending (Node Element))
  | loadsLast (tail : Node Element)
  deriving DecidableEq, Repr

/-- The queue and its threads, with the nodes in the order in which they were
exchanged for the head and in which they were returned. -/
structure State (Element : Type) where
  memory : Memory (Node Element)
  tail : Node Element
  -- Calls of `Enqueue`, if the thread is in one.
  producers : List (Option (Appending (Node Element)))
  consumer : Consumer Element
  enqueued : List (Node Element)
  dequeued : List (Node Element)
  -- Since `Dequeue` was called there was a moment when no element was waiting or
  -- an element was not linked yet.
  hindered : Bool
  -- The same for each call that has returned false.
  refused : List Bool

inductive Label (Element : Type)
  | enqueue (producer : Nat) (input : Element)
  | producer (index : Nat)
  | dequeue
  | consumer
  deriving DecidableEq, Repr

variable {Element : Type}

def Consumer.append : Consumer Element → Option (Appending (Node Element))
  | .enqueuesDummy _ append => some append
  | _ => none

/-- The number of accesses that a call of `Dequeue` still makes at most.  It begins
with the load of the tail, so that it makes ten in all. -/
def Consumer.accessesLeft : Consumer Element → Nat
  | .idle => 0
  | .takes _ _ => 1
  | .loadsLast _ => 2
  | .enqueuesDummy _ (.links _ _) => 3
  | .enqueuesDummy _ (.exchanges _) => 4
  | .enqueuesDummy _ (.clears _) => 5
  | .loadsHead _ => 6
  | .loadsAgain _ => 7
  | .passesDummy _ => 8
  | .loadsNext _ => 9

/-- `Enqueue(_dummyPtr)` goes on or has returned. -/
def Consumer.afterAppend (tail : Node Element) : Option (Appending (Node Element)) →
    Consumer Element
  | some append => .enqueuesDummy tail append
  | none => .loadsLast tail

namespace State

/-- The constructor of the queue. -/
def create (Element : Type) (producers : Nat) : State Element where
  memory := ⟨fun _ => none, .dummy⟩
  tail := .dummy
  producers := List.replicate producers none
  consumer := .idle
  enqueued := []
  dequeued := []
  hindered := false
  refused := []

def isHindered (state : State Element) : Bool :=
  state.enqueued.length = state.dequeued.length ||
    state.producers.any fun producer => producer.any Appending.isLinking

/-- A moment of a call of `Dequeue`. -/
def observe (state : State Element) : State Element :=
  { state with hindered := state.hindered || state.isHindered }

/-- `Dequeue` returns false. -/
def refuse (state : State Element) : State Element :=
  { state with consumer := .idle, refused := state.refused ++ [state.hindered] }

/-- `if (next)` for a tail that is an element. -/
def decides (state : State Element) (tail : Node Element) :
    Option (Node Element) → State Element
  | some next => { state with consumer := .takes tail next }
  | none => { state with consumer := .loadsHead tail }

variable [DecidableEq Element]

/-- The element is not in the queue, and no call is putting it there. -/
def isFree (state : State Element) (input : Element) : Bool :=
  state.enqueued.count (.element input) = state.dequeued.count (.element input) &&
    !state.producers.any fun producer =>
      producer.any fun append => append.input = .element input

/-- A thread may enqueue an element that is free. -/
def call (state : State Element) (producer : Nat) (input : Element) : Option (State Element) :=
  if state.producers[producer]? = some none ∧ state.isFree input then
    some { state with
      producers := state.producers.set producer (some (.clears (.element input))) }
  else none

def produce (state : State Element) (index : Nat) : Option (State Element) :=
  match state.producers[index]? with
  | some (some append) => some { state with
      memory := (append.step state.memory).1
      producers := state.producers.set index (append.step state.memory).2
      enqueued := state.enqueued ++ append.appended }
  | _ => none

def consume (state : State Element) : Option (State Element) :=
  match state.consumer with
  | .idle => none
  | .loadsNext tail =>
      if tail = .dummy then
        match state.memory.links tail with
        | none => some state.refuse
        | some next => some { state with consumer := .passesDummy next }
      else some (state.decides tail (state.memory.links tail))
  | .passesDummy next => some { state with tail := next, consumer := .loadsAgain next }
  | .loadsAgain tail => some (state.decides tail (state.memory.links tail))
  | .takes tail next => some { state with
      tail := next
      dequeued := state.dequeued ++ [tail]
      consumer := .idle }
  | .loadsHead tail =>
      if tail ≠ state.memory.head then some state.refuse
      else some { state with consumer := .enqueuesDummy tail (.clears .dummy) }
  | .enqueuesDummy tail append => some { state with
      memory := (append.step state.memory).1
      consumer := .afterAppend tail (append.step state.memory).2 }
  | .loadsLast tail =>
      match state.memory.links tail with
      | none => some state.refuse
      | some next => some { state with consumer := .takes tail next }

def move (state : State Element) : Label Element → Option (State Element)
  | .enqueue producer input => state.call producer input
  | .producer index => state.produce index
  | .dequeue =>
      if state.consumer = .idle then
        some { state with consumer := .loadsNext state.tail, hindered := false }
      else none
  | .consumer => state.consume

def step (state : State Element) (label : Label Element) : Option (State Element) :=
  (state.move label).map observe

/-- The appends under way, that of the dummy included. -/
def appends (state : State Element) : List (Appending (Node Element)) :=
  state.consumer.append.toList ++ state.producers.reduceOption

end State

/-- What `Dequeue` knows when it makes its next access. -/
def Consumer.Fits (memory : Memory (Node Element)) (tail : Node Element) :
    Consumer Element → Prop
  | .idle => True
  | .loadsNext loaded => loaded = tail
  | .passesDummy next => tail = .dummy ∧ memory.links tail = some next
  | .loadsAgain loaded => loaded = tail ∧ loaded ≠ .dummy
  | .takes loaded next => loaded = tail ∧ loaded ≠ .dummy ∧ memory.links loaded = some next
  | .loadsHead loaded => loaded = tail ∧ loaded ≠ .dummy
  | .enqueuesDummy loaded append => loaded = tail ∧ loaded ≠ .dummy ∧ append.input = .dummy
  | .loadsLast loaded => loaded = tail ∧ loaded ≠ .dummy

theorem isHindered_of_links {state : State Element} {input prevHead : Node Element}
    (pending : some (.links input prevHead) ∈ state.producers) : state.isHindered = true := by
  rw [State.isHindered, Bool.or_eq_true, List.any_eq_true]
  exact .inr ⟨_, pending, rfl⟩

theorem isHindered_of_history {state : State Element}
    (same : state.enqueued = state.dequeued) :
    state.isHindered = true := by
  simp [State.isHindered, same]

/-- When the head is to be loaded, the call has met a hindrance, or the tail is
the only node. -/
def Waits (state : State Element) (chain : List (Node Element)) : Prop :=
  ∀ tail, state.consumer = .loadsHead tail →
    state.hindered = true ∨ state.isHindered = true ∨ chain = [tail]

/-- The same, once each moment of the call has been observed. -/
structure Waited (state : State Element) (chain : List (Node Element)) : Prop where
  observed : state.consumer ≠ .idle → state.isHindered = true → state.hindered = true
  alone : ∀ tail, state.consumer = .loadsHead tail → state.hindered = true ∨ chain = [tail]

theorem waited_observe {state : State Element} {chain : List (Node Element)}
    (waits : Waits state chain) : Waited state.observe chain where
  observed _ hindered := by
    rw [State.observe, Bool.or_eq_true]
    exact .inr hindered
  alone tail loads := by
    rw [State.observe, Bool.or_eq_true]
    rcases waits tail loads with hindered | hindered | alone
    · exact .inl (.inl hindered)
    · exact .inl (.inr hindered)
    · exact .inr alone

theorem appends_perm {state : State Element} {index : Nat}
    {before : Option (Appending (Node Element))}
    (found : state.producers[index]? = some before) :
    ∃ others, state.appends.Perm (before.toList ++ others) ∧ ∀ after,
      (state.consumer.append.toList ++ (state.producers.set index after).reduceOption).Perm
        (after.toList ++ others) := by
  obtain ⟨others, same, perm⟩ := reduceOption_set_perm found
  refine ⟨state.consumer.append.toList ++ others, ?_, fun after => ?_⟩
  · exact (same.append_left _).trans (List.perm_append_comm_assoc ..)
  · exact ((perm after).append_left _).trans (List.perm_append_comm_assoc ..)

/-- What the consumer knows of a link that is set stays true. -/
theorem Consumer.Fits.step {consumer : Consumer Element} {memory changed : Memory (Node Element)}
    {tail : Node Element} (fits : consumer.Fits memory tail)
    (kept : memory.links tail ≠ none → changed.links tail = memory.links tail) :
    consumer.Fits changed tail := by
  cases consumer with
  | passesDummy node =>
      refine ⟨fits.1, (kept ?_).trans fits.2⟩
      rw [fits.2]
      exact Option.some_ne_none node
  | takes loaded node =>
      obtain ⟨rfl, element, linked⟩ := fits
      refine ⟨rfl, element, (kept ?_).trans linked⟩
      rw [linked]
      exact Option.some_ne_none node
  | _ => exact fits

theorem decides_accessesLeft (state : State Element) (tail : Node Element)
    (node : Option (Node Element)) : (state.decides tail node).consumer.accessesLeft < 7 := by
  cases node with
  | none => exact Nat.lt_succ_self 6
  | some node => exact (by decide : 1 < 7)

/-- What an access of `Dequeue` leaves as it is, and how a call can end. -/
structure Accesses (state next : State Element) : Prop where
  producers : next.producers = state.producers
  enqueued : next.enqueued = state.enqueued
  hindered : next.hindered = state.hindered
  ends : (next.consumer ≠ .idle ∧ next.dequeued = state.dequeued ∧ next.refused = state.refused) ∨
    (∃ node, next.consumer = .idle ∧ next.dequeued = state.dequeued ++ [node]) ∨
      next.consumer = .idle ∧ next.dequeued = state.dequeued ∧
        next.refused = state.refused ++ [state.hindered]

theorem accesses_decides (state : State Element) (tail : Node Element)
    (node : Option (Node Element)) :
    Accesses state (state.decides tail node) := by
  cases node with
  | none => exact ⟨rfl, rfl, rfl, .inl ⟨nofun, rfl, rfl⟩⟩
  | some node => exact ⟨rfl, rfl, rfl, .inl ⟨nofun, rfl, rfl⟩⟩

theorem accesses_refuse (state : State Element) : Accesses state state.refuse :=
  ⟨rfl, rfl, rfl, .inr (.inr ⟨rfl, rfl, rfl⟩)⟩

theorem isHindered_congr {state next : State Element}
    (producers : next.producers = state.producers)
    (enqueued : next.enqueued = state.enqueued) (dequeued : next.dequeued = state.dequeued) :
    next.isHindered = state.isHindered := by
  rw [State.isHindered, State.isHindered, producers, enqueued, dequeued]

variable [DecidableEq Element]

/-- The nodes from the tail to the head are linked or about to be, and those that
are elements are the ones that have been enqueued and not yet returned. -/
structure State.Inv (state : State Element) (chain : List (Node Element)) : Prop where
  holds : Holds state.memory state.appends chain
  front : chain.head? = some state.tail
  history : state.enqueued = state.dequeued ++ chain.filter (· ≠ .dummy)
  elements : ∀ append, some append ∈ state.producers → append.input ≠ .dummy
  consumer : state.consumer.Fits state.memory state.tail
  behind : ∀ tail, state.consumer = .loadsLast tail → .dummy ∈ chain
  data : .dummy ∉ state.enqueued
  refused : ∀ hindered ∈ state.refused, hindered = true

section Moves

variable {state next : State Element} {chain : List (Node Element)}

theorem State.Inv.chain_eq (inv : state.Inv chain) : ∃ rest, chain = state.tail :: rest := by
  have front := inv.front
  cases chain with
  | nil => cases front
  | cons first rest =>
      cases front
      exact ⟨rest, rfl⟩

theorem State.Inv.tail_mem (inv : state.Inv chain) : state.tail ∈ chain :=
  List.mem_of_head? inv.front

/-- A tail without a link is the only node, or an element is not linked yet. -/
theorem State.Inv.front_none (inv : state.Inv chain) (apart : state.consumer.append = none)
    (unlinked : state.memory.links state.tail = none) :
    chain = [state.tail] ∨ state.isHindered = true := by
  obtain ⟨rest, rfl⟩ := inv.chain_eq
  rcases inv.holds.front_none unlinked with rfl | ⟨next, pending⟩
  · exact .inl rfl
  · rw [State.appends, apart, Option.toList_none, List.nil_append] at pending
    exact .inr (isHindered_of_links (List.reduceOption_mem_iff.mp pending))

/-- The consumer makes a step that changes only what it knows. -/
theorem State.Inv.withConsumer {consumer : Consumer Element} (inv : state.Inv chain)
    (before : state.consumer.append = none) (after : consumer.append = none)
    (fits : consumer.Fits state.memory state.tail) (settled : ∀ tail, consumer ≠ .loadsLast tail) :
    State.Inv { state with consumer := consumer } chain where
  holds := by
    have holds := inv.holds
    rw [State.appends, before] at holds
    rw [State.appends, after]
    exact holds
  front := inv.front
  history := inv.history
  elements := inv.elements
  consumer := fits
  behind tail isLast := absurd isLast (settled tail)
  data := inv.data
  refused := inv.refused

theorem State.Inv.refuse (inv : state.Inv chain) (apart : state.consumer.append = none)
    (hindered : state.hindered = true) : state.refuse.Inv chain where
  holds :=
    have quiet : State.Inv { state with consumer := .idle } chain :=
      inv.withConsumer apart rfl trivial nofun
    quiet.holds
  front := inv.front
  history := inv.history
  elements := inv.elements
  consumer := trivial
  behind := nofun
  data := inv.data
  refused := by
    intro flag isFlag
    rcases List.mem_append.mp isFlag with earlier | now
    · exact inv.refused flag earlier
    · exact (List.mem_singleton.mp now).trans hindered

theorem State.Inv.decides (inv : state.Inv chain) (apart : state.consumer.append = none)
    (element : state.tail ≠ .dummy) :
    (state.decides state.tail (state.memory.links state.tail)).Inv chain ∧
      Waits (state.decides state.tail (state.memory.links state.tail)) chain := by
  cases found : state.memory.links state.tail with
  | some next => exact ⟨inv.withConsumer apart rfl ⟨rfl, element, found⟩ nofun, nofun⟩
  | none =>
      refine ⟨inv.withConsumer apart rfl ⟨rfl, element⟩ nofun, ?_⟩
      intro tail isTail
      cases isTail
      exact .inr ((inv.front_none apart found).symm)

/-- The tail is moved to the node that it is linked to. -/
theorem State.Inv.advance {consumer : Consumer Element} {node : Node Element}
    (inv : state.Inv chain) (before : state.consumer.append = none)
    (after : consumer.append = none) (linked : state.memory.links state.tail = some node)
    (fits : consumer.Fits state.memory node) (settled : ∀ tail, consumer ≠ .loadsLast tail) :
    ∃ rest, chain = state.tail :: node :: rest ∧
      State.Inv { state with
        tail := node
        dequeued := state.dequeued ++ [state.tail].filter (· ≠ .dummy)
        consumer := consumer } (node :: rest) := by
  obtain ⟨others, rfl⟩ := inv.chain_eq
  obtain ⟨rest, rfl⟩ := inv.holds.front_some linked
  have isLinked : state.memory.links state.tail ≠ none := by
    rw [linked]
    exact Option.some_ne_none node
  refine ⟨rest, rfl, ?_, rfl, ?_, inv.elements, fits,
    fun tail isLast => absurd isLast (settled tail), inv.data, inv.refused⟩
  · have holds := inv.holds.pop isLinked (List.cons_ne_nil node rest)
    rw [State.appends, before] at holds
    rw [State.appends, after]
    exact holds
  · rw [List.append_assoc, ← List.filter_append]
    exact inv.history

/-- The dummy is not in the list while an element is the only node. -/
theorem State.Inv.startsDummy (inv : state.Inv chain) (apart : state.consumer.append = none)
    (isHead : state.tail = state.memory.head) (element : state.tail ≠ .dummy) :
    State.Inv { state with consumer := .enqueuesDummy state.tail (.clears .dummy) } chain where
  holds := by
    have holds := inv.holds
    rw [State.appends, apart] at holds
    apply holds.start
    · obtain ⟨rest, rfl⟩ := inv.chain_eq
      rw [inv.holds.alone isHead, List.mem_singleton]
      exact element.symm
    · intro append isAppend
      exact inv.elements append (List.reduceOption_mem_iff.mp isAppend)
  front := inv.front
  history := inv.history
  elements := inv.elements
  consumer := ⟨rfl, element, rfl⟩
  behind := nofun
  data := inv.data
  refused := inv.refused

theorem State.Inv.enqueuesDummy {tail : Node Element} {append : Appending (Node Element)}
    (inv : state.Inv chain) (enqueues : state.consumer = .enqueuesDummy tail append) :
    ∃ later, State.Inv { state with
      memory := (append.step state.memory).1
      consumer := .afterAppend tail (append.step state.memory).2 } later := by
  have holds := inv.holds
  have fits := inv.consumer
  rw [State.appends, enqueues] at holds
  rw [enqueues] at fits
  refine ⟨chain ++ append.appended, ?_, ?_, ?_, inv.elements, ?_, ?_, inv.data,
    inv.refused⟩
  · have stepped := holds.step
    cases append <;> exact stepped
  · obtain ⟨rest, rfl⟩ := inv.chain_eq
    rfl
  · have dummies : append.appended.filter (· ≠ .dummy) = [] := by
      cases append with
      | exchanges input =>
          have isDummy : input = .dummy := fits.2.2
          simp [Appending.appended, isDummy]
      | _ => rfl
    rw [List.filter_append, dummies, List.append_nil]
    exact inv.history
  · cases append with
    | clears input => exact fits
    | exchanges input => exact fits
    | links input prevHead => exact ⟨fits.1, fits.2.1⟩
  · cases append with
    | clears input =>
        intro loaded isLast
        cases isLast
    | exchanges input =>
        intro loaded isLast
        cases isLast
    | links input prevHead =>
        have isDummy : input = .dummy := fits.2.2
        have linking := (holds.fits _ (List.mem_cons_self ..)).2
        exact fun _ _ => List.mem_append_left _ (isDummy ▸ linking.mem_right)

theorem consume_inv (inv : state.Inv chain) (waited : Waited state chain)
    (moved : state.consume = some next) : ∃ later, next.Inv later ∧ Waits next later := by
  have fits := inv.consumer
  have observed := waited.observed
  unfold State.consume at moved
  cases place : state.consumer with
  | idle =>
      rw [place] at moved
      cases moved
  | loadsNext tail =>
      rw [place] at moved fits observed
      have apart : state.consumer.append = none := by rw [place]; rfl
      obtain rfl : tail = state.tail := fits
      by_cases isDummy : state.tail = .dummy
      · simp only [if_pos isDummy] at moved
        cases found : state.memory.links state.tail with
        | none =>
            have hindered : state.isHindered = true := by
              rcases inv.front_none apart found with rfl | hindered
              · apply isHindered_of_history
                rw [inv.history, isDummy]
                simp
              · exact hindered
            rw [found] at moved
            cases moved
            exact ⟨chain, inv.refuse apart (observed nofun hindered), nofun⟩
        | some node =>
            rw [found] at moved
            cases moved
            exact ⟨chain, inv.withConsumer apart rfl ⟨isDummy, found⟩ nofun, nofun⟩
      · simp only [if_neg isDummy] at moved
        cases moved
        exact ⟨chain, inv.decides apart isDummy⟩
  | passesDummy node =>
      rw [place] at moved fits
      have apart : state.consumer.append = none := by rw [place]; rfl
      cases moved
      obtain ⟨isDummy, linked⟩ := fits
      obtain ⟨others, rfl⟩ := inv.chain_eq
      obtain ⟨rest, rfl⟩ := inv.holds.front_some linked
      have element : node ≠ .dummy := by
        rintro rfl
        exact (List.nodup_cons.mp inv.holds.nodup).1 (isDummy ▸ List.mem_cons_self ..)
      obtain ⟨_, equal, advanced⟩ := @State.Inv.advance _ _ _ _ (.loadsAgain node) _ inv apart rfl
        linked ⟨rfl, element⟩ nofun
      have isNothing : [state.tail].filter (· ≠ .dummy) = [] := by simp [isDummy]
      rw [isNothing, List.append_nil] at advanced
      exact ⟨_, advanced, nofun⟩
  | loadsAgain tail =>
      rw [place] at moved fits
      have apart : state.consumer.append = none := by rw [place]; rfl
      obtain ⟨rfl, element⟩ := fits
      cases moved
      exact ⟨chain, inv.decides apart element⟩
  | takes tail node =>
      rw [place] at moved fits
      have apart : state.consumer.append = none := by rw [place]; rfl
      obtain ⟨rfl, element, linked⟩ := fits
      cases moved
      obtain ⟨rest, rfl, advanced⟩ := @State.Inv.advance _ _ _ _ .idle _ inv apart rfl linked
        trivial nofun
      have isElement : [state.tail].filter (· ≠ .dummy) = [state.tail] := by simp [element]
      rw [isElement] at advanced
      exact ⟨_, advanced, nofun⟩
  | loadsHead tail =>
      rw [place] at moved fits observed
      have apart : state.consumer.append = none := by rw [place]; rfl
      obtain ⟨rfl, element⟩ := fits
      by_cases isHead : state.tail = state.memory.head
      · dsimp only at moved
        rw [if_neg (not_not_intro isHead)] at moved
        cases moved
        exact ⟨chain, inv.startsDummy apart isHead element, nofun⟩
      · dsimp only at moved
        rw [if_pos isHead] at moved
        cases moved
        have hindered : state.hindered = true := by
          rcases waited.alone _ place with hindered | rfl
          · exact hindered
          · exact absurd (Option.some.inj inv.holds.head) isHead
        exact ⟨chain, inv.refuse apart hindered, nofun⟩
  | enqueuesDummy tail append =>
      rw [place] at moved
      cases moved
      obtain ⟨later, enqueued⟩ := inv.enqueuesDummy place
      exact ⟨later, enqueued, by cases append <;> exact nofun⟩
  | loadsLast tail =>
      rw [place] at moved fits observed
      have apart : state.consumer.append = none := by rw [place]; rfl
      obtain ⟨rfl, element⟩ := fits
      dsimp only at moved
      cases found : state.memory.links state.tail with
      | none =>
          rw [found] at moved
          cases moved
          have hindered : state.isHindered = true := by
            rcases inv.front_none apart found with rfl | hindered
            · have isDummy := inv.behind _ place
              exact absurd (List.mem_singleton.mp isDummy).symm element
            · exact hindered
          exact ⟨chain, inv.refuse apart (observed nofun hindered), nofun⟩
      | some node =>
          rw [found] at moved
          cases moved
          exact ⟨chain, inv.withConsumer apart rfl ⟨rfl, element, found⟩ nofun, nofun⟩

/-- The only node that the consumer appends is the dummy. -/
theorem State.Inv.consumer_dummy (inv : state.Inv chain) {append : Appending (Node Element)}
    (appends : state.consumer.append = some append) : append.input = .dummy := by
  have fits := inv.consumer
  cases place : state.consumer with
  | enqueuesDummy tail inner =>
      rw [place] at fits appends
      cases appends
      exact fits.2.2
  | _ =>
      rw [place] at appends
      cases appends

theorem State.Inv.outside_of_free (inv : state.Inv chain) {input : Element}
    (free : state.isFree input = true) :
    .element input ∉ chain ∧ ∀ append ∈ state.appends, append.input ≠ .element input := by
  simp only [State.isFree, Bool.and_eq_true, decide_eq_true_eq, Bool.not_eq_true',
    List.any_eq_false] at free
  obtain ⟨counts, idle⟩ := free
  constructor
  · intro inside
    rw [inv.history, List.count_append] at counts
    have absent : (chain.filter (· ≠ .dummy)).count (.element input) = 0 := by omega
    exact List.count_eq_zero.mp absent (List.mem_filter.mpr ⟨inside, by simp⟩)
  · intro append isAppend
    rcases List.mem_append.mp isAppend with consumers | producers
    · rw [inv.consumer_dummy (Option.mem_toList.mp consumers)]
      exact nofun
    · intro same
      have isProducer := List.reduceOption_mem_iff.mp producers
      exact idle _ isProducer (by simpa using same)

theorem call_inv {producer : Nat} {input : Element} (inv : state.Inv chain)
    (waited : Waited state chain) (moved : state.call producer input = some next) :
    next.Inv chain ∧ Waits next chain := by
  unfold State.call at moved
  split_ifs at moved with allowed
  cases moved
  obtain ⟨outside, idle⟩ := inv.outside_of_free allowed.2
  obtain ⟨others, same, perm⟩ := appends_perm allowed.1
  have started := (inv.holds.perm same).start outside fun append isAppend =>
    idle append (same.mem_iff.mpr isAppend)
  refine ⟨⟨started.perm (perm (some (.clears (.element input)))).symm, inv.front, inv.history,
    ?_, inv.consumer, inv.behind, inv.data, inv.refused⟩,
    fun tail loads => (waited.alone tail loads).imp_right .inr⟩
  intro append isProducer
  rcases List.mem_or_eq_of_mem_set isProducer with other | now
  · exact inv.elements append other
  · cases now
    exact nofun

theorem produce_inv {index : Nat} (inv : state.Inv chain) (waited : Waited state chain)
    (moved : state.produce index = some next) : ∃ later, next.Inv later ∧ Waits next later := by
  unfold State.produce at moved
  split at moved
  · rename_i append found
    cases moved
    obtain ⟨others, same, perm⟩ := appends_perm found
    have holds := inv.holds.perm same
    have isAppend : append ∈ state.appends := same.mem_iff.mpr (List.mem_cons_self ..)
    have element := inv.elements append (List.mem_of_getElem? found)
    have elements : append.appended.filter (· ≠ .dummy) = append.appended := by
      cases append with
      | exchanges input =>
          have isElement : input ≠ .dummy := element
          simp [Appending.appended, isElement]
      | _ => rfl
    refine ⟨chain ++ append.appended, ⟨holds.step.perm (perm _).symm, ?_, ?_, ?_, ?_, ?_,
      ?_, inv.refused⟩, ?_⟩
    · obtain ⟨rest, rfl⟩ := inv.chain_eq
      rfl
    · rw [List.filter_append, elements, inv.history, List.append_assoc]
    · intro other isProducer
      rcases List.mem_or_eq_of_mem_set isProducer with earlier | now
      · exact inv.elements other earlier
      · rwa [Appending.step_input now.symm]
    · exact inv.consumer.step fun linked => inv.holds.step_links isAppend inv.tail_mem linked
    · exact fun tail isLast => List.mem_append_left _ (inv.behind tail isLast)
    · intro isData
      rcases List.mem_append.mp isData with earlier | now
      · exact inv.data earlier
      · rw [← elements] at now
        simpa using (List.mem_filter.mp now).2
    · intro tail loads
      rcases waited.alone tail loads with hindered | rfl
      · exact .inl hindered
      · cases append with
        | clears input => exact .inr (.inr rfl)
        | links input prevHead => exact .inr (.inr rfl)
        | exchanges input =>
            have bound := (List.getElem?_eq_some_iff.mp found).1
            exact .inr (.inl (isHindered_of_links (List.mem_set bound _)))
  · cases moved

theorem dequeue_inv (inv : state.Inv chain) (idle : state.consumer = .idle) :
    State.Inv { state with consumer := .loadsNext state.tail, hindered := false } chain := by
  have apart : state.consumer.append = none := by rw [idle]; rfl
  have loads : State.Inv { state with consumer := .loadsNext state.tail } chain :=
    inv.withConsumer apart rfl rfl nofun
  exact ⟨loads.holds, inv.front, inv.history, inv.elements, loads.consumer, nofun, inv.data,
    inv.refused⟩

theorem move_inv {label : Label Element} (inv : state.Inv chain) (waited : Waited state chain)
    (moved : state.move label = some next) : ∃ later, next.Inv later ∧ Waits next later := by
  cases label with
  | enqueue producer input => exact ⟨chain, call_inv inv waited moved⟩
  | producer index => exact produce_inv inv waited moved
  | dequeue =>
      unfold State.move at moved
      split_ifs at moved with idle
      cases moved
      exact ⟨chain, dequeue_inv inv idle, nofun⟩
  | consumer => exact consume_inv inv waited moved

/-- The invariant of all runs. -/
def Good (state : State Element) : Prop := ∃ chain, state.Inv chain ∧ Waited state chain

theorem good_create (producers : Nat) : Good (State.create Element producers) := by
  refine ⟨[.dummy], ⟨⟨by simp, rfl, rfl, ?_, ?_, ?_⟩, rfl, rfl, ?_, trivial, nofun, nofun, nofun⟩,
    nofun, nofun⟩
  · intro node next follows
    exact absurd follows.length_le (by simp)
  · simp [State.create, State.appends, Consumer.append, List.reduceOption_replicate_none]
  · simp [State.create, State.appends, Consumer.append, List.reduceOption_replicate_none]
  · intro append isProducer
    cases List.eq_of_mem_replicate isProducer

theorem good_step {label : Label Element} (good : Good state)
    (moved : state.step label = some next) : Good next := by
  obtain ⟨chain, inv, waited⟩ := good
  obtain ⟨unobserved, moves, rfl⟩ := Option.map_eq_some_iff.mp moved
  obtain ⟨later, laterInv, waits⟩ := move_inv inv waited moves
  exact ⟨later, ⟨laterInv.holds, laterInv.front, laterInv.history, laterInv.elements,
    laterInv.consumer, laterInv.behind, laterInv.data, laterInv.refused⟩, waited_observe waits⟩

theorem good_exec {producers : Nat} {labels : List (Label Element)}
    (reached : exec State.step (State.create Element producers) labels = some state) : Good state :=
  exec_invariant_of_step good_step reached (good_create producers)

/-- Whatever the threads do and in which order: the elements are returned in the
order in which they were exchanged for the head, none is lost, returned twice or
made up, and a call returns false only if, since it began, no element was waiting
or one was not linked yet. -/
theorem dequeued_in_order {producers : Nat} {labels : List (Label Element)}
    (reached : exec State.step (State.create Element producers) labels = some state) :
    state.dequeued <+: state.enqueued ∧ .dummy ∉ state.enqueued ∧
      ∀ hindered ∈ state.refused, hindered = true := by
  obtain ⟨chain, inv, _⟩ := good_exec reached
  exact ⟨⟨_, inv.history.symm⟩, inv.data, inv.refused⟩

end Moves

/-- Two elements of two threads, the second of which is exchanged first; the
first is appended again after it has been returned. -/
def overlappingLabels : List (Label Char) :=
  [.enqueue 0 'a', .enqueue 1 'b', .producer 0, .producer 1, .producer 1, .producer 0,
    .dequeue, .consumer, .producer 0, .producer 1, .dequeue] ++
    List.replicate 4 .consumer ++ [.enqueue 1 'b', .producer 1, .dequeue, .consumer, .consumer]

theorem dequeued_in_order_overlapping :
    ∃ state, exec State.step (State.create Char 2) overlappingLabels = some state ∧
      (state.dequeued = [.element 'b'] ∧ state.refused = [true]) ∧
      state.dequeued <+: state.enqueued ∧ .dummy ∉ state.enqueued ∧
        ∀ hindered ∈ state.refused, hindered = true :=
  ⟨_, rfl, ⟨rfl, rfl⟩, @dequeued_in_order Char _ _ 2 overlappingLabels rfl⟩

section Alone

variable {state next : State Element}

/-- A call of `Dequeue` can always make its next access, and makes few. -/
theorem exists_consume (busy : state.consumer ≠ .idle) :
    ∃ next, state.consume = some next ∧
      next.consumer.accessesLeft < state.consumer.accessesLeft := by
  unfold State.consume
  cases place : state.consumer with
  | idle => exact absurd place busy
  | loadsNext tail =>
      dsimp only
      by_cases isDummy : tail = .dummy
      · rw [if_pos isDummy]
        cases state.memory.links tail with
        | none => exact ⟨_, rfl, Nat.zero_lt_succ _⟩
        | some node => exact ⟨_, rfl, Nat.lt_succ_self _⟩
      · rw [if_neg isDummy]
        exact ⟨_, rfl, Nat.lt_of_lt_of_le (decides_accessesLeft ..) (by decide : 7 ≤ 9)⟩
  | passesDummy node => exact ⟨_, rfl, Nat.lt_succ_self _⟩
  | loadsAgain tail => exact ⟨_, rfl, decides_accessesLeft ..⟩
  | takes tail node => exact ⟨_, rfl, Nat.zero_lt_succ _⟩
  | loadsHead tail =>
      dsimp only
      split_ifs with isHead
      · exact ⟨_, rfl, Nat.zero_lt_succ _⟩
      · exact ⟨_, rfl, Nat.lt_succ_self _⟩
  | enqueuesDummy tail append =>
      cases append with
      | clears input => exact ⟨_, rfl, Nat.lt_succ_self _⟩
      | exchanges input => exact ⟨_, rfl, Nat.lt_succ_self _⟩
      | links input prevHead => exact ⟨_, rfl, Nat.lt_succ_self _⟩
  | loadsLast tail =>
      dsimp only
      cases state.memory.links tail with
      | none => exact ⟨_, rfl, Nat.zero_lt_succ _⟩
      | some node => exact ⟨_, rfl, Nat.lt_succ_self _⟩

theorem accesses_of_consume (moved : state.consume = some next) : Accesses state next := by
  unfold State.consume at moved
  split at moved
  · cases moved
  · split_ifs at moved
    · split at moved
      · cases moved
        exact accesses_refuse state
      · cases moved
        exact ⟨rfl, rfl, rfl, .inl ⟨nofun, rfl, rfl⟩⟩
    · cases moved
      exact accesses_decides ..
  · cases moved
    exact ⟨rfl, rfl, rfl, .inl ⟨nofun, rfl, rfl⟩⟩
  · cases moved
    exact accesses_decides ..
  · cases moved
    exact ⟨rfl, rfl, rfl, .inr (.inl ⟨_, rfl, rfl⟩)⟩
  · split_ifs at moved
    · cases moved
      exact accesses_refuse state
    · cases moved
      exact ⟨rfl, rfl, rfl, .inl ⟨nofun, rfl, rfl⟩⟩
  · rename_i tail append _
    cases moved
    refine ⟨rfl, rfl, rfl, .inl ⟨?_, rfl, rfl⟩⟩
    cases append <;> exact nofun
  · split at moved
    · cases moved
      exact accesses_refuse state
    · cases moved
      exact ⟨rfl, rfl, rfl, .inl ⟨nofun, rfl, rfl⟩⟩

/-- A call that no other thread interrupts comes to an end. -/
theorem exists_complete (busy : state.consumer ≠ .idle) :
    ∃ count last, count ≤ state.consumer.accessesLeft ∧
      exec State.step state (List.replicate count .consumer) = some last ∧
      last.consumer = .idle ∧ last.enqueued = state.enqueued ∧
      ((∃ node, last.dequeued = state.dequeued ++ [node]) ∨
        last.dequeued = state.dequeued ∧
          (state.hindered = false → state.isHindered = false → false ∈ last.refused)) := by
  induction size : state.consumer.accessesLeft using Nat.strongRecOn generalizing state with
  | ind size ih =>
      obtain ⟨next, moved, fewer⟩ := exists_consume busy
      have steps : state.step .consumer = some next.observe := by
        rw [State.step, State.move, moved, Option.map_some]
      have accesses := accesses_of_consume moved
      rcases accesses.ends with ⟨goesOn, dequeued, _⟩ | ⟨node, ends, dequeued⟩ |
        ⟨ends, dequeued, refused⟩
      · obtain ⟨count, last, bound, runs, idle, enqueued, outcome⟩ :=
          @ih _ (size ▸ fewer) next.observe goesOn rfl
        refine ⟨count + 1, last, by subst size; exact Nat.lt_of_le_of_lt bound fewer,
          exec_cons.mpr ⟨_, steps, runs⟩, idle, enqueued.trans accesses.enqueued, ?_⟩
        have dequeuedObserved : next.observe.dequeued = state.dequeued := dequeued
        rw [dequeuedObserved] at outcome
        refine outcome.imp_right fun refuses => ⟨refuses.1, fun unhindered calm => ?_⟩
        have stillCalm : next.isHindered = false :=
          (isHindered_congr accesses.producers accesses.enqueued dequeued).trans calm
        refine refuses.2 ?_ stillCalm
        rw [State.observe, stillCalm, accesses.hindered, unhindered]
        rfl
      · exact ⟨1, next.observe, by omega, exec_cons.mpr ⟨_, steps, rfl⟩, ends,
          accesses.enqueued, .inl ⟨node, dequeued⟩⟩
      · refine ⟨1, next.observe, by omega, exec_cons.mpr ⟨_, steps, rfl⟩, ends,
          accesses.enqueued, .inr ⟨dequeued, fun unhindered _ => ?_⟩⟩
        have isRefused : next.observe.refused = state.refused ++ [state.hindered] := refused
        rw [isRefused, unhindered]
        exact List.mem_append_right _ (List.mem_singleton_self _)

/-- A call of `Dequeue` that begins when each element that was exchanged is linked,
and that no other thread interrupts, makes at most ten accesses, the first of
which is the load of the tail, and returns the element that has waited longest, if
there is one. -/
theorem dequeue_alone {producers : Nat} {labels : List (Label Element)}
    (reached : exec State.step (State.create Element producers) labels = some state)
    (idle : state.consumer = .idle)
    (linked : ∀ append, some append ∈ state.producers → append.isLinking = false) :
    ∃ count last, 1 + count ≤ 10 ∧
      exec State.step state (.dequeue :: List.replicate count .consumer) = some last ∧
      last.consumer = .idle ∧ last.enqueued = state.enqueued ∧
      last.dequeued = state.enqueued.take (state.dequeued.length + 1) := by
  let start : State Element :=
    State.observe { state with consumer := .loadsNext state.tail, hindered := false }
  have begins : state.step .dequeue = some start := by
    rw [State.step, State.move, if_pos idle]
    rfl
  obtain ⟨count, last, bound, runs, ends, enqueued, outcome⟩ := @exists_complete _ _ start nofun
  have called : exec State.step state (.dequeue :: List.replicate count .consumer) = some last :=
    exec_cons.mpr ⟨start, begins, runs⟩
  obtain ⟨chain, inv, _⟩ := good_exec (exec_append reached called)
  have order : last.dequeued <+: state.enqueued := ⟨_, (enqueued ▸ inv.history).symm⟩
  refine ⟨count, last, Nat.add_le_add_left bound 1, called, ends, enqueued, ?_⟩
  rcases outcome with ⟨node, dequeued⟩ | ⟨dequeued, refuses⟩
  · rw [List.prefix_iff_eq_take.mp order, dequeued, List.length_append]
    rfl
  · have hindered : state.isHindered = true := by
      by_contra calm
      have unhindered : state.isHindered = false := Bool.not_eq_true _ ▸ calm
      have isFalse := inv.refused false (refuses unhindered unhindered)
      cases isFalse
    have all : state.enqueued.length = state.dequeued.length := by
      rw [State.isHindered, Bool.or_eq_true, decide_eq_true_eq, List.any_eq_true] at hindered
      refine hindered.resolve_right ?_
      rintro ⟨producer, isProducer, isLinking⟩
      cases producer with
      | none => cases isLinking
      | some append =>
          rw [Option.any_some, linked append isProducer] at isLinking
          cases isLinking
    have same : last.dequeued = state.enqueued :=
      order.eq_of_length (by rw [dequeued]; exact all.symm)
    rw [same, List.take_of_length_le]
    omega

/-- One element, which is linked. -/
def singleLabels : List (Label Char) :=
  [.enqueue 0 'a', .producer 0, .producer 0, .producer 0]

/-- The first call that finds a single element makes all ten accesses. -/
theorem dequeue_alone_single :
    ∃ state, exec State.step (State.create Char 1) singleLabels = some state ∧
      (∃ middle, exec State.step state (.dequeue :: List.replicate 8 .consumer) = some middle ∧
        middle.consumer ≠ .idle) ∧
      ∃ count last, 1 + count ≤ 10 ∧
        exec State.step state (.dequeue :: List.replicate count .consumer) = some last ∧
        last.consumer = .idle ∧ last.enqueued = state.enqueued ∧
        last.dequeued = state.enqueued.take (state.dequeued.length + 1) := by
  refine ⟨_, rfl, ⟨_, rfl, by decide⟩, @dequeue_alone Char _ _ 1 singleLabels rfl rfl ?_⟩
  intro append isProducer
  have atRest : some append ∈ [none] := isProducer
  simp at atRest

end Alone

end MPSCQueueIntrusive

end WarheadBot
