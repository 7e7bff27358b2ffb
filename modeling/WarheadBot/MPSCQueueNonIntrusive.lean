import Mathlib.Data.Finset.Card
import WarheadBot.MPSCQueueIntrusive

/-!
# The queue without locks that has nodes of its own

An `MPSCQueueNonIntrusive` keeps each element in a node that `Enqueue` allocates
and `Dequeue` deletes once the next node has become the tail.  Nothing counts the
threads that still hold a pointer to a node, and the allocator may give out the
address of a deleted node again.
-/

namespace WarheadBot

namespace MPSCQueueNonIntrusive

open AppendChain
open GuardedRuns

/-- The access that `Dequeue` makes next. -/
inductive Consumer
  | idle
  | loadsNext (tail : Nat)
  -- The data of the next node is returned, and the tail is deleted.
  | takes (tail next : Nat)
  deriving DecidableEq, Repr

/-- The queue and its threads.  The data of the first node is never set. -/
structure State (Element : Type) where
  memory : Memory Nat
  data : Nat → Option Element
  alive : Finset Nat
  tail : Nat
  producers : List (Option (Appending Nat))
  consumer : Consumer
  enqueued : List (Option Element)
  dequeued : List (Option Element)
  -- For each call that has returned false, whether no element was waiting or an
  -- element was not linked yet.
  refused : List Bool
  -- A node that is not allocated was accessed or deleted.
  fault : Bool

inductive Label (Element : Type)
  -- `new Node` at an address.
  | enqueue (producer : Nat) (node : Nat) (input : Element)
  | producer (index : Nat)
  | dequeue
  | consumer
  deriving DecidableEq, Repr

variable {Element : Type}

/-- The nodes that a step of `Enqueue` accesses. -/
def accessed : Appending Nat → Finset Nat
  | .clears input => {input}
  | .exchanges _ => ∅
  | .links _ prevHead => {prevHead}

namespace State

def create (Element : Type) (producers : Nat) (node : Nat) : State Element where
  memory := ⟨fun _ => none, node⟩
  data := fun _ => none
  alive := {node}
  tail := node
  producers := List.replicate producers none
  consumer := .idle
  enqueued := []
  dequeued := []
  refused := []
  fault := false

def isHindered (state : State Element) : Bool :=
  state.enqueued.length = state.dequeued.length ||
    state.producers.any fun producer => producer.any Appending.isLinking

/-- The constructor of the node, which no other thread can see yet. -/
def call (state : State Element) (producer : Nat) (node : Nat) (input : Element) :
    Option (State Element) :=
  if state.producers[producer]? = some none ∧ node ∉ state.alive then
    some { state with
      memory := { state.memory with links := Function.update state.memory.links node none }
      data := Function.update state.data node (some input)
      alive := insert node state.alive
      producers := state.producers.set producer (some (.exchanges node)) }
  else none

def produce (state : State Element) (index : Nat) : Option (State Element) :=
  match state.producers[index]? with
  | some (some append) => some { state with
      memory := (append.step state.memory).1
      producers := state.producers.set index (append.step state.memory).2
      enqueued := state.enqueued ++ append.appended.map state.data
      fault := state.fault || ¬ accessed append ⊆ state.alive }
  | _ => none

def consume (state : State Element) : Option (State Element) :=
  match state.consumer with
  | .idle => none
  | .loadsNext tail =>
      let loaded := { state with fault := state.fault || ¬ tail ∈ state.alive }
      match state.memory.links tail with
      | none => some { loaded with
          consumer := .idle
          refused := state.refused ++ [state.isHindered] }
      | some next => some { loaded with consumer := .takes tail next }
  | .takes tail next => some { state with
      tail := next
      dequeued := state.dequeued ++ [state.data next]
      alive := state.alive.erase tail
      consumer := .idle
      fault := state.fault || ¬ {tail, next} ⊆ state.alive }

def step (state : State Element) : Label Element → Option (State Element)
  | .enqueue producer node input => state.call producer node input
  | .producer index => state.produce index
  | .dequeue =>
      if state.consumer = .idle then
        some { state with consumer := .loadsNext state.tail }
      else none
  | .consumer => state.consume

end State

def Consumer.Fits (memory : Memory Nat) (tail : Nat) : Consumer → Prop
  | .idle => True
  | .loadsNext loaded => loaded = tail
  | .takes loaded next => loaded = tail ∧ memory.links loaded = some next

/-- The allocated nodes are those of the list and those about to be appended, and
the data behind the tail is what has been enqueued and not yet returned. -/
structure State.Inv (state : State Element) (chain : List Nat) : Prop where
  holds : Holds state.memory state.producers.reduceOption chain
  front : chain.head? = some state.tail
  alive : ∀ node, node ∈ state.alive ↔
    node ∈ chain ∨ node ∈ state.producers.reduceOption.map Appending.input
  history : state.enqueued = state.dequeued ++ chain.tail.map state.data
  inputs : ∀ append ∈ state.producers.reduceOption, state.data append.input ≠ none
  data : none ∉ state.enqueued
  consumer : state.consumer.Fits state.memory state.tail
  refused : ∀ hindered ∈ state.refused, hindered = true
  faultless : state.fault = false

section Moves

variable {state next : State Element} {chain : List Nat}

theorem State.Inv.chain_eq (inv : state.Inv chain) : ∃ rest, chain = state.tail :: rest := by
  have front := inv.front
  cases chain with
  | nil => cases front
  | cons first rest =>
      cases front
      exact ⟨rest, rfl⟩

theorem State.Inv.tail_mem (inv : state.Inv chain) : state.tail ∈ chain :=
  List.mem_of_head? inv.front

/-- The steps of an append access only nodes that are allocated. -/
theorem State.Inv.accessed_subset (inv : state.Inv chain) {append : Appending Nat}
    (isAppend : append ∈ state.producers.reduceOption) : accessed append ⊆ state.alive := by
  have fits := inv.holds.fits append isAppend
  cases append with
  | clears input =>
      rw [accessed, Finset.singleton_subset_iff, inv.alive]
      exact .inr (List.mem_map_of_mem isAppend)
  | exchanges input => exact Finset.empty_subset _
  | links input prevHead =>
      rw [accessed, Finset.singleton_subset_iff, inv.alive]
      exact .inl fits.2.mem_left

theorem call_inv {producer node : Nat} {input : Element} (inv : state.Inv chain)
    (moved : state.call producer node input = some next) : next.Inv chain := by
  unfold State.call at moved
  split_ifs at moved with allowed
  cases moved
  obtain ⟨others, same, perm⟩ := reduceOption_set_perm allowed.1
  obtain ⟨outside, idle⟩ := not_or.mp (mt (inv.alive node).mpr allowed.2)
  have idleOthers : ∀ append ∈ state.producers.reduceOption, append.input ≠ node :=
    fun append isAppend equal => idle (equal ▸ List.mem_map_of_mem isAppend)
  have started := (inv.holds.start outside idleOthers).step_clears
  have added : (state.producers.set producer (some (.exchanges node))).reduceOption.Perm
      (.exchanges node :: state.producers.reduceOption) :=
    (perm (some (.exchanges node))).trans (same.symm.cons _)
  refine ⟨started.perm added.symm, inv.front, ?_, ?_, ?_, inv.data, ?_, inv.refused,
    inv.faultless⟩
  · intro other
    rw [Finset.mem_insert, inv.alive, (added.map Appending.input).mem_iff, List.map_cons,
      List.mem_cons]
    exact or_left_comm
  · have kept : chain.tail.map (Function.update state.data node (some input)) =
        chain.tail.map state.data := by
      apply List.map_congr_left
      intro other isOther
      have differs : other ≠ node := fun equal => outside (equal ▸ List.mem_of_mem_tail isOther)
      exact Function.update_of_ne differs _ _
    rw [kept]
    exact inv.history
  · intro append isAppend
    rcases List.mem_cons.mp (added.mem_iff.mp isAppend) with rfl | earlier
    · intro unset
      have now := Function.update_self node (some input) state.data
      exact Option.some_ne_none input (now.symm.trans unset)
    · intro unset
      have kept := Function.update_of_ne (idleOthers append earlier) (some input) state.data
      exact inv.inputs append earlier (kept.symm.trans unset)
  · have fits := inv.consumer
    cases place : state.consumer with
    | takes loaded following =>
        rw [place] at fits
        have differs : loaded ≠ node := fits.1 ▸ fun equal => outside (equal ▸ inv.tail_mem)
        exact ⟨fits.1, (Function.update_of_ne differs _ _).trans fits.2⟩
    | _ =>
        rw [place] at fits
        exact fits

theorem produce_inv {index : Nat} (inv : state.Inv chain)
    (moved : state.produce index = some next) : ∃ later, next.Inv later := by
  unfold State.produce at moved
  split at moved
  · rename_i append found
    cases moved
    obtain ⟨others, same, perm⟩ := reduceOption_set_perm found
    have isAppend : append ∈ state.producers.reduceOption :=
      same.mem_iff.mpr (List.mem_cons_self ..)
    have stepped := (inv.holds.perm same).step
    have tails : (chain ++ append.appended).tail = chain.tail ++ append.appended := by
      obtain ⟨rest, rfl⟩ := inv.chain_eq
      rfl
    refine ⟨chain ++ append.appended, stepped.perm (perm _).symm, ?_, ?_, ?_, ?_, ?_, ?_,
      inv.refused, ?_⟩
    · obtain ⟨rest, rfl⟩ := inv.chain_eq
      rfl
    · intro node
      rw [inv.alive, (same.map Appending.input).mem_iff, ((perm _).map Appending.input).mem_iff]
      cases append with
      | clears input => simp [Appending.appended, Appending.step, Appending.input]
      | exchanges input =>
          simp [Appending.appended, Appending.step, Appending.input, or_assoc]
      | links input prevHead =>
          have inside := (inv.holds.fits _ isAppend).2.mem_right
          simp only [Appending.appended, Appending.step, Appending.input, Option.toList_some,
            Option.toList_none, List.append_nil, List.nil_append, List.map_cons,
            List.cons_append, List.mem_cons]
          constructor
          · rintro (isNode | rfl | other)
            · exact .inl isNode
            · exact .inl inside
            · exact .inr other
          · exact Or.imp_right .inr
    · rw [tails, List.map_append, inv.history, List.append_assoc]
    · intro other isOther
      rcases List.mem_append.mp ((perm _).mem_iff.mp isOther) with now | earlier
      · rw [Appending.step_input (Option.mem_toList.mp now)]
        exact inv.inputs append isAppend
      · exact inv.inputs other (same.mem_iff.mpr (List.mem_cons_of_mem _ earlier))
    · intro isNone
      rcases List.mem_append.mp isNone with earlier | now
      · exact inv.data earlier
      · obtain ⟨node, isNode, unset⟩ := List.mem_map.mp now
        cases append with
        | exchanges input =>
            cases List.mem_singleton.mp isNode
            exact inv.inputs _ isAppend unset
        | _ => cases isNode
    · have fits := inv.consumer
      cases place : state.consumer with
      | takes loaded following =>
          rw [place] at fits
          obtain ⟨rfl, linked⟩ := fits
          refine ⟨rfl, (inv.holds.step_links isAppend inv.tail_mem ?_).trans linked⟩
          rw [linked]
          exact Option.some_ne_none following
      | _ =>
          rw [place] at fits
          exact fits
    · rw [inv.faultless, Bool.false_or, decide_eq_false_iff_not, not_not]
      exact inv.accessed_subset isAppend
  · cases moved

theorem isHindered_of_front (inv : state.Inv chain)
    (unlinked : state.memory.links state.tail = none) : state.isHindered = true := by
  obtain ⟨rest, rfl⟩ := inv.chain_eq
  rw [State.isHindered, Bool.or_eq_true, decide_eq_true_eq, List.any_eq_true]
  rcases inv.holds.front_none unlinked with rfl | ⟨following, pending⟩
  · refine .inl ?_
    rw [inv.history]
    exact congrArg List.length (List.append_nil _)
  · exact .inr ⟨_, List.reduceOption_mem_iff.mp pending, rfl⟩

/-- The next node becomes the tail, and the node that was the tail is deleted. -/
theorem takes_inv {following : Nat} (inv : state.Inv chain)
    (linked : state.memory.links state.tail = some following) :
    ∃ rest, chain = state.tail :: following :: rest ∧ State.Inv { state with
      tail := following
      dequeued := state.dequeued ++ [state.data following]
      alive := state.alive.erase state.tail
      consumer := .idle
      fault := state.fault || ¬ {state.tail, following} ⊆ state.alive } (following :: rest) := by
  obtain ⟨others, rfl⟩ := inv.chain_eq
  obtain ⟨rest, rfl⟩ := inv.holds.front_some linked
  have isLinked : state.memory.links state.tail ≠ none := by
    rw [linked]
    exact Option.some_ne_none following
  refine ⟨rest, rfl, inv.holds.pop isLinked (List.cons_ne_nil _ _), rfl, ?_, ?_, inv.inputs,
    inv.data, trivial, inv.refused, ?_⟩
  · intro node
    rw [Finset.mem_erase, inv.alive, List.mem_cons]
    have outside := (List.nodup_cons.mp inv.holds.nodup).1
    constructor
    · rintro ⟨differs, (same | later) | input⟩
      · exact absurd same differs
      · exact .inl later
      · exact .inr input
    · rintro (later | input)
      · exact ⟨fun same => outside (same ▸ later), .inl (.inr later)⟩
      · obtain ⟨append, isAppend, rfl⟩ := List.mem_map.mp input
        exact ⟨inv.holds.input_ne_front isAppend, .inr input⟩
  · rw [List.append_assoc]
    exact inv.history
  · rw [inv.faultless, Bool.false_or, decide_eq_false_iff_not, not_not]
    intro node isNode
    rw [inv.alive]
    rcases Finset.mem_insert.mp isNode with rfl | isNext
    · exact .inl (List.mem_cons_self ..)
    · exact .inl (Finset.mem_singleton.mp isNext ▸ List.mem_cons_of_mem _ (List.mem_cons_self ..))

theorem consume_inv (inv : state.Inv chain) (moved : state.consume = some next) :
    ∃ later, next.Inv later := by
  have fits := inv.consumer
  unfold State.consume at moved
  cases place : state.consumer with
  | idle =>
      rw [place] at moved
      cases moved
  | loadsNext tail =>
      rw [place] at moved fits
      obtain rfl : tail = state.tail := fits
      have faultless : (state.fault || ¬ state.tail ∈ state.alive : Bool) = false := by
        rw [inv.faultless, Bool.false_or, decide_eq_false_iff_not, not_not, inv.alive]
        exact .inl inv.tail_mem
      dsimp only at moved
      cases found : state.memory.links state.tail with
      | none =>
          rw [found] at moved
          cases moved
          refine ⟨chain, inv.holds, inv.front, inv.alive, inv.history, inv.inputs, inv.data,
            trivial, ?_, faultless⟩
          intro hindered isRefused
          rcases List.mem_append.mp isRefused with earlier | now
          · exact inv.refused hindered earlier
          · exact (List.mem_singleton.mp now).trans (isHindered_of_front inv found)
      | some following =>
          rw [found] at moved
          cases moved
          exact ⟨chain, inv.holds, inv.front, inv.alive, inv.history, inv.inputs, inv.data,
            ⟨rfl, found⟩, inv.refused, faultless⟩
  | takes tail following =>
      rw [place] at moved fits
      obtain ⟨rfl, linked⟩ := fits
      cases moved
      obtain ⟨rest, _, taken⟩ := takes_inv inv linked
      exact ⟨_, taken⟩

theorem inv_create (producers node : Nat) : (State.create Element producers node).Inv [node] := by
  have none : (State.create Element producers node).producers.reduceOption = [] :=
    List.reduceOption_replicate_none
  refine ⟨⟨List.nodup_singleton node, rfl, rfl, ?_, ?_, ?_⟩, rfl, ?_, rfl, ?_, nofun, trivial,
    nofun, rfl⟩
  · intro first second follows
    exact absurd follows.length_le (by simp)
  · simp [none]
  · simp [none]
  · intro other
    rw [none]
    simp [State.create]
  · simp [none]

theorem inv_exec {producers node : Nat} {labels : List (Label Element)}
    (reached : exec State.step (State.create Element producers node) labels = some state) :
    ∃ chain, state.Inv chain := by
  refine @exec_invariant_of_step _ _ _ (fun state => ∃ chain, state.Inv chain) ?_ _ _ _ reached
    ⟨[node], inv_create producers node⟩
  rintro state next label ⟨chain, inv⟩ moved
  cases label with
  | enqueue producer node input => exact ⟨chain, call_inv inv moved⟩
  | producer index => exact produce_inv inv moved
  | dequeue =>
      unfold State.step at moved
      split_ifs at moved
      cases moved
      exact ⟨chain, inv.holds, inv.front, inv.alive, inv.history, inv.inputs, inv.data, rfl,
        inv.refused, inv.faultless⟩
  | consumer => exact consume_inv inv moved

/-- Whatever the threads do and in which order, and whichever addresses the
allocator gives out: no node is accessed or deleted that is not allocated; the
elements are returned in the order in which their nodes were exchanged for the
head; a call returns false only if no element is waiting or one is not linked yet;
and when no call of `Enqueue` is under way, there is one node more than there are
elements waiting. -/
theorem reclaims_nodes {producers node : Nat} {labels : List (Label Element)}
    (reached : exec State.step (State.create Element producers node) labels = some state) :
    state.fault = false ∧ state.dequeued <+: state.enqueued ∧ none ∉ state.enqueued ∧
      (∀ hindered ∈ state.refused, hindered = true) ∧
      (state.producers.reduceOption = [] →
        state.alive.card + state.dequeued.length = state.enqueued.length + 1) := by
  obtain ⟨chain, inv⟩ := inv_exec reached
  refine ⟨inv.faultless, ⟨_, inv.history.symm⟩, inv.data, inv.refused, fun quiet => ?_⟩
  have nodes : state.alive = chain.toFinset := by
    ext node
    rw [inv.alive, quiet, List.mem_toFinset]
    simp
  have card : state.alive.card = chain.length := by
    rw [nodes, List.toFinset_card_of_nodup inv.holds.nodup]
  obtain ⟨rest, rfl⟩ := inv.chain_eq
  rw [card, inv.history, List.length_append, List.length_map]
  simp only [List.tail_cons, List.length_cons]
  omega

/-- The first node is deleted, and its address is used again. -/
def reusingLabels : List (Label Char) :=
  [.enqueue 0 1 'a', .producer 0, .dequeue, .consumer, .producer 0, .dequeue, .consumer,
    .consumer, .enqueue 1 0 'b', .producer 1, .producer 1, .dequeue, .consumer, .consumer]

theorem reclaims_nodes_reusing :
    ∃ state, exec State.step (State.create Char 2 0) reusingLabels = some state ∧
      (state.dequeued = [some 'a', some 'b'] ∧ state.refused = [true]) ∧
      state.fault = false ∧ state.dequeued <+: state.enqueued ∧ none ∉ state.enqueued ∧
        (∀ hindered ∈ state.refused, hindered = true) ∧
        (state.producers.reduceOption = [] →
          state.alive.card + state.dequeued.length = state.enqueued.length + 1) :=
  ⟨_, rfl, ⟨rfl, rfl⟩, @reclaims_nodes Char _ 2 0 reusingLabels rfl⟩

end Moves

end MPSCQueueNonIntrusive

end WarheadBot
