import Mathlib.Data.List.Perm.Basic
import Mathlib.Data.List.ReduceOption
import Mathlib.Logic.Function.Basic

/-!
# Appending to a linked list by an exchange

A node is appended in three steps: its own link is cleared, it is exchanged for
the head, and the node that was the head before is linked to it.  Between the
last two steps the list has a gap.  Any number of appends may be under way; the
node at the front is removed once it is linked to the next.
-/

namespace WarheadBot

namespace AppendChain

variable {Node : Type*}

structure Memory (Node : Type*) where
  links : Node → Option Node
  head : Node

/-- The step that an append is to make next. -/
inductive Appending (Node : Type*)
  | clears (input : Node)
  | exchanges (input : Node)
  | links (input prevHead : Node)
  deriving DecidableEq, Repr

namespace Appending

def input : Appending Node → Node
  | clears input => input
  | exchanges input => input
  | links input _ => input

/-- The node has been exchanged for the head and is not yet linked. -/
def isLinking : Appending Node → Bool
  | clears _ => false
  | exchanges _ => false
  | links _ _ => true

/-- The node that the step puts at the end. -/
def appended : Appending Node → List Node
  | clears _ => []
  | exchanges input => [input]
  | links _ _ => []

/-- The memory after the step, and the rest of the append. -/
def step [DecidableEq Node] (memory : Memory Node) :
    Appending Node → Memory Node × Option (Appending Node)
  | clears input =>
      ({ memory with links := Function.update memory.links input none }, some (exchanges input))
  | exchanges input => ({ memory with head := input }, some (links input memory.head))
  | links input prevHead =>
      ({ memory with links := Function.update memory.links prevHead (some input) }, none)

theorem step_input [DecidableEq Node] {memory : Memory Node} {append rest : Appending Node}
    (more : (append.step memory).2 = some rest) : rest.input = append.input := by
  cases append with
  | clears input =>
      cases more
      rfl
  | exchanges input =>
      cases more
      rfl
  | links input prevHead => cases more

end Appending

def Follows (chain : List Node) (node next : Node) : Prop := [node, next] <:+: chain

/-- How an append under way and the nodes of the list fit together. -/
def Appending.Fits (memory : Memory Node) (chain : List Node) : Appending Node → Prop
  | clears input => input ∉ chain
  | exchanges input => input ∉ chain ∧ memory.links input = none
  | links input prevHead => memory.links prevHead = none ∧ Follows chain prevHead input

/-- The nodes of the list, from the front to the head, and the appends that are
under way. -/
structure Holds (memory : Memory Node) (appends : List (Appending Node)) (chain : List Node) :
    Prop where
  nodup : chain.Nodup
  head : chain.getLast? = some memory.head
  last : memory.links memory.head = none
  linked : ∀ {node next : Node}, Follows chain node next →
    memory.links node = some next ∨
      memory.links node = none ∧ .links next node ∈ appends
  fits : ∀ append ∈ appends, append.Fits memory chain
  distinct : (appends.map Appending.input).Nodup

section Follows

variable {chain : List Node} {node next : Node}

theorem follows_cons {first : Node} :
    Follows (first :: chain) node next ↔
      first = node ∧ chain.head? = some next ∨ Follows chain node next := by
  rw [Follows, List.infix_cons_iff, Follows]
  cases chain with
  | nil => simp
  | cons second rest => simp [eq_comm]

theorem Follows.mem_left (follows : Follows chain node next) : node ∈ chain :=
  follows.subset (by simp)

theorem Follows.mem_right (follows : Follows chain node next) : next ∈ chain :=
  follows.subset (by simp)

theorem Follows.unique {other : Node} (follows : Follows chain node next)
    (also : Follows chain node other) (nodup : chain.Nodup) : next = other := by
  induction chain with
  | nil => exact absurd follows.mem_left List.not_mem_nil
  | cons first rest ih =>
      rw [List.nodup_cons] at nodup
      rcases follows_cons.mp follows with ⟨rfl, isNext⟩ | later
      · rcases follows_cons.mp also with ⟨_, isOther⟩ | alsoLater
        · exact Option.some.inj (isNext.symm.trans isOther)
        · exact absurd alsoLater.mem_left nodup.1
      · rcases follows_cons.mp also with ⟨rfl, _⟩ | alsoLater
        · exact absurd later.mem_left nodup.1
        · exact ih later alsoLater nodup.2

theorem Follows.append (follows : Follows chain node next) (more : List Node) :
    Follows (chain ++ more) node next :=
  follows.trans (List.prefix_append ..).isInfix

theorem follows_concat {last : Node} (follows : Follows (chain ++ [last]) node next) :
    Follows chain node next ∨ chain.getLast? = some node ∧ next = last := by
  induction chain with
  | nil => exact absurd follows.length_le (by simp)
  | cons first rest ih =>
      rw [List.cons_append, follows_cons] at follows
      rcases follows with ⟨rfl, isNext⟩ | later
      · cases rest with
        | nil => exact .inr ⟨rfl, (Option.some.inj isNext).symm⟩
        | cons second rest => exact .inl (follows_cons.mpr (.inl ⟨rfl, isNext⟩))
      · rcases ih later with inside | ⟨isLast, rfl⟩
        · exact .inl (follows_cons.mpr (.inr inside))
        · refine .inr ⟨?_, rfl⟩
          cases rest with
          | nil => cases isLast
          | cons second rest => exact isLast

theorem follows_of_getLast? {prevHead : Node} (isLast : chain.getLast? = some prevHead)
    (node : Node) : Follows (chain ++ [node]) prevHead node := by
  obtain ⟨front, rfl⟩ := List.getLast?_eq_some_iff.mp isLast
  exact ⟨front, [], by simp⟩

theorem Follows.not_last (follows : Follows chain node next) (nodup : chain.Nodup) :
    chain.getLast? ≠ some node := by
  obtain ⟨front, rest, rfl⟩ := follows
  intro isLast
  have isRest : (next :: rest).getLast? = some node := by
    simpa [List.getLast?_append] using isLast
  rw [List.append_assoc, List.nodup_append] at nodup
  exact (List.nodup_cons.mp nodup.2.1).1 (List.mem_of_getLast? isRest)

end Follows

variable {memory : Memory Node} {appends others : List (Appending Node)}
  {append : Appending Node} {chain rest : List Node} {node next : Node}

theorem Holds.head_mem (holds : Holds memory appends chain) : memory.head ∈ chain :=
  List.mem_of_getLast? holds.head

theorem Holds.perm (holds : Holds memory appends chain) (same : appends.Perm others) :
    Holds memory others chain where
  nodup := holds.nodup
  head := holds.head
  last := holds.last
  linked follows := (holds.linked follows).imp_right fun gap => ⟨gap.1, same.mem_iff.mp gap.2⟩
  fits append isAppend := holds.fits append (same.mem_iff.mpr isAppend)
  distinct := (same.map Appending.input).nodup_iff.mp holds.distinct

/-- An append of a node that is neither in the list nor being appended begins. -/
theorem Holds.start {input : Node} (holds : Holds memory appends chain)
    (outside : input ∉ chain) (idle : ∀ append ∈ appends, append.input ≠ input) :
    Holds memory (.clears input :: appends) chain where
  nodup := holds.nodup
  head := holds.head
  last := holds.last
  linked follows := (holds.linked follows).imp_right fun gap =>
    ⟨gap.1, List.mem_cons_of_mem _ gap.2⟩
  fits := List.forall_mem_cons.mpr ⟨outside, holds.fits⟩
  distinct := by
    rw [List.map_cons, List.nodup_cons]
    refine ⟨fun isInput => ?_, holds.distinct⟩
    obtain ⟨append, isAppend, same⟩ := List.mem_map.mp isInput
    exact idle append isAppend same

/-- The node at the front is removed once it is linked. -/
theorem Holds.pop (holds : Holds memory appends (node :: chain))
    (linked : memory.links node ≠ none) (more : chain ≠ []) : Holds memory appends chain := by
  have outside := (List.nodup_cons.mp holds.nodup).1
  refine ⟨(List.nodup_cons.mp holds.nodup).2, ?_, holds.last, ?_, ?_, holds.distinct⟩
  · rw [← holds.head]
    cases chain with
    | nil => exact absurd rfl more
    | cons second rest => rfl
  · exact fun follows => holds.linked (follows_cons.mpr (.inr follows))
  · intro append isAppend
    have fits := holds.fits append isAppend
    cases append with
    | clears input => exact fun inside => fits (List.mem_cons_of_mem _ inside)
    | exchanges input => exact ⟨fun inside => fits.1 (List.mem_cons_of_mem _ inside), fits.2⟩
    | links input prevHead =>
        refine ⟨fits.1, ?_⟩
        rcases follows_cons.mp fits.2 with ⟨rfl, _⟩ | later
        · exact absurd fits.1 linked
        · exact later

/-- A link at the front leads to the next node of the list. -/
theorem Holds.front_some (holds : Holds memory appends (node :: chain))
    (linked : memory.links node = some next) :
    ∃ rest, chain = next :: rest := by
  cases chain with
  | nil =>
      cases holds.head
      rw [holds.last] at linked
      cases linked
  | cons second rest =>
      rcases holds.linked (follows_cons.mpr (.inl ⟨rfl, rfl⟩)) with isLinked | ⟨unlinked, _⟩
      · cases isLinked.symm.trans linked
        exact ⟨rest, rfl⟩
      · cases unlinked.symm.trans linked

/-- Without a link the front is the only node, or its successor is being linked. -/
theorem Holds.front_none (holds : Holds memory appends (node :: chain))
    (unlinked : memory.links node = none) :
    chain = [] ∨ ∃ next, .links next node ∈ appends := by
  cases chain with
  | nil => exact .inl rfl
  | cons second rest =>
      rcases holds.linked (follows_cons.mpr (.inl ⟨rfl, rfl⟩)) with isLinked | ⟨_, pending⟩
      · cases unlinked.symm.trans isLinked
      · exact .inr ⟨second, pending⟩

/-- A head that is the front is the only node. -/
theorem Holds.alone (holds : Holds memory appends (node :: chain))
    (isHead : node = memory.head) : chain = [] := by
  cases chain with
  | nil => rfl
  | cons second rest =>
      have last : (second :: rest).getLast? = some node := isHead ▸ holds.head
      exact absurd (List.mem_of_getLast? last) (List.nodup_cons.mp holds.nodup).1

/-- What is appended is never the front. -/
theorem Holds.input_ne_front (holds : Holds memory appends (node :: chain))
    (isAppend : append ∈ appends) : append.input ≠ node := by
  have fits := holds.fits append isAppend
  have outside := (List.nodup_cons.mp holds.nodup).1
  cases append with
  | clears input => exact fun same => fits (same ▸ List.mem_cons_self ..)
  | exchanges input => exact fun same => fits.1 (same ▸ List.mem_cons_self ..)
  | links input prevHead =>
      have inside : input ∈ chain := by
        rcases follows_cons.mp fits.2 with ⟨_, isNext⟩ | later
        · exact List.mem_of_head? isNext
        · exact later.mem_right
      exact fun same => outside (same ▸ inside)

theorem Holds.distinct_cons (holds : Holds memory (append :: others) chain) :
    (∀ other ∈ others, other.input ≠ append.input) ∧ (others.map Appending.input).Nodup := by
  have distinct := holds.distinct
  rw [List.map_cons, List.nodup_cons] at distinct
  refine ⟨fun other isOther same => distinct.1 ?_, distinct.2⟩
  exact List.mem_map.mpr ⟨other, isOther, same⟩

theorem Holds.step_exchanges {input : Node}
    (holds : Holds memory (.exchanges input :: others) chain) :
    Holds ⟨memory.links, input⟩ (.links input memory.head :: others) (chain ++ [input]) := by
  obtain ⟨⟨outside, unlinked⟩, othersFit⟩ := List.forall_mem_cons.mp holds.fits
  refine ⟨?_, List.getLast?_concat, unlinked, ?_, ?_, holds.distinct⟩
  · rw [List.nodup_append]
    refine ⟨holds.nodup, List.nodup_cons.mpr ⟨List.not_mem_nil, List.nodup_nil⟩, ?_⟩
    intro node inside other isInput same
    rw [same, List.mem_singleton.mp isInput] at inside
    exact outside inside
  · intro node next follows
    rcases follows_concat follows with before | ⟨isLast, rfl⟩
    · refine (holds.linked before).imp_right fun gap => ⟨gap.1, List.mem_cons_of_mem _ ?_⟩
      exact (List.mem_cons.mp gap.2).resolve_left nofun
    · cases holds.head.symm.trans isLast
      exact .inr ⟨holds.last, List.mem_cons_self ..⟩
  · refine List.forall_mem_cons.mpr
      ⟨⟨holds.last, follows_of_getLast? holds.head input⟩, ?_⟩
    intro other isOther
    have fits := othersFit other isOther
    have differs := holds.distinct_cons.1 other isOther
    have remains {node : Node} (outsideToo : node ∉ chain) (other : node ≠ input) :
        node ∉ chain ++ [input] := by
      simp [outsideToo, other]
    cases other with
    | clears otherInput => exact remains fits differs
    | exchanges otherInput => exact ⟨remains fits.1 differs, fits.2⟩
    | links otherInput prevHead => exact ⟨fits.1, fits.2.append _⟩

/-- One thread is in some of the appends that are under way. -/
theorem reduceOption_set_perm {Item : Type} {items : List (Option Item)} {index : Nat}
    {before : Option Item} (found : items[index]? = some before) :
    ∃ others, items.reduceOption.Perm (before.toList ++ others) ∧
      ∀ after, (items.set index after).reduceOption.Perm (after.toList ++ others) := by
  obtain ⟨bound, rfl⟩ := List.getElem?_eq_some_iff.mp found
  have perm (after : Option Item) : (items.set index after).reduceOption.Perm
      (after.toList ++ (items.eraseIdx index).reduceOption) := by
    have moved := (List.set_perm_cons_eraseIdx bound after).filterMap id
    cases after with
    | none => exact moved
    | some append => exact moved
  refine ⟨_, ?_, perm⟩
  have same := perm items[index]
  rwa [List.set_getElem_self bound] at same

variable [DecidableEq Node]

/-- No step of an append changes a link of the list that is set. -/
theorem Holds.step_links (holds : Holds memory appends chain) (isAppend : append ∈ appends)
    (inside : node ∈ chain) (linked : memory.links node ≠ none) :
    (append.step memory).1.links node = memory.links node := by
  have fits := holds.fits append isAppend
  cases append with
  | clears input =>
      have other : node ≠ input := fun same => fits (same ▸ inside)
      exact Function.update_of_ne other _ _
  | exchanges input => rfl
  | links input prevHead =>
      have other : node ≠ prevHead := fun same => linked (same ▸ fits.1)
      exact Function.update_of_ne other _ _

theorem Holds.step_clears {input : Node}
    (holds : Holds memory (.clears input :: others) chain) :
    Holds ⟨Function.update memory.links input none, memory.head⟩
      (.exchanges input :: others) chain := by
  obtain ⟨outside, othersFit⟩ := List.forall_mem_cons.mp holds.fits
  have kept {node : Node} (inside : node ∈ chain) :
      Function.update memory.links input none node = memory.links node := by
    have other : node ≠ input := fun same => outside (same ▸ inside)
    exact Function.update_of_ne other _ _
  refine ⟨holds.nodup, holds.head, (kept holds.head_mem).trans holds.last, ?_, ?_,
    holds.distinct⟩
  · intro node next follows
    dsimp only
    rw [kept follows.mem_left]
    refine (holds.linked follows).imp_right fun gap => ⟨gap.1, List.mem_cons_of_mem _ ?_⟩
    exact (List.mem_cons.mp gap.2).resolve_left nofun
  · refine List.forall_mem_cons.mpr ⟨⟨outside, Function.update_self ..⟩, ?_⟩
    intro other isOther
    have fits := othersFit other isOther
    have differs := holds.distinct_cons.1 other isOther
    cases other with
    | clears otherInput => exact fits
    | exchanges otherInput => exact ⟨fits.1, (Function.update_of_ne differs _ _).trans fits.2⟩
    | links otherInput prevHead => exact ⟨(kept fits.2.mem_left).trans fits.1, fits.2⟩

theorem Holds.step_linksPrev {input prevHead : Node}
    (holds : Holds memory (.links input prevHead :: others) chain) :
    Holds ⟨Function.update memory.links prevHead (some input), memory.head⟩ others chain := by
  obtain ⟨⟨unlinked, follows⟩, othersFit⟩ := List.forall_mem_cons.mp holds.fits
  obtain ⟨distinct, othersDistinct⟩ := holds.distinct_cons
  have kept {node : Node} (other : node ≠ prevHead) :
      Function.update memory.links prevHead (some input) node = memory.links node :=
    Function.update_of_ne other _ _
  have notHead : memory.head ≠ prevHead := by
    rintro rfl
    exact follows.not_last holds.nodup holds.head
  refine ⟨holds.nodup, holds.head, (kept notHead).trans holds.last, ?_, ?_, othersDistinct⟩
  · intro node next isNext
    dsimp only
    by_cases same : node = prevHead
    · subst same
      rw [Function.update_self, isNext.unique follows holds.nodup]
      exact .inl rfl
    · rw [kept same]
      refine (holds.linked isNext).imp_right fun gap => ⟨gap.1, ?_⟩
      exact (List.mem_cons.mp gap.2).resolve_left fun equal => same (Appending.links.inj equal).2
  · intro other isOther
    have fits := othersFit other isOther
    have differs := distinct other isOther
    cases other with
    | clears otherInput => exact fits
    | exchanges otherInput =>
        have outside : otherInput ≠ prevHead := fun same => fits.1 (same ▸ follows.mem_left)
        exact ⟨fits.1, (kept outside).trans fits.2⟩
    | links otherInput otherPrev =>
        have elsewhere : otherPrev ≠ prevHead := by
          rintro rfl
          exact differs (fits.2.unique follows holds.nodup)
        exact ⟨(kept elsewhere).trans fits.1, fits.2⟩

theorem Holds.step (holds : Holds memory (append :: others) chain) :
    Holds (append.step memory).1 ((append.step memory).2.toList ++ others)
      (chain ++ append.appended) := by
  cases append with
  | clears input =>
      rw [Appending.appended, List.append_nil]
      exact holds.step_clears
  | exchanges input => exact holds.step_exchanges
  | links input prevHead =>
      rw [Appending.appended, List.append_nil]
      exact holds.step_linksPrev

end AppendChain

end WarheadBot
