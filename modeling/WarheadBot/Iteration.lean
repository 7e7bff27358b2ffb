import Mathlib.Logic.Function.Iterate
import Mathlib.Order.Basic

/-!
# Deterministic machines that may run forever

A machine is a total function `step`, and a run of it is the sequence of its
iterates.  A machine ends if some iterate is final.  The rules below prove that
a machine ends, by a measure that falls as long as no state is final, and that
it never does, by an invariant that holds of no final state.

A loop that counts ends by itself, unless its body has an error.  Rounds with
inputs settle, once enough of them have made progress.
-/

namespace WarheadBot

namespace Iteration

variable {State : Type*} {step : State → State} {final : State → Prop}

/-- Some state of the run is final. -/
def Ends (step : State → State) (final : State → Prop) (state : State) : Prop :=
  ∃ steps, final (step^[steps] state)

theorem ends_of_final {state : State} (done : final state) : Ends step final state :=
  ⟨0, done⟩

theorem ends_iff_step {state : State} (unfinished : ¬ final state) :
    Ends step final state ↔ Ends step final (step state) := by
  constructor
  · rintro ⟨steps, done⟩
    cases steps with
    | zero => exact absurd done unfinished
    | succ steps =>
        rw [Function.iterate_succ_apply] at done
        exact ⟨steps, done⟩
  · rintro ⟨steps, done⟩
    refine ⟨steps + 1, ?_⟩
    rw [Function.iterate_succ_apply]
    exact done

/-- What every step keeps holds of every state of a run. -/
theorem iterate_invariant {inv : State → Prop}
    (preserved : ∀ state, inv state → inv (step state)) {state : State} (start : inv state)
    (steps : Nat) : inv (step^[steps] state) := by
  induction steps with
  | zero => exact start
  | succ steps ih =>
      rw [Function.iterate_succ_apply']
      exact preserved _ ih

/-- A machine never ends if an invariant keeps it from its final states. -/
theorem not_ends_of_invariant {inv : State → Prop}
    (preserved : ∀ state, inv state → inv (step state))
    (unfinished : ∀ state, inv state → ¬ final state) {state : State} (start : inv state) :
    ¬ Ends step final state := by
  rintro ⟨steps, done⟩
  exact unfinished _ (iterate_invariant preserved start steps) done

section Counted

variable {body : Nat → State → Option State}

/-- The loop over the first numbers; it stops with an error of its body. -/
def countedLoop (body : Nat → State → Option State) : Nat → State → Option State
  | 0, state => some state
  | count + 1, state => (countedLoop body count state).bind (body count)

/-- The loop ends with its invariant, if the body keeps it and has no error. -/
theorem exists_countedLoop {inv : Nat → State → Prop} {count : Nat}
    (keeps : ∀ index < count, ∀ state, inv index state →
      ∃ next, body index state = some next ∧ inv (index + 1) next)
    {state : State} (start : inv 0 state) :
    ∃ last, countedLoop body count state = some last ∧ inv count last := by
  induction count with
  | zero => exact ⟨state, rfl, start⟩
  | succ count ih =>
      obtain ⟨middle, reached, holds⟩ := ih fun index early =>
        keeps index (Nat.lt_succ_of_lt early)
      obtain ⟨last, moved, holdsLast⟩ := keeps count (Nat.lt_succ_self _) middle holds
      exact ⟨last, by rw [countedLoop, reached, Option.bind_some, moved], holdsLast⟩

/-- Without an error the body only has to keep the invariant. -/
theorem countedLoop_invariant {inv : Nat → State → Prop} {count : Nat}
    (keeps : ∀ index < count, ∀ state next, inv index state → body index state = some next →
      inv (index + 1) next)
    {state last : State} (reached : countedLoop body count state = some last)
    (start : inv 0 state) : inv count last := by
  induction count generalizing last with
  | zero => exact Option.some.inj reached ▸ start
  | succ count ih =>
      obtain ⟨middle, before, moved⟩ := Option.bind_eq_some_iff.mp reached
      exact keeps count (Nat.lt_succ_self _) middle last
        (ih (fun index early => keeps index (Nat.lt_succ_of_lt early)) before) moved

end Counted

section Rounds

variable {Input : Type*} {round : State → Input → State} {counts : State → Input → Bool}

/-- The number of rounds that count, each in the state it is made in. -/
def counted (round : State → Input → State) (counts : State → Input → Bool) :
    State → List Input → Nat
  | _, [] => 0
  | state, input :: inputs =>
      (if counts state input then 1 else 0) + counted round counts (round state input) inputs

theorem foldl_invariant {inv : State → Prop}
    (preserved : ∀ state input, inv state → inv (round state input)) {state : State}
    (start : inv state) (inputs : List Input) : inv (inputs.foldl round state) := by
  induction inputs generalizing state with
  | nil => exact start
  | cons input inputs ih => exact ih (preserved state input start)

/-- The convergence rule: if no round raises the rank, and one that counts
lowers it or settles the state, the state is settled once more rounds than the
rank have counted. -/
theorem settled_of_counted {settled : State → Prop} (rank : State → Nat)
    (kept : ∀ state input, settled state → settled (round state input))
    (bounded : ∀ state input, rank (round state input) ≤ rank state)
    (advances : ∀ state input, counts state input = true →
      settled (round state input) ∨ rank (round state input) < rank state)
    {state : State} {inputs : List Input}
    (enough : rank state < counted round counts state inputs) :
    settled (inputs.foldl round state) := by
  induction inputs generalizing state with
  | nil => exact absurd enough (Nat.not_lt_zero _)
  | cons input inputs ih =>
      rw [counted] at enough
      rw [List.foldl_cons]
      cases effect : counts state input with
      | false =>
          apply ih
          have notRaised := bounded state input
          simp only [effect, Bool.false_eq_true, if_false] at enough
          omega
      | true =>
          simp only [effect, if_true] at enough
          rcases advances state input effect with done | lower
          · exact foldl_invariant kept done inputs
          · exact ih (by omega)

end Rounds

end Iteration

end WarheadBot
