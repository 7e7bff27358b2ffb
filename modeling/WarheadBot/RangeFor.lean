import Mathlib.Data.List.Basic

/-!
# Loops over a shared cursor

An iterator that points to its result moves on by moving the result itself to the
next row, and becomes the end when there is none.  A range-for loop visits the
result before it is moved for the first time, and then after each move that found
a row.
-/

namespace WarheadBot

namespace RangeFor

variable {Result : Type*}

/-- The states in which a loop visits a result, and the state it leaves it in; there
are none if the loop has not ended after so many visits. -/
def visits (nextRow : Result → Bool × Result) : Nat → Result → Option (List Result × Result)
  | 0, _ => none
  | fuel + 1, result =>
      let moved := nextRow result
      if moved.1 then
        (visits nextRow fuel moved.2).map fun later => (result :: later.1, later.2)
      else some ([result], moved.2)

variable {nextRow : Result → Bool × Result}

theorem visits_of_done {result : Result} (done : (nextRow result).1 = false) {fuel : Nat}
    (enough : 0 < fuel) :
    visits nextRow fuel result = some ([result], (nextRow result).2) := by
  cases fuel with
  | zero => exact absurd enough (Nat.lt_irrefl 0)
  | succ fuel =>
      rw [visits, done]
      rfl

theorem visits_of_more {result : Result} (more : (nextRow result).1 = true) {fuel : Nat}
    (enough : 0 < fuel) :
    visits nextRow fuel result =
      (visits nextRow (fuel - 1) (nextRow result).2).map fun later =>
        (result :: later.1, later.2) := by
  cases fuel with
  | zero => exact absurd enough (Nat.lt_irrefl 0)
  | succ fuel =>
      rw [visits, more]
      rfl

/-- A loop that goes through given states ends after as many visits. -/
theorem visits_eq {stateAt : Nat → Result} {last : Nat}
    (more : ∀ index < last, nextRow (stateAt index) = (true, stateAt (index + 1)))
    (done : (nextRow (stateAt last)).1 = false) {fuel : Nat} (enough : last < fuel) :
    visits nextRow fuel (stateAt 0) =
      some ((List.range (last + 1)).map stateAt, (nextRow (stateAt last)).2) := by
  induction last generalizing stateAt fuel with
  | zero => exact visits_of_done done enough
  | succ last ih =>
      have order := @List.range_succ_eq_map (last + 1)
      have later := @ih (fun index => stateAt (index + 1))
        (fun index early => more (index + 1) (Nat.succ_lt_succ early)) done (fuel - 1) (by omega)
      rw [visits_of_more (by rw [more 0 (Nat.zero_lt_succ last)]) (by omega),
        more 0 (Nat.zero_lt_succ last), order, List.map_cons, List.map_map]
      dsimp only
      rw [later]
      rfl

end RangeFor

end WarheadBot
