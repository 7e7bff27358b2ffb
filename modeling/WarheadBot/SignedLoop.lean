import Mathlib.Data.Int.Notation
import Mathlib.Tactic.Ring

/-!
# Loops over signed indices

A loop over a signed index of 32 bits runs until its index is equal to an end, so
that it has to meet the end exactly.  Sizes have 64 bits and no sign, and are
converted to such indices.
-/

namespace WarheadBot

namespace SignedLoop

/-- The difference of two sizes. -/
def sizeSub (size subtracted : Nat) : Nat :=
  (size + 2 ^ 64 - subtracted) % 2 ^ 64

/-- The conversion of a size to an index. -/
def toInt32 (size : Nat) : Int :=
  Int.bmod size (2 ^ 32)

def InInt32 (value : Int) : Prop :=
  -2 ^ 31 ≤ value ∧ value < 2 ^ 31

instance (value : Int) : Decidable (InInt32 value) :=
  inferInstanceAs (Decidable (_ ∧ _))

/-- The element at an index, if the index is one of the list. -/
def at? {Element : Type*} (elements : List Element) (index : Int) : Option Element :=
  if 0 ≤ index then elements[index.toNat]? else none

variable {State : Type*}

/-- There is no result if the body has an error, the index overflows, or the loop has not
ended after so many rounds. -/
def loop (body : Int → State → Option State) (finish step : Int) :
    Nat → Int → State → Option State
  | 0, _, _ => none
  | fuel + 1, index, state =>
      if index = finish then some state
      else
        (body index state).bind fun next =>
          if InInt32 (index + step) then loop body finish step fuel (index + step) next else none

theorem toInt32_of_lt {size : Nat} (small : size < 2 ^ 31) : toInt32 size = size :=
  Int.bmod_eq_of_le (by omega) (by omega)

/-- A difference below zero becomes negative. -/
theorem toInt32_sizeSub {size subtracted : Nat} (small : size < 2 ^ 31)
    (fewer : subtracted < 2 ^ 31) :
    toInt32 (sizeSub size subtracted) = (size : Int) - subtracted := by
  have wrapped : ((sizeSub size subtracted : Nat) : Int) =
      if subtracted ≤ size then (size : Int) - subtracted else size - subtracted + 2 ^ 64 := by
    unfold sizeSub
    split_ifs <;> omega
  unfold toInt32
  rw [wrapped]
  split_ifs
  · exact Int.bmod_eq_of_le (by omega) (by omega)
  · have multiple : (size : Int) - subtracted + 2 ^ 64 =
        (size : Int) - subtracted + (2 ^ 32 : Nat) * 2 ^ 32 := by norm_num
    rw [multiple, Int.add_mul_bmod_self_left]
    exact Int.bmod_eq_of_le (by omega) (by omega)

theorem at?_natCast {Element : Type*} (elements : List Element) (index : Nat) :
    at? elements index = elements[index]? := by
  rw [at?, if_pos (Int.natCast_nonneg index), Int.toNat_natCast]

/-- A loop whose index meets the end after some rounds ends there, if its body has no error
in these rounds. -/
theorem loop_eq {body : Int → State → Option State} {states : Nat → State} {count : Nat}
    {first finish step : Int} (moves : step ≠ 0) (meets : finish = first + count * step)
    (rounds : ∀ round < count,
      body (first + round * step) (states round) = some (states (round + 1)))
    (range : ∀ round ≤ count, InInt32 (first + round * step)) {fuel : Nat}
    (enough : count < fuel) :
    loop body finish step fuel first (states 0) = some (states count) := by
  induction count generalizing states first fuel with
  | zero =>
      obtain ⟨fuel, rfl⟩ := Nat.exists_eq_add_of_lt enough
      rw [Nat.zero_add, loop, if_pos (by simp [meets])]
  | succ count ih =>
      obtain ⟨fuel, rfl⟩ := Nat.exists_eq_succ_of_ne_zero (Nat.ne_zero_of_lt enough)
      have next (round : Nat) : first + step + round * step =
          first + ((round + 1 : Nat) : Int) * step := by
        push_cast
        ring
      have start := rounds 0 (Nat.zero_lt_succ count)
      have inside := range 1 (Nat.succ_le_succ (Nat.zero_le count))
      have different : first ≠ finish := by
        intro same
        have zero : ((count + 1 : Nat) : Int) * step = 0 := by omega
        rcases Int.mul_eq_zero.mp zero with none | none
        · omega
        · exact moves none
      rw [Int.natCast_zero, Int.zero_mul, Int.add_zero] at start
      rw [Int.natCast_one, Int.one_mul] at inside
      rw [loop, if_neg different, start, Option.bind_some, if_pos inside]
      refine @ih (fun round => states (round + 1)) (first + step) (meets.trans (next count).symm)
        ?_ ?_ fuel (Nat.lt_of_succ_lt_succ enough)
      · intro round early
        rw [next]
        exact rounds (round + 1) (Nat.succ_lt_succ early)
      · intro round early
        rw [next]
        exact range (round + 1) (Nat.succ_le_succ early)

/-- A loop over cells of one width, from either side, meets its end. -/
theorem loop_cells_eq {body : Int → State → Option State} {states : Nat → State}
    {count width : Nat} (wide : 0 < width) (narrow : width < 2 ^ 31)
    (small : count * width < 2 ^ 31) (reverse : Bool)
    (rounds : ∀ round < count,
      body (((if reverse then count - 1 - round else round) * width : Nat) : Int)
        (states round) = some (states (round + 1)))
    {fuel : Nat} (enough : count < fuel) :
    loop body (if reverse then -(width : Int) else toInt32 (count * width))
        (if reverse then -(width : Int) else width) fuel
        (if reverse then toInt32 (sizeSub (count * width) width) else 0) (states 0) =
      some (states count) := by
  have inside {round : Nat} (early : round ≤ count) : round * width ≤ count * width :=
    Nat.mul_le_mul_right width early
  cases reverse with
  | false =>
      have index (round : Nat) : (0 : Int) + round * width = (round * width : Nat) := by
        push_cast
        ring
      simp only [Bool.false_eq_true, if_false, toInt32_of_lt small] at rounds ⊢
      refine loop_eq (Int.natCast_ne_zero_iff_pos.mpr wide) (index count).symm ?_ ?_ enough
      · intro round early
        rw [index]
        exact rounds round early
      · intro round early
        have before := inside early
        rw [index, InInt32]
        omega
  | true =>
      have index (round : Nat) : ((count * width : Nat) : Int) - width + round * -width =
          ((count * width : Nat) : Int) - ((round * width : Nat) : Int) - width := by
        push_cast
        ring
      simp only [if_true, toInt32_sizeSub small narrow] at rounds ⊢
      refine loop_eq ?_ ?_ ?_ ?_ enough
      · omega
      · rw [index]
        omega
      · intro round early
        have place : ((count * width : Nat) : Int) - width + round * -width =
            ((count - 1 - round) * width : Nat) := by
          obtain ⟨left, rfl⟩ := Nat.exists_eq_add_of_lt early
          have behind : round + left + 1 - 1 - round = left := by omega
          rw [behind]
          push_cast
          ring
        rw [place]
        exact rounds round early
      · intro round early
        have before := inside early
        rw [index, InInt32]
        omega

end SignedLoop

end WarheadBot
