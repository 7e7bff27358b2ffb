import Mathlib.Algebra.Order.Ring.Nat
import Mathlib.Data.List.Basic

/-!
# Numbers as arrays of bytes

A number is the sum of its bytes, the least significant one first.  An array of
a given size holds the numbers that need no more bytes; the rest of it is zero.
-/

namespace WarheadBot

namespace LittleEndian

def ofBytes : List UInt8 → Nat
  | [] => 0
  | byte :: bytes => byte.toNat + 256 * ofBytes bytes

/-- The last bytes of a number, as many as the array has. -/
def toBytes : Nat → Nat → List UInt8
  | 0, _ => []
  | size + 1, number => UInt8.ofNat number :: toBytes size (number / 256)

@[simp]
theorem length_toBytes (size number : Nat) : (toBytes size number).length = size := by
  induction size generalizing number with
  | zero => rfl
  | succ size ih => rw [toBytes, List.length_cons, ih]

theorem ofBytes_toBytes {size number : Nat} (fits : number < 256 ^ size) :
    ofBytes (toBytes size number) = number := by
  induction size generalizing number with
  | zero =>
      rw [pow_zero, Nat.lt_one_iff] at fits
      exact fits.symm
  | succ size ih =>
      have smaller : number / 256 < 256 ^ size := by
        rw [pow_succ] at fits
        omega
      rw [toBytes, ofBytes, ih smaller, UInt8.toNat_ofNat']
      omega

end LittleEndian

end WarheadBot
