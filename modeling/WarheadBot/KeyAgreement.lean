import Mathlib.Algebra.Ring.Commute
import Mathlib.Tactic.Ring

/-!
# Key agreement with a verifier

The two parties share a base `g` and a multiplier `k`.  One of them knows the
secret `x`, and the other one only the verifier `g ^ x`.  They exchange `g ^ a`
and the masked power `k * g ^ x + g ^ b`, and agree on a scrambling number `u`.
Then both can compute the same secret.
-/

namespace WarheadBot

namespace KeyAgreement

variable {Element : Type*} [CommRing Element]

def maskedPower (g k verifier : Element) (b : Nat) : Element :=
  k * verifier + g ^ b

/-- The secret of the party with the verifier. -/
def verifierSecret (publicPower verifier : Element) (u b : Nat) : Element :=
  (publicPower * verifier ^ u) ^ b

/-- The secret of the party that knows `x`. -/
def proverSecret (g k masked : Element) (x a u : Nat) : Element :=
  (masked - k * g ^ x) ^ (a + u * x)

theorem secrets_agree (g k : Element) (x a b u : Nat) :
    verifierSecret (g ^ a) (g ^ x) u b =
      proverSecret g k (maskedPower g k (g ^ x) b) x a u := by
  unfold verifierSecret proverSecret maskedPower
  rw [add_sub_cancel_left, ← pow_mul, ← pow_mul, ← pow_add, ← pow_mul]
  congr 1
  ring

end KeyAgreement

end WarheadBot
