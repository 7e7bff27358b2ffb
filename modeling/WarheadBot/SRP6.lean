import WarheadBot.HexStrings
import WarheadBot.LittleEndian

/-!
# The server side of SRP6

A server stores a salt and a verifier for each user.  `SRP6` sends the salt and a masked
power, and accepts one response of the client if it proves the session key.

The hash function is a parameter, and so are the random bytes.  `BigNumber` calls functions
of OpenSSL, which are not part of the source; what is documented of them is a hypothesis.
-/

namespace WarheadBot

namespace Crypto

open Utilities (Digest hexStrToByteArray)
open LittleEndian

/-- The functions that `BigNumber` calls. -/
structure BN where
  Number : Type
  lebin2bn : List UInt8 → Number
  -- The array is filled, or there is an error.
  bn2lebinpad : Number → (size : Nat) → Option { array : List UInt8 // array.length = size }
  setWord : UInt32 → Number
  add : Number → Number → Number
  mul : Number → Number → Number
  mod : Number → Number → Number
  modExp : Number → Number → Number → Number
  isZero : Number → Bool

/-- What is documented of the functions, for numbers that are not negative. -/
structure BN.Documented (bn : BN) (value : bn.Number → Nat) : Prop where
  lebin2bn : ∀ bytes, value (bn.lebin2bn bytes) = ofBytes bytes
  -- The rest of the array is padded with zeros.
  bn2lebinpad : ∀ number size, value number < 256 ^ size →
    ∃ array, bn.bn2lebinpad number size = some array ∧ array.1 = toBytes size (value number)
  tooSmall : ∀ number size, 256 ^ size ≤ value number → bn.bn2lebinpad number size = none
  setWord : ∀ word, value (bn.setWord word) = word.toNat
  add : ∀ left right, value (bn.add left right) = value left + value right
  mul : ∀ left right, value (bn.mul left right) = value left * value right
  mod : ∀ number modulus, value modulus ≠ 0 →
    value (bn.mod number modulus) = value number % value modulus
  modExp : ∀ base exponent modulus, value modulus ≠ 0 →
    value (bn.modExp base exponent modulus) = value base ^ value exponent % value modulus
  isZero : ∀ number, bn.isZero number = true ↔ value number = 0

/-- Salts, verifiers and ephemeral keys. -/
structure Bytes32 where
  bytes : List UInt8
  size : bytes.length = 32
  deriving DecidableEq

/-- The digits of `N`, as they are read in reverse. -/
def nDigits : String :=
  "894B645E89E1535BBDAD5B8B290650530801B18EBFBF5E8FAB3C82872A3E9BB7"

def nBytes : List UInt8 :=
  [0xB7, 0x9B, 0x3E, 0x2A, 0x87, 0x82, 0x3C, 0xAB, 0x8F, 0x5E, 0xBF, 0xBF, 0x8E, 0xB1, 0x01,
    0x08, 0x53, 0x50, 0x06, 0x29, 0x8B, 0x5B, 0xAD, 0xBD, 0x5B, 0x53, 0xE1, 0x89, 0x5E, 0x64,
    0x4B, 0x89]

example :
    hexStrToByteArray 33 nDigits.toList (List.replicate 32 0) true = some nBytes := by
  decide

def gBytes : List UInt8 := [7]

section Functions

variable (bn : BN) (getDigestOf : List UInt8 → Digest)

/-- `BigNumber(array)`. -/
def Bytes32.toBigNumber (array : Bytes32) : bn.Number :=
  bn.lebin2bn array.bytes

def digestNumber (digest : Digest) : bn.Number :=
  bn.lebin2bn digest.bytes

/-- `ToByteArray<32>`, with its assertion that the number fits. -/
def toByteArray32 (number : bn.Number) : Option Bytes32 :=
  (bn.bn2lebinpad number 32).map fun array => ⟨array.1, array.2⟩

def bigN : bn.Number := bn.lebin2bn nBytes

def bigG : bn.Number := bn.lebin2bn gBytes

def calculateVerifier (username password : List UInt8) (salt : Bytes32) : Option Bytes32 :=
  let credentials := getDigestOf (username ++ [':'.toUInt8] ++ password)
  toByteArray32 bn (bn.modExp (bigG bn)
    (digestNumber bn (getDigestOf (salt.bytes ++ credentials.bytes))) (bigN bn))

/-- The bytes at every second place, from `first` on. -/
def halfOf (first : Nat) (s : List UInt8) : List UInt8 :=
  (List.range 16).map fun i => s.getD (2 * i + first) 0

/-- The offset into the halves of the first byte that is not zero. -/
def interleaveOffset (s : List UInt8) : Nat :=
  let p := (s.takeWhile fun byte => byte = 0).length
  (if p % 2 = 1 then p + 1 else p) / 2

def sha1Interleave (s : Bytes32) : List UInt8 :=
  let hash0 := getDigestOf ((halfOf 0 s.bytes).drop (interleaveOffset s.bytes))
  let hash1 := getDigestOf ((halfOf 1 s.bytes).drop (interleaveOffset s.bytes))
  (List.range 20).flatMap fun i => [hash0.bytes.getD i 0, hash1.bytes.getD i 0]

/-- The hash of `N` combined with the hash of `g`. -/
def ngHash : List UInt8 :=
  List.zipWith (· ^^^ ·) (getDigestOf nBytes).bytes (getDigestOf gBytes).bytes

structure SRP6 where
  used : Bool
  i : Digest
  b : bn.Number
  v : bn.Number
  s : Bytes32
  bigB : Bytes32

/-- The function `_B`. -/
def publicB (b v : bn.Number) : Option Bytes32 :=
  toByteArray32 bn
    (bn.mod (bn.add (bn.modExp (bigG bn) b (bigN bn)) (bn.mul v (bn.setWord 3))) (bigN bn))

/-- The constructor, with the random bytes of `_b`. -/
def SRP6.construct (username : List UInt8) (salt verifier random : Bytes32) :
    Option (SRP6 bn) :=
  (publicB bn (random.toBigNumber bn) (verifier.toBigNumber bn)).map fun bigB =>
    { used := false
      i := getDigestOf username
      b := random.toBigNumber bn
      v := verifier.toBigNumber bn
      s := salt
      bigB := bigB }

/-- The proof `M` of the session key. -/
def keyProof (i : Digest) (s bigA bigB : Bytes32) (k : List UInt8) : Digest :=
  getDigestOf (ngHash getDigestOf ++ i.bytes ++ s.bytes ++ bigA.bytes ++ bigB.bytes ++ k)

/-- `none` if an assertion fails; otherwise the session key, if the response is
accepted, and the object afterwards. -/
def SRP6.verifyChallengeResponse (server : SRP6 bn) (bigA : Bytes32) (clientM : Digest) :
    Option (Option (List UInt8) × SRP6 bn) :=
  if server.used then none
  else
    let server := { server with used := true }
    if bn.isZero (bn.mod (bigA.toBigNumber bn) (bigN bn)) then some (none, server)
    else
      let u := digestNumber bn (getDigestOf (bigA.bytes ++ server.bigB.bytes))
      let power := bn.mul (bigA.toBigNumber bn) (bn.modExp server.v u (bigN bn))
      (toByteArray32 bn (bn.modExp power server.b (bigN bn))).map fun s =>
        let k := sha1Interleave getDigestOf s
        if keyProof getDigestOf server.i server.s bigA server.bigB k = clientM then
          (some k, server)
        else (none, server)

end Functions

section Values

variable {bn : BN} {value : bn.Number → Nat}

theorem value_bigN (documented : bn.Documented value) :
    value (bigN bn) = 0x894B645E89E1535BBDAD5B8B290650530801B18EBFBF5E8FAB3C82872A3E9BB7 := by
  rw [bigN, documented.lebin2bn]
  decide

theorem value_bigG (documented : bn.Documented value) : value (bigG bn) = 7 := by
  rw [bigG, documented.lebin2bn]
  decide

theorem value_bigN_ne_zero (documented : bn.Documented value) : value (bigN bn) ≠ 0 := by
  rw [value_bigN documented]
  decide

/-- The assertion holds for every number modulo `N`. -/
theorem exists_toByteArray32 (documented : bn.Documented value) {number : bn.Number} {rest : Nat}
    (isRest : value number = rest % value (bigN bn)) :
    ∃ array, toByteArray32 bn number = some array ∧
      array.bytes = toBytes 32 (rest % value (bigN bn)) ∧
      value (array.toBigNumber bn) = rest % value (bigN bn) := by
  have small : value (bigN bn) ≤ 256 ^ 32 := by
    rw [value_bigN documented]
    decide
  have fits : rest % value (bigN bn) < 256 ^ 32 :=
    (Nat.mod_lt _ (Nat.pos_of_ne_zero (value_bigN_ne_zero documented))).trans_le small
  obtain ⟨array, written, isArray⟩ := documented.bn2lebinpad number 32 (isRest ▸ fits)
  rw [isRest] at isArray
  refine ⟨⟨array.1, array.2⟩, by rw [toByteArray32, written]; rfl, isArray, ?_⟩
  rw [Bytes32.toBigNumber, documented.lebin2bn]
  exact (congrArg ofBytes isArray).trans (ofBytes_toBytes fits)

end Values

end Crypto

end WarheadBot
