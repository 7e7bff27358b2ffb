import Mathlib.Data.ZMod.Basic
import WarheadBot.KeyAgreement
import WarheadBot.SRP6

/-!
# The client of SRP6

The client is not part of the source.  It is written down here from the protocol, without the
functions of the server: it knows the name and the password, subtracts the masked verifier
from what the server sends, and hashes the halves of the secret from its first byte that is
not zero.  The server accepts exactly the proof of this client.
-/

namespace WarheadBot

namespace Crypto

open Utilities (Digest)
open LittleEndian KeyAgreement

section Places

variable {Value : Type*}

def evenPlaces : List Value → List Value
  | [] => []
  | [first] => [first]
  | first :: _ :: rest => first :: evenPlaces rest

def oddPlaces : List Value → List Value
  | [] => []
  | [_] => []
  | _ :: second :: rest => second :: oddPlaces rest

def alternate : List Value → List Value → List Value
  | first :: firsts, second :: seconds => first :: second :: alternate firsts seconds
  | _, _ => []

end Places

/-- The secret without its leading zeros, and without one byte more if that leaves an odd
number of them. -/
def significant (secret : List UInt8) : List UInt8 :=
  let rest := secret.dropWhile fun byte => byte = 0
  if rest.length % 2 = 1 then rest.tail else rest

/-- A client that follows the protocol, with its secret `a`. -/
structure Client where
  username : List UInt8
  password : List UInt8
  a : Nat

namespace Client

def modulus : Nat := 0x894B645E89E1535BBDAD5B8B290650530801B18EBFBF5E8FAB3C82872A3E9BB7

def generator : Nat := 7

instance : NeZero modulus :=
  ⟨by decide⟩

variable (hash : List UInt8 → Digest) (client : Client) (salt bigB : List UInt8)

/-- The number `x` of the user; a colon is between name and password. -/
def privateKey : Nat :=
  let credentials := hash (client.username ++ [0x3A] ++ client.password)
  ofBytes (hash (salt ++ credentials.bytes)).bytes

def publicKey : Bytes32 :=
  ⟨toBytes 32 (generator ^ client.a % modulus), length_toBytes _ _⟩

/-- The number `u`. -/
def scrambling : Nat :=
  ofBytes (hash (client.publicKey.bytes ++ bigB)).bytes

def secret : ZMod modulus :=
  proverSecret (generator : ZMod modulus) 3 (ofBytes bigB : ZMod modulus)
    (client.privateKey hash salt) client.a (client.scrambling hash bigB)

def sessionKey : List UInt8 :=
  let bytes := significant (toBytes 32 (client.secret hash salt bigB).val)
  alternate (hash (evenPlaces bytes)).bytes (hash (oddPlaces bytes)).bytes

def proof : Digest :=
  let constants := List.zipWith (fun left right => left ^^^ right)
    (hash (toBytes 32 modulus)).bytes (hash [UInt8.ofNat generator]).bytes
  hash (constants ++ (hash client.username).bytes ++ salt ++ client.publicKey.bytes ++ bigB ++
    client.sessionKey hash salt bigB)

end Client

section Interleaving

variable {Value : Type*}

theorem evenPlaces_eq (default : Value) (values : List Value) :
    evenPlaces values =
      (List.range ((values.length + 1) / 2)).map fun i => values.getD (2 * i) default := by
  fun_induction evenPlaces values with
  | case1 => simp
  | case2 first => simp
  | case3 first second rest ih =>
      have length : ((first :: second :: rest).length + 1) / 2 = (rest.length + 1) / 2 + 1 := by
        simp only [List.length_cons]
        omega
      rw [length, List.range_succ_eq_map, List.map_cons, List.map_map, ih]
      congr 1

theorem oddPlaces_eq (default : Value) (values : List Value) :
    oddPlaces values =
      (List.range (values.length / 2)).map fun i => values.getD (2 * i + 1) default := by
  fun_induction oddPlaces values with
  | case1 => simp
  | case2 first => simp
  | case3 first second rest ih =>
      have length : (first :: second :: rest).length / 2 = rest.length / 2 + 1 := by
        simp only [List.length_cons]
        omega
      rw [length, List.range_succ_eq_map, List.map_cons, List.map_map, ih]
      congr 1

theorem evenPlaces_drop (count : Nat) (values : List Value) :
    (evenPlaces values).drop count = evenPlaces (values.drop (2 * count)) := by
  induction count generalizing values with
  | zero => rfl
  | succ count ih =>
      match values with
      | [] => simp [evenPlaces]
      | [_] => simp [evenPlaces, Nat.mul_succ]
      | first :: second :: rest => exact ih rest

theorem oddPlaces_drop (count : Nat) (values : List Value) :
    (oddPlaces values).drop count = oddPlaces (values.drop (2 * count)) := by
  induction count generalizing values with
  | zero => rfl
  | succ count ih =>
      match values with
      | [] => simp [oddPlaces]
      | [_] => simp [oddPlaces, Nat.mul_succ]
      | first :: second :: rest => exact ih rest

theorem alternate_eq (default : Value) {firsts seconds : List Value} {size : Nat}
    (firstSize : firsts.length = size) (secondSize : seconds.length = size) :
    alternate firsts seconds =
      (List.range size).flatMap fun i => [firsts.getD i default, seconds.getD i default] := by
  induction size generalizing firsts seconds with
  | zero =>
      rw [List.length_eq_zero_iff] at firstSize
      rw [firstSize]
      rfl
  | succ size ih =>
      obtain ⟨first, firsts, rfl⟩ := List.exists_cons_of_length_eq_add_one firstSize
      obtain ⟨second, seconds, rfl⟩ := List.exists_cons_of_length_eq_add_one secondSize
      rw [alternate, ih (Nat.succ.inj firstSize) (Nat.succ.inj secondSize),
        List.range_succ_eq_map, List.flatMap_cons, List.flatMap_map]
      rfl

/-- What the offset skips is what the client leaves out. -/
theorem drop_interleaveOffset {s : List UInt8} (size : s.length = 32) :
    s.drop (2 * interleaveOffset s) = significant s := by
  have split := @List.takeWhile_append_dropWhile _ (fun byte : UInt8 => decide (byte = 0)) s
  have rest : s.drop (s.takeWhile fun byte => byte = 0).length =
      s.dropWhile fun byte => byte = 0 := by
    conv_lhs =>
      arg 2
      rw [← split]
    exact List.drop_left
  have lengths := congrArg List.length split
  rw [List.length_append, size] at lengths
  unfold significant interleaveOffset
  dsimp only
  rw [← rest]
  rw [List.length_drop, size]
  generalize (s.takeWhile fun byte => byte = 0).length = p at lengths
  have bound : p ≤ 32 := by omega
  by_cases odd : p % 2 = 1
  · have next : 2 * ((p + 1) / 2) = p + 1 := by omega
    rw [if_pos odd, if_pos (by omega), next, List.tail_drop]
  · have same : 2 * (p / 2) = p := by omega
    rw [if_neg odd, if_neg (by omega), same]

theorem sha1Interleave_eq (hash : List UInt8 → Digest) (s : Bytes32) :
    sha1Interleave hash s =
      alternate (hash (evenPlaces (significant s.bytes))).bytes
        (hash (oddPlaces (significant s.bytes))).bytes := by
  have even : halfOf 0 s.bytes = evenPlaces s.bytes := by
    rw [evenPlaces_eq 0, s.size]
    rfl
  have odd : halfOf 1 s.bytes = oddPlaces s.bytes := by
    rw [oddPlaces_eq 0, s.size]
    rfl
  rw [sha1Interleave, even, odd, evenPlaces_drop, oddPlaces_drop, drop_interleaveOffset s.size]
  exact (alternate_eq 0 (hash _).size (hash _).size).symm

end Interleaving

section Agreement

variable {bn : BN} {value : bn.Number → Nat} (hash : List UInt8 → Digest) (client : Client)

/-- The verifier is a power of the generator. -/
theorem exists_verifier (documented : bn.Documented value) (salt : Bytes32) :
    ∃ verifier, calculateVerifier bn hash client.username client.password salt =
        some verifier ∧
      value (verifier.toBigNumber bn) =
        Client.generator ^ client.privateKey hash salt.bytes % Client.modulus := by
  have power := documented.modExp (bigG bn)
    (digestNumber bn (hash (salt.bytes ++
      (hash (client.username ++ [':'.toUInt8] ++ client.password)).bytes)))
    (bigN bn) (value_bigN_ne_zero documented)
  obtain ⟨verifier, registered, -, isVerifier⟩ := exists_toByteArray32 documented power
  refine ⟨verifier, registered, isVerifier.trans ?_⟩
  rw [digestNumber, documented.lebin2bn, value_bigG documented, value_bigN documented,
    Client.privateKey, Client.generator, Client.modulus]
  rfl

/-- The server sends the masked verifier. -/
theorem exists_publicB (documented : bn.Documented value) (b v : bn.Number) :
    ∃ bigB, publicB bn b v = some bigB ∧
      ofBytes bigB.bytes =
        (Client.generator ^ value b % Client.modulus + value v * 3) % Client.modulus := by
  have masked := documented.mod
    (bn.add (bn.modExp (bigG bn) b (bigN bn)) (bn.mul v (bn.setWord 3))) (bigN bn)
    (value_bigN_ne_zero documented)
  obtain ⟨bigB, sent, -, isB⟩ := exists_toByteArray32 documented masked
  refine ⟨bigB, sent, ?_⟩
  rw [Bytes32.toBigNumber, documented.lebin2bn] at isB
  rw [isB, documented.add, documented.mul, documented.setWord,
    documented.modExp _ _ _ (value_bigN_ne_zero documented), value_bigG documented,
    value_bigN documented]
  rfl

/-- What the server computes from the public key of the client is the secret of the client. -/
theorem secret_eq {salt bigB : List UInt8} {verifier b : Nat}
    (isVerifier : verifier =
      Client.generator ^ client.privateKey hash salt % Client.modulus)
    (isB : ofBytes bigB =
      (Client.generator ^ b % Client.modulus + verifier * 3) % Client.modulus) :
    (Client.generator ^ client.a % Client.modulus *
      (verifier ^ client.scrambling hash bigB % Client.modulus)) ^ b % Client.modulus =
        (client.secret hash salt bigB).val := by
  have verifierPower : ((verifier : Nat) : ZMod Client.modulus) =
      (Client.generator : ZMod Client.modulus) ^ client.privateKey hash salt := by
    rw [isVerifier, ZMod.natCast_mod, Nat.cast_pow]
  have masked : ((ofBytes bigB : Nat) : ZMod Client.modulus) =
      maskedPower (Client.generator : ZMod Client.modulus) 3
        ((Client.generator : ZMod Client.modulus) ^ client.privateKey hash salt) b := by
    rw [isB, ZMod.natCast_mod, Nat.cast_add, ZMod.natCast_mod, Nat.cast_pow, Nat.cast_mul,
      verifierPower, maskedPower, add_comm, mul_comm]
    rfl
  have agreed : (((Client.generator ^ client.a % Client.modulus *
      (verifier ^ client.scrambling hash bigB % Client.modulus)) ^ b : Nat) :
        ZMod Client.modulus) = client.secret hash salt bigB := by
    rw [Client.secret, masked, ← secrets_agree, verifierSecret, Nat.cast_pow, Nat.cast_mul,
      ZMod.natCast_mod, ZMod.natCast_mod, Nat.cast_pow, Nat.cast_pow, verifierPower]
  rw [← agreed, ZMod.val_natCast]

/-- No power of the generator is a multiple of the modulus. -/
theorem generator_pow_mod_ne_zero (exponent : Nat) :
    Client.generator ^ exponent % Client.modulus ≠ 0 := by
  intro multiple
  have coprime : Nat.Coprime Client.modulus Client.generator := by
    decide
  have divides : Client.modulus ∣ Client.generator ^ exponent := Nat.dvd_of_mod_eq_zero multiple
  have one := Nat.Coprime.eq_one_of_dvd (coprime.pow_right exponent) divides
  exact absurd one (by decide)

theorem keyProof_eq (salt bigB : Bytes32) {k : List UInt8}
    (isKey : k = client.sessionKey hash salt.bytes bigB.bytes) :
    keyProof hash (hash client.username) salt client.publicKey bigB k =
      client.proof hash salt.bytes bigB.bytes := by
  have isN : nBytes = toBytes 32 Client.modulus := by decide
  rw [keyProof, ngHash, isKey, isN]
  rfl

/-- The server finds a multiple of the modulus. -/
theorem isZero_iff (documented : bn.Documented value) (bigA : Bytes32) :
    bn.isZero (bn.mod (bigA.toBigNumber bn) (bigN bn)) = true ↔
      Client.modulus ∣ ofBytes bigA.bytes := by
  rw [documented.isZero, documented.mod _ _ (value_bigN_ne_zero documented),
    value_bigN documented, Bytes32.toBigNumber, documented.lebin2bn, Nat.dvd_iff_mod_eq_zero,
    Client.modulus]

theorem value_publicKey (documented : bn.Documented value) :
    value (client.publicKey.toBigNumber bn) = Client.generator ^ client.a % Client.modulus := by
  have small : Client.modulus ≤ 256 ^ 32 := by decide
  have fits : Client.generator ^ client.a % Client.modulus < 256 ^ 32 :=
    (Nat.mod_lt _ (by decide)).trans_le small
  rw [Bytes32.toBigNumber, documented.lebin2bn]
  exact ofBytes_toBytes fits

/-- The server accepts the proof of the client and no other one. -/
theorem verifyChallengeResponse_client (documented : bn.Documented value) {server : SRP6 bn}
    (unused : server.used = false) (isUser : server.i = hash client.username)
    (isVerifier : value server.v =
      Client.generator ^ client.privateKey hash server.s.bytes % Client.modulus)
    (isB : ofBytes server.bigB.bytes =
      (Client.generator ^ value server.b % Client.modulus + value server.v * 3) %
        Client.modulus) (clientM : Digest) :
    server.verifyChallengeResponse bn hash client.publicKey clientM =
      some (if clientM = client.proof hash server.s.bytes server.bigB.bytes then
          some (client.sessionKey hash server.s.bytes server.bigB.bytes) else none,
        { server with used := true }) := by
  have nonzero : ¬ bn.isZero (bn.mod (client.publicKey.toBigNumber bn) (bigN bn)) = true := by
    rw [isZero_iff documented, ← documented.lebin2bn]
    change ¬ Client.modulus ∣ value (client.publicKey.toBigNumber bn)
    rw [value_publicKey client documented, Nat.dvd_mod_iff (dvd_refl _), Nat.dvd_iff_mod_eq_zero]
    exact generator_pow_mod_ne_zero client.a
  have nonzeroN := value_bigN_ne_zero documented
  have power := documented.modExp
    (bn.mul (client.publicKey.toBigNumber bn)
      (bn.modExp server.v
        (digestNumber bn (hash (client.publicKey.bytes ++ server.bigB.bytes))) (bigN bn)))
    server.b (bigN bn) nonzeroN
  obtain ⟨s, stored, isSecret, -⟩ := exists_toByteArray32 documented power
  have modulus : value (bigN bn) = Client.modulus := value_bigN documented
  have scrambling :
      value (digestNumber bn (hash (client.publicKey.bytes ++ server.bigB.bytes))) =
        client.scrambling hash server.bigB.bytes := documented.lebin2bn _
  rw [documented.mul, documented.modExp _ _ _ nonzeroN, modulus, scrambling,
    value_publicKey client documented, secret_eq hash client isVerifier isB] at isSecret
  have isKey : sha1Interleave hash s =
      client.sessionKey hash server.s.bytes server.bigB.bytes := by
    rw [sha1Interleave_eq, isSecret]
    rfl
  have isProof := keyProof_eq hash client server.s server.bigB isKey
  unfold SRP6.verifyChallengeResponse
  dsimp only
  rw [if_neg (by rw [unused]; exact Bool.false_ne_true), if_neg nonzero, stored, Option.map_some,
    isUser, isProof, isKey]
  by_cases accepted : clientM = client.proof hash server.s.bytes server.bigB.bytes
  · rw [if_pos accepted.symm, if_pos accepted]
  · rw [if_neg (Ne.symm accepted), if_neg accepted]

end Agreement

/-- For every hash function, user and choice of secrets: no assertion fails when the user is
registered and the server object is made; it accepts exactly the proof of the client that
knows the password, and gives the session key of that client; a public key that is a multiple
of `N` is refused with every proof. -/
theorem honest_client_accepted {bn : BN} {value : bn.Number → Nat}
    (documented : bn.Documented value) (hash : List UInt8 → Digest) (client : Client)
    (salt random : Bytes32) :
    ∃ verifier server,
      calculateVerifier bn hash client.username client.password salt = some verifier ∧
      SRP6.construct bn hash client.username salt verifier random = some server ∧
      (∀ clientM, server.verifyChallengeResponse bn hash client.publicKey clientM =
        some (if clientM = client.proof hash salt.bytes server.bigB.bytes then
            some (client.sessionKey hash salt.bytes server.bigB.bytes) else none,
          { server with used := true })) ∧
      ∀ other clientM, Client.modulus ∣ ofBytes other.bytes →
        server.verifyChallengeResponse bn hash other clientM =
          some (none, { server with used := true }) := by
  obtain ⟨verifier, registered, isVerifier⟩ := exists_verifier hash client documented salt
  obtain ⟨bigB, sent, isB⟩ := exists_publicB documented (random.toBigNumber bn)
    (verifier.toBigNumber bn)
  have constructed : SRP6.construct bn hash client.username salt verifier random =
      some ⟨false, hash client.username, random.toBigNumber bn, verifier.toBigNumber bn, salt,
        bigB⟩ := by
    rw [SRP6.construct, sent, Option.map_some]
  refine ⟨verifier, _, registered, constructed, ?_, ?_⟩
  · exact verifyChallengeResponse_client hash client documented rfl rfl isVerifier isB
  · intro other clientM multiple
    unfold SRP6.verifyChallengeResponse
    dsimp only
    rw [if_neg Bool.false_ne_true, if_pos ((isZero_iff documented other).mpr multiple)]

/-- The functions on the natural numbers. -/
def plainBN : BN where
  Number := Nat
  lebin2bn := ofBytes
  bn2lebinpad number size :=
    if number < 256 ^ size then some ⟨toBytes size number, length_toBytes size number⟩ else none
  setWord := UInt32.toNat
  add left right := left + right
  mul left right := left * right
  mod number modulus := number % modulus
  modExp base exponent modulus := base ^ exponent % modulus
  isZero (number : Nat) := number == 0

theorem documented_plainBN : plainBN.Documented id where
  lebin2bn _ := rfl
  bn2lebinpad _ _ fits := ⟨_, if_pos fits, rfl⟩
  tooSmall _ _ tooSmall := if_neg (not_lt.mpr tooSmall)
  setWord _ := rfl
  add _ _ := rfl
  mul _ _ := rfl
  mod _ _ _ := rfl
  modExp _ _ _ _ := rfl
  isZero _ := beq_iff_eq

/-- A digest that has the number of bytes in its first one. -/
def lengthDigest (bytes : List UInt8) : Digest :=
  ⟨UInt8.ofNat bytes.length :: List.replicate 19 0, by simp⟩

def exampleClient : Client := ⟨[0x41, 0x42], [0x43], 5⟩

def exampleBytes : Bytes32 := ⟨List.replicate 32 9, by simp⟩

/-- The proof of the client is accepted, and one that is no digest of this kind is not. -/
theorem honest_client_accepted_example :
    ∃ verifier server,
      calculateVerifier plainBN lengthDigest exampleClient.username exampleClient.password
        exampleBytes = some verifier ∧
      SRP6.construct plainBN lengthDigest exampleClient.username exampleBytes verifier
        exampleBytes = some server ∧
      (server.verifyChallengeResponse plainBN lengthDigest exampleClient.publicKey
        (exampleClient.proof lengthDigest exampleBytes.bytes server.bigB.bytes)).map Prod.fst =
          some (some (exampleClient.sessionKey lengthDigest exampleBytes.bytes
            server.bigB.bytes)) ∧
      (server.verifyChallengeResponse plainBN lengthDigest exampleClient.publicKey
        ⟨List.replicate 20 1, by simp⟩).map Prod.fst = some none := by
  obtain ⟨verifier, server, registered, constructed, accepted, -⟩ :=
    honest_client_accepted documented_plainBN lengthDigest exampleClient exampleBytes exampleBytes
  have other : (⟨List.replicate 20 1, by simp⟩ : Digest) ≠
      exampleClient.proof lengthDigest exampleBytes.bytes server.bigB.bytes := by
    intro same
    have lastBytes : List.replicate 19 (1 : UInt8) = List.replicate 19 0 :=
      congrArg (fun digest => digest.bytes.tail) same
    exact absurd lastBytes (by decide)
  refine ⟨verifier, server, registered, constructed, ?_, ?_⟩
  · rw [accepted, if_pos rfl]
    rfl
  · rw [accepted, if_neg other]
    rfl

end Crypto

end WarheadBot
