import WarheadBot.Config
import WarheadBot.SignedLoop

/-!
# Hexadecimal strings of byte arrays

`ByteArrayToHexStr` and `HexStrToByteArray` go through their arrays with an index of 32
bits, forwards or backwards.  The hash of an update is such a string.
-/

namespace WarheadBot

namespace Utilities

open Config (Text isspace)
open SignedLoop (sizeSub toInt32 at? loop at?_natCast loop_cells_eq)

/-- A digit of `%X`. -/
def hexDigit (value : Nat) : Char :=
  "0123456789ABCDEF".toList.getD value '0'

/-- What `%02X` writes for a byte. -/
def hexByte (byte : UInt8) : Text :=
  [hexDigit (byte.toNat / 16), hexDigit (byte.toNat % 16)]

def digitValue (char : Char) : Option Nat :=
  if '0' ≤ char ∧ char ≤ '9' then some (char.toNat - '0'.toNat)
  else if 'A' ≤ char ∧ char ≤ 'F' then some (char.toNat - 'A'.toNat + 10)
  else if 'a' ≤ char ∧ char ≤ 'f' then some (char.toNat - 'a'.toNat + 10)
  else none

/-- The number that the digits at the beginning of a text stand for. -/
def magnitude (value : Nat) : Text → Nat
  | [] => value
  | char :: text =>
      match digitValue char with
      | some digit => magnitude (value * 16 + digit) text
      | none => value

/-- `0x` is skipped if a digit follows it. -/
def skipPrefix : Text → Text
  | '0' :: x :: char :: text =>
      if (x = 'x' ∨ x = 'X') ∧ (digitValue char).isSome then char :: text
      else '0' :: x :: char :: text
  | text => text

/-- `strtoul` with base 16, on what is before the terminator. -/
def strtoul (text : Text) : Nat :=
  let number := fun rest => min (magnitude 0 (skipPrefix rest)) (2 ^ 64 - 1)
  match (text.takeWhile fun char => char ≠ '\x00').dropWhile isspace with
  | '-' :: rest => (2 ^ 64 - number rest) % 2 ^ 64
  | '+' :: rest => number rest
  | rest => number rest

def byteArrayToHexStr (fuel : Nat) (bytes : List UInt8) (reverse : Bool) : Option Text :=
  let init := if reverse then toInt32 (sizeSub bytes.length 1) else 0
  let finish := if reverse then -1 else toInt32 bytes.length
  let op := if reverse then -1 else 1
  loop (fun i ss => (at? bytes i).map fun byte => ss ++ hexByte byte) finish op fuel init []

/-- One round of the loop: two characters are read, and one byte is written. -/
def readHexByte (str : Text) (i : Int) : Nat × List UInt8 → Option (Nat × List UInt8)
  | (j, out) =>
      (at? str i).bind fun first => (at? str (i + 1)).bind fun second =>
        if j < out.length then
          some ((j + 1) % 2 ^ 32, out.set j (UInt8.ofNat (strtoul [first, second])))
        else none

/-- There is no result if something outside of the string or of the output is read or
written. -/
def hexStrToByteArray (fuel : Nat) (str : Text) (out : List UInt8) (reverse : Bool) :
    Option (List UInt8) :=
  let init := if reverse then toInt32 (sizeSub str.length 2) else 0
  let finish := if reverse then -2 else toInt32 str.length
  let op := if reverse then -1 else 1
  (loop (readHexByte str) finish (2 * op) fuel init (0, out)).map Prod.snd

theorem strtoul_digits : ∀ high < 16, ∀ low < 16,
    strtoul [hexDigit high, hexDigit low] = 16 * high + low := by
  decide

/-- The string of an array whose bytes are visited in their order. -/
def hexText (bytes : List UInt8) : Text :=
  bytes.flatMap hexByte

theorem hexText_append_singleton (bytes : List UInt8) (byte : UInt8) :
    hexText (bytes ++ [byte]) = hexText bytes ++ hexByte byte := by
  rw [hexText, List.flatMap_append, List.flatMap_singleton, ← hexText]

theorem length_hexText (bytes : List UInt8) : (hexText bytes).length = 2 * bytes.length := by
  induction bytes with
  | nil => rfl
  | cons byte bytes ih =>
      rw [hexText, List.flatMap_cons, List.length_append, ← hexText, ih, List.length_cons, hexByte]
      simp only [List.length_cons, List.length_nil]
      omega

/-- The two characters at a place of the string are those of the byte at that place. -/
theorem hexText_getElem? {bytes : List UInt8} {place : Nat} {byte : UInt8}
    (there : bytes[place]? = some byte) :
    (hexText bytes)[2 * place]? = some (hexDigit (byte.toNat / 16)) ∧
      (hexText bytes)[2 * place + 1]? = some (hexDigit (byte.toNat % 16)) := by
  induction bytes generalizing place with
  | nil => exact nomatch there
  | cons first bytes ih =>
      rw [hexText, List.flatMap_cons, ← hexText, hexByte]
      cases place with
      | zero =>
          obtain rfl : first = byte := Option.some.inj there
          exact ⟨rfl, rfl⟩
      | succ place => exact ih there

theorem strtoul_byte (byte : UInt8) :
    UInt8.ofNat (strtoul [hexDigit (byte.toNat / 16), hexDigit (byte.toNat % 16)]) = byte := by
  have bound := byte.toNat_lt
  rw [strtoul_digits _ (by omega) _ (by omega), Nat.div_add_mod, UInt8.ofNat_toNat]

/-- The bytes in the order in which they are written to the string. -/
def visited (bytes : List UInt8) (reverse : Bool) : List UInt8 :=
  if reverse then bytes.reverse else bytes

theorem length_visited (bytes : List UInt8) (reverse : Bool) :
    (visited bytes reverse).length = bytes.length := by
  cases reverse with
  | false => rfl
  | true => exact List.length_reverse

/-- The place in the string where the byte of a round is read. -/
def placeOf (bytes : List UInt8) (reverse : Bool) (round : Nat) : Nat :=
  if reverse then bytes.length - 1 - round else round

theorem getElem?_placeOf {bytes : List UInt8} (reverse : Bool) {round : Nat}
    (early : round < bytes.length) :
    bytes[placeOf bytes reverse round]? = (visited bytes reverse)[round]? := by
  cases reverse with
  | false => rfl
  | true => exact (List.getElem?_reverse early).symm

theorem visited_placeOf {bytes : List UInt8} (reverse : Bool) {round : Nat}
    (early : round < bytes.length) :
    (visited bytes reverse)[placeOf bytes reverse round]? = bytes[round]? := by
  cases reverse with
  | false => rfl
  | true =>
      have behind : bytes.length - 1 - round < bytes.length := by omega
      have back : bytes.length - 1 - (bytes.length - 1 - round) = round := by omega
      exact (List.getElem?_reverse behind).trans (congrArg (bytes[·]?) back)

/-- A round reads the byte of its place, and writes it behind the ones before. -/
theorem readHexByte_eq {bytes out : List UInt8} {visits : List UInt8} {place round : Nat}
    {byte : UInt8} (there : visits[place]? = some byte) (early : round < out.length)
    (few : out.length < 2 ^ 30) (written : bytes.length = round) :
    readHexByte (hexText visits) (2 * place : Nat) (round, bytes ++ out.drop round) =
      some (round + 1, bytes ++ [byte] ++ out.drop (round + 1)) := by
  obtain ⟨high, low⟩ := hexText_getElem? there
  have size : (bytes ++ out.drop round).length = out.length := by
    rw [List.length_append, List.length_drop]
    omega
  have next : ((2 * place : Nat) : Int) + 1 = (2 * place + 1 : Nat) := rfl
  rw [readHexByte, next, at?_natCast, at?_natCast, high, low, Option.bind_some, Option.bind_some,
    if_pos (by omega), strtoul_byte, Nat.mod_eq_of_lt (by omega),
    List.set_append_right _ _ written.le, written, Nat.sub_self, List.drop_eq_getElem_cons early,
    List.set_cons_zero, List.append_assoc, List.singleton_append]

section Array

variable {bytes : List UInt8} (short : bytes.length < 2 ^ 30) {fuel : Nat}
  (enough : bytes.length < fuel) (reverse : Bool)

include short enough

theorem byteArrayToHexStr_eq :
    byteArrayToHexStr fuel bytes reverse = some (hexText (visited bytes reverse)) := by
  have rounds : ∀ round < bytes.length,
      (at? bytes (placeOf bytes reverse round * 1 : Nat)).map
          (fun byte => hexText ((visited bytes reverse).take round) ++ hexByte byte) =
        some (hexText ((visited bytes reverse).take (round + 1))) := by
    intro round early
    have there := List.getElem?_eq_getElem ((length_visited bytes reverse).symm ▸ early)
    rw [Nat.mul_one, at?_natCast, getElem?_placeOf reverse early, there, Option.map_some,
      List.take_add_one, there, Option.toList_some, hexText_append_singleton]
  have run := @loop_cells_eq _ (fun i ss => (at? bytes i).map fun byte => ss ++ hexByte byte)
    (fun round => hexText ((visited bytes reverse).take round)) bytes.length 1 (by decide)
    (by decide) (by omega) reverse rounds fuel enough
  rw [Nat.mul_one, List.take_of_length_le (length_visited bytes reverse).le] at run
  exact run

/-- The bytes are read back in the order in which they are in the array. -/
theorem hexStrToByteArray_hexText {out : List UInt8} (sameSize : out.length = bytes.length) :
    hexStrToByteArray fuel (hexText (visited bytes reverse)) out reverse = some bytes := by
  have size := length_hexText (visited bytes reverse)
  rw [length_visited] at size
  have rounds : ∀ round < bytes.length,
      readHexByte (hexText (visited bytes reverse)) (placeOf bytes reverse round * 2 : Nat)
          (round, bytes.take round ++ out.drop round) =
        some (round + 1, bytes.take (round + 1) ++ out.drop (round + 1)) := by
    intro round early
    have there := List.getElem?_eq_getElem early
    have visit := (visited_placeOf reverse early).trans there
    rw [Nat.mul_comm, readHexByte_eq visit (by omega) (by omega)
      (List.length_take_of_le early.le), List.take_add_one, there, Option.toList_some]
  have run := @loop_cells_eq _ (readHexByte (hexText (visited bytes reverse)))
    (fun round => (round, bytes.take round ++ out.drop round)) bytes.length 2 (by decide)
    (by decide) (by omega) reverse rounds fuel enough
  have step : 2 * (if reverse then -1 else 1 : Int) = if reverse then -2 else 2 := by
    cases reverse <;> rfl
  unfold hexStrToByteArray
  dsimp only
  rw [step, size, Nat.mul_comm]
  refine (congrArg (Option.map Prod.snd) run).trans ?_
  rw [Option.map_some, List.take_length, List.drop_of_length_le sameSize.le, List.append_nil]

end Array

/-- A digest of SHA-1. -/
structure Digest where
  bytes : List UInt8
  size : bytes.length = 20
  deriving DecidableEq

/-- The hash of an update, from the text of its file. -/
def updateHash (getDigestOf : String → Digest) (content : String) : Option Text :=
  byteArrayToHexStr 21 (getDigestOf content).bytes false

theorem Digest.size_lt (digest : Digest) : digest.bytes.length < 21 :=
  digest.size.trans_lt (Nat.lt_succ_self 20)

theorem Digest.short (digest : Digest) : digest.bytes.length < 2 ^ 30 :=
  digest.size_lt.trans (by decide)

theorem updateHash_eq (getDigestOf : String → Digest) (content : String) :
    updateHash getDigestOf content = some (hexText (getDigestOf content).bytes) :=
  byteArrayToHexStr_eq (getDigestOf content).short (getDigestOf content).size_lt false

/-- Different digests have different strings, since both can be read back. -/
theorem hexText_injective {first second : Digest}
    (same : hexText first.bytes = hexText second.bytes) : first = second := by
  have readFirst := @hexStrToByteArray_hexText first.bytes first.short 21 first.size_lt false
    first.bytes rfl
  have readSecond := @hexStrToByteArray_hexText second.bytes second.short 21 second.size_lt false
    first.bytes (first.size.trans second.size.symm)
  rw [show visited first.bytes false = first.bytes from rfl, same] at readFirst
  obtain ⟨bytes, size⟩ := first
  obtain ⟨otherBytes, otherSize⟩ := second
  obtain rfl : bytes = otherBytes := Option.some.inj (readFirst.symm.trans readSecond)
  rfl

/-- The string of an array is read back in the same direction, and updates with different
digests have different hashes. -/
theorem hexStrToByteArray_byteArrayToHexStr :
    (∀ (bytes : List UInt8) (reverse : Bool), bytes.length < 2 ^ 30 →
      ∃ str, (∀ fuel, bytes.length < fuel → byteArrayToHexStr fuel bytes reverse = some str) ∧
        ∀ (out : List UInt8) (fuel : Nat), out.length = bytes.length → bytes.length < fuel →
          hexStrToByteArray fuel str out reverse = some bytes) ∧
    ∀ (getDigestOf : String → Digest) (content other : String),
      getDigestOf content ≠ getDigestOf other →
        updateHash getDigestOf content ≠ updateHash getDigestOf other := by
  constructor
  · intro bytes reverse short
    exact ⟨hexText (visited bytes reverse),
      fun fuel enough => byteArrayToHexStr_eq short enough reverse,
      fun out fuel sameSize enough => hexStrToByteArray_hexText short enough reverse sameSize⟩
  · intro getDigestOf content other different same
    rw [updateHash_eq, updateHash_eq] at same
    exact different (hexText_injective (Option.some.inj same))

def exampleDigestOf (content : String) : Digest :=
  ⟨List.replicate 20 (if content = "SELECT 1;" then 1 else 16), List.length_replicate⟩

/-- Backwards, the last byte comes first. -/
theorem hexStrToByteArray_example :
    byteArrayToHexStr 4 [1, 171, 255] true = some "FFAB01".toList ∧
      hexStrToByteArray 4 "FFAB01".toList [0, 0, 0] true = some [1, 171, 255] ∧
      updateHash exampleDigestOf "SELECT 1;" ≠ updateHash exampleDigestOf "SELECT 2;" := by
  obtain ⟨str, written, read⟩ :=
    hexStrToByteArray_byteArrayToHexStr.1 [1, 171, 255] true (by decide)
  have text : byteArrayToHexStr 4 [1, 171, 255] true = some "FFAB01".toList := by decide
  obtain rfl : str = "FFAB01".toList :=
    Option.some.inj ((written 4 (by decide)).symm.trans text)
  exact ⟨text, read [0, 0, 0] 4 rfl (by decide),
    hexStrToByteArray_byteArrayToHexStr.2 exampleDigestOf _ _ (by decide)⟩

end Utilities

end WarheadBot
