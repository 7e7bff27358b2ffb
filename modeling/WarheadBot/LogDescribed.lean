import Mathlib.Data.List.Basic
import WarheadBot.Log

/-!
# What an option of the log describes

The options of a logger are a level and channels, those of a channel a type, a level, a
pattern and up to four more.  Levels and types are decimal numbers, which may begin with
zeros; the level is one of a list.
-/

namespace WarheadBot

namespace Logging

open Config (ConfigMgr Text)
open Fields (Width inRange stringToInteger)
open MySQL (tokenize)

/-- The digits are those of the number, after some zeros. -/
def isNumeral (digits : List Char) (number : Nat) : Bool :=
  digits = (Nat.toDigits 10 number).leftpad digits.length '0'

/-- The number up to `most` that the digits are. -/
def describedNumber (most : Nat) (digits : List Char) : Option Nat :=
  (List.range (most + 1)).find? (isNumeral digits)

/-- The levels in the order of their numbers. -/
def documentedLevels : List LogLevel :=
  [.disabled, .fatal, .critical, .error, .warning, .info, .debug, .trace]

def describedLevel (token : String) : Option LogLevel :=
  (describedNumber 7 token.toList).bind (documentedLevels[·]?)

/-- The number of a type fits into a signed byte. -/
def describedType (token : String) : Option Int :=
  if token.toList.head? = some '-' then
    (describedNumber 128 token.toList.tail).map fun (magnitude : Nat) => -(magnitude : Int)
  else (describedNumber 127 token.toList).map fun (magnitude : Nat) => (magnitude : Int)

namespace Log

variable {Channel : Type}

/-- The channel that its option describes, if it can be created. -/
def describedChannel (createFunctions : Int → Option (ChannelCreateFn Channel))
    (logsDir : Text) (configMgr : ConfigMgr) (name : Text) : Option Channel := do
  let options ← configMgr.configOptions.lookup (prefixChannel ++ name)
  let tokens := tokenize (String.ofList options) ',' true
  let type ← tokens[0]?.bind describedType
  let createFunction ← createFunctions type
  let level ← tokens[1]?.bind describedLevel
  let pattern ← tokens[2]?
  if pattern = "" ∨ 7 < tokens.length then none
  else (createFunction logsDir (prefixChannel ++ name) level pattern.toList tokens).toOption

/-- The logger that its option describes, with those of its channels that there are. -/
def describedLogger (channels : Text → Option Channel) (configMgr : ConfigMgr) (name : Text) :
    Option (Logger Channel) := do
  let options ← configMgr.configOptions.lookup (prefixLogger ++ name)
  match tokenize (String.ofList options) ',' true with
  | [levelToken, channelTokens] =>
      (describedLevel levelToken).map fun level =>
        ⟨name, level, (tokenize channelTokens ' ' false).filterMap fun channelName =>
          channels channelName.toList⟩
  | _ => none

end Log

section Numerals

variable {digits : List Char} {number : Nat}

theorem isNumeral_iff_exists :
    isNumeral digits number = true ↔
      ∃ zeros, digits = List.replicate zeros '0' ++ Nat.toDigits 10 number := by
  rw [isNumeral, decide_eq_true_iff, List.leftpad]
  constructor
  · intro padded
    exact ⟨_, padded⟩
  · rintro ⟨zeros, rfl⟩
    simp

/-- A digit is written as itself. -/
theorem exists_digitChar {char : Char} (isDigit : char.isDigit = true) :
    ∃ digit, digit < 10 ∧ Nat.digitChar digit = char ∧ char.toNat - '0'.toNat = digit := by
  simp only [Char.isDigit, Bool.and_eq_true, decide_eq_true_eq, UInt32.le_iff_toNat_le] at isDigit
  have lower : 48 ≤ char.toNat := isDigit.1
  have upper : char.toNat ≤ 57 := isDigit.2
  have zero : '0'.toNat = 48 := rfl
  have small : char.toNat - 48 < 10 := by omega
  refine ⟨char.toNat - 48, small, ?_, by rw [zero]⟩
  apply Char.toNat_inj.mp
  have value := Nat.toNat_digitChar_sub_48_of_lt_ten small
  have least : 48 ≤ (Nat.digitChar (char.toNat - 48)).toNat := by
    have written := @Nat.isDigit_digitChar (char.toNat - 48)
    rw [decide_eq_true small] at written
    simp only [Char.isDigit, Bool.and_eq_true, decide_eq_true_eq,
      UInt32.le_iff_toNat_le] at written
    exact written.1
  omega

/-- Digits are those of their value, after some zeros. -/
theorem isNumeral_ofDigitChars (nonempty : digits ≠ [])
    (isDigit : digits.all Char.isDigit = true) :
    isNumeral digits (Nat.ofDigitChars 10 digits 0) = true := by
  induction digits using List.reverseRecOn with
  | nil => exact absurd rfl nonempty
  | append_singleton digits last ih =>
      rw [List.all_append, Bool.and_eq_true, List.all_cons, List.all_nil, Bool.and_true] at isDigit
      obtain ⟨digit, small, rfl, -⟩ := exists_digitChar isDigit.2
      rw [isNumeral_iff_exists, Nat.ofDigitChars_append,
        Nat.ofDigitChars_cons_digitChar_of_lt_ten small, Nat.ofDigitChars_nil]
      by_cases first : digits = []
      · subst first
        refine ⟨0, ?_⟩
        rw [Nat.ofDigitChars_nil, Nat.mul_zero, Nat.zero_add, Nat.toDigits_of_lt_base small]
        rfl
      · obtain ⟨zeros, before⟩ := isNumeral_iff_exists.mp (ih first isDigit.1)
        rcases Nat.eq_zero_or_pos (Nat.ofDigitChars 10 digits 0) with zero | positive
        · refine ⟨zeros + 1, ?_⟩
          rw [zero, Nat.toDigits_zero] at before
          rw [zero, Nat.mul_zero, Nat.zero_add, Nat.toDigits_of_lt_base small, before,
            List.replicate_succ']
        · refine ⟨zeros, ?_⟩
          rw [← Nat.toDigits_append_toDigits (by omega) positive small, ← List.append_assoc,
            ← before, Nat.toDigits_of_lt_base small]

theorem isNumeral_iff :
    isNumeral digits number = true ↔
      digits ≠ [] ∧ digits.all Char.isDigit = true ∧ Nat.ofDigitChars 10 digits 0 = number := by
  constructor
  · intro numeral
    obtain ⟨zeros, rfl⟩ := isNumeral_iff_exists.mp numeral
    refine ⟨List.append_ne_nil_of_right_ne_nil _ Nat.toDigits_ne_nil, ?_, ?_⟩
    · rw [List.all_eq_true]
      intro char member
      rcases List.mem_append.mp member with zero | digit
      · rw [(List.mem_replicate.mp zero).2]
        rfl
      · exact Nat.isDigit_of_mem_toDigits (by omega) (by omega) digit
    · rw [Nat.ofDigitChars_append, Nat.ofDigitChars_replicate_zero, Nat.mul_zero,
        Nat.ofDigitChars_ten_toDigits]
  · rintro ⟨nonempty, isDigit, rfl⟩
    exact isNumeral_ofDigitChars nonempty isDigit

theorem describedNumber_eq (most : Nat) (digits : List Char) :
    describedNumber most digits =
      if (digits ≠ [] ∧ digits.all Char.isDigit = true) ∧ Nat.ofDigitChars 10 digits 0 ≤ most then
        some (Nat.ofDigitChars 10 digits 0)
      else none := by
  rw [describedNumber]
  split_ifs with isDigits
  · obtain ⟨⟨nonempty, isDigit⟩, bounded⟩ := isDigits
    cases found : (List.range (most + 1)).find? (isNumeral digits) with
    | some number =>
        rw [(isNumeral_iff.mp (List.find?_some found)).2.2]
    | none =>
        have other := List.find?_eq_none.mp found _
          (List.mem_range.mpr (Nat.lt_succ_of_le bounded))
        exact absurd (isNumeral_ofDigitChars nonempty isDigit) other
  · rw [List.find?_eq_none]
    intro number inside numeral
    obtain ⟨nonempty, isDigit, rfl⟩ := isNumeral_iff.mp numeral
    exact isDigits ⟨⟨nonempty, isDigit⟩, Nat.le_of_lt_succ (List.mem_range.mp inside)⟩

theorem documentedLevels_eq (number : Nat) :
    documentedLevels[number]? =
      if number ≤ 7 then some (LogLevel.ofUInt8 number) else none := by
  match number with
  | 0 | 1 | 2 | 3 | 4 | 5 | 6 | 7 => rfl
  | _ + 8 => rfl

theorem inRange_uint8 (value : Nat) : inRange false .one value = decide (value < 256) := by
  simp [inRange, Width.modulus, Width.bytes]

theorem inRange_int8 (value : Int) :
    inRange true .one value = decide (-128 ≤ value ∧ value < 128) := by
  rfl

/-- The program reads a level as it is described. -/
theorem readLogLevel_eq (token : String) : readLogLevel token = describedLevel token := by
  rw [readLogLevel, describedLevel, describedNumber_eq, stringToInteger]
  simp only [Bool.false_and, Bool.false_eq_true, if_false]
  by_cases digits : token.toList ≠ [] ∧ token.toList.all Char.isDigit = true
  · simp only [digits, inRange_uint8, ne_eq, not_false_eq_true, and_self, true_and, if_true]
    generalize Nat.ofDigitChars 10 token.toList 0 = number
    have eight : maxLogLevel = 8 := rfl
    by_cases bounded : number ≤ 7
    · have inside : number < 256 := by omega
      have accepted : ¬ (maxLogLevel : Int) ≤ number := by omega
      simp [bounded, inside, accepted, documentedLevels_eq]
    · have refused : (maxLogLevel : Int) ≤ number := by omega
      by_cases inside : number < 256
      · simp [bounded, inside, refused]
      · simp [bounded, inside]
  · rw [if_neg digits, if_neg (fun both => digits both.1)]
    rfl

/-- Digits that are read with a sign, and refused if the number is too large. -/
theorem describedNumber_map {most : Nat} {value : Nat → Int} {accepted : Int → Bool}
    (bound : ∀ number, accepted (value number) = decide (number ≤ most)) (digits : List Char) :
    (describedNumber most digits).map value =
      if digits ≠ [] ∧ digits.all Char.isDigit = true then
        if accepted (value (Nat.ofDigitChars 10 digits 0)) then
          some (value (Nat.ofDigitChars 10 digits 0))
        else none
      else none := by
  rw [describedNumber_eq, bound, ite_and]
  simp only [decide_eq_true_eq]
  split_ifs with isDigits bounded
  · rfl
  · rfl
  · rfl

/-- The program reads a type as it is described. -/
theorem stringToInteger_eq_describedType (token : String) :
    stringToInteger true .one token = describedType token := by
  have least (number : Nat) :
      inRange true .one (-(number : Int)) = decide (number ≤ 128) := by
    rw [inRange_int8, decide_eq_decide]
    omega
  have greatest (number : Nat) : inRange true .one (number : Int) = decide (number ≤ 127) := by
    rw [inRange_int8, decide_eq_decide]
    omega
  rw [describedType, stringToInteger, describedNumber_map least, describedNumber_map greatest]
  by_cases negative : token.toList.head? = some '-'
  · simp only [negative, decide_true, Bool.and_self, if_true]
  · simp only [negative, decide_false, Bool.and_false, Bool.false_eq_true, if_false]

end Numerals

namespace Log

variable {Channel : Type}

/-- The program creates the channel that is described. -/
theorem describedChannel_eq (createFunctions : Int → Option (ChannelCreateFn Channel))
    (logsDir : Text) (configMgr : ConfigMgr) (name : Text) :
    describedChannel createFunctions logsDir configMgr name =
      (configMgr.configOptions.lookup (prefixChannel ++ name)).bind fun options =>
        match createdChannel createFunctions logsDir (prefixChannel ++ name)
          (tokenize (String.ofList options) ',' true) with
        | some (.ok channel) => some channel
        | _ => none := by
  rw [describedChannel]
  apply Option.bind_congr
  intro options _
  dsimp only
  generalize tokenize (String.ofList options) ',' true = tokens
  rcases tokens with _ | ⟨typeToken, _ | ⟨levelToken, _ | ⟨pattern, tokens⟩⟩⟩
  · rfl
  · simp [createdChannel]
  · simp [createdChannel]
  · simp only [createdChannel, stringToInteger_eq_describedType, readLogLevel_eq,
      Option.bind_eq_bind, List.getElem?_cons_zero, List.getElem?_cons_succ, Option.bind_some]
    generalize typeToken :: levelToken :: pattern :: tokens = all
    have most : maxChannelOptions = 7 := rfl
    cases describedType typeToken with
    | none => simp
    | some type =>
        cases described : createFunctions type with
        | none => simp [described]
        | some createFunction =>
            cases describedLevel levelToken with
            | none => simp [described]
            | some level =>
                simp only [described, Option.bind_some, most]
                by_cases tooMany : 7 < all.length
                · simp [tooMany]
                · by_cases empty : pattern = ""
                  · simp [empty]
                  · simp only [tooMany, empty, or_self, if_false]
                    cases createFunction logsDir (prefixChannel ++ name) level pattern.toList
                      all <;> rfl

end Log

end Logging

end WarheadBot
