import Mathlib.Data.List.TakeWhile
import Mathlib.Data.Nat.Digits.Lemmas
import Mathlib.Tactic.Linarith
import Mathlib.Tactic.Positivity
import WarheadBot.FieldRecursion

/-!
# The two forms of an integer column

A query sends the value of an integer column as its decimal digits, a prepared
statement as its bytes.  The text is parsed with a check of the range, and the
bytes are reinterpreted; this file says for which values the methods that the
guideline of the source lists for a column return the same number for both.
-/

namespace WarheadBot

namespace Fields

inductive Column
  | tinyint | smallint | mediumint | int | bigint
  deriving DecidableEq, Repr

def Column.bits : Column → Nat
  | tinyint => 8
  | smallint => 16
  | mediumint => 24
  | int => 32
  | bigint => 64

/-- `SizeForType`; a `MEDIUMINT` takes four bytes. -/
def Column.width : Column → Width
  | tinyint => .one
  | smallint => .two
  | mediumint => .four
  | int => .four
  | bigint => .eight

/-- `MysqlTypeToFieldType`. -/
def Column.fieldType : Column → DatabaseFieldTypes
  | tinyint => .int8
  | smallint => .int16
  | mediumint => .int32
  | int => .int32
  | bigint => .int64

/-- The guideline on field type matching. -/
def Column.methods : Column → List ArithmeticType
  | tinyint => [.bool, .integer true .one, .integer false .one]
  | smallint => [.integer true .two, .integer false .two]
  | mediumint => [.integer true .four, .integer false .four]
  | int => [.integer true .four, .integer false .four]
  | bigint => [.integer true .eight, .integer false .eight]

def Column.Holds (column : Column) (isUnsigned : Bool) (value : Int) : Prop :=
  if isUnsigned then 0 ≤ value ∧ value < 2 ^ column.bits
  else -2 ^ (column.bits - 1) ≤ value ∧ value < 2 ^ (column.bits - 1)

instance (column : Column) (isUnsigned : Bool) (value : Int) :
    Decidable (column.Holds isUnsigned value) :=
  inferInstanceAs (Decidable (if isUnsigned = true then _ else _))

/-- The lowest bytes of a number in two's complement. -/
def littleEndian : Nat → Int → List UInt8
  | 0, _ => []
  | count + 1, value => UInt8.ofNat (value % 256).toNat :: littleEndian count (value / 256)

def decimal (value : Int) : List UInt8 :=
  (toString value).toList.map fun character => UInt8.ofNat character.toNat

/-- The field of a query. -/
def textField (column : Column) (aliasName : String) (value : Int) : Field :=
  ⟨some (decimal value), false, ⟨aliasName, column.fieldType⟩⟩

/-- The field of a prepared statement. -/
def rawField (column : Column) (aliasName : String) (value : Int) : Field :=
  ⟨some (littleEndian column.width.bytes value), true, ⟨aliasName, column.fieldType⟩⟩

variable {Real : Type} (real : FloatingPoint Real)

def Field.Returns (field : Field) (requested : ArithmeticType) (value : Value Real) : Prop :=
  ∃ steps, (field.step real)^[steps] (.running requested []) = .returned (some value)

/-- Both fields return the same value. -/
def SameValue (first second : Field) (requested : ArithmeticType) : Prop :=
  ∃ value : Value Real, first.Returns real requested value ∧ second.Returns real requested value

variable {real} {field : Field} {requested : ArithmeticType}

theorem calledType_of_no_parenthesis {metadata : QueryResultFieldMetadata}
    (noParenthesis : '(' ∉ metadata.aliasName.toList) (requested : ArithmeticType) :
    calledType requested metadata = none := by
  apply calledType_other
  intro name clean
  rw [getCleanAliasName, if_neg noParenthesis] at clean
  cases clean

theorem returns_iff_convert {bytes : List UInt8} (notNull : field.value = some bytes)
    (noParenthesis : '(' ∉ field.metadata.aliasName.toList) (value : Value Real) :
    field.Returns real requested value ↔ convert real field bytes requested = some value := by
  have step : field.step real (.running requested []) =
      .returned (convert real field bytes requested) := by
    rw [step_running notNull, calledType_of_no_parenthesis noParenthesis]
    rfl
  have stays : ∀ steps, (field.step real)^[steps] (.returned (convert real field bytes requested)) =
      .returned (convert real field bytes requested) := fun steps =>
    Function.iterate_fixed rfl steps
  constructor
  · rintro ⟨steps, reached⟩
    cases steps with
    | zero => cases reached
    | succ steps =>
        rw [Function.iterate_succ_apply, step, stays] at reached
        exact Call.returned.inj reached
  · intro converted
    refine ⟨1, ?_⟩
    rw [Function.iterate_one, step, converted]

section Digits

theorem toList_toString (value : Int) :
    (toString value).toList =
      if 0 ≤ value then Nat.toDigits 10 value.natAbs
      else '-' :: Nat.toDigits 10 value.natAbs := by
  rw [Int.toString_eq_repr, Int.repr_eq_if]
  split_ifs with nonneg
  · have positive : value.toNat = value.natAbs := by omega
    rw [Nat.toList_repr, positive]
  · rw [String.toList_append, Nat.toList_repr]
    have positive : (-value).toNat = value.natAbs := by omega
    rw [positive]
    rfl

theorem isDigit_toDigits (number : Nat) :
    (Nat.toDigits 10 number).all Char.isDigit = true := by
  rw [List.all_eq_true]
  intro character member
  exact Nat.isDigit_of_mem_toDigits (by omega) (by omega) member

theorem minus_not_mem_toDigits (number : Nat) : '-' ∉ Nat.toDigits 10 number := by
  intro member
  have digit := Nat.isDigit_of_mem_toDigits (by omega) (by omega) member
  revert digit
  decide

/-- The characters of a number are neither zero bytes nor above them all. -/
theorem toNat_of_mem_toString {value : Int} {character : Char}
    (member : character ∈ (toString value).toList) :
    0 < character.toNat ∧ character.toNat < 256 := by
  rw [toList_toString] at member
  have digit : ∀ other ∈ Nat.toDigits 10 value.natAbs, 0 < other.toNat ∧ other.toNat < 256 := by
    intro other isDigit
    have digit := Nat.isDigit_of_mem_toDigits (by omega) (by omega) isDigit
    simp only [Char.isDigit, Bool.and_eq_true, decide_eq_true_eq, UInt32.le_iff_toNat_le] at digit
    have lower : 48 ≤ other.toNat := digit.1
    have upper : other.toNat ≤ 57 := digit.2
    omega
  split_ifs at member
  · exact digit character member
  · rcases List.mem_cons.mp member with rfl | isDigit
    · decide
    · exact digit character isDigit

theorem textOf_decimal (value : Int) : textOf (decimal value) = toString value := by
  have nonzero : ∀ byte ∈ decimal value, decide (byte ≠ 0) = true := by
    intro byte member
    obtain ⟨character, isCharacter, rfl⟩ := List.mem_map.mp member
    obtain ⟨positive, small⟩ := toNat_of_mem_toString isCharacter
    simp only [decide_eq_true_eq, ne_eq, ← UInt8.toNat_inj, UInt8.toNat_ofNat', UInt8.toNat_zero]
    omega
  have whole : (decimal value).takeWhile (fun byte => byte ≠ 0) = decimal value :=
    List.takeWhile_eq_self_iff.mpr nonzero
  have same : (decimal value).map (fun byte => Char.ofNat byte.toNat) =
      (toString value).toList := by
    rw [decimal, List.map_map, List.map_congr_left (g := id), List.map_id]
    intro character member
    obtain ⟨_, small⟩ := toNat_of_mem_toString member
    simp [Nat.mod_eq_of_lt small]
  rw [textOf, whole, same, String.ofList_toList]

/-- A number is parsed as itself if it is in the range of the type and needs no
sign that the type does not have. -/
theorem stringToInteger_toString (signed : Bool) (width : Width) (value : Int) :
    stringToInteger signed width (toString value) =
      if inRange signed width value then some value else none := by
  have digits := isDigit_toDigits value.natAbs
  have nonempty : Nat.toDigits 10 value.natAbs ≠ [] := Nat.toDigits_ne_nil
  unfold stringToInteger
  rw [toList_toString]
  by_cases nonneg : 0 ≤ value
  · have notMinus : (Nat.toDigits 10 value.natAbs).head? ≠ some '-' := by
      intro head
      exact minus_not_mem_toDigits _ (List.mem_of_mem_head? head)
    have magnitude : (value.natAbs : Int) = value := by omega
    simp [nonneg, notMinus, nonempty, digits, Nat.ofDigitChars_ten_toDigits, magnitude]
  · have magnitude : -(value.natAbs : Int) = value := by omega
    cases signed with
    | true =>
        simp only [nonneg, if_false, List.head?_cons, decide_true, Bool.and_self, if_true,
          List.tail_cons, ne_eq, nonempty, not_false_eq_true, digits, and_self,
          Nat.ofDigitChars_ten_toDigits, magnitude]
    | false =>
        have minus : Char.isDigit '-' = false := by decide
        have outside : inRange false width value = false := by
          simp [inRange, nonneg]
        simp [nonneg, minus, outside]

end Digits

section Bytes

theorem littleEndian_length (count : Nat) (value : Int) :
    (littleEndian count value).length = count := by
  induction count generalizing value with
  | zero => rfl
  | succ count ih => rw [littleEndian, List.length_cons, ih]

/-- The remainder of a division in two steps. -/
theorem emod_mul_eq (value : Int) {factor : Nat} (positive : 0 < factor) :
    value % (256 * factor : Nat) = value % 256 + 256 * (value / 256 % factor) := by
  have low := Int.emod_add_mul_ediv value 256
  have high := Int.emod_add_mul_ediv (value / 256) factor
  have split : value = value % 256 + 256 * (value / 256 % factor) +
      (256 * factor : Nat) * (value / 256 / factor) := by
    rw [Nat.cast_mul, mul_assoc]
    push_cast
    linarith
  have nonneg := Int.emod_nonneg (value / 256) (by omega : (factor : Int) ≠ 0)
  have small := Int.emod_lt_of_pos (value / 256) (by omega : (0 : Int) < factor)
  conv_lhs => rw [split]
  rw [Int.add_mul_emod_self_left, Int.emod_eq_of_lt]
  · omega
  · push_cast
    omega

theorem ofDigits_littleEndian (count : Nat) (value : Int) :
    (Nat.ofDigits 256 ((littleEndian count value).map fun byte => byte.toNat) : Int) =
      value % (256 ^ count : Nat) := by
  induction count generalizing value with
  | zero => simp [littleEndian, Nat.ofDigits]
  | succ count ih =>
      have byte : ((UInt8.ofNat (value % 256).toNat).toNat : Int) = value % 256 := by
        rw [UInt8.toNat_ofNat', Nat.mod_eq_of_lt (by omega)]
        omega
      rw [littleEndian, List.map_cons, Nat.ofDigits, byte, ih, pow_succ, Nat.mul_comm,
        emod_mul_eq value (by positivity)]

theorem readInteger_littleEndian (signed : Bool) (width : Width) (value : Int) :
    readInteger signed width (littleEndian width.bytes value) =
      some (wrap signed width value) := by
  have whole : (littleEndian width.bytes value).take width.bytes =
      littleEndian width.bytes value :=
    List.take_of_length_le (littleEndian_length _ _).le
  rw [readInteger, littleEndian_length, if_neg (lt_irrefl _), whole, ofDigits_littleEndian]
  cases signed with
  | true => simp only [wrap, if_true, Width.modulus, Int.emod_bmod]
  | false => simp [wrap, Width.modulus]

end Bytes

/-- A column holds what a signed or an unsigned integer of its width can hold. -/
theorem holds_width {column : Column} {isUnsigned : Bool} {value : Int}
    (holds : column.Holds isUnsigned value) :
    -(column.width.modulus / 2 : Nat) ≤ value ∧ value < column.width.modulus := by
  cases isUnsigned <;> cases column <;>
    simp [Column.Holds, Column.bits, Column.width, Width.modulus, Width.bytes] at holds ⊢ <;>
      omega

theorem modulus_even (width : Width) : width.modulus = 2 * (width.modulus / 2) := by
  cases width <;> rfl

theorem modulus_pos (width : Width) : 0 < width.modulus / 2 := by
  cases width <;> decide

theorem mem_methods {column : Column} {requested : ArithmeticType}
    (listed : requested ∈ column.methods) :
    (requested = .bool ∧ column = .tinyint) ∨
      ∃ signed, requested = .integer signed column.width := by
  cases column <;> simp [Column.methods, Column.width] at listed ⊢ <;> tauto

/-- What is read from the text for an integer type. -/
theorem convertText_integer (signed : Bool) (width : Width) (value : Int) :
    convertText real (toString value) (.integer signed width) =
      .integer (if inRange signed width value then value
        else if !signed && inRange true width value then wrap false width value else 0) := by
  unfold convertText
  simp only [stringTo, stringToInteger_toString]
  cases fits : inRange signed width value with
  | true => simp
  | false =>
      cases signed with
      | true => simp [getDefaultValue]
      | false =>
          cases fitsSigned : inRange true width value with
          | true => simp [fitsSigned]
          | false => simp [fitsSigned]

theorem convert_textField (column : Column) (aliasName : String) (value : Int)
    (requested : ArithmeticType) :
    convert real (textField column aliasName value) (decimal value) requested =
      some (convertText real (toString value) requested) := by
  rw [convert, if_neg (by simp [textField]), textOf_decimal]

theorem convert_rawField_integer (column : Column) (aliasName : String) (value : Int)
    (signed : Bool) :
    convert real (rawField column aliasName value) (littleEndian column.width.bytes value)
        (.integer signed column.width) =
      some (.integer (wrap signed column.width value)) := by
  rw [convert, if_pos (by simp [rawField]), reinterpret, readInteger_littleEndian]
  rfl

/-- The text is parsed as what the bytes stand for, exactly if a signed type can
hold the value. -/
theorem text_eq_wrap_iff {width : Width} {value : Int} (signed : Bool)
    (lower : -(width.modulus / 2 : Nat) ≤ value) (upper : value < width.modulus) :
    (if inRange signed width value then value
      else if !signed && inRange true width value then wrap false width value else 0) =
        wrap signed width value ↔ signed = false ∨ value < (width.modulus / 2 : Nat) := by
  have even := modulus_even width
  have positive := modulus_pos width
  cases signed with
  | false =>
      simp only [true_or, iff_true, Bool.not_false, Bool.true_and]
      by_cases nonneg : 0 ≤ value
      · have fits : inRange false width value = true := by simp [inRange, nonneg, upper]
        rw [if_pos fits, wrap, if_neg (by simp), Int.emod_eq_of_lt nonneg upper]
      · have outside : inRange false width value = false := by simp [inRange, nonneg]
        have fits : inRange true width value = true := by
          simp only [inRange, if_true, decide_eq_true_eq]
          omega
        simp [outside, fits]
  | true =>
      simp only [Bool.not_true, Bool.false_and, Bool.false_eq_true, if_false, reduceCtorEq,
        false_or]
      by_cases small : value < (width.modulus / 2 : Nat)
      · have fits : inRange true width value = true := by
          simp only [inRange, if_true, decide_eq_true_eq]
          omega
        rw [if_pos fits, wrap, if_pos rfl]
        have same : value.bmod width.modulus = value :=
          Int.bmod_eq_of_le (by omega) (by omega)
        simp only [same, small]
      · have outside : inRange true width value = false := by
          simp only [inRange, if_true, decide_eq_false_iff_not]
          omega
        have wrapped : value.bmod width.modulus = value - width.modulus := by
          have same : value % width.modulus = value := Int.emod_eq_of_lt (by omega) upper
          rw [Int.bmod_eq_emod, same, if_pos (by omega)]
        rw [if_neg (by simp [outside]), wrap, if_pos rfl, wrapped]
        constructor
        · omega
        · omega

/-- For which values both forms are read alike. -/
def Agrees (value : Int) : ArithmeticType → Prop
  | .bool => value = 0 ∨ value = 1
  | .integer true width => value < (width.modulus / 2 : Nat)
  | _ => True

/-- A `bool` can only be read from a zero or a one. -/
theorem sameBool_iff (aliasName : String) {value : Int}
    (bounds : -(Column.tinyint.width.modulus / 2 : Nat) ≤ value ∧
      value < Column.tinyint.width.modulus) :
    (∃ result, some (convertText real (toString value) .bool) = some result ∧
      convert real (rawField .tinyint aliasName value)
        (littleEndian Column.tinyint.width.bytes value) .bool = some result) ↔
      Agrees value .bool := by
  rw [Agrees, convert, if_pos (by simp [rawField])]
  by_cases isZero : value = 0
  · subst isZero
    simp only [true_or, iff_true]
    exact ⟨.bool false, rfl, rfl⟩
  · by_cases isOne : value = 1
    · subst isOne
      simp only [or_true, iff_true]
      exact ⟨.bool true, rfl, rfl⟩
    · simp only [isZero, isOne, or_self, iff_false]
      rintro ⟨result, _, read⟩
      have lower : -128 ≤ value := bounds.1
      have upper : value < 256 := bounds.2
      have notZero : UInt8.ofNat (value % 256).toNat ≠ 0 := by
        rw [ne_eq, ← UInt8.toNat_inj, UInt8.toNat_ofNat', UInt8.toNat_zero]
        omega
      have notOne : UInt8.ofNat (value % 256).toNat ≠ 1 := by
        rw [ne_eq, ← UInt8.toNat_inj, UInt8.toNat_ofNat', UInt8.toNat_one]
        omega
      simp only [Column.width, Width.bytes, littleEndian, reinterpret, List.head?_cons] at read
      split at read
      · rename_i byte
        exact notZero (Option.some.inj byte)
      · rename_i byte
        exact notOne (Option.some.inj byte)
      · cases read

/-- For every integer column, every method that the guideline lists for it and
every value of the column: the text and the bytes of the value are read as the
same number exactly if a `bool` is asked for a zero or a one, a signed type for a
value it can hold, or an unsigned type for any value. -/
theorem sameValue_iff {Real : Type} (real : FloatingPoint Real) {column : Column}
    {isUnsigned : Bool} {value : Int} (holds : column.Holds isUnsigned value)
    {requested : ArithmeticType} (listed : requested ∈ column.methods) {aliasName : String}
    (noParenthesis : '(' ∉ aliasName.toList) :
    SameValue real (textField column aliasName value) (rawField column aliasName value)
        requested ↔ Agrees value requested := by
  have text := @returns_iff_convert Real real (textField column aliasName value) requested
    (decimal value) rfl noParenthesis
  have raw := @returns_iff_convert Real real (rawField column aliasName value) requested
    (littleEndian column.width.bytes value) rfl noParenthesis
  simp only [SameValue, text, raw, convert_textField]
  rcases mem_methods listed with ⟨rfl, rfl⟩ | ⟨signed, rfl⟩
  · exact sameBool_iff aliasName (holds_width holds)
  · obtain ⟨lower, upper⟩ := holds_width holds
    have agrees := text_eq_wrap_iff signed lower upper
    have sameInteger : ∀ first second : Int,
        (∃ result : Value Real, some (.integer first) = some result ∧
          some (.integer second) = some result) ↔ first = second := by
      intro first second
      constructor
      · rintro ⟨result, isFirst, isSecond⟩
        exact Value.integer.inj (Option.some.inj (isFirst.trans isSecond.symm))
      · rintro rfl
        exact ⟨.integer first, rfl, rfl⟩
    rw [convert_rawField_integer, convertText_integer, sameInteger, agrees]
    cases signed with
    | true => simp only [reduceCtorEq, false_or, Agrees]
    | false => simp only [true_or, Agrees]

/-- A negative value in a signed column, read as an unsigned number. -/
theorem sameValue_negative :
    SameValue wholeNumbers (textField .smallint "level" (-2)) (rawField .smallint "level" (-2))
      (.integer false .two) :=
  (@sameValue_iff Int wholeNumbers .smallint false (-2) (by decide) (.integer false .two)
    (by decide) "level" (by decide)).mpr trivial

/-- The value 200 of an unsigned `TINYINT`, read as an `int8`: the text gives the
default, the bytes give another number. -/
theorem differentValue_unsigned :
    Column.tinyint.Holds true 200 ∧ ArithmeticType.integer true .one ∈ Column.tinyint.methods ∧
      (textField .tinyint "level" 200).Returns wholeNumbers (.integer true .one) (.integer 0) ∧
        (rawField .tinyint "level" 200).Returns wholeNumbers (.integer true .one)
          (.integer (-56)) ∧
          ¬ SameValue wholeNumbers (textField .tinyint "level" 200)
            (rawField .tinyint "level" 200) (.integer true .one) := by
  have noParenthesis : '(' ∉ "level".toList := by decide
  have textValue : convert wholeNumbers (textField .tinyint "level" 200) (decimal 200)
      (.integer true .one) = some (.integer 0) := by
    rw [convert_textField, convertText_integer]
    rfl
  have rawValue : convert wholeNumbers (rawField .tinyint "level" 200)
      (littleEndian Width.one.bytes 200) (.integer true .one) = some (.integer (-56)) :=
    convert_rawField_integer .tinyint "level" 200 true
  refine ⟨by decide, by decide, (returns_iff_convert rfl noParenthesis _).mpr textValue,
    (returns_iff_convert rfl noParenthesis _).mpr rawValue, ?_⟩
  rintro ⟨value, text, raw⟩
  rw [returns_iff_convert rfl noParenthesis, textValue] at text
  rw [returns_iff_convert rfl noParenthesis, ← text] at raw
  exact absurd (rawValue.symm.trans raw) (by decide)

end Fields

end WarheadBot
