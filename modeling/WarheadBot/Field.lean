import Mathlib.Data.Nat.Digits.Defs
import WarheadBot.GuildPlayers
import WarheadBot.Iteration

/-!
# Reading the fields of a result

The fields of a query result come in two forms: as text, or, from a prepared
statement, as the bytes of a number.  `GetData` reads either form as a number of
some type.  For a column that is named after an aggregate function it may call
itself with another type, so that a call is a machine that runs until one of
the nested calls returns.

The operations on floating point numbers are parameters.
-/

namespace WarheadBot

namespace Fields

open GuildPlayers (stringEqualI)

inductive DatabaseFieldTypes
  | null | int8 | int16 | int32 | int64 | float | double | decimal | date | binary
  deriving DecidableEq, Repr

inductive Width
  | one | two | four | eight
  deriving DecidableEq, Repr

def Width.bytes : Width → Nat
  | one => 1
  | two => 2
  | four => 4
  | eight => 8

/-- The number of values of an integer type. -/
def Width.modulus (width : Width) : Nat := 256 ^ width.bytes

/-- The types that `GetData` is instantiated for. -/
inductive ArithmeticType
  | bool
  | integer (signed : Bool) (width : Width)
  | float
  | double
  deriving DecidableEq, Repr

def uint64 : ArithmeticType := .integer false .eight

def inRange (signed : Bool) (width : Width) (value : Int) : Bool :=
  if signed then
    decide (-(width.modulus / 2 : Nat) ≤ value ∧ value < (width.modulus / 2 : Nat))
  else
    decide (0 ≤ value ∧ value < width.modulus)

/-- The value of an integer type that is congruent to the given one. -/
def wrap (signed : Bool) (width : Width) (value : Int) : Int :=
  if signed then value.bmod width.modulus else value % width.modulus

/-- `StringTo` for an integer type: `std::from_chars` with base ten has to read
the whole text; only a signed type has a sign. -/
def stringToInteger (signed : Bool) (width : Width) (text : String) : Option Int :=
  let negative := signed && text.toList.head? = some '-'
  let digits := if negative then text.toList.tail else text.toList
  if digits ≠ [] ∧ digits.all Char.isDigit = true then
    let magnitude := Nat.ofDigitChars 10 digits 0
    let value : Int := if negative then -magnitude else magnitude
    if inRange signed width value then some value else none
  else
    none

def stringToBool (text : String) : Option Bool :=
  if text = "1" ∨ stringEqualI text "y" ∨ stringEqualI text "on" ∨ stringEqualI text "yes" ∨
      stringEqualI text "true" then
    some true
  else if text = "0" ∨ stringEqualI text "n" ∨ stringEqualI text "off" ∨
      stringEqualI text "no" ∨ stringEqualI text "false" then
    some false
  else
    none

inductive Value (Real : Type)
  | bool (value : Bool)
  | integer (value : Int)
  | floating (value : Real)
  deriving DecidableEq, Repr

/-- Floating point numbers; a conversion to an integer may be undefined. -/
structure FloatingPoint (Real : Type) where
  one : Real
  readFloat : List UInt8 → Option Real
  readDouble : List UInt8 → Option Real
  stringToFloat : String → Option Real
  toFloat : Real → Real
  ofInteger : Int → Real
  toInteger : Bool → Width → Real → Option Int
  isNonzero : Real → Bool

structure QueryResultFieldMetadata where
  aliasName : String
  type : DatabaseFieldTypes
  deriving DecidableEq, Repr

/-- A field, with the bytes its value points to unless it is null. -/
structure Field where
  value : Option (List UInt8)
  raw : Bool
  metadata : QueryResultFieldMetadata
  deriving DecidableEq, Repr

def isCorrectFieldType : ArithmeticType → DatabaseFieldTypes → Bool
  | .bool, type => type = .int8
  | .integer _ .one, type => type = .int8
  | .integer _ .two, type => type = .int16
  | .integer _ .four, type => type = .int32
  | .integer _ .eight, type => type = .int64
  | .float, type => type = .float
  | .double, type => type = .double ∨ type = .decimal

/-- The name before the first parenthesis, if there is one. -/
def getCleanAliasName (aliasName : String) : Option String :=
  if '(' ∈ aliasName.toList then
    some (String.ofList (aliasName.toList.takeWhile fun character => character ≠ '('))
  else
    none

def isSumOrAvg (aliasName : String) : Bool :=
  stringEqualI aliasName "sum" || stringEqualI aliasName "avg"

def isMinOrMax (aliasName : String) : Bool :=
  stringEqualI aliasName "min" || stringEqualI aliasName "max"

def isCount (aliasName : String) : Bool :=
  stringEqualI aliasName "count"

def isCorrectAlias : ArithmeticType → DatabaseFieldTypes → String → Bool
  | .double, type, aliasName => isSumOrAvg aliasName && type = .decimal
  | .integer false .eight, type, aliasName => isCount aliasName && type = .int64
  | requested, type, aliasName => isMinOrMax aliasName && isCorrectFieldType requested type

/-- The type with which `GetData` calls itself; an unexpected `min` or `max` is
only logged. -/
def calledType (requested : ArithmeticType) (metadata : QueryResultFieldMetadata) :
    Option ArithmeticType :=
  match getCleanAliasName metadata.aliasName with
  | none => none
  | some cleanName =>
      if isSumOrAvg cleanName && !isCorrectAlias requested metadata.type cleanName then
        some .double
      else if isCount cleanName && !isCorrectAlias requested metadata.type cleanName then
        some uint64
      else none

section FloatingPointNumbers

variable {Real : Type} (real : FloatingPoint Real)

def getDefaultValue : ArithmeticType → Value Real
  | .bool => .bool false
  | .integer _ _ => .integer 0
  | .float => .floating real.one
  | .double => .floating real.one

/-- The text that a pointer to characters stands for. -/
def textOf (bytes : List UInt8) : String :=
  String.ofList ((bytes.takeWhile fun byte => byte ≠ 0).map fun byte => Char.ofNat byte.toNat)

/-- The little-endian number at the beginning of some bytes. -/
def readInteger (signed : Bool) (width : Width) (bytes : List UInt8) : Option Int :=
  if bytes.length < width.bytes then none
  else
    some (wrap signed width
      (Nat.ofDigits 256 ((bytes.take width.bytes).map fun byte => byte.toNat)))

/-- The value behind a pointer that is cast to another type.  Bytes that are not
there and a `bool` that is neither zero nor one are undefined. -/
def reinterpret (bytes : List UInt8) : ArithmeticType → Option (Value Real)
  | .bool =>
      match bytes.head? with
      | some 0 => some (.bool false)
      | some 1 => some (.bool true)
      | _ => none
  | .integer signed width => (readInteger signed width bytes).map .integer
  | .float => (real.readFloat bytes).map .floating
  | .double => (real.readDouble bytes).map .floating

def stringTo (text : String) : ArithmeticType → Option (Value Real)
  | .bool => (stringToBool text).map .bool
  | .integer signed width => (stringToInteger signed width text).map .integer
  | .float => (real.stringToFloat text).map .floating
  | .double => (real.stringToFloat text).map .floating

/-- What a text is read as: a text that is not an unsigned number may be a
signed one, and one that cannot be read is the default. -/
def convertText (text : String) (requested : ArithmeticType) : Value Real :=
  match stringTo real text requested, requested with
  | some value, _ => value
  | none, .integer false width =>
      match stringToInteger true width text with
      | some value => .integer (wrap false width value)
      | none => .integer 0
  | none, requested => getDefaultValue real requested

/-- What `GetData` reads before it looks at the alias name.  A decimal number is a
text in both forms. -/
def convert (field : Field) (bytes : List UInt8) (requested : ArithmeticType) :
    Option (Value Real) :=
  if field.raw ∧ ¬ (requested = .double ∧ field.metadata.type = .decimal) then
    reinterpret real bytes requested
  else
    some (convertText real (textOf bytes) requested)

/-- The implicit conversion of a value that is returned as another type. -/
def castTo (requested : ArithmeticType) : Value Real → Option (Value Real)
  | .bool value =>
      match requested with
      | .bool => some (.bool value)
      | .integer _ _ => some (.integer value.toNat)
      | .float => some (.floating (real.ofInteger value.toNat))
      | .double => some (.floating (real.ofInteger value.toNat))
  | .integer value =>
      match requested with
      | .bool => some (.bool (value ≠ 0))
      | .integer signed width => some (.integer (wrap signed width value))
      | .float => some (.floating (real.toFloat (real.ofInteger value)))
      | .double => some (.floating (real.ofInteger value))
  | .floating value =>
      match requested with
      | .bool => some (.bool (real.isNonzero value))
      | .integer signed width => (real.toInteger signed width value).map .integer
      | .float => some (.floating (real.toFloat value))
      | .double => some (.floating value)

/-- A call of `GetData` with the types of its callers, or what the outermost
call returned, if that is defined. -/
inductive Call (Real : Type)
  | running (requested : ArithmeticType) (callers : List ArithmeticType)
  | returned (value : Option (Value Real))
  deriving DecidableEq, Repr

/-- A value is handed from each call to its caller. -/
def Call.returnTo (callers : List ArithmeticType) (value : Option (Value Real)) : Call Real :=
  .returned (callers.foldl (fun current caller => current.bind (castTo real caller)) value)

def Field.step (field : Field) : Call Real → Call Real
  | .running requested callers =>
      match field.value with
      | none => .returnTo real callers (some (getDefaultValue real requested))
      | some bytes =>
          match calledType requested field.metadata with
          | some called => .running called (requested :: callers)
          | none => .returnTo real callers (convert real field bytes requested)
  | call => call

def Call.Returned : Call Real → Prop
  | returned _ => True
  | running _ _ => False

end FloatingPointNumbers

/-- The operations on texts and integers for numbers that are whole; there is no
other number to be read. -/
def wholeNumbers : FloatingPoint Int where
  one := 1
  readFloat := fun _ => none
  readDouble := fun _ => none
  stringToFloat := stringToInteger true .eight
  toFloat := id
  ofInteger := id
  toInteger := fun signed width value => if inRange signed width value then some value else none
  isNonzero := fun value => value ≠ 0

end Fields

end WarheadBot
