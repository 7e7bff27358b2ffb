import WarheadBot.LogChannel

/-!
# The documented patterns

The configuration documents what stands in a pattern: text and specifiers, each
with what it is replaced by.  The patterns are given here by these parts, and
what `ParsePattern` and `Format` make of their text is compared with what is
documented.
-/

namespace WarheadBot

namespace Logging

open Calendar
open Config (Text)
open Fields (stringToInteger)

/-- The digits of a number. -/
structure Numeral where
  digits : Text
  nonempty : digits ≠ []
  isDigit : digits.all Char.isDigit = true
  deriving DecidableEq

def Numeral.value (numeral : Numeral) : Nat :=
  Nat.ofDigitChars 10 numeral.digits 0

/-- The specifiers that are documented. -/
inductive Specifier
  | messageSource | messageText | priorityLevel | priority | abbreviatedPriority
  | sourceFile | sourceFilename | sourceLine
  | abbreviatedWeekday | weekday | abbreviatedMonth | month
  | paddedDay | paddedMonth | monthNumber | shortYear | year
  | hour | hour12 | amPm | minute | second | epochTime
  | sizedSource (width : Numeral)
  | percentSign
  deriving DecidableEq

namespace Specifier

def letter : Specifier → Char
  | messageSource => 's'
  | messageText => 't'
  | priorityLevel => 'l'
  | priority => 'p'
  | abbreviatedPriority => 'q'
  | sourceFile => 'U'
  | sourceFilename => 'O'
  | sourceLine => 'u'
  | abbreviatedWeekday => 'w'
  | weekday => 'W'
  | abbreviatedMonth => 'b'
  | month => 'B'
  | paddedDay => 'd'
  | paddedMonth => 'm'
  | monthNumber => 'n'
  | shortYear => 'y'
  | year => 'Y'
  | hour => 'H'
  | hour12 => 'h'
  | amPm => 'A'
  | minute => 'M'
  | second => 'S'
  | epochTime => 'E'
  | sizedSource _ => 'v'
  | percentSign => '%'

/-- The width in brackets, if the specifier has one. -/
def width? : Specifier → Option Numeral
  | sizedSource width => some width
  | _ => none

def text (specifier : Specifier) : Text :=
  match specifier.width? with
  | some width => '%' :: specifier.letter :: '[' :: (width.digits ++ [']'])
  | none => ['%', specifier.letter]

def length (specifier : Specifier) : Nat :=
  match specifier.width? with
  | some width => width.value
  | none => 0

theorem letter_ne_bracket (specifier : Specifier) : specifier.letter ≠ '[' := by
  cases specifier <;> simp [letter]

theorem exists_text (specifier : Specifier) : ∃ behind, specifier.text = '%' :: behind := by
  unfold text
  split <;> exact ⟨_, rfl⟩

end Specifier

/-- Fatal, Critical, Error, Warning, Information, Debug and Trace. -/
def documentedPriority : LogLevel → String
  | .info => "Information"
  | level => getLogLevelName level

/-- A hour from 00 to 12. -/
def documentedHour12 (hour : Nat) : Nat :=
  if hour ≤ 12 then hour else hour - 12

/-- A text that is padded or cropped. -/
def exactLength (width : Nat) (source : Text) : Text :=
  source.drop (source.length - width) ++ List.replicate (width - source.length) ' '

theorem exactLength_length (width : Nat) (source : Text) :
    (exactLength width source).length = width := by
  rw [exactLength, List.length_append, List.length_drop, List.length_replicate]
  omega

section

variable (localtime : Int → Tm) (msg : LogMessage)

/-- What a specifier is documented to be replaced by. -/
def Specifier.documented : Specifier → Text
  | messageSource => msg.source
  | messageText => msg.text
  | priorityLevel => Nat.toDigits 10 msg.level.value
  | priority => (documentedPriority msg.level).toList
  | abbreviatedPriority => (documentedPriority msg.level).toList.take 1
  | sourceFile => msg.file
  | sourceFilename => if msg.file = [] then [] else filename msg.file
  | sourceLine => Nat.toDigits 10 msg.line
  | abbreviatedWeekday => (wdayShortName (localtime msg.time)).toList
  | weekday => (wdayFullName (localtime msg.time)).toList
  | abbreviatedMonth => (monShortName (localtime msg.time)).toList
  | month => (monFullName (localtime msg.time)).toList
  | paddedDay => write2 (localtime msg.time).mday
  | paddedMonth => write2 ((localtime msg.time).mon + 1)
  | monthNumber => Nat.toDigits 10 ((localtime msg.time).mon + 1)
  | shortYear => write2 ((localtime msg.time).year.natAbs % 100)
  | year => writeYear (localtime msg.time).year
  | hour => write2 (localtime msg.time).hour
  | hour12 => write2 (documentedHour12 (localtime msg.time).hour)
  | amPm => if (localtime msg.time).hour.val < 12 then ['A', 'M'] else ['P', 'M']
  | minute => write2 (localtime msg.time).min
  | second => write2 (localtime msg.time).sec
  | epochTime => (toString (epochSeconds msg.time)).toList
  | sizedSource width => exactLength width.value msg.source
  | percentSign => ['%']

/-- A character of a literal text, or a specifier. -/
inductive Item
  | literal (char : Char) (plain : char ≠ '%')
  | specifier (inner : Specifier)
  deriving DecidableEq

def Item.text : Item → Text
  | literal char _ => [char]
  | specifier inner => inner.text

def Item.documented : Item → Text
  | literal char _ => [char]
  | specifier inner => inner.documented localtime msg

def patternText (items : List Item) : Text :=
  items.flatMap Item.text

def documentedText (items : List Item) : Text :=
  items.flatMap (Item.documented localtime msg)

/-- `ParsePattern` accepts the pattern and `Format` writes what is documented. -/
def WritesDocumented (maxSize : Nat) (items : List Item) : Prop :=
  ∃ patternActions, parsePattern (patternText items) = .ok patternActions ∧
    format localtime msg maxSize patternActions msg.text = some (documentedText localtime msg items)

/-- Where a specifier is replaced by what is documented. -/
def Specifier.Agrees : Specifier → Prop
  | priority => msg.level ≠ .info
  | monthNumber => 10 ≤ (localtime msg.time).mon.val + 1
  | hour => 1 ≤ (localtime msg.time).hour.val ∧ (localtime msg.time).hour.val ≤ 12
  | hour12 => (localtime msg.time).hour.val ≤ 12
  | sizedSource width => width.value < 2 ^ 64 ∧ (width.value = 0 → msg.source = [])
  | percentSign => False
  | _ => True

end

/-- No text that begins with a bracket follows a specifier without a width. -/
def BracketFree : List Item → Prop
  | [] => True
  | .literal _ _ :: items => BracketFree items
  | .specifier specifier :: items =>
      (specifier.width? = none → (patternText items).head? ≠ some '[') ∧ BracketFree items

instance decidableBracketFree : ∀ items, Decidable (BracketFree items)
  | [] => isTrue trivial
  | .literal _ _ :: items => decidableBracketFree items
  | .specifier inner :: items =>
      haveI := decidableBracketFree items
      inferInstanceAs (Decidable ((inner.width? = none →
        (patternText items).head? ≠ some '[') ∧ BracketFree items))

section Parsing

variable {before text : Text} {char key : Char}

theorem parseActions_nil : parseActions before [] =
    .ok (if before = [] then [] else [⟨'\x00', 0, [], before⟩]) := by
  rw [parseActions.eq_def]

theorem parseActions_plain (plain : char ≠ '%') :
    parseActions before (char :: text) = parseActions (before ++ [char]) text := by
  rw [parseActions.eq_def]
  exact if_pos plain

theorem parseActions_key (other : key ≠ '[') (unbracketed : text.head? ≠ some '[') :
    parseActions before ('%' :: key :: text) =
      (parseActions [] text).map fun actions => ⟨key, 0, [], before⟩ :: actions := by
  rw [parseActions, if_neg (by decide)]
  dsimp only
  rw [if_neg other, if_neg unbracketed]

/-- A text in brackets is read as a number. -/
theorem parseActions_number (other : key ≠ '[') {length : Int}
    (read : stringToInteger false .eight (String.ofList (text.takeWhile (· ≠ ']'))) =
      some length) :
    parseActions before ('%' :: key :: '[' :: text) =
      (parseActions [] (behindBracket text)).map fun actions =>
        ⟨key, length.toNat, [], before⟩ :: actions := by
  rw [parseActions, if_neg (by decide)]
  dsimp only
  rw [if_neg other, if_pos (by rfl), List.tail_cons, read]

theorem parseActions_no_number (other : key ≠ '[')
    (unread : stringToInteger false .eight (String.ofList (text.takeWhile (· ≠ ']'))) = none) :
    parseActions before ('%' :: key :: '[' :: text) =
      .error ("ParsePattern: Error at conver lenght from ".toList ++
        text.takeWhile (· ≠ ']')) := by
  rw [parseActions, if_neg (by decide)]
  dsimp only
  rw [if_neg other, if_pos (by rfl), List.tail_cons, unread]

theorem stringToInteger_eq_some {length : Int}
    (read : stringToInteger false .eight (String.ofList text) = some length) :
    text ≠ [] ∧ text.all Char.isDigit = true ∧ length = Nat.ofDigitChars 10 text 0 ∧
      Nat.ofDigitChars 10 text 0 < 2 ^ 64 := by
  simp only [stringToInteger, String.toList_ofList, Bool.false_and, Bool.false_eq_true,
    if_false] at read
  split_ifs at read with digits inside
  have bound : Nat.ofDigitChars 10 text 0 < 2 ^ 64 := by
    simp only [Fields.inRange, Bool.false_eq_true, if_false, decide_eq_true_eq] at inside
    exact_mod_cast inside.2
  exact ⟨digits.1, digits.2, (Option.some.inj read).symm, bound⟩

theorem stringToInteger_numeral {numeral : Numeral} (bound : numeral.value < 2 ^ 64) :
    stringToInteger false .eight (String.ofList numeral.digits) = some (numeral.value : Int) := by
  have inside : Fields.inRange false .eight (numeral.value : Int) = true := by
    simp only [Fields.inRange, Bool.false_eq_true, if_false, decide_eq_true_eq]
    exact ⟨Int.natCast_nonneg _, by exact_mod_cast bound⟩
  simp only [stringToInteger, String.toList_ofList, Bool.false_and, Bool.false_eq_true,
    if_false]
  rw [if_pos ⟨numeral.nonempty, numeral.isDigit⟩]
  exact if_pos inside

theorem takeWhile_numeral (numeral : Numeral) (text : Text) :
    (numeral.digits ++ ']' :: text).takeWhile (· ≠ ']') = numeral.digits ∧
      behindBracket (numeral.digits ++ ']' :: text) = text := by
  have noBracket : ∀ char ∈ numeral.digits, decide (char ≠ ']') = true := by
    intro char inside
    have digit := List.all_eq_true.mp numeral.isDigit char inside
    rw [decide_eq_true_eq]
    rintro rfl
    exact absurd digit (by decide)
  constructor
  · rw [List.takeWhile_append_of_pos noBracket, List.takeWhile_cons_of_neg (by decide),
      List.append_nil]
  · rw [behindBracket, List.dropWhile_append_of_pos noBracket,
      List.dropWhile_cons_of_neg (by decide), List.tail_cons]

/-- A specifier with a width is one that can be read. -/
def Specifier.Readable (specifier : Specifier) : Prop :=
  ∀ width, specifier.width? = some width → width.value < 2 ^ 64

theorem parseActions_specifier {specifier : Specifier} (readable : specifier.Readable)
    (unbracketed : specifier.width? = none → text.head? ≠ some '[') :
    parseActions before (specifier.text ++ text) =
      (parseActions [] text).map fun actions =>
        ⟨specifier.letter, specifier.length, [], before⟩ :: actions := by
  unfold Specifier.text Specifier.length
  cases sized : specifier.width? with
  | none => exact parseActions_key specifier.letter_ne_bracket (unbracketed sized)
  | some width =>
      simp only [List.cons_append, List.append_assoc, List.nil_append]
      obtain ⟨number, behind⟩ := takeWhile_numeral width text
      have read := stringToInteger_numeral (readable width sized)
      rw [← number] at read
      rw [parseActions_number specifier.letter_ne_bracket read, behind, Int.toNat_natCast]

end Parsing

/-- The actions of a pattern without stray brackets. -/
def plainActions (before : Text) : List Item → List PatternAction
  | [] => if before = [] then [] else [⟨'\x00', 0, [], before⟩]
  | .literal char _ :: items => plainActions (before ++ [char]) items
  | .specifier inner :: items => ⟨inner.letter, inner.length, [], before⟩ :: plainActions [] items

theorem patternText_cons (item : Item) (items : List Item) :
    patternText (item :: items) = item.text ++ patternText items :=
  rfl

theorem parseActions_patternText {items : List Item} (bracketFree : BracketFree items)
    (readable : ∀ inner, Item.specifier inner ∈ items → inner.Readable) (before : Text) :
    parseActions before (patternText items) = .ok (plainActions before items) := by
  induction items generalizing before with
  | nil => exact parseActions_nil
  | cons item items ih =>
      have readableRest : ∀ inner, Item.specifier inner ∈ items → inner.Readable :=
        fun inner inside => readable inner (List.mem_cons_of_mem item inside)
      rw [patternText_cons]
      cases item with
      | literal char plain =>
          have step := @parseActions_plain before (patternText items) char plain
          exact step.trans (ih bracketFree readableRest _)
      | specifier inner =>
          have step := @parseActions_specifier before (patternText items) inner
            (readable inner List.mem_cons_self) bracketFree.1
          refine step.trans ?_
          rw [ih bracketFree.2 readableRest]
          rfl

section Writing

variable (localtime : Int → Tm) (msg : LogMessage)

/-- What `Format` replaces a specifier by. -/
def Specifier.written (specifier : Specifier) : Text :=
  keyText localtime msg specifier.length specifier.letter

def Item.written : Item → Text
  | literal char _ => [char]
  | specifier inner => inner.written localtime msg

theorem plainActions_written (before : Text) (items : List Item) :
    (plainActions before items).flatMap (actionText localtime msg) =
      before ++ items.flatMap (Item.written localtime msg) := by
  induction items generalizing before with
  | nil =>
      unfold plainActions
      split_ifs with empty
      · rw [empty]
        rfl
      · simp [actionText, keyText]
  | cons item items ih =>
      cases item with
      | literal char plain =>
          rw [plainActions, ih, List.flatMap_cons, Item.written, List.append_assoc]
      | specifier inner =>
          rw [plainActions, List.flatMap_cons, ih, List.flatMap_cons, actionText,
            List.append_assoc, List.nil_append]
          rfl

theorem sizedSource_eq_exactLength {length : Nat} {source : Text}
    (cropped : length = 0 → source = []) :
    sizedSource length source = exactLength length source := by
  unfold sizedSource exactLength
  split_ifs with padded shorter
  · rw [Nat.sub_eq_zero_of_le padded.le, List.drop_zero]
  · rw [Nat.sub_eq_zero_of_le shorter.2.le, List.replicate_zero, List.append_nil]
  · by_cases zero : length = 0
    · rw [cropped zero]
      simp [zero]
    · have same : length = source.length := by omega
      simp [same]

end Writing

theorem write2_hour12_eq_iff (tm : Tm) :
    write2 tm.hour12 = write2 tm.hour ↔ 1 ≤ tm.hour.val ∧ tm.hour.val ≤ 12 := by
  unfold Tm.hour12
  generalize tm.hour = hour
  revert hour
  decide

theorem write2_documentedHour12_eq_iff (hour : Fin 24) :
    write2 hour = write2 (documentedHour12 hour) ↔ hour.val ≤ 12 := by
  revert hour
  decide

theorem write2_month_eq_iff (mon : Fin 12) :
    write2 (mon + 1) = Nat.toDigits 10 (mon + 1) ↔ 10 ≤ mon.val + 1 := by
  revert mon
  decide

theorem levelName_eq_documented_iff (level : LogLevel) :
    (getLogLevelName level).toList = (documentedPriority level).toList ↔ level ≠ .info := by
  cases level <;> decide

theorem abbreviated_eq_documented (level : LogLevel) :
    (getLogLevelName level).toList.take 1 = (documentedPriority level).toList.take 1 := by
  cases level <;> decide

section Agreement

variable {localtime : Int → Tm} {msg : LogMessage} {specifier : Specifier}

/-- A specifier with a width does not crop the source to nothing. -/
def Specifier.CropsToSomething (msg : LogMessage) (specifier : Specifier) : Prop :=
  ∀ width, specifier.width? = some width → width.value = 0 → msg.source = []

theorem Specifier.agrees_iff (readable : specifier.Readable)
    (cropped : specifier.CropsToSomething msg) :
    specifier.Agrees localtime msg ↔
      specifier.written localtime msg = specifier.documented localtime msg := by
  cases specifier with
  | priority => exact (levelName_eq_documented_iff msg.level).symm
  | abbreviatedPriority => exact iff_of_true trivial (abbreviated_eq_documented msg.level)
  | monthNumber => exact (write2_month_eq_iff (localtime msg.time).mon).symm
  | hour => exact (write2_hour12_eq_iff (localtime msg.time)).symm
  | hour12 => exact (write2_documentedHour12_eq_iff (localtime msg.time).hour).symm
  | percentSign => exact iff_of_false not_false (List.cons_ne_nil '%' []).symm
  | sizedSource width =>
      exact iff_of_true ⟨readable width rfl, cropped width rfl⟩
        (sizedSource_eq_exactLength (cropped width rfl))
  | _ => exact iff_of_true trivial rfl

theorem Specifier.readable_of_agrees (agrees : specifier.Agrees localtime msg) :
    specifier.Readable := by
  intro width sized
  cases specifier with
  | sizedSource own => exact Option.some.inj sized ▸ agrees.1
  | _ => exact nomatch sized

theorem Specifier.cropsToSomething_of_agrees (agrees : specifier.Agrees localtime msg) :
    specifier.CropsToSomething msg := by
  intro width sized
  cases specifier with
  | sizedSource own => exact Option.some.inj sized ▸ agrees.2
  | _ => exact nomatch sized

theorem Specifier.written_eq_documented (agrees : specifier.Agrees localtime msg) :
    specifier.written localtime msg = specifier.documented localtime msg :=
  (Specifier.agrees_iff (Specifier.readable_of_agrees agrees)
    (Specifier.cropsToSomething_of_agrees agrees)).mp agrees

end Agreement

end Logging

end WarheadBot
