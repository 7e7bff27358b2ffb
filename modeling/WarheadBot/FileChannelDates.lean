import WarheadBot.FileChannel

/-!
# The dates of log files

`OpenFile` inserts a timestamp into the name of a file, and
`GetFileCreationDate` reads the first six numbers of a name.  They are those of
the timestamp if no digit stands before it; otherwise the numbers come from the
configured name first, and the digits of the timestamp are cut at other places.
-/

namespace WarheadBot

namespace Logging

open Calendar
open Config (Text)
open LastSeparator

/-- The numbers that are read with given widths. -/
def cutNumbers : List Nat → Text → List Nat
  | [], _ => []
  | width :: widths, text =>
      (readNumber width 0 text).1 :: cutNumbers widths (readNumber width 0 text).2

/-- The numbers that are read as long as there are digits. -/
def numbersIn : List Nat → Text → List Nat
  | [], _ => []
  | width :: widths, text =>
      if text.any Char.isDigit then
        (readNumber width 0 text).1 :: numbersIn widths (readNumber width 0 text).2
      else []

def dateWidths : List Nat := [4, 2, 2, 2, 2, 2]

/-- The date of six numbers. -/
def FileDate.ofNumbers (numbers : List Nat) : FileDate where
  year := numbers.getD 0 0
  month := if numbers.getD 1 0 = 0 then 1 else numbers.getD 1 0
  day := if numbers.getD 2 0 = 0 then 1 else numbers.getD 2 0
  hour := numbers.getD 3 0
  minute := numbers.getD 4 0
  second := numbers.getD 5 0

/-- The part of a configured name that stands before the timestamp. -/
def baseName (fileName : Text) : Text :=
  match splitLast '.' fileName with
  | some (before, _) => before
  | none => fileName

section Reading

variable (date : FileDate) (fmt text : Text)

theorem FileDate.read_nil : date.read fmt [] = date := by
  unfold FileDate.read
  split
  · rfl
  · rfl
  · exact if_pos rfl

theorem FileDate.readField_nil (field : Char) : date.readField field [] = (date, []) := by
  unfold FileDate.readField
  split <;> simp [readNumber]

theorem FileDate.read_percent (field : Char) :
    date.read ('%' :: field :: fmt) text =
      (date.readField field text).1.read fmt (date.readField field text).2 := by
  by_cases ended : text = []
  · rw [ended, readField_nil, read_nil, read_nil]
  · rw [FileDate.read, if_neg ended, if_pos rfl]

theorem FileDate.read_underscore (field : Char) :
    date.read ('_' :: field :: fmt) text = date.read (field :: fmt) text := by
  by_cases ended : text = []
  · rw [ended, read_nil, read_nil]
  · rw [FileDate.read, if_neg ended, if_neg (by decide)]

end Reading

theorem exists_readNumber (width : Nat) (text : Text) :
    ∃ number behind, readNumber width 0 text = (number, behind) :=
  ⟨_, _, rfl⟩

/-- Only the first six numbers count. -/
theorem FileDate.ofNumbers_append_take {numbers others : List Nat} {count : Nat}
    (enough : 6 ≤ numbers.length + count) :
    FileDate.ofNumbers (numbers ++ others.take count) = FileDate.ofNumbers (numbers ++ others) := by
  have same : ∀ index < 6,
      (numbers ++ others.take count).getD index 0 = (numbers ++ others).getD index 0 := by
    intro index early
    rw [List.getD_eq_getElem?_getD, List.getD_eq_getElem?_getD, List.getElem?_append,
      List.getElem?_append, List.getElem?_take]
    split_ifs with first second
    · rfl
    · rfl
    · omega
  simp only [FileDate.ofNumbers, same 0 (by decide), same 1 (by decide), same 2 (by decide),
    same 3 (by decide), same 4 (by decide), same 5 (by decide)]

theorem parseFileDate_eq_ofNumbers (text : Text) :
    parseFileDate logTimestampFmt text = FileDate.ofNumbers (cutNumbers dateWidths text) := by
  obtain ⟨year, behindYear, readYear⟩ := exists_readNumber 4 text
  obtain ⟨month, behindMonth, readMonth⟩ := exists_readNumber 2 behindYear
  obtain ⟨day, behindDay, readDay⟩ := exists_readNumber 2 behindMonth
  obtain ⟨hour, behindHour, readHour⟩ := exists_readNumber 2 behindDay
  obtain ⟨minute, behindMinute, readMinute⟩ := exists_readNumber 2 behindHour
  obtain ⟨second, behindSecond, readSecond⟩ := exists_readNumber 2 behindMinute
  have cut : cutNumbers dateWidths text = [year, month, day, hour, minute, second] := by
    simp only [dateWidths, cutNumbers, readYear, readMonth, readDay, readHour, readMinute,
      readSecond]
  have format : logTimestampFmt = ['%', 'Y', '_', '%', 'm', '_', '%', 'd', '_', '%', 'H', '_',
      '%', 'M', '_', '%', 'S'] := by decide
  have read : FileDate.read ⟨0, 0, 0, 0, 0, 0⟩ logTimestampFmt text =
      ⟨year, month, day, hour, minute, second⟩ := by
    have yearField : FileDate.readField ⟨0, 0, 0, 0, 0, 0⟩ 'Y' text =
        (⟨year, 0, 0, 0, 0, 0⟩, behindYear) :=
      congrArg (fun found => ((⟨found.1, 0, 0, 0, 0, 0⟩ : FileDate), found.2)) readYear
    have monthField : FileDate.readField ⟨year, 0, 0, 0, 0, 0⟩ 'm' behindYear =
        (⟨year, month, 0, 0, 0, 0⟩, behindMonth) :=
      congrArg (fun found => ((⟨year, found.1, 0, 0, 0, 0⟩ : FileDate), found.2)) readMonth
    have dayField : FileDate.readField ⟨year, month, 0, 0, 0, 0⟩ 'd' behindMonth =
        (⟨year, month, day, 0, 0, 0⟩, behindDay) :=
      congrArg (fun found => ((⟨year, month, found.1, 0, 0, 0⟩ : FileDate), found.2)) readDay
    have hourField : FileDate.readField ⟨year, month, day, 0, 0, 0⟩ 'H' behindDay =
        (⟨year, month, day, hour, 0, 0⟩, behindHour) :=
      congrArg (fun found => ((⟨year, month, day, found.1, 0, 0⟩ : FileDate), found.2)) readHour
    have minuteField : FileDate.readField ⟨year, month, day, hour, 0, 0⟩ 'M' behindHour =
        (⟨year, month, day, hour, minute, 0⟩, behindMinute) :=
      congrArg (fun found => ((⟨year, month, day, hour, found.1, 0⟩ : FileDate), found.2))
        readMinute
    have secondField : FileDate.readField ⟨year, month, day, hour, minute, 0⟩ 'S' behindMinute =
        (⟨year, month, day, hour, minute, second⟩, behindSecond) :=
      congrArg (fun found => ((⟨year, month, day, hour, minute, found.1⟩ : FileDate), found.2))
        readSecond
    rw [format, FileDate.read_percent, yearField, FileDate.read_underscore,
      FileDate.read_percent, monthField, FileDate.read_underscore,
      FileDate.read_percent, dayField, FileDate.read_underscore,
      FileDate.read_percent, hourField, FileDate.read_underscore,
      FileDate.read_percent, minuteField, FileDate.read_underscore,
      FileDate.read_percent, secondField, FileDate.read]
  rw [parseFileDate, read, cut]
  rfl

theorem takeWhile_take_append {tail : Text} {separator : Char} (width : Nat)
    (apart : separator.isDigit = false) (text : Text) :
    ((text ++ separator :: tail).take width).takeWhile Char.isDigit =
      (text.take width).takeWhile Char.isDigit := by
  induction text generalizing width with
  | nil =>
      cases width with
      | zero => rfl
      | succ width => simp [apart]
  | cons char text ih =>
      cases width with
      | zero => rfl
      | succ width =>
          rw [List.cons_append, List.take_succ_cons, List.take_succ_cons]
          by_cases digit : char.isDigit = true
          · rw [List.takeWhile_cons_of_pos digit, List.takeWhile_cons_of_pos digit, ih]
          · rw [List.takeWhile_cons_of_neg digit, List.takeWhile_cons_of_neg digit]

theorem dropWhile_append_of_any {text : Text} (digits : text.any Char.isDigit = true)
    (tail : Text) :
    (text ++ tail).dropWhile (fun char => !char.isDigit) =
      text.dropWhile (fun char => !char.isDigit) ++ tail := by
  induction text with
  | nil => exact nomatch digits
  | cons char text ih =>
      by_cases digit : char.isDigit = true
      · rw [List.cons_append, List.dropWhile_cons_of_neg (by simp [digit]),
          List.dropWhile_cons_of_neg (by simp [digit]), List.cons_append]
      · rw [List.any_cons, Bool.or_eq_true] at digits
        rw [List.cons_append, List.dropWhile_cons_of_pos (by simp [digit]),
          List.dropWhile_cons_of_pos (by simp [digit]), ih (digits.resolve_left digit)]

theorem dropWhile_append_of_not_any {text : Text} (noDigits : text.any Char.isDigit = false)
    (tail : Text) :
    (text ++ tail).dropWhile (fun char => !char.isDigit) =
      tail.dropWhile (fun char => !char.isDigit) := by
  apply List.dropWhile_append_of_pos
  intro char inside
  have notDigit := List.any_eq_false.mp noDigits char inside
  simpa using notDigit

/-- A number that begins in the first part of a text ends there. -/
theorem readNumber_append_of_any {text tail : Text} {separator : Char} (width : Nat)
    (apart : separator.isDigit = false) (digits : text.any Char.isDigit = true) :
    readNumber width 0 (text ++ separator :: tail) =
      ((readNumber width 0 text).1, (readNumber width 0 text).2 ++ separator :: tail) := by
  unfold readNumber
  dsimp only
  rw [dropWhile_append_of_any digits, takeWhile_take_append width apart]
  rw [List.drop_append_of_le_length]
  exact (List.takeWhile_prefix _).length_le.trans (List.length_take_le' _ _)

theorem readNumber_append_of_not_any {text : Text} (noDigits : text.any Char.isDigit = false)
    (width : Nat) (tail : Text) : readNumber width 0 (text ++ tail) = readNumber width 0 tail := by
  unfold readNumber
  rw [dropWhile_append_of_not_any noDigits]

theorem numbersIn_eq_nil_iff {width : Nat} {widths : List Nat} {text : Text} :
    numbersIn (width :: widths) text = [] ↔ text.any Char.isDigit = false := by
  rw [numbersIn]
  split_ifs with digits
  · simp [digits]
  · simpa using digits

theorem cutNumbers_cons {char : Char} (apart : char.isDigit = false) (widths : List Nat)
    (text : Text) : cutNumbers widths (char :: text) = cutNumbers widths text := by
  cases widths with
  | nil => rfl
  | cons width widths =>
      have skipped := @readNumber_append_of_not_any [char] (by simp [apart]) width text
      rw [List.singleton_append] at skipped
      rw [cutNumbers, skipped, cutNumbers]

theorem numbersIn_length_le (widths : List Nat) (text : Text) :
    (numbersIn widths text).length ≤ widths.length := by
  induction widths generalizing text with
  | nil => exact le_rfl
  | cons width widths ih =>
      rw [numbersIn]
      split_ifs
      · exact Nat.succ_le_succ (ih _)
      · exact Nat.zero_le _

/-- First the numbers of one part are read, then those of the other one. -/
theorem cutNumbers_append {separator : Char} (apart : separator.isDigit = false)
    (widths : List Nat) (text tail : Text) :
    cutNumbers widths (text ++ separator :: tail) =
      numbersIn widths text ++ cutNumbers (widths.drop (numbersIn widths text).length) tail := by
  induction widths generalizing text with
  | nil => rfl
  | cons width widths ih =>
      by_cases digits : text.any Char.isDigit = true
      · rw [cutNumbers, readNumber_append_of_any width apart digits, numbersIn, if_pos digits, ih]
        rfl
      · rw [numbersIn, if_neg digits, List.length_nil, List.drop_zero, List.nil_append]
        rw [Bool.not_eq_true] at digits
        rw [cutNumbers, readNumber_append_of_not_any digits, ← cutNumbers, cutNumbers_cons apart]

theorem isDigit_write2 (value : Nat) : (write2 value).all Char.isDigit = true :=
  List.all_eq_true.mpr fun _ => isDigit_of_mem_write2

theorem ofDigitChars_write2 {value : Nat} (short : value < 100) :
    Nat.ofDigitChars 10 (write2 value) 0 = value := by
  rw [write2, Nat.ofDigitChars_cons_digitChar_of_lt_ten (Nat.mod_lt _ (by decide)),
    Nat.ofDigitChars_cons_digitChar_of_lt_ten (Nat.mod_lt _ (by decide)), Nat.ofDigitChars_nil]
  omega

/-- As many digits as are asked for are read at once. -/
theorem readNumber_digits {digits : Text} (nonempty : digits ≠ [])
    (allDigits : digits.all Char.isDigit = true) (text : Text) :
    readNumber digits.length 0 (digits ++ text) = (Nat.ofDigitChars 10 digits 0, text) := by
  have found : (digits ++ text).dropWhile (fun char => !char.isDigit) = digits ++ text := by
    cases digits with
    | nil => exact absurd rfl nonempty
    | cons first rest =>
        rw [List.all_cons, Bool.and_eq_true] at allDigits
        rw [List.cons_append, List.dropWhile_cons_of_neg (by simp [allDigits.1])]
  have taken : ((digits ++ text).take digits.length).takeWhile Char.isDigit = digits := by
    rw [List.take_left']
    · exact List.takeWhile_eq_self_iff.mpr (List.all_eq_true.mp allDigits)
    · rfl
  unfold readNumber
  dsimp only
  rw [found, taken, List.drop_left]

theorem readNumber_write2 {value : Nat} (short : value < 100) (text : Text) :
    readNumber 2 0 (write2 value ++ text) = (value, text) := by
  have read := readNumber_digits (by simp [write2]) (isDigit_write2 value) text
  rwa [ofDigitChars_write2 short] at read

/-- Numbers of two digits, each with what stands before it. -/
def spaced (parts : List (Text × Nat)) : Text :=
  parts.flatMap fun part => part.1 ++ write2 part.2

theorem cutNumbers_spaced {parts : List (Text × Nat)}
    (noDigits : ∀ part ∈ parts, part.1.any Char.isDigit = false ∧ part.2 < 100) {count : Nat}
    (few : count ≤ parts.length) (text : Text) :
    cutNumbers (List.replicate count 2) (spaced parts ++ text) =
      (parts.map Prod.snd).take count := by
  induction parts generalizing count with
  | nil =>
      obtain rfl : count = 0 := Nat.le_zero.mp few
      rfl
  | cons part parts ih =>
      cases count with
      | zero => rfl
      | succ count =>
          obtain ⟨gap, short⟩ := noDigits part List.mem_cons_self
          have read : readNumber 2 0 (spaced (part :: parts) ++ text) =
              (part.2, spaced parts ++ text) := by
            rw [spaced, List.flatMap_cons, List.append_assoc, List.append_assoc,
              readNumber_append_of_not_any gap, readNumber_write2 short]
            rfl
          rw [List.replicate_succ, cutNumbers, read, List.map_cons, List.take_succ_cons]
          rw [ih (fun other inside => noDigits other (List.mem_cons_of_mem part inside))
            (Nat.le_of_succ_le_succ few)]

/-- The date of a broken-down time. -/
def FileDate.ofTm (tm : Tm) : FileDate where
  year := tm.year.toNat
  month := tm.mon + 1
  day := tm.mday
  hour := tm.hour
  minute := tm.min
  second := tm.sec

/-- The digits of a timestamp in pairs. -/
def timePairs (tm : Tm) : List Nat :=
  [tm.year.toNat / 100, tm.year.toNat % 100, tm.mon + 1, tm.mday, tm.hour, tm.min, tm.sec]

/-- The date in the name that `OpenFile` makes is the one of the time it was made
from. -/
def GivesBackDate (fileName : Text) (tm : Tm) : Prop :=
  ∀ mktime : FileDate → Int,
    getFileCreationDate mktime logTimestampFmt (insertBeforeDot (timestamp tm) fileName) =
      mktime (FileDate.ofTm tm)

theorem toString_fourDigits {year : Int} (atLeast : 1000 ≤ year) (atMost : year ≤ 9999) :
    (toString year).toList = write2 (year.toNat / 100) ++ write2 (year.toNat % 100) := by
  obtain ⟨number, rfl⟩ := Int.eq_ofNat_of_zero_le (by omega : 0 ≤ year)
  have digits : (toString (number : Int)).toList = Nat.toDigits 10 number := by
    rw [Int.toString_eq_repr, Int.repr_eq_if, if_pos (by omega), Int.toNat_natCast,
      Nat.toList_repr]
  rw [digits, Int.toNat_natCast, Nat.toDigits_of_base_le (by decide) (by omega),
    Nat.toDigits_of_base_le (by decide) (by omega), Nat.toDigits_of_base_le (by decide) (by omega),
    Nat.toDigits_of_lt_base (by omega), write2, write2]
  have thousands : number / 10 / 10 / 10 = number / 100 / 10 % 10 := by omega
  have hundreds : number / 10 / 10 % 10 = number / 100 % 10 := by omega
  have tens : number / 10 % 10 = number % 100 / 10 % 10 := by omega
  have ones : number % 10 = number % 100 % 10 := by omega
  simp only [List.cons_append, List.nil_append, List.cons.injEq, and_true]
  exact ⟨congrArg _ thousands, congrArg _ hundreds, congrArg _ tens, congrArg _ ones⟩

/-- What stands in a timestamp, with the gaps. -/
def timeParts (tm : Tm) : List (Text × Nat) :=
  [(['_'], tm.year.toNat / 100), ([], tm.year.toNat % 100), (['_'], tm.mon + 1),
    (['_'], tm.mday), (['_'], tm.hour), (['_'], tm.min), (['_'], tm.sec)]

theorem timestamp_eq_spaced {tm : Tm} (atLeast : 1000 ≤ tm.year) (atMost : tm.year ≤ 9999) :
    timestamp tm = spaced (timeParts tm) := by
  have format : logTimestampFmt = ['%', 'Y', '_', '%', 'm', '_', '%', 'd', '_', '%', 'H', '_',
      '%', 'M', '_', '%', 'S'] := by decide
  rw [timestamp, format]
  simp only [putTime, if_true, putTimeField, toString_fourDigits atLeast atMost]
  rfl

theorem timeParts_short {tm : Tm} (atMost : tm.year ≤ 9999) :
    ∀ part ∈ timeParts tm, part.1.any Char.isDigit = false ∧ part.2 < 100 := by
  have day := tm.mdayRange
  have month := tm.mon.isLt
  have hour := tm.hour.isLt
  have minute := tm.min.isLt
  have second := tm.sec.isLt
  intro part inside
  simp only [timeParts, List.mem_cons, List.not_mem_nil, or_false] at inside
  rcases inside with rfl | rfl | rfl | rfl | rfl | rfl | rfl
  all_goals exact ⟨rfl, by dsimp only; omega⟩

theorem exists_insertBeforeDot (inserted fileName : Text) :
    ∃ behind, insertBeforeDot inserted fileName = baseName fileName ++ (inserted ++ behind) := by
  unfold insertBeforeDot baseName
  cases cut : splitLast '.' fileName with
  | none => exact ⟨[], by simp⟩
  | some parts => exact ⟨'.' :: parts.2, by simp⟩

theorem givesBackDate_iff_parse {fileName : Text} {tm : Tm} :
    GivesBackDate fileName tm ↔
      parseFileDate logTimestampFmt (insertBeforeDot (timestamp tm) fileName) =
        FileDate.ofTm tm := by
  have nonempty : ¬ (logTimestampFmt = [] ∨ insertBeforeDot (timestamp tm) fileName = []) := by
    rw [not_or]
    refine ⟨by decide, ?_⟩
    obtain ⟨behind, inserted⟩ := exists_insertBeforeDot (timestamp tm) fileName
    rw [inserted]
    simp [timestamp]
  constructor
  · intro same
    have compared := same fun date => if date = FileDate.ofTm tm then 1 else 0
    rw [getFileCreationDate, if_neg nonempty, if_pos rfl] at compared
    by_contra differs
    rw [if_neg differs] at compared
    exact Int.zero_ne_one compared
  · intro same mktime
    rw [getFileCreationDate, if_neg nonempty, same]

/-- Without digits before it the timestamp is read as it was written. -/
theorem cutNumbers_timestamp {tm : Tm} (atLeast : 1000 ≤ tm.year) (atMost : tm.year ≤ 9999)
    (text : Text) :
    cutNumbers dateWidths (spaced (timeParts tm) ++ text) =
      [tm.year.toNat, tm.mon + 1, tm.mday, tm.hour, tm.min, tm.sec] := by
  have year := readNumber_digits
    (show write2 (tm.year.toNat / 100) ++ write2 (tm.year.toNat % 100) ≠ [] by simp [write2])
    (by rw [List.all_append, isDigit_write2, isDigit_write2]; rfl)
    (spaced ((timeParts tm).drop 2) ++ text)
  have value : Nat.ofDigitChars 10
      (write2 (tm.year.toNat / 100) ++ write2 (tm.year.toNat % 100)) 0 = tm.year.toNat := by
    rw [Nat.ofDigitChars_append, ofDigitChars_write2 (by omega), write2,
      Nat.ofDigitChars_cons_digitChar_of_lt_ten (Nat.mod_lt _ (by decide)),
      Nat.ofDigitChars_cons_digitChar_of_lt_ten (Nat.mod_lt _ (by decide)), Nat.ofDigitChars_nil]
    omega
  have split : spaced (timeParts tm) ++ text =
      ['_'] ++ ((write2 (tm.year.toNat / 100) ++ write2 (tm.year.toNat % 100)) ++
        (spaced ((timeParts tm).drop 2) ++ text)) := by
    simp [spaced, timeParts]
  have read : readNumber 4 0 (spaced (timeParts tm) ++ text) =
      (tm.year.toNat, spaced ((timeParts tm).drop 2) ++ text) := by
    rw [value] at year
    rw [split, readNumber_append_of_not_any (by decide)]
    exact year
  have rest := @cutNumbers_spaced ((timeParts tm).drop 2)
    (fun part inside => timeParts_short atMost part (List.mem_of_mem_drop inside)) 5
    (by simp [timeParts]) text
  rw [dateWidths, cutNumbers, read]
  exact congrArg (List.cons tm.year.toNat) rest

/-- The date that is read from a name with a timestamp. -/
theorem parseFileDate_insertBeforeDot {tm : Tm} (atLeast : 1000 ≤ tm.year)
    (atMost : tm.year ≤ 9999) (fileName : Text) :
    parseFileDate logTimestampFmt (insertBeforeDot (timestamp tm) fileName) =
      if (baseName fileName).any Char.isDigit then
        FileDate.ofNumbers (numbersIn dateWidths (baseName fileName) ++ timePairs tm)
      else FileDate.ofTm tm := by
  obtain ⟨behind, inserted⟩ := exists_insertBeforeDot (timestamp tm) fileName
  rw [parseFileDate_eq_ofNumbers, inserted]
  have stamp : cutNumbers dateWidths (baseName fileName ++ (timestamp tm ++ behind)) =
      numbersIn dateWidths (baseName fileName) ++
        cutNumbers (dateWidths.drop (numbersIn dateWidths (baseName fileName)).length)
          (spaced (timeParts tm) ++ behind) := by
    rw [← timestamp_eq_spaced atLeast atMost, timestamp, List.cons_append,
      cutNumbers_append (by decide), cutNumbers_cons (by decide)]
  rw [stamp]
  split_ifs with digits
  · have some : numbersIn dateWidths (baseName fileName) ≠ [] := by
      rw [dateWidths, Ne, numbersIn_eq_nil_iff, digits]
      decide
    have lower := List.length_pos_iff.mpr some
    have upper := numbersIn_length_le dateWidths (baseName fileName)
    have widths : dateWidths.drop (numbersIn dateWidths (baseName fileName)).length =
        List.replicate (6 - (numbersIn dateWidths (baseName fileName)).length) 2 := by
      generalize (numbersIn dateWidths (baseName fileName)).length = count at lower upper
      have bound : count ≤ 6 := upper
      interval_cases count <;> rfl
    rw [widths, cutNumbers_spaced (timeParts_short atMost)
      ((Nat.sub_le 6 _).trans (by simp [timeParts])), FileDate.ofNumbers_append_take (by omega)]
    rfl
  · have none : numbersIn dateWidths (baseName fileName) = [] :=
      numbersIn_eq_nil_iff.mpr (Bool.not_eq_true _ ▸ digits)
    rw [none, List.length_nil, List.drop_zero, List.nil_append,
      cutNumbers_timestamp atLeast atMost]
    have day := tm.mdayRange
    simp only [FileDate.ofNumbers, FileDate.ofTm, List.getD_cons_zero, List.getD_cons_succ]
    rw [if_neg (by omega), if_neg (by omega)]

/-- The numbers that are cut from the configured name, followed by the digits of the
timestamp in pairs, are by chance those of the time. -/
def CutsSameDate (fileName : Text) (tm : Tm) : Prop :=
  FileDate.ofNumbers (numbersIn dateWidths (baseName fileName) ++ timePairs tm) =
    FileDate.ofTm tm

instance (fileName : Text) (tm : Tm) : Decidable (CutsSameDate fileName tm) :=
  inferInstanceAs (Decidable (_ = _))

theorem givesBackDate_iff_cutsSameDate {tm : Tm} (atLeast : 1000 ≤ tm.year)
    (atMost : tm.year ≤ 9999) (fileName : Text) :
    GivesBackDate fileName tm ↔
      (baseName fileName).any Char.isDigit = false ∨ CutsSameDate fileName tm := by
  rw [givesBackDate_iff_parse, parseFileDate_insertBeforeDot atLeast atMost]
  split_ifs with digits
  · simp only [digits, Bool.true_eq_false, false_or]
    exact Iff.rfl
  · simp only [digits, true_or]

/-- The year that is cut from a name with digits does not depend on the time. -/
theorem not_cutsSameDate {fileName : Text} (digits : (baseName fileName).any Char.isDigit = true) :
    ¬ CutsSameDate fileName (newYear 2000) ∨ ¬ CutsSameDate fileName (newYear 2001) := by
  cases found : numbersIn dateWidths (baseName fileName) with
  | nil =>
      rw [dateWidths, numbersIn_eq_nil_iff, digits] at found
      exact nomatch found
  | cons year numbers =>
      have cutYear : ∀ later, CutsSameDate fileName (newYear later) → year = later.toNat := by
        intro later same
        rw [CutsSameDate, found] at same
        exact congrArg FileDate.year same
      by_contra both
      rw [not_or, not_not, not_not] at both
      have first := cutYear 2000 both.1
      have second := cutYear 2001 both.2
      rw [first] at second
      exact absurd second (by decide)

/-- The date is given back for each time only if no digit stands before the
timestamp, and otherwise only by chance. -/
theorem givesBackDate_iff (fileName : Text) :
    (∀ tm : Tm, 1000 ≤ tm.year → tm.year ≤ 9999 →
      (GivesBackDate fileName tm ↔
        (baseName fileName).any Char.isDigit = false ∨ CutsSameDate fileName tm)) ∧
    ((∀ tm : Tm, 1000 ≤ tm.year → tm.year ≤ 9999 → GivesBackDate fileName tm) ↔
      (baseName fileName).any Char.isDigit = false) := by
  refine ⟨fun tm atLeast atMost => givesBackDate_iff_cutsSameDate atLeast atMost fileName, ?_⟩
  constructor
  · intro always
    by_contra digits
    rw [Bool.not_eq_false] at digits
    have same : ∀ tm : Tm, 1000 ≤ tm.year → tm.year ≤ 9999 → CutsSameDate fileName tm := by
      intro tm atLeast atMost
      have given := always tm atLeast atMost
      rw [givesBackDate_iff_cutsSameDate atLeast atMost, digits] at given
      exact given.resolve_left (by decide)
    rcases not_cutsSameDate digits with differs | differs
    · exact differs (same (newYear 2000) (by decide) (by decide))
    · exact differs (same (newYear 2001) (by decide) (by decide))
  · intro noDigits tm atLeast atMost
    exact (givesBackDate_iff_cutsSameDate atLeast atMost fileName).mpr (Or.inl noDigits)

theorem givesBackDate_serverLog : GivesBackDate "Server.log".toList (newYear 1970) :=
  ((givesBackDate_iff "Server.log".toList).1 (newYear 1970) (by decide) (by decide)).mpr
    (Or.inl (by decide))

/-- The year of the second log of the logins is always 2. -/
theorem not_givesBackDate_auth2Log :
    ¬ ∀ (fileName : Text) (tm : Tm), 1000 ≤ tm.year → tm.year ≤ 9999 →
      GivesBackDate fileName tm := by
  intro always
  have given := always "Auth2.log".toList (newYear 1970) (by decide) (by decide)
  rw [givesBackDate_iff_cutsSameDate (by decide) (by decide)] at given
  exact absurd given (by decide)

end Logging

end WarheadBot
