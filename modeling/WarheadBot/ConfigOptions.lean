import WarheadBot.ConfigLoad
import WarheadBot.FieldProtocols
import WarheadBot.LastSeparator

/-!
# The value of an option

`GetOption` returns the default value of an option that is missing, and says which line
has to be added to the files.  That line gives the option its default value if the default
is a number or a switch; a text must not contain what the reader of the files takes away.
-/

namespace WarheadBot

namespace Config

open KeyedEntries (addNew firsts)
open LastSeparator (intercalate_append_singleton not_mem_of_mem_splitOn)
open Fields (Width inRange stringToBool stringToInteger stringToInteger_toString toList_toString)

/-- The types `GetOption` is instantiated for, but for `float`. -/
inductive OptionValue
  | string (value : Text)
  | bool (value : Bool)
  | integer (signed : Bool) (width : Width) (value : Int)
  deriving DecidableEq

/-- `ToString` writes into a buffer of twenty characters; the assertion is that they
are enough. -/
def integerToString (value : Int) : Option Text :=
  if (toString value).toList.length ≤ 20 then some (toString value).toList else none

def boolToString (value : Bool) : Text :=
  if value then ['1'] else ['0']

/-- The line of a file that gives an option a value. -/
def optionLine (name value : Text) : Text :=
  name ++ ' ' :: '=' :: ' ' :: value

def missingProperty (name value : Text) : Text :=
  "> Config: Missing property ".toList ++ name ++
    " in all config files, at least the .dist file must contain: \"".toList ++
    optionLine name value ++ ['"']

def missingOption (name value : Text) : Text :=
  "> Config: Missing option ".toList ++ name ++ ", add \"".toList ++ optionLine name value ++ ['"']

def badValue (name value : Text) : Text :=
  "> Config: Bad value defined for name '".toList ++ name ++ "', going to use '".toList ++ value ++
    "' instead".toList

def logged (showLogs : Bool) (message : Text) : List Text :=
  if showLogs then [message] else []

/-- `GetValueDefault` for a number, with the messages that are logged.  The default is
written out for the messages only. -/
def getValueDefault (signed : Bool) (width : Width) (name : Text) (default : Int)
    (showLogs : Bool) (options : Options) : Option (Int × List Text) :=
  match options name with
  | none =>
      (integerToString default).map fun text =>
        (default, logged showLogs (missingProperty name text))
  | some value =>
      match stringToInteger signed width (String.ofList value) with
      | none =>
          (integerToString default).map fun text =>
            (default, logged showLogs (badValue name text))
      | some value => some (value, [])

def getValueDefaultString (name default : Text) (showLogs : Bool) (options : Options) :
    Text × List Text :=
  match options name with
  | none => (default, logged showLogs (missingOption name default))
  | some value => (value, [])

def getOptionBool (name : Text) (default showLogs : Bool) (options : Options) :
    Bool × List Text :=
  let val := getValueDefaultString name (boolToString default) showLogs options
  match stringToBool (String.ofList val.1) with
  | none =>
      (default, val.2 ++
        logged showLogs (badValue name (if default then "true" else "false").toList))
  | some value => (value, val.2)

/-- `GetOption` for the type of the default value. -/
def getOption (name : Text) (default : OptionValue) (showLogs : Bool) (options : Options) :
    Option (OptionValue × List Text) :=
  match default with
  | .string value =>
      let result := getValueDefaultString name value showLogs options
      some (.string result.1, result.2)
  | .bool value =>
      let result := getOptionBool name value showLogs options
      some (.bool result.1, result.2)
  | .integer signed width value =>
      (getValueDefault signed width name value showLogs options).map fun result =>
        (.integer signed width result.1, result.2)

def OptionValue.InRange : OptionValue → Prop
  | .integer signed width value => inRange signed width value = true
  | _ => True

def OptionValue.text : OptionValue → Text
  | .string value => value
  | .bool value => boolToString value
  | .integer _ _ value => (toString value).toList

/-- A text that the reader of the files leaves as it is. -/
def OptionValue.Plain : OptionValue → Prop
  | .string value => '#' ∉ value ∧ '"' ∉ value ∧ trim value = value
  | _ => True

section Lines

theorem rdropWhile_append_cons {test : Char → Bool} {char : Char} (fails : ¬test char)
    (before after : Text) :
    (before ++ char :: after).rdropWhile test = before ++ char :: after.rdropWhile test := by
  induction after using List.reverseRecOn with
  | nil => exact List.rdropWhile_concat_neg test before char fails
  | append_singleton after last ih =>
      have whole : before ++ char :: (after ++ [last]) = (before ++ char :: after) ++ [last] := by
        simp
      rw [whole, List.rdropWhile_concat, List.rdropWhile_concat]
      split_ifs
      · exact ih
      · exact whole.symm

theorem trim_cons_of_isspace {char : Char} (space : isspace char) (text : Text) :
    trim (char :: text) = trim text := by
  rw [trim, trim, List.dropWhile_cons_of_pos space]

theorem trim_append_of_forall {spaces : Text} (all : ∀ char ∈ spaces, isspace char)
    (text : Text) : trim (text ++ spaces) = trim text := by
  induction spaces using List.reverseRecOn with
  | nil => rw [List.append_nil]
  | append_singleton spaces last ih =>
      have space := all last (by simp)
      rw [← ih fun char inside => all char (List.mem_append_left _ inside), ← List.append_assoc,
        trim, trim, List.dropWhile_append]
      split_ifs with empty
      · rw [List.dropWhile_cons_of_pos space, List.isEmpty_iff.mp empty]
        rfl
      · exact List.rdropWhile_concat_pos isspace _ last space

/-- Spaces at the end of a line are no part of the value, with a comment or without. -/
theorem trim_takeWhile_rdropWhile (text : Text) :
    trim ((text.rdropWhile isspace).takeWhile (· ≠ '#')) = trim (text.takeWhile (· ≠ '#')) := by
  have split : text.rdropWhile isspace ++ text.rtakeWhile isspace = text :=
    List.rdropWhile_append_rtakeWhile
  have spaces : ∀ char ∈ text.rtakeWhile isspace, isspace char := by
    intro char inside
    rw [List.rtakeWhile, List.mem_reverse] at inside
    exact List.mem_takeWhile_imp inside
  have uncommented : ∀ char ∈ text.rtakeWhile isspace, decide (char ≠ '#') := by
    intro char inside
    apply decide_eq_true
    rintro rfl
    exact absurd (spaces _ inside) (by decide)
  by_cases plain : ∀ char ∈ text.rdropWhile isspace, decide (char ≠ '#')
  · conv_rhs => rw [← split]
    rw [List.takeWhile_append_of_pos plain, List.takeWhile_eq_self_iff.mpr plain,
      List.takeWhile_eq_self_iff.mpr uncommented, trim_append_of_forall spaces]
  · have shorter : ((text.rdropWhile isspace).takeWhile (· ≠ '#')).length ≠
        (text.rdropWhile isspace).length := by
      intro same
      have whole := (List.takeWhile_prefix (· ≠ '#')).eq_of_length same
      exact plain (List.takeWhile_eq_self_iff.mp whole)
    conv_rhs => rw [← split]
    rw [List.takeWhile_append, if_neg shorter]

/-- What is read from the line of an option. -/
theorem parseLine_optionLine {name : Text} (nameChars : ∀ char ∈ name, isNameChar char)
    (nonempty : name ≠ []) (value : Text) :
    parseLine (optionLine name value) =
      some (name, (trim (value.takeWhile (· ≠ '#'))).filter (· ≠ '"')) := by
  obtain ⟨first, rest, rfl⟩ := List.exists_cons_of_ne_nil nonempty
  have nameChar := nameChars first List.mem_cons_self
  have plainName : ∀ char ∈ first :: rest, ¬isspace char :=
    fun char inside => not_isspace_of_isNameChar (nameChars char inside)
  have trimmed : trim (optionLine (first :: rest) value) =
      first :: (rest ++ [' '] ++ '=' :: (' ' :: value).rdropWhile isspace) := by
    have line : optionLine (first :: rest) value =
        first :: (rest ++ [' '] ++ '=' :: ' ' :: value) := by
      simp [optionLine]
    rw [line, trim, List.dropWhile_cons_of_neg (plainName first List.mem_cons_self),
      ← List.cons_append, rdropWhile_append_cons (by decide), List.cons_append]
  have noNumber := ne_of_isNameChar nameChar (by decide : isNameChar '#' = false)
  have noBracket := ne_of_isNameChar nameChar (by decide : isNameChar '[' = false)
  have noComment : ∀ char ∈ first :: (rest ++ [' ']), decide (char ≠ '#') := by
    intro char inside
    rw [← List.cons_append, List.mem_append, List.mem_singleton] at inside
    rcases inside with inName | rfl
    · exact decide_eq_true (ne_of_isNameChar (nameChars char inName) (by decide))
    · decide
  have noEquals : ∀ char ∈ first :: (rest ++ [' ']), decide (char ≠ '=') := by
    intro char inside
    rw [← List.cons_append, List.mem_append, List.mem_singleton] at inside
    rcases inside with inName | rfl
    · exact decide_eq_true (ne_of_isNameChar (nameChars char inName) (by decide))
    · decide
  have plain : ¬(first = '#' || first = '[') := by simp [noNumber, noBracket]
  have trimmedName : trim (first :: (rest ++ [' '])) = first :: rest := by
    rw [← List.cons_append, trim_append_of_forall (List.forall_mem_singleton.mpr rfl),
      trim_of_forall plainName]
  unfold parseLine
  rw [trimmed]
  dsimp only
  rw [if_neg plain, ← List.cons_append, List.takeWhile_append_of_pos noComment,
    List.takeWhile_cons_of_pos (by decide), if_pos (by simp),
    List.takeWhile_append_of_pos noEquals, List.dropWhile_append_of_pos noEquals,
    List.takeWhile_cons_of_neg (by decide), List.dropWhile_cons_of_neg (by decide),
    List.append_nil, List.tail_cons, trimmedName, trim_takeWhile_rdropWhile,
    List.takeWhile_cons_of_pos (by decide), trim_cons_of_isspace (by decide)]

/-- The value is read as it is exactly if the reader has nothing to take away. -/
theorem read_eq_iff (value : Text) :
    (trim (value.takeWhile (· ≠ '#'))).filter (· ≠ '"') = value ↔
      '#' ∉ value ∧ '"' ∉ value ∧ trim value = value := by
  constructor
  · intro same
    have noNumber : '#' ∉ value := by
      intro inside
      rw [← same] at inside
      have uncut := mem_of_mem_trim (List.mem_of_mem_filter inside)
      exact absurd (List.mem_takeWhile_imp uncut) (by decide)
    have noQuote : '"' ∉ value := by
      intro inside
      rw [← same] at inside
      exact absurd (List.of_mem_filter inside) (by decide)
    refine ⟨noNumber, noQuote, ?_⟩
    have whole : value.takeWhile (· ≠ '#') = value := by
      rw [List.takeWhile_eq_self_iff]
      intro char inside
      exact decide_eq_true fun number => noNumber (number ▸ inside)
    have unquoted : (trim value).filter (· ≠ '"') = trim value := by
      rw [List.filter_eq_self]
      intro char inside
      exact decide_eq_true fun quote => noQuote (quote ▸ mem_of_mem_trim inside)
    rw [whole, unquoted] at same
    exact same
  · rintro ⟨noNumber, noQuote, trimmed⟩
    have whole : value.takeWhile (· ≠ '#') = value := by
      rw [List.takeWhile_eq_self_iff]
      intro char inside
      exact decide_eq_true fun number => noNumber (number ▸ inside)
    rw [whole, trimmed, List.filter_eq_self]
    intro char inside
    exact decide_eq_true fun quote => noQuote (quote ▸ inside)

end Lines

section Numbers

/-- The buffer of `ToString` is large enough for every integer type. -/
theorem integerToString_of_inRange {signed : Bool} {width : Width} {value : Int}
    (fits : inRange signed width value = true) :
    integerToString value = some (toString value).toList := by
  have bytes : width.modulus ≤ 2 ^ 64 := by cases width <;> decide
  apply if_pos
  rw [toList_toString]
  cases signed with
  | true =>
      have small : value.natAbs < 10 ^ 19 := by
        simp only [inRange, if_true, decide_eq_true_eq] at fits
        omega
      have digits := (Nat.length_toDigits_le_iff (by decide) (by decide)).mpr small
      split_ifs
      · exact Nat.le_succ_of_le digits
      · exact Nat.succ_le_succ digits
  | false =>
      have nonneg : 0 ≤ value ∧ value.natAbs < 10 ^ 20 := by
        simp only [inRange, Bool.false_eq_true, if_false, decide_eq_true_eq] at fits
        omega
      rw [if_pos nonneg.1]
      exact (Nat.length_toDigits_le_iff (by decide) (by decide)).mpr nonneg.2

theorem plain_toString (value : Int) :
    '#' ∉ (toString value).toList ∧ '"' ∉ (toString value).toList ∧
      '\n' ∉ (toString value).toList ∧ trim (toString value).toList = (toString value).toList := by
  have digit : ∀ char ∈ (toString value).toList, char = '-' ∨ isNameChar char := by
    intro char inside
    rw [toList_toString] at inside
    split_ifs at inside
    · exact .inr (isNameChar_of_mem_toDigits inside)
    · rcases List.mem_cons.mp inside with rfl | inDigits
      · exact .inl rfl
      · exact .inr (isNameChar_of_mem_toDigits inDigits)
  have absent (other : Char) (notMinus : other ≠ '-') (special : isNameChar other = false) :
      other ∉ (toString value).toList := by
    intro inside
    rcases digit other inside with minus | nameChar
    · exact notMinus minus
    · rw [special] at nameChar
      cases nameChar
  refine ⟨absent '#' (by decide) (by decide), absent '"' (by decide) (by decide),
    absent '\n' (by decide) (by decide), trim_of_forall ?_⟩
  intro char inside
  rcases digit char inside with rfl | nameChar
  · decide
  · exact not_isspace_of_isNameChar nameChar

end Numbers

section Reading

variable {name : Text} {default : OptionValue} {options : Options}

/-- A missing option has its default value, and the message says which line to add. -/
theorem getOption_missing (fits : default.InRange) (missing : options name = none) :
    ∃ advice, getOption name default true options =
      some (default, [advice ++ optionLine name default.text ++ ['"']]) := by
  cases default with
  | string value =>
      refine ⟨"> Config: Missing option ".toList ++ name ++ ", add \"".toList, ?_⟩
      rw [getOption, getValueDefaultString, missing]
      rfl
  | bool value =>
      refine ⟨"> Config: Missing option ".toList ++ name ++ ", add \"".toList, ?_⟩
      have parsed : stringToBool (String.ofList (boolToString value)) = some value := by
        cases value <;> decide
      rw [getOption, getOptionBool, getValueDefaultString, missing]
      dsimp only
      rw [parsed]
      rfl
  | integer signed width value =>
      refine ⟨"> Config: Missing property ".toList ++ name ++
        " in all config files, at least the .dist file must contain: \"".toList, ?_⟩
      rw [getOption, getValueDefault, missing]
      dsimp only
      rw [integerToString_of_inRange fits]
      rfl

theorem getOption_read (fits : default.InRange)
    (given : options name =
      some ((trim (default.text.takeWhile (· ≠ '#'))).filter (· ≠ '"'))) :
    getOption name default true options = some (default, []) ↔ default.Plain := by
  cases default with
  | string value =>
      have result : getOption name (.string value) true options =
          some (.string ((trim (value.takeWhile (· ≠ '#'))).filter (· ≠ '"')), []) := by
        rw [getOption, getValueDefaultString, given]
        rfl
      rw [result, Option.some.injEq, Prod.mk.injEq, OptionValue.string.injEq, read_eq_iff]
      exact and_iff_left rfl
  | bool value =>
      refine iff_of_true ?_ trivial
      have whole : (trim ((boolToString value).takeWhile (· ≠ '#'))).filter (· ≠ '"') =
          boolToString value := by
        rw [read_eq_iff]
        cases value <;> decide
      have parsed : stringToBool (String.ofList (boolToString value)) = some value := by
        cases value <;> decide
      rw [OptionValue.text, whole] at given
      rw [getOption, getOptionBool, getValueDefaultString, given]
      dsimp only
      rw [parsed]
  | integer signed width value =>
      refine iff_of_true ?_ trivial
      obtain ⟨noNumber, noQuote, -, trimmed⟩ := plain_toString value
      rw [OptionValue.text, (read_eq_iff _).mpr ⟨noNumber, noQuote, trimmed⟩] at given
      have parsed := stringToInteger_toString signed width value
      have inside : inRange signed width value = true := fits
      rw [if_pos inside] at parsed
      rw [getOption, getValueDefault, given]
      dsimp only
      rw [String.ofList_toList, parsed]
      rfl

/-- A line is added at the end of a file. -/
theorem entries_append (text : Text) {line : Text} (noBreak : '\n' ∉ line) :
    (ConfigFile.opened (text ++ '\n' :: line) true).entries =
      (ConfigFile.opened text true).entries ++ (parseLine line).toList := by
  have joined : text ++ '\n' :: line = ['\n'].intercalate (text.splitOn '\n' ++ [line]) := by
    rw [intercalate_append_singleton (List.splitOn_ne_nil _ _), List.intercalate_splitOn]
  have split : (text ++ '\n' :: line).splitOn '\n' = text.splitOn '\n' ++ [line] := by
    rw [joined]
    apply List.splitOn_intercalate
    · intro part inside
      rcases List.mem_append.mp inside with earlier | last
      · exact not_mem_of_mem_splitOn earlier
      · rw [List.mem_singleton] at last
        exact last ▸ noBreak
    · simp
  have single : [line].filterMap parseLine = (parseLine line).toList := by
    cases parsed : parseLine line with
    | none => exact List.filterMap_cons_none parsed
    | some entry => exact List.filterMap_cons_some parsed
  rw [ConfigFile.entries, ConfigFile.entries, split, lineEntries, lineEntries,
    List.filterMap_append, single]

/-- The options of a name that only `.dist` gives. -/
theorem loadAppConfigs_lookup (distIteration confIteration : Iteration) (filename : String)
    {dist conf : ConfigFile} (state : State) (unchanged : conf.entries.lookup name = none)
    (counted : ¬4294967296 ∣ dist.optionCount) :
    (state.loadAppConfigs distIteration confIteration filename dist conf).2.configOptions name =
      dist.entries.lookup name := by
  rw [loadAppConfigs_eq, if_neg counted]
  split_ifs
  · rfl
  · simp only [mergedOptions, unchanged]
    rfl

theorem loadAppConfigs_lookup_none (distIteration confIteration : Iteration) (filename : String)
    {dist conf : ConfigFile} (state : State) (missing : dist.entries.lookup name = none)
    (unchanged : conf.entries.lookup name = none) :
    (state.loadAppConfigs distIteration confIteration filename dist conf).2.configOptions name =
      none := by
  by_cases counted : 4294967296 ∣ dist.optionCount
  · rw [loadAppConfigs_eq, if_pos counted]
  · rw [loadAppConfigs_lookup distIteration confIteration filename state unchanged counted,
      missing]

/-- For a default value of every type, an option that neither file gives has that value, with
one message.  When the line that the message asks for is added to the end of `.dist`, the
option is read with the same value and without a message, if the default is a number or a
switch; a text is read as it is exactly if it has no number sign and no quotes in it and no
space at its ends. -/
theorem advised_line_reads_back_iff (distIteration confIteration : Iteration) (filename : String)
    (state : State) {text : Text} {conf : ConfigFile} (nameChars : ∀ char ∈ name, isNameChar char)
    (nonempty : name ≠ []) (fits : default.InRange) (oneLine : '\n' ∉ default.text)
    (missing : (ConfigFile.opened text true).entries.lookup name = none)
    (unchanged : conf.entries.lookup name = none)
    (few : (ConfigFile.opened text true).optionCount + 1 < 4294967296) :
    ∃ advice line,
      getOption name default true
          (state.loadAppConfigs distIteration confIteration filename (.opened text true)
            conf).2.configOptions =
        some (default, [advice ++ line ++ ['"']]) ∧
      (getOption name default true
          (state.loadAppConfigs distIteration confIteration filename
            (.opened (text ++ '\n' :: line) true) conf).2.configOptions =
        some (default, []) ↔ default.Plain) := by
  obtain ⟨advice, advised⟩ := getOption_missing fits
    (loadAppConfigs_lookup_none distIteration confIteration filename state missing unchanged)
  refine ⟨advice, optionLine name default.text, advised, getOption_read fits ?_⟩
  have noBreak : '\n' ∉ optionLine name default.text := by
    have inName : '\n' ∉ name := fun inside => absurd (nameChars _ inside) (by decide)
    simp [optionLine, inName, oneLine]
  have entries := entries_append text noBreak
  rw [parseLine_optionLine nameChars nonempty, Option.toList_some] at entries
  have collected : firsts (ConfigFile.opened (text ++ '\n' :: optionLine name default.text)
      true).entries = firsts (ConfigFile.opened text true).entries ++
        [(name, (trim (default.text.takeWhile (· ≠ '#'))).filter (· ≠ '"'))] := by
    rw [entries, firsts, List.foldl_append]
    change addNew (firsts _) _ = _
    rw [addNew, KeyedEntries.lookup_firsts, missing]
    rfl
  have counted : ¬4294967296 ∣ (ConfigFile.opened
      (text ++ '\n' :: optionLine name default.text) true).optionCount := by
    rw [ConfigFile.optionCount, collected, List.length_append, List.length_singleton]
    rw [ConfigFile.optionCount] at few
    omega
  rw [loadAppConfigs_lookup distIteration confIteration filename state unchanged counted, entries,
    List.lookup_append, missing, Option.none_or, List.lookup_cons_self]

end Reading

def unloaded : State := ⟨fun _ => none, false⟩

/-- The line that is missing in the file, with its default value. -/
theorem advised_line_reads_back_ping :
    ∃ advice line,
      getOption "MaxPingTime".toList (.integer false .four 30) true
          (unloaded.loadAppConfigs .insertion .insertion "DiscordBot.conf"
            (.opened "MaxQueueSize = 10".toList true) .unopened).2.configOptions =
        some (.integer false .four 30, [advice ++ line ++ ['"']]) ∧
      (getOption "MaxPingTime".toList (.integer false .four 30) true
          (unloaded.loadAppConfigs .insertion .insertion "DiscordBot.conf"
            (.opened ("MaxQueueSize = 10".toList ++ '\n' :: line) true) .unopened).2.configOptions =
        some (.integer false .four 30, []) ↔ True) := by
  have nameChars : "MaxPingTime".toList.all isNameChar := by decide
  have fits : inRange false .four 30 = true := by decide
  exact @advised_line_reads_back_iff "MaxPingTime".toList (.integer false .four 30) .insertion
    .insertion "DiscordBot.conf" unloaded "MaxQueueSize = 10".toList .unopened
    (List.all_eq_true.mp nameChars) (by decide) fits (by decide) (by decide) rfl (by decide)

end Config

end WarheadBot
