import WarheadBot.Config

/-!
# A quoted value

The comment of a line is cut off before its quotes are looked at.  A line that
gives an option a value in quotes is read as that value if there is no number
sign in it; otherwise the value ends there.
-/

namespace WarheadBot

namespace Config

open KeyedEntries (addNew firsts)

/-- The options of the lines, also those that are given again. -/
def lineEntries (lines : List Text) : List Entry :=
  lines.filterMap parseLine

/-- The first entry of each option is collected, and counted in 32 bits. -/
def Reading.of (entries : List Entry) : Reading :=
  ⟨firsts entries, UInt32.ofNat (firsts entries).length⟩

theorem Reading.of_append_singleton (entries : List Entry) (entry : Entry) :
    (Reading.of (entries ++ [entry])) =
      if (Reading.of entries).isDuplicateOption entry.1 then Reading.of entries
      else ⟨firsts entries ++ [entry], UInt32.ofNat (firsts entries).length + 1⟩ := by
  have later : firsts (entries ++ [entry]) = addNew (firsts entries) entry := by
    rw [firsts, List.foldl_append]
    rfl
  rw [Reading.of, later, addNew]
  by_cases duplicate : ((firsts entries).lookup entry.1).isSome
  · rw [if_pos duplicate]
    exact (if_pos duplicate).symm
  · rw [if_neg duplicate, List.length_append, UInt32.ofNat_add]
    exact (if_neg duplicate).symm

theorem addLine_of (entries : List Entry) (line : Text) :
    (Reading.of entries).addLine line = Reading.of (entries ++ (parseLine line).toList) := by
  unfold Reading.addLine
  cases parseLine line with
  | none => rw [Option.toList_none, List.append_nil]
  | some entry => exact (Reading.of_append_singleton entries entry).symm

theorem foldl_addLine (entries : List Entry) (lines : List Text) :
    lines.foldl Reading.addLine (Reading.of entries) =
      Reading.of (entries ++ lineEntries lines) := by
  induction lines generalizing entries with
  | nil => rw [List.foldl_nil, lineEntries, List.filterMap_nil, List.append_nil]
  | cons line lines ih =>
      rw [List.foldl_cons, addLine_of, ih, List.append_assoc]
      congr 2
      unfold lineEntries
      cases parsed : parseLine line with
      | none => rw [List.filterMap_cons_none parsed, Option.toList_none, List.nil_append]
      | some entry => rw [List.filterMap_cons_some parsed]; rfl

theorem readLines_eq (lines : List Text) : readLines lines = Reading.of (lineEntries lines) :=
  foldl_addLine [] lines

theorem trim_eq_self {text : Text} (first : ∀ char ∈ text.head?, ¬isspace char)
    (last : ∀ char ∈ text.getLast?, ¬isspace char) : trim text = text := by
  have front : text.dropWhile isspace = text := by
    cases text with
    | nil => rfl
    | cons char rest => exact List.dropWhile_cons_of_neg (first char rfl)
  rw [trim, front, List.rdropWhile_eq_self_iff]
  intro some
  exact last _ (List.getLast?_eq_getLast_of_ne_nil some)

theorem trim_of_forall {text : Text} (plain : ∀ char ∈ text, ¬isspace char) :
    trim text = text :=
  trim_eq_self (fun char inside => plain char (List.mem_of_head? inside))
    fun char inside => plain char (List.mem_of_getLast? inside)

theorem trim_of_ends {first last : Char} (firstPlain : ¬isspace first)
    (lastPlain : ¬isspace last) (middle : Text) :
    trim (first :: (middle ++ [last])) = first :: (middle ++ [last]) := by
  apply trim_eq_self
  · intro char inside
    cases inside
    exact firstPlain
  · intro char inside
    rw [← List.cons_append, List.getLast?_concat] at inside
    cases inside
    exact lastPlain

theorem mem_of_mem_trim {char : Char} {text : Text} (inside : char ∈ trim text) : char ∈ text :=
  (List.dropWhile_suffix isspace).subset ((List.rdropWhile_prefix isspace _).subset inside)

/-- Letters, digits and dots. -/
def isNameChar (char : Char) : Bool :=
  char.isAlphanum || char = '.'

/-- The value in quotes after the name and the equals sign. -/
def quotedLine (name value : Text) : Text :=
  name ++ '=' :: '"' :: (value ++ ['"'])

theorem not_isspace_of_isNameChar {char : Char} (nameChar : isNameChar char) :
    ¬isspace char := by
  intro space
  rw [isspace, Bool.or_eq_true, Bool.and_eq_true, decide_eq_true_eq, decide_eq_true_eq,
    decide_eq_true_eq] at space
  obtain rfl | ⟨low, high⟩ := space
  · exact absurd nameChar (by decide)
  · have same := Char.ofNat_toNat char
    generalize char.toNat = code at same low high
    subst same
    obtain rfl | rfl | rfl | rfl | rfl : code = 9 ∨ code = 10 ∨ code = 11 ∨ code = 12 ∨
        code = 13 := by
      omega
    all_goals exact absurd nameChar (by decide)

theorem ne_of_isNameChar {char other : Char} (nameChar : isNameChar char)
    (special : isNameChar other = false) : char ≠ other := by
  rintro rfl
  rw [nameChar] at special
  cases special

/-- A line that begins with the name of an option is cut at its first number sign
and divided at its first equals sign. -/
theorem parseLine_option {name : Text} (nameChars : ∀ char ∈ name, isNameChar char)
    {rest : Text} (trimmed : trim (name ++ '=' :: rest) = name ++ '=' :: rest) :
    parseLine (name ++ '=' :: rest) =
      some (name, (trim (rest.takeWhile (· ≠ '#'))).filter (· ≠ '"')) := by
  have noComment : ∀ char ∈ name, decide (char ≠ '#') := by
    intro char inside
    exact decide_eq_true (ne_of_isNameChar (nameChars char inside) (by decide))
  have noEquals : ∀ char ∈ name, decide (char ≠ '=') := by
    intro char inside
    exact decide_eq_true (ne_of_isNameChar (nameChars char inside) (by decide))
  obtain ⟨first, others, begins, plain⟩ : ∃ first others,
      name ++ '=' :: rest = first :: others ∧ ¬(first = '#' || first = '[') := by
    cases name with
    | nil => exact ⟨'=', rest, rfl, by decide⟩
    | cons first name =>
        have nameChar := nameChars first List.mem_cons_self
        refine ⟨first, name ++ '=' :: rest, rfl, ?_⟩
        have number := ne_of_isNameChar nameChar (by decide : isNameChar '#' = false)
        have bracket := ne_of_isNameChar nameChar (by decide : isNameChar '[' = false)
        simp [number, bracket]
  unfold parseLine
  rw [trimmed, begins]
  dsimp only
  rw [if_neg plain, ← begins, List.takeWhile_append_of_pos noComment,
    List.takeWhile_cons_of_pos (by decide), if_pos (by simp),
    List.takeWhile_append_of_pos noEquals, List.dropWhile_append_of_pos noEquals,
    List.takeWhile_cons_of_neg (by decide), List.dropWhile_cons_of_neg (by decide),
    List.append_nil, List.tail_cons]
  rw [trim_of_forall fun char inside => not_isspace_of_isNameChar (nameChars char inside)]

theorem trim_quotedLine {name : Text} (nameChars : ∀ char ∈ name, isNameChar char)
    (value : Text) : trim (quotedLine name value) = quotedLine name value := by
  cases name with
  | nil => exact trim_of_ends (by decide) (by decide) ('"' :: value)
  | cons first name =>
      have firstPlain := not_isspace_of_isNameChar (nameChars first List.mem_cons_self)
      have kept := @trim_of_ends first '"' firstPlain (by decide) (name ++ '=' :: '"' :: value)
      rw [List.append_assoc] at kept
      exact kept

/-- The comment goes first: a value with a number sign is cut there. -/
theorem parseLine_quotedLine {name : Text} (nameChars : ∀ char ∈ name, isNameChar char)
    {value : Text} (noQuote : '"' ∉ value) :
    ∃ read, parseLine (quotedLine name value) = some (name, read) ∧
      (read = value ↔ '#' ∉ value) := by
  refine ⟨_, parseLine_option nameChars (trim_quotedLine nameChars value), ?_⟩
  constructor
  · intro same numbered
    rw [← same] at numbered
    have inside := mem_of_mem_trim (List.mem_of_mem_filter numbered)
    exact absurd (List.mem_takeWhile_imp inside) (by decide)
  · intro plain
    have whole : ('"' :: (value ++ ['"'])).takeWhile (· ≠ '#') = '"' :: (value ++ ['"']) := by
      rw [List.takeWhile_eq_self_iff]
      intro char inside
      apply decide_eq_true
      rintro rfl
      simp [plain] at inside
    have unquoted : value.filter (· ≠ '"') = value := by
      rw [List.filter_eq_self]
      intro char inside
      apply decide_eq_true
      rintro rfl
      exact noQuote inside
    rw [whole, trim_of_ends (by decide) (by decide), List.filter_cons_of_neg (by decide),
      List.filter_append, unquoted, List.filter_cons_of_neg (by decide), List.filter_nil,
      List.append_nil]

/-- After lines that do not give the option, a line that gives its value in quotes
is read as this value if there is no number sign in it. -/
theorem quotedLine_read_iff {name value : Text} {before after : List Text}
    (nameChars : ∀ char ∈ name, isNameChar char) (noQuote : '"' ∉ value)
    (noBreak : '\n' ∉ value) (lines : ∀ line ∈ before ++ after, '\n' ∉ line)
    (fresh : ∀ line ∈ before, ∀ entry ∈ parseLine line, entry.1 ≠ name) :
    (readLines ((['\n'].intercalate
      (before ++ quotedLine name value :: after)).splitOn '\n')).fileConfigs.lookup name =
        some value ↔ '#' ∉ value := by
  have whole : '\n' ∉ quotedLine name value := by
    have inName : '\n' ∉ name := fun inside => absurd (nameChars _ inside) (by decide)
    simp [quotedLine, inName, noBreak]
  have split : (['\n'].intercalate (before ++ quotedLine name value :: after)).splitOn '\n' =
      before ++ quotedLine name value :: after := by
    apply List.splitOn_intercalate
    · intro line inside
      rw [List.mem_append, List.mem_cons] at inside
      obtain earlier | rfl | later := inside
      · exact lines line (List.mem_append_left _ earlier)
      · exact whole
      · exact lines line (List.mem_append_right _ later)
    · exact List.append_ne_nil_of_right_ne_nil _ (List.cons_ne_nil _ _)
  obtain ⟨read, parsed, same⟩ := parseLine_quotedLine nameChars noQuote
  have nothing : (lineEntries before).lookup name = none := by
    rw [List.lookup_eq_none_iff]
    intro entry given
    obtain ⟨line, earlier, isGiven⟩ := List.mem_filterMap.mp given
    exact bne_iff_ne.mpr (fresh line earlier entry isGiven).symm
  have given : lineEntries (before ++ quotedLine name value :: after) =
      lineEntries before ++ (name, read) :: lineEntries after := by
    rw [lineEntries, List.filterMap_append, List.filterMap_cons_some parsed]
    rfl
  rw [split, readLines_eq, Reading.of, KeyedEntries.lookup_firsts, given, List.lookup_append,
    nothing, Option.none_or, List.lookup_cons_self, Option.some.injEq]
  exact same

theorem quotedLine_read_token :
    (readLines ((['\n'].intercalate ["[server]".toList,
      quotedLine "Bot.Token".toList "a = b ".toList, "Bot.Token = c".toList]).splitOn
        '\n')).fileConfigs.lookup "Bot.Token".toList = some "a = b ".toList := by
  have nameChars : "Bot.Token".toList.all isNameChar := by
    decide
  have fresh : ∀ line ∈ ["[server]".toList], ∀ entry ∈ parseLine line,
      entry.1 ≠ "Bot.Token".toList := by
    decide +kernel
  exact (@quotedLine_read_iff "Bot.Token".toList "a = b ".toList ["[server]".toList]
    ["Bot.Token = c".toList] (List.all_eq_true.mp nameChars) (by decide) (by decide) (by decide)
    fresh).mpr (by decide)

/-- A password with a number sign ends the value. -/
theorem quotedLine_cut_at_number_sign :
    ¬(readLines ((quotedLine "DiscordDatabaseInfo".toList
        "127.0.0.1;3306;warhead;pa#ss;discord".toList).splitOn '\n')).fileConfigs.lookup
          "DiscordDatabaseInfo".toList =
            some "127.0.0.1;3306;warhead;pa#ss;discord".toList := by
  decide +kernel

end Config

end WarheadBot
