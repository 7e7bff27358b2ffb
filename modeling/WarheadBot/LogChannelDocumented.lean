import WarheadBot.LogChannelPattern

/-!
# When the documented text is written

`%%` and a width of zero are dropped, the hours are exchanged, the number of the
month is padded, one priority has another name, and a text in brackets behind a
specifier is taken for a width.  A pattern writes what is documented if it
meets none of these and the text can be held by a string, and only then, unless
a source that is to be cropped to nothing makes up for something that is missing.
-/

namespace WarheadBot

namespace Logging

open Calendar
open Config (Text)
open Fields (stringToInteger)

variable {localtime : Int → Tm} {msg : LogMessage} {maxSize : Nat} {items : List Item}

/-- Every specifier is replaced by what is documented, no text is taken for a
width, and what is to be written is not too long for a string. -/
structure Agrees (localtime : Int → Tm) (msg : LogMessage) (maxSize : Nat)
    (items : List Item) : Prop where
  bracketFree : BracketFree items
  specifiers : ∀ inner, Item.specifier inner ∈ items → inner.Agrees localtime msg
  fits : (documentedText localtime msg items).length ≤ maxSize

theorem documentedText_cons (item : Item) (items : List Item) :
    documentedText localtime msg (item :: items) =
      item.documented localtime msg ++ documentedText localtime msg items :=
  rfl

theorem parsePattern_eq_ok {pattern : Text} {actions : List PatternAction}
    (parsed : parsePattern pattern = .ok actions) :
    parseActions [] pattern = .ok actions ∧ actions ≠ [] := by
  unfold parsePattern at parsed
  split_ifs at parsed
  split at parsed
  · exact nomatch parsed
  · exact nomatch parsed
  · rename_i other returned
    rw [← Except.ok.inj parsed]
    exact ⟨returned, other⟩

theorem plainActions_ne_nil (nonempty : items ≠ []) (before : Text) :
    plainActions before items ≠ [] := by
  induction items generalizing before with
  | nil => exact absurd rfl nonempty
  | cons item items ih =>
      cases item with
      | specifier inner => exact List.cons_ne_nil _ _
      | literal char plain =>
          rw [plainActions]
          cases items with
          | nil => simp [plainActions]
          | cons second items => exact ih (List.cons_ne_nil second items) _

theorem patternText_ne_nil (nonempty : items ≠ []) : patternText items ≠ [] := by
  cases items with
  | nil => exact absurd rfl nonempty
  | cons item items =>
      cases item with
      | literal char plain => exact List.cons_ne_nil _ _
      | specifier inner =>
          obtain ⟨behind, text⟩ := inner.exists_text
          rw [patternText_cons, Item.text, text]
          exact List.cons_ne_nil _ _

theorem parsePattern_patternText (nonempty : items ≠ []) (bracketFree : BracketFree items)
    (readable : ∀ inner, Item.specifier inner ∈ items → inner.Readable) :
    parsePattern (patternText items) = .ok (plainActions [] items) := by
  rw [parsePattern, if_neg (patternText_ne_nil nonempty),
    parseActions_patternText bracketFree readable]
  cases actions : plainActions [] items with
  | nil => exact absurd actions (plainActions_ne_nil nonempty [])
  | cons first rest => rfl

theorem written_eq_documentedText
    (agrees : ∀ inner, Item.specifier inner ∈ items → inner.Agrees localtime msg) :
    items.flatMap (Item.written localtime msg) = documentedText localtime msg items := by
  apply List.flatMap_congr
  intro item inside
  cases item with
  | literal char plain => rfl
  | specifier inner => exact Specifier.written_eq_documented (agrees inner inside)

theorem writesDocumented_of_agrees (nonempty : items ≠ [])
    (agrees : Agrees localtime msg maxSize items) :
    WritesDocumented localtime msg maxSize items := by
  refine ⟨plainActions [] items, ?_, ?_⟩
  · exact parsePattern_patternText nonempty agrees.bracketFree fun inner inside =>
      Specifier.readable_of_agrees (agrees.specifiers inner inside)
  · rw [format_eq_some_iff localtime msg (plainActions_ne_nil nonempty []),
      plainActions_written, List.nil_append]
    exact ⟨written_eq_documentedText agrees.specifiers, agrees.fits⟩

theorem count_write2 {char : Char} (other : char.isDigit = false) (value : Nat) :
    (write2 value).count char = 0 := by
  apply List.count_eq_zero_of_not_mem
  intro inside
  rw [isDigit_of_mem_write2 inside] at other
  exact Bool.noConfusion other

theorem levelName_sublist (level : LogLevel) :
    (getLogLevelName level).toList.Sublist (documentedPriority level).toList := by
  cases level <;> decide

/-- Only digits are written beyond what is documented. -/
theorem count_written_le {char : Char} (other : char.isDigit = false) {inner : Specifier}
    (cropped : inner.CropsToSomething msg) :
    (inner.written localtime msg).count char ≤ (inner.documented localtime msg).count char := by
  cases inner with
  | priority => exact (levelName_sublist msg.level).count_le char
  | abbreviatedPriority =>
      exact (congrArg (List.count char) (abbreviated_eq_documented msg.level)).le
  | monthNumber => exact (count_write2 other _).trans_le (Nat.zero_le _)
  | hour => exact (count_write2 other _).trans_le (Nat.zero_le _)
  | hour12 => exact (count_write2 other _).trans_le (Nat.zero_le _)
  | percentSign => exact Nat.zero_le _
  | sizedSource width =>
      exact (congrArg (List.count char) (sizedSource_eq_exactLength (cropped width rfl))).le
  | _ => exact le_rfl

theorem count_documentedText_le_of_suffix {rest : List Item} (suffix : rest <:+ items)
    (char : Char) :
    (documentedText localtime msg rest).count char ≤
      (documentedText localtime msg items).count char := by
  obtain ⟨front, rfl⟩ := suffix
  unfold documentedText
  rw [List.flatMap_append, List.count_append]
  exact Nat.le_add_left _ _

/-- Digits up to a bracket, or to the end, are literal text. -/
theorem exists_behindBracket
    (digits : ((patternText items).takeWhile (· ≠ ']')).all Char.isDigit = true) :
    ∃ rest, rest <:+ items ∧ patternText rest = behindBracket (patternText items) := by
  induction items with
  | nil => exact ⟨[], List.suffix_rfl, rfl⟩
  | cons item items ih =>
      rw [patternText_cons] at digits ⊢
      cases item with
      | literal char plain =>
          simp only [Item.text, List.singleton_append] at digits ⊢
          by_cases closing : char = ']'
          · refine ⟨items, List.suffix_cons _ items, ?_⟩
            rw [behindBracket, List.dropWhile_cons_of_neg (by simp [closing]), List.tail_cons]
          · rw [List.takeWhile_cons_of_pos (by simpa using closing), List.all_cons,
              Bool.and_eq_true] at digits
            obtain ⟨rest, suffix, same⟩ := ih digits.2
            refine ⟨rest, suffix.trans (List.suffix_cons _ items), ?_⟩
            rw [same, behindBracket, behindBracket,
              List.dropWhile_cons_of_pos (by simpa using closing)]
      | specifier inner =>
          obtain ⟨behind, text⟩ := inner.exists_text
          rw [Item.text, text, List.cons_append, List.takeWhile_cons_of_pos (by decide),
            List.all_cons, Bool.and_eq_true] at digits
          exact absurd digits.1 (by decide)

theorem literal_of_head?_bracket (bracket : (patternText items).head? = some '[') :
    ∃ plain rest, items = Item.literal '[' plain :: rest := by
  cases items with
  | nil => exact nomatch bracket
  | cons item items =>
      rw [patternText_cons] at bracket
      cases item with
      | literal char plain =>
          obtain rfl : char = '[' := Option.some.inj bracket
          exact ⟨plain, items, rfl⟩
      | specifier inner =>
          obtain ⟨behind, text⟩ := inner.exists_text
          rw [Item.text, text] at bracket
          exact absurd (Option.some.inj bracket) (by decide)

theorem keyText_of_no_width {inner : Specifier} (unsized : inner.width? = none) (length : Nat) :
    keyText localtime msg length inner.letter = inner.written localtime msg := by
  cases inner with
  | sizedSource width => exact nomatch unsized
  | _ => rfl

/-- A pattern that is accepted has no width that cannot be read. -/
theorem readable_of_parseActions {before text : Text} {actions : List PatternAction}
    {inner : Specifier} (parsed : parseActions before (inner.text ++ text) = .ok actions) :
    inner.Readable := by
  intro width sized
  unfold Specifier.text at parsed
  rw [sized] at parsed
  simp only [List.cons_append, List.append_assoc, List.nil_append] at parsed
  obtain ⟨number, -⟩ := takeWhile_numeral width text
  cases read : stringToInteger false .eight (String.ofList width.digits) with
  | none =>
      rw [← number] at read
      rw [parseActions_no_number inner.letter_ne_bracket read] at parsed
      exact nomatch parsed
  | some length => exact (stringToInteger_eq_some read).2.2.2

/-- What an accepted pattern is cut into at a specifier: either the specifier is
taken as a whole, or literal text behind it is lost. -/
theorem parseActions_specifier_cases {before : Text} {actions : List PatternAction}
    {inner : Specifier} (parsed : parseActions before (inner.text ++ patternText items) =
      .ok actions) :
    ∃ length rest later, rest <:+ items ∧ parseActions [] (patternText rest) = .ok later ∧
      actions = ⟨inner.letter, length, [], before⟩ :: later ∧
      (length = inner.length ∨ inner.width? = none) ∧
      (rest = items ∧ (inner.width? = none → (patternText items).head? ≠ some '[') ∨
        ∃ plain behind, items = .literal '[' plain :: behind ∧ rest <:+ behind) := by
  have readable := readable_of_parseActions parsed
  by_cases stray : inner.width? = none ∧ (patternText items).head? = some '['
  · obtain ⟨unsized, bracket⟩ := stray
    obtain ⟨plain, behind, rfl⟩ := literal_of_head?_bracket bracket
    have text : inner.text ++ patternText (.literal '[' plain :: behind) =
        '%' :: inner.letter :: '[' :: patternText behind := by
      unfold Specifier.text
      rw [unsized]
      rfl
    rw [text] at parsed
    cases read : stringToInteger false .eight
        (String.ofList ((patternText behind).takeWhile (· ≠ ']'))) with
    | none =>
        rw [parseActions_no_number inner.letter_ne_bracket read] at parsed
        exact nomatch parsed
    | some length =>
        rw [parseActions_number inner.letter_ne_bracket read] at parsed
        obtain ⟨later, parsedRest, same⟩ := exists_of_map_ok parsed
        obtain ⟨rest, suffix, restText⟩ :=
          exists_behindBracket (stringToInteger_eq_some read).2.1
        rw [← restText] at parsedRest
        exact ⟨length.toNat, rest, later, suffix.trans (List.suffix_cons _ behind), parsedRest,
          same.symm, .inr unsized, .inr ⟨plain, behind, rfl, suffix⟩⟩
  · have unbracketed : inner.width? = none → (patternText items).head? ≠ some '[' :=
      fun unsized bracket => stray ⟨unsized, bracket⟩
    rw [parseActions_specifier readable unbracketed] at parsed
    obtain ⟨later, parsedRest, same⟩ := exists_of_map_ok parsed
    exact ⟨inner.length, items, later, List.suffix_rfl, parsedRest, same.symm, .inl rfl,
      .inl ⟨rfl, unbracketed⟩⟩

/-- What is taken for a width is missing from what is written. -/
theorem count_bracket_le {before : Text} {actions : List PatternAction}
    (cropped : ∀ inner, Item.specifier inner ∈ items → inner.CropsToSomething msg)
    (parsed : parseActions before (patternText items) = .ok actions) :
    (actions.flatMap (actionText localtime msg)).count '[' ≤
        before.count '[' + (documentedText localtime msg items).count '[' ∧
      ((actions.flatMap (actionText localtime msg)).count '[' =
          before.count '[' + (documentedText localtime msg items).count '[' →
        BracketFree items ∧ ∀ inner, Item.specifier inner ∈ items → inner.Readable) := by
  induction size : items.length using Nat.strong_induction_on generalizing items before actions with
  | _ size ih =>
    cases items with
    | nil =>
        have plain := plainActions_written localtime msg before []
        have same : actions = plainActions before [] :=
          Except.ok.inj (parsed.symm.trans parseActions_nil)
        rw [same, plain]
        simp [documentedText, BracketFree]
    | cons item items =>
        have croppedRest : ∀ inner, Item.specifier inner ∈ items → inner.CropsToSomething msg :=
          fun inner inside => cropped inner (List.mem_cons_of_mem item inside)
        rw [List.length_cons] at size
        rw [documentedText_cons, List.count_append]
        cases item with
        | literal char plain =>
            have parsedRest : parseActions (before ++ [char]) (patternText items) = .ok actions :=
              (parseActions_plain plain).symm.trans parsed
            obtain ⟨bound, tight⟩ := ih items.length (by omega) croppedRest parsedRest rfl
            rw [List.count_append, Nat.add_assoc] at bound tight
            refine ⟨bound, ?_⟩
            intro equal
            obtain ⟨bracketFree, readable⟩ := tight equal
            exact ⟨bracketFree, by simpa using readable⟩
        | specifier inner =>
            have own := @count_written_le localtime msg '[' (by decide) inner
              (cropped inner List.mem_cons_self)
            have readable := readable_of_parseActions parsed
            obtain ⟨length, rest, later, suffix, parsedRest, same, lengths, ends⟩ :=
              parseActions_specifier_cases parsed
            have written : keyText localtime msg length inner.letter =
                inner.written localtime msg := by
              cases lengths with
              | inl same => rw [same, Specifier.written]
              | inr unsized => exact keyText_of_no_width unsized length
            have shorter := suffix.length_le
            have croppedSuffix : ∀ inner, Item.specifier inner ∈ rest →
                inner.CropsToSomething msg :=
              fun inner inside => croppedRest inner (suffix.subset inside)
            obtain ⟨bound, tight⟩ := ih rest.length (by omega) croppedSuffix parsedRest rfl
            rw [List.count_nil, Nat.zero_add] at bound tight
            rw [same, List.flatMap_cons, actionText, written, List.count_append,
              List.count_append, Item.documented]
            dsimp only
            rcases ends with ⟨rfl, unbracketed⟩ | ⟨plain, behind, rfl, suffixBehind⟩
            · refine ⟨by omega, ?_⟩
              intro equal
              obtain ⟨bracketFree, readableRest⟩ := tight (by omega)
              refine ⟨⟨unbracketed, bracketFree⟩, ?_⟩
              intro other inside
              rw [List.mem_cons, Item.specifier.injEq] at inside
              rcases inside with rfl | inside
              · exact readable
              · exact readableRest other inside
            · have lost := @count_documentedText_le_of_suffix localtime msg behind rest
                suffixBehind '['
              have bracket : ((Item.literal '[' plain).documented localtime msg).count '[' = 1 :=
                rfl
              rw [documentedText_cons, List.count_append, bracket]
              exact ⟨by omega, by omega⟩

section Pieces

variable {Piece : Type} {pieces : List Piece} {first second : Piece → Text} {size : Text → Nat}

/-- Texts that are not smaller in any piece are larger as a whole, or of the same
size in every piece. -/
theorem size_flatMap_le (additive : ∀ front back, size (front ++ back) = size front + size back)
    (pointwise : ∀ piece ∈ pieces, size (first piece) ≤ size (second piece)) :
    size (pieces.flatMap first) ≤ size (pieces.flatMap second) ∧
      (size (pieces.flatMap first) = size (pieces.flatMap second) →
        ∀ piece ∈ pieces, size (first piece) = size (second piece)) := by
  induction pieces with
  | nil => simp
  | cons piece pieces ih =>
      have own := pointwise piece List.mem_cons_self
      obtain ⟨bound, tight⟩ := ih fun other inside =>
        pointwise other (List.mem_cons_of_mem piece inside)
      rw [List.flatMap_cons, List.flatMap_cons, additive, additive]
      refine ⟨by omega, ?_⟩
      intro equal
      have same : size (first piece) = size (second piece) := by omega
      have later := tight (by omega)
      simpa [same] using later

theorem eq_of_flatMap_eq (lengths : ∀ piece ∈ pieces, (first piece).length = (second piece).length)
    (same : pieces.flatMap first = pieces.flatMap second) :
    ∀ piece ∈ pieces, first piece = second piece := by
  induction pieces with
  | nil => simp
  | cons piece pieces ih =>
      rw [List.flatMap_cons, List.flatMap_cons] at same
      obtain ⟨here, later⟩ := List.append_inj same (lengths piece List.mem_cons_self)
      have rest := ih (fun other inside => lengths other (List.mem_cons_of_mem piece inside)) later
      simpa [here] using rest

end Pieces

theorem toDigits_month_length_le (mon : Fin 12) :
    (Nat.toDigits 10 (mon + 1)).length ≤ 2 := by
  revert mon
  decide

theorem length_documented_le {inner : Specifier} (cropped : inner.CropsToSomething msg)
    (known : inner ≠ .percentSign) (named : inner = .priority → msg.level ≠ .info) :
    (inner.documented localtime msg).length ≤ (inner.written localtime msg).length := by
  cases inner with
  | priority =>
      have same := (levelName_eq_documented_iff msg.level).mpr (named rfl)
      exact (congrArg List.length same).ge
  | abbreviatedPriority => exact (congrArg List.length (abbreviated_eq_documented msg.level)).ge
  | monthNumber => exact toDigits_month_length_le (localtime msg.time).mon
  | percentSign => exact absurd rfl known
  | sizedSource width =>
      exact (congrArg List.length (sizedSource_eq_exactLength (cropped width rfl))).ge
  | _ => exact le_rfl

theorem agrees_of_writesDocumented
    (cropped : ∀ inner, Item.specifier inner ∈ items → inner.CropsToSomething msg)
    (writes : WritesDocumented localtime msg maxSize items) :
    Agrees localtime msg maxSize items := by
  obtain ⟨actions, parsed, returned⟩ := writes
  obtain ⟨parsedActions, nonempty⟩ := parsePattern_eq_ok parsed
  obtain ⟨formatted, fits⟩ := (format_eq_some_iff localtime msg nonempty).mp returned
  have brackets := (@count_bracket_le localtime msg items [] actions cropped parsedActions).2
  rw [formatted, List.count_nil, Nat.zero_add] at brackets
  obtain ⟨bracketFree, readable⟩ := brackets rfl
  have plain : actions = plainActions [] items :=
    Except.ok.inj (parsedActions.symm.trans (parseActions_patternText bracketFree readable []))
  rw [plain, plainActions_written, List.nil_append] at formatted
  have counts : ∀ char, char.isDigit = false → ∀ inner, Item.specifier inner ∈ items →
      (inner.written localtime msg).count char = (inner.documented localtime msg).count char := by
    intro char other inner inside
    have pointwise : ∀ item ∈ items, (item.written localtime msg).count char ≤
        (item.documented localtime msg).count char := by
      intro item present
      cases item with
      | literal own plain => exact le_rfl
      | specifier own => exact count_written_le other (cropped own present)
    have tight := (@size_flatMap_le _ _ _ _ (List.count char)
      (fun front back => List.count_append) pointwise).2
    exact tight (congrArg (List.count char) formatted) (.specifier inner) inside
  have lengths : ∀ item ∈ items, (item.written localtime msg).length =
      (item.documented localtime msg).length := by
    have pointwise : ∀ item ∈ items, (item.documented localtime msg).length ≤
        (item.written localtime msg).length := by
      intro item present
      cases item with
      | literal own plain => exact le_rfl
      | specifier own =>
          apply length_documented_le (cropped own present)
          · rintro rfl
            exact Nat.zero_ne_one (counts '%' (by decide) _ present)
          · rintro rfl named
            have letters := counts 'r' (by decide) _ present
            simp only [Specifier.written, Specifier.documented, Specifier.letter, keyText,
              named] at letters
            exact absurd letters (by decide)
    have tight := (@size_flatMap_le _ _ _ _ List.length
      (fun front back => List.length_append) pointwise).2
    intro item present
    exact (tight (congrArg List.length formatted).symm item present).symm
  refine ⟨bracketFree, ?_, fits⟩
  intro inner inside
  exact (Specifier.agrees_iff (readable inner inside) (cropped inner inside)).mpr
    (eq_of_flatMap_eq lengths formatted (.specifier inner) inside)

/-- A pattern writes what is documented if each of its parts does and a string can
hold it, and only then if no source is cropped to nothing. -/
theorem writesDocumented_iff (maxSize : Nat) (nonempty : items ≠ []) :
    (Agrees localtime msg maxSize items → WritesDocumented localtime msg maxSize items) ∧
      ((∀ width, Item.specifier (.sizedSource width) ∈ items → width.value = 0 →
          msg.source = []) →
        (WritesDocumented localtime msg maxSize items ↔ Agrees localtime msg maxSize items)) := by
  refine ⟨writesDocumented_of_agrees nonempty, ?_⟩
  intro cropped
  refine ⟨agrees_of_writesDocumented ?_, writesDocumented_of_agrees nonempty⟩
  intro inner inside width sized zero
  cases inner with
  | sizedSource own =>
      obtain rfl : own = width := Option.some.inj sized
      exact cropped own inside zero
  | _ => exact nomatch sized

/-- One o'clock in the afternoon of the first day of 1970. -/
def exampleTime : Tm :=
  { Calendar.newYear 1970 with wday := ⟨4, by decide⟩ }

def exampleMessage : LogMessage where
  source := "server".toList
  text := "Started".toList
  level := .error
  time := 46800000000000
  file := []
  line := 0
  option := []

def examplePattern : List Item :=
  [.literal '[' (by decide), .specifier .year, .literal '-' (by decide), .specifier .paddedMonth,
    .literal '-' (by decide), .specifier .paddedDay, .literal ']' (by decide),
    .specifier (.sizedSource ⟨['8'], by decide, by decide⟩), .specifier .messageText]

/-- The maximal size of a string where sizes have 64 bits. -/
def exampleMaxSize : Nat := 2 ^ 63 - 1

theorem writesDocumented_examplePattern :
    WritesDocumented (fun _ => exampleTime) exampleMessage exampleMaxSize examplePattern := by
  apply (writesDocumented_iff exampleMaxSize (by decide)).1
  refine ⟨by decide, ?_, by decide⟩
  intro inner inside
  simp only [examplePattern, List.mem_cons, Item.specifier.injEq, reduceCtorEq, List.not_mem_nil,
    or_false, false_or] at inside
  rcases inside with rfl | rfl | rfl | rfl | rfl
  · trivial
  · trivial
  · trivial
  · exact ⟨by decide, by decide⟩
  · trivial

/-- The hour of a message at one o'clock in the afternoon is written as `01`. -/
theorem not_writesDocumented_hour :
    parsePattern "%H".toList = .ok [⟨'H', 0, [], []⟩] ∧
      format (fun _ => exampleTime) exampleMessage exampleMaxSize [⟨'H', 0, [], []⟩]
        exampleMessage.text = some "01".toList ∧
      ¬ ∀ (localtime : Int → Tm) (msg : LogMessage) (items : List Item), items ≠ [] →
        (documentedText localtime msg items).length ≤ exampleMaxSize →
          WritesDocumented localtime msg exampleMaxSize items := by
  have parsed : parsePattern (patternText [.specifier .hour]) = .ok [⟨'H', 0, [], []⟩] :=
    parsePattern_patternText (by decide) (by decide)
      (by simp [Specifier.Readable, Specifier.width?])
  refine ⟨parsed, by decide, ?_⟩
  intro always
  obtain ⟨actions, parsedAgain, formatted⟩ :=
    always (fun _ => exampleTime) exampleMessage [.specifier .hour] (by decide) (by decide)
  rw [parsed] at parsedAgain
  rw [← Except.ok.inj parsedAgain] at formatted
  exact absurd formatted (by decide)

end Logging

end WarheadBot
