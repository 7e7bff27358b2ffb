import Mathlib.Data.List.Chain
import WarheadBot.FileChannel

/-!
# The files of the messages

A channel whose file name has a placeholder writes each message to a file of its
own, named after the option of the message.  The name that is built is kept in
the member that held the template, so that the option of the next message is
formatted into the name of the message before it.
-/

namespace WarheadBot

namespace Logging

open Calendar
open Config (Text)
open LastSeparator

theorem splitLast_insertBeforeDot {inserted : Text} (noDot : '.' ∉ inserted) (name : Text) :
    splitLast '.' (insertBeforeDot inserted name) =
      (splitLast '.' name).map fun parts => (parts.1 ++ inserted, parts.2) := by
  cases cut : splitLast '.' name with
  | none =>
      rw [insertBeforeDot, cut, Option.map_none, splitLast_eq_none_iff, List.mem_append, not_or]
      exact ⟨splitLast_eq_none_iff.mp cut, noDot⟩
  | some parts =>
      rw [insertBeforeDot, cut, Option.map_some]
      exact splitLast_append_cons _ (splitLast_eq_some_iff.mp cut).2

/-- A text without dots is inserted into different names with different results. -/
theorem insertBeforeDot_injective {inserted : Text} (noDot : '.' ∉ inserted) {first second : Text}
    (same : insertBeforeDot inserted first = insertBeforeDot inserted second) :
    first = second := by
  have sameCut := congrArg (splitLast '.') same
  rw [splitLast_insertBeforeDot noDot, splitLast_insertBeforeDot noDot] at sameCut
  cases cutFirst : splitLast '.' first with
  | none =>
      cases cutSecond : splitLast '.' second with
      | none =>
          rw [insertBeforeDot, insertBeforeDot, cutFirst, cutSecond] at same
          exact List.append_cancel_right same
      | some parts =>
          rw [cutFirst, cutSecond] at sameCut
          exact nomatch sameCut
  | some partsFirst =>
      cases cutSecond : splitLast '.' second with
      | none =>
          rw [cutFirst, cutSecond] at sameCut
          exact nomatch sameCut
      | some partsSecond =>
          rw [cutFirst, cutSecond, Option.map_some, Option.map_some, Option.some.injEq,
            Prod.mk.injEq] at sameCut
          rw [(splitLast_eq_some_iff.mp cutFirst).1, (splitLast_eq_some_iff.mp cutSecond).1,
            List.append_cancel_right sameCut.1, sameCut.2]

theorem dot_not_mem_toString (number : Int) : '.' ∉ (toString number).toList := by
  have noDot : ∀ natural : Nat, '.' ∉ Nat.toDigits 10 natural := by
    intro natural inside
    exact absurd (Nat.isDigit_of_mem_toDigits (by decide) (by decide) inside) (by decide)
  rw [Int.toString_eq_repr, Int.repr_eq_if]
  split_ifs
  · rw [Nat.toList_repr]
    exact noDot _
  · simp [noDot]

theorem dot_not_mem_timestamp (tm : Tm) : '.' ∉ timestamp tm := by
  have noDot : ∀ value, '.' ∉ write2 value := by
    intro value inside
    exact absurd (isDigit_of_mem_write2 inside) (by decide)
  have format : logTimestampFmt = ['%', 'Y', '_', '%', 'm', '_', '%', 'd', '_', '%', 'H', '_',
      '%', 'M', '_', '%', 'S'] := by decide
  have year := dot_not_mem_toString tm.year
  rw [Int.toString_eq_repr] at year
  rw [timestamp, format]
  simp only [putTime, if_true, putTimeField]
  simp [noDot, year]

namespace FileChannel

/-- A message with what surrounds the channel when it is written. -/
abbrev Step := LogMessage × WriteSurroundings

/-- What a channel does with one message after the other. -/
def writeAll (fmtFormat : Text → Text → Option Text) :
    List Step → FileChannel → List (Except Failure (Text × Text))
  | [], _ => []
  | (msg, surroundings) :: steps, channel =>
      let written := write surroundings fmtFormat msg channel
      written.result :: writeAll fmtFormat steps written.channel

/-- The name with the timestamp, if that option is on. -/
def stamped (channel : FileChannel) (surroundings : WriteSurroundings) (name : Text) : Text :=
  if channel.isAddTimestamp then insertBeforeDot (timestamp surroundings.tm) name else name

section Names

variable (fmtFormat : Text → Text → Option Text) (channel : FileChannel)

/-- The name that the template of the channel gives for the option of a message. -/
def ownName (step : Step) : Option Text :=
  (fmtFormat channel.fileName step.1.option).map (channel.stamped step.2)

/-- What the pattern of the channel makes of a message. -/
def ownText (step : Step) : Option Text :=
  format step.2.localtime step.1 step.2.maxSize channel.patternActions step.1.text

/-- The message is written to the file with its own name. -/
def WrittenToOwnFile (step : Step) (result : Except Failure (Text × Text)) : Prop :=
  ∃ name text, ownName fmtFormat channel step = some name ∧ ownText channel step = some text ∧
    result = .ok (channel.logsDir ++ name, text ++ ['\n'])

/-- The file with its own name opens, and the text of the message is not too long. -/
def OwnFileOpens (step : Step) : Prop :=
  ∃ name text, ownName fmtFormat channel step = some name ∧ ownText channel step = some text ∧
    step.2.canOpen (channel.logsDir ++ name)

/-- The option of a message formatted into the name of the message before gives
what the template gives. -/
def SameFromNameBefore (previous next : Step) : Prop :=
  ∀ name ∈ ownName fmtFormat channel previous,
    fmtFormat name next.1.option = fmtFormat channel.fileName next.1.option

end Names

section Steps

variable {fmtFormat : Text → Text → Option Text} {channel : FileChannel}

theorem stamped_injective {surroundings : WriteSurroundings} {first second : Text}
    (same : channel.stamped surroundings first = channel.stamped surroundings second) :
    first = second := by
  unfold stamped at same
  split_ifs at same
  · exact insertBeforeDot_injective (dot_not_mem_timestamp surroundings.tm) same
  · exact same

/-- What a channel without an open file does with a name and a text that can be
built. -/
theorem write_of_formatted {surroundings : WriteSurroundings} {msg : LogMessage}
    {name text : Text} (closed : channel.logFile = none)
    (dynamic : channel.isDynamicFileName = true) (option : msg.option ≠ [])
    (fits : ownText channel (msg, surroundings) = some text)
    (formatted : fmtFormat channel.fileName msg.option = some name) :
    write surroundings fmtFormat msg channel =
      if surroundings.canOpen (channel.logsDir ++ channel.stamped surroundings name) then
        ⟨.ok (channel.logsDir ++ channel.stamped surroundings name, text ++ ['\n']),
          { channel with fileName := channel.stamped surroundings name }⟩
      else
        ⟨.error (quoted "Cannot open file" (channel.stamped surroundings name)),
          { channel with
            fileName := channel.stamped surroundings name
            logFile := some ⟨channel.logsDir ++ channel.stamped surroundings name,
              surroundings.canOpen (channel.logsDir ++ channel.stamped surroundings name)⟩ }⟩ := by
  rw [ownText] at fits
  rw [write, if_neg fun empty => option empty.2, fits]
  dsimp only
  rw [writeText, if_pos dynamic, formatted]
  dsimp only
  rw [openFile, closed]
  rfl

/-- When the name can be built and opened, it is what the channel keeps. -/
theorem write_of_canOpen {surroundings : WriteSurroundings} {msg : LogMessage}
    {name text : Text} (closed : channel.logFile = none)
    (dynamic : channel.isDynamicFileName = true) (option : msg.option ≠ [])
    (fits : ownText channel (msg, surroundings) = some text)
    (formatted : fmtFormat channel.fileName msg.option = some name)
    (opens : surroundings.canOpen (channel.logsDir ++ channel.stamped surroundings name) = true) :
    write surroundings fmtFormat msg channel =
      ⟨.ok (channel.logsDir ++ channel.stamped surroundings name, text ++ ['\n']),
        { channel with fileName := channel.stamped surroundings name }⟩ := by
  rw [write_of_formatted closed dynamic option fits formatted, if_pos opens]

/-- A message that is written was written to a file that could be opened. -/
theorem exists_of_write_ok {surroundings : WriteSurroundings} {msg : LogMessage}
    {written : Text × Text} (closed : channel.logFile = none)
    (dynamic : channel.isDynamicFileName = true) (option : msg.option ≠ [])
    (returned : (write surroundings fmtFormat msg channel).result = .ok written) :
    ∃ name text, fmtFormat channel.fileName msg.option = some name ∧
      ownText channel (msg, surroundings) = some text ∧
      surroundings.canOpen (channel.logsDir ++ channel.stamped surroundings name) = true := by
  cases fits : ownText channel (msg, surroundings) with
  | none =>
      rw [ownText] at fits
      rw [write, if_neg fun empty => option empty.2, fits] at returned
      exact nomatch returned
  | some text =>
      cases formatted : fmtFormat channel.fileName msg.option with
      | none =>
          rw [ownText] at fits
          rw [write, if_neg fun empty => option empty.2, fits] at returned
          dsimp only at returned
          rw [writeText, if_pos dynamic, formatted] at returned
          exact nomatch returned
      | some name =>
          refine ⟨name, text, rfl, rfl, ?_⟩
          by_contra failed
          rw [write_of_formatted closed dynamic option fits formatted, if_neg failed] at returned
          exact nomatch returned

/-- The run that has come to any name: each message is written to its own file if
these files open and each name is built from the name before as from the template. -/
theorem forall₂_writeAll_iff {steps : List Step} (closed : channel.logFile = none)
    (dynamic : channel.isDynamicFileName = true) (options : ∀ step ∈ steps, step.1.option ≠ [])
    (current : Text) :
    List.Forall₂ (WrittenToOwnFile fmtFormat channel) steps
        (writeAll fmtFormat steps { channel with fileName := current }) ↔
      (∀ step ∈ steps, OwnFileOpens fmtFormat channel step) ∧
      (∀ step ∈ steps.head?,
        fmtFormat current step.1.option = fmtFormat channel.fileName step.1.option) ∧
      steps.IsChain (SameFromNameBefore fmtFormat channel) := by
  induction steps generalizing current with
  | nil => simp [writeAll]
  | cons step steps ih =>
      obtain ⟨msg, surroundings⟩ := step
      have option := options (msg, surroundings) List.mem_cons_self
      have rest := ih fun step inside => options step (List.mem_cons_of_mem _ inside)
      rw [writeAll, List.forall₂_cons, List.forall_mem_cons, List.isChain_cons]
      constructor
      · rintro ⟨⟨name, text, own, ownText, returned⟩, later⟩
        obtain ⟨built, other, formatted, fits, opens⟩ :=
          @exists_of_write_ok fmtFormat { channel with fileName := current } surroundings msg _
            closed dynamic option returned
        rw [@write_of_canOpen fmtFormat { channel with fileName := current } surroundings msg built
          other closed dynamic option fits formatted opens] at returned later
        have samePath := congrArg Prod.fst (Except.ok.inj returned)
        have sameName : channel.stamped surroundings built = name :=
          List.append_cancel_left samePath
        obtain ⟨base, fromTemplate, stampedBase⟩ := Option.map_eq_some_iff.mp own
        have sameBase : built = base := stamped_injective (sameName.trans stampedBase.symm)
        obtain ⟨opensLater, nextName, chain⟩ := (rest name).mp (sameName ▸ later)
        refine ⟨⟨⟨name, text, own, ownText, sameName ▸ opens⟩, opensLater⟩, ?_, ?_, chain⟩
        · intro first isFirst
          obtain rfl := Option.some.inj isFirst
          exact formatted.trans (sameBase ▸ fromTemplate.symm)
        · intro next isNext before isBefore
          rw [Option.some.inj (isBefore.symm.trans own)]
          exact nextName next isNext
      · rintro ⟨⟨⟨name, text, own, fits, opens⟩, opensLater⟩, firstName, nextName, chain⟩
        obtain ⟨base, fromTemplate, rfl⟩ := Option.map_eq_some_iff.mp own
        have formatted := (firstName _ rfl).trans fromTemplate
        rw [@write_of_canOpen fmtFormat { channel with fileName := current } surroundings msg base
          text closed dynamic option fits formatted opens]
        refine ⟨⟨_, text, own, fits, rfl⟩, (rest _).mpr ⟨opensLater, ?_, chain⟩⟩
        intro next isNext
        exact nextName next isNext _ own

end Steps

/-- Reading options leaves the file of a channel as it is. -/
structure SameFile (channel read : FileChannel) : Prop where
  fileName : read.fileName = channel.fileName
  logFile : read.logFile = channel.logFile
  isDynamicFileName : read.isDynamicFileName = channel.isDynamicFileName

section Constructor

variable {surroundings : Surroundings} {channel read : FileChannel} {options : List String}

theorem readPurgeAge_sameFile (returned : readPurgeAge channel options = .ok read) :
    SameFile channel read := by
  cases options with
  | nil =>
      obtain rfl := Except.ok.inj returned
      exact ⟨rfl, rfl, rfl⟩
  | cons option options =>
      obtain ⟨purgeAge, -, rfl⟩ := exists_of_map_ok returned
      exact ⟨rfl, rfl, rfl⟩

theorem readMaxCount_sameFile (returned : readMaxCount channel options = .ok read) :
    SameFile channel read := by
  cases options with
  | nil =>
      obtain rfl := Except.ok.inj returned
      exact ⟨rfl, rfl, rfl⟩
  | cons option options =>
      obtain ⟨maxCount, -, rest⟩ := exists_of_bind_ok returned
      split_ifs at rest
      exact { readPurgeAge_sameFile rest with }

theorem readAddTimestamp_sameFile
    (returned : readAddTimestamp surroundings channel options = .ok read) :
    SameFile channel read := by
  cases options with
  | nil =>
      obtain rfl := Except.ok.inj returned
      exact ⟨rfl, rfl, rfl⟩
  | cons option options =>
      obtain ⟨isAddTimestamp, -, rest⟩ := exists_of_bind_ok returned
      obtain ⟨limited, counted, cleared⟩ := exists_of_bind_ok rest
      obtain ⟨-, -, rfl⟩ := exists_of_map_ok cleared
      exact { readMaxCount_sameFile counted with }

theorem readFlush_sameFile (returned : readFlush surroundings channel options = .ok read) :
    SameFile channel read := by
  cases options with
  | nil =>
      obtain rfl := Except.ok.inj returned
      exact ⟨rfl, rfl, rfl⟩
  | cons option options =>
      obtain ⟨isFlush, -, rest⟩ := exists_of_bind_ok returned
      exact { readAddTimestamp_sameFile rest with }

theorem readOpenMode_sameFile (returned : readOpenMode surroundings channel options = .ok read) :
    SameFile channel read := by
  cases options with
  | nil =>
      obtain rfl := Except.ok.inj returned
      exact ⟨rfl, rfl, rfl⟩
  | cons option options =>
      obtain ⟨isOpenModeAppend, -, rest⟩ := exists_of_bind_ok returned
      exact { readFlush_sameFile rest with }

/-- A new channel has no open file, and knows whether its file name is a template. -/
theorem create_closed {logsDir name : Text} {level : LogLevel} {pattern : Text}
    (created : create surroundings logsDir name level pattern options = .ok channel) :
    channel.logFile = none ∧
      channel.isDynamicFileName = decide (placeholder <:+: channel.fileName) := by
  unfold create at created
  split at created
  · exact nomatch created
  · split at created
    · have same := readOpenMode_sameFile created
      exact ⟨same.logFile, by rw [same.isDynamicFileName, same.fileName]; rfl⟩
    · exact nomatch created

end Constructor

/-- Each message is written to its own file exactly if these files open, no text is
too long, and each name can as well be built from the name of the message before. -/
theorem writesOwnFiles_iff {surroundings : Surroundings} {logsDir name : Text} {level : LogLevel}
    {pattern : Text} {options : List String} {channel : FileChannel}
    (created : create surroundings logsDir name level pattern options = .ok channel)
    (template : placeholder <:+: channel.fileName)
    (fmtFormat : Text → Text → Option Text) {steps : List Step}
    (nonempty : ∀ step ∈ steps, step.1.option ≠ []) :
    List.Forall₂ (WrittenToOwnFile fmtFormat channel) steps (writeAll fmtFormat steps channel) ↔
      (∀ step ∈ steps, OwnFileOpens fmtFormat channel step) ∧
      steps.IsChain (SameFromNameBefore fmtFormat channel) := by
  obtain ⟨closed, dynamic⟩ := create_closed created
  have run := @forall₂_writeAll_iff fmtFormat channel steps closed
    (dynamic.trans (decide_eq_true template)) nonempty channel.fileName
  rw [and_iff_right (fun _ _ => rfl)] at run
  exact run

/-- What the formatting does with names that have no other braces. -/
def fill : Text → Text → Text
  | [], _ => []
  | [char], _ => [char]
  | first :: second :: name, option =>
      if first = '{' ∧ second = '}' then option ++ fill name option
      else first :: fill (second :: name) option

def playerChannel : FileChannel :=
  defaults "/srv/".toList "LogChannel.Player".toList .info [⟨'t', 0, [], []⟩]
    "Player_\x7b\x7d.log".toList

theorem create_playerChannel :
    create exampleSurroundings "/srv/".toList "LogChannel.Player".toList .info "%t".toList
      ["2", "4", "%t", "Player_\x7b\x7d.log"] = .ok playerChannel := by
  rw [create, parsePattern_messageText]
  rfl

def noon : WriteSurroundings where
  maxSize := 2 ^ 63 - 1
  localtime := fun _ => newYear 1970
  tm := newYear 1970
  canOpen := fun _ => true
  isGood := true

def playerMessage (option : Text) : Step :=
  (⟨"player".toList, "Hello".toList, .info, 0, [], 0, option⟩, noon)

def fillName (name option : Text) : Option Text :=
  some (fill name option)

theorem ownFileOpens_playerMessage (option : Text) :
    OwnFileOpens fillName playerChannel (playerMessage option) :=
  ⟨_, "Hello".toList, rfl, rfl, rfl⟩

theorem writesOwnFiles_samePlayer :
    List.Forall₂ (WrittenToOwnFile fillName playerChannel)
      [playerMessage ['1'], playerMessage ['1']]
      (writeAll fillName [playerMessage ['1'], playerMessage ['1']] playerChannel) := by
  refine (writesOwnFiles_iff create_playerChannel (by decide) fillName (by decide)).mpr ⟨?_, ?_⟩
  · intro step inside
    simp only [List.mem_cons, List.not_mem_nil, or_false, or_self] at inside
    exact inside ▸ ownFileOpens_playerMessage ['1']
  · refine List.isChain_pair.mpr ?_
    intro name isName
    obtain rfl := Option.some.inj isName
    decide

/-- The message of the second player goes to the file of the first one. -/
theorem not_writesOwnFiles_twoPlayers :
    ¬ ∀ (logsDir name : Text) (level : LogLevel) (pattern : Text) (options : List String)
      (channel : FileChannel) (steps : List Step),
      create exampleSurroundings logsDir name level pattern options = .ok channel →
      placeholder <:+: channel.fileName → (∀ step ∈ steps, step.1.option ≠ []) →
      (∀ step ∈ steps, OwnFileOpens fillName channel step) →
      List.Forall₂ (WrittenToOwnFile fillName channel) steps
        (writeAll fillName steps channel) := by
  intro always
  have own := always _ _ _ _ _ playerChannel [playerMessage ['1'], playerMessage ['2']]
    create_playerChannel (by decide) (by decide) (by
      intro step inside
      simp only [List.mem_cons, List.not_mem_nil, or_false] at inside
      rcases inside with rfl | rfl
      · exact ownFileOpens_playerMessage ['1']
      · exact ownFileOpens_playerMessage ['2'])
  obtain ⟨name, _, isName, _, written⟩ := (List.forall₂_cons.mp (List.forall₂_cons.mp own).2).1
  obtain rfl := Option.some.inj isName
  have samePath : "/srv/Player_1.log".toList = "/srv/Player_2.log".toList :=
    congrArg Prod.fst (Except.ok.inj written)
  exact absurd samePath (by decide)

end FileChannel

end Logging

end WarheadBot
