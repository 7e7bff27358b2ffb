import Mathlib.Data.List.Sort
import WarheadBot.LogChannel

/-!
# Log files

A file channel writes each message to a file.  The name of the file is kept in
one member, into which an option of the message is formatted if it has a
placeholder, and into which a timestamp is inserted when the file is opened.
When the channel is created old files are removed, after the dates that are read
from their names.

The file system, the clock, regular expressions and the formatting of a text are
parameters.
-/

namespace WarheadBot

namespace Logging

open Calendar
open Config (Text)
open Fields (Width stringToBool stringToInteger)
open LastSeparator

/-- The fields that are read from a file name. -/
structure FileDate where
  year : Nat
  month : Nat
  day : Nat
  hour : Nat
  minute : Nat
  second : Nat
  deriving DecidableEq, Repr

/-- What a number is after up to `width` further digits have been read, and the
text behind them. -/
def readNumber (width number : Nat) (text : Text) : Nat × Text :=
  let found := text.dropWhile fun char => !char.isDigit
  let digits := (found.take width).takeWhile Char.isDigit
  (Nat.ofDigitChars 10 digits number, found.drop digits.length)

def FileDate.readField (date : FileDate) (field : Char) (text : Text) : FileDate × Text :=
  match field with
  | 'Y' => ({ date with year := (readNumber 4 date.year text).1 }, (readNumber 4 date.year text).2)
  | 'm' =>
      ({ date with month := (readNumber 2 date.month text).1 }, (readNumber 2 date.month text).2)
  | 'd' => ({ date with day := (readNumber 2 date.day text).1 }, (readNumber 2 date.day text).2)
  | 'H' => ({ date with hour := (readNumber 2 date.hour text).1 }, (readNumber 2 date.hour text).2)
  | 'M' =>
      ({ date with minute := (readNumber 2 date.minute text).1 },
        (readNumber 2 date.minute text).2)
  | 'S' =>
      ({ date with second := (readNumber 2 date.second text).1 },
        (readNumber 2 date.second text).2)
  | _ => (date, text)

/-- The loop over the format; it ends with the text. -/
def FileDate.read (date : FileDate) : Text → Text → FileDate
  | [], _ => date
  | [_], _ => date
  | first :: field :: fmt, text =>
      if text = [] then date
      else if first = '%' then
        let found := date.readField field text
        found.1.read fmt found.2
      else date.read (field :: fmt) text

/-- The date that is passed to `mktime`. -/
def parseFileDate (fmt text : Text) : FileDate :=
  let date := FileDate.read ⟨0, 0, 0, 0, 0, 0⟩ fmt text
  { date with
    month := if date.month = 0 then 1 else date.month
    day := if date.day = 0 then 1 else date.day }

def getFileCreationDate (mktime : FileDate → Int) (fmt text : Text) : Int :=
  if fmt = [] ∨ text = [] then 0 else mktime (parseFileDate fmt text)

def logTimestampFmt : Text := "%Y_%m_%d_%H_%M_%S".toList

/-- The conversions of `std::put_time` that the format of the timestamp has. -/
def putTimeField (tm : Tm) : Char → Text
  | 'Y' => (toString tm.year).toList
  | 'm' => write2 (tm.mon + 1)
  | 'd' => write2 tm.mday
  | 'H' => write2 tm.hour
  | 'M' => write2 tm.min
  | 'S' => write2 tm.sec
  | _ => []

def putTime (tm : Tm) : Text → Text
  | [] => []
  | [char] => [char]
  | first :: field :: fmt =>
      if first = '%' then putTimeField tm field ++ putTime tm fmt
      else first :: putTime tm (field :: fmt)

def timestamp (tm : Tm) : Text := '_' :: putTime tm logTimestampFmt

/-- A text is inserted before the last dot of a name, or added at its end. -/
def insertBeforeDot (inserted name : Text) : Text :=
  match splitLast '.' name with
  | some (before, behind) => before ++ inserted ++ '.' :: behind
  | none => name ++ inserted

/-- The file that a channel holds, opened or not. -/
structure LogFile where
  path : Text
  isOpen : Bool
  deriving DecidableEq, Repr

structure FileChannel where
  name : Text
  level : LogLevel
  patternActions : List PatternAction
  logsDir : Text
  fileName : Text
  logFile : Option LogFile
  isDynamicFileName : Bool
  isFlush : Bool
  isOpenModeAppend : Bool
  isAddTimestamp : Bool
  maxCount : Nat
  purgeAge : Nat
  deriving DecidableEq

/-- A file in the directory of the logs, and whether it can be removed. -/
structure DirectoryEntry where
  name : Text
  removable : Bool
  deriving DecidableEq, Repr

structure Directory where
  entries : List DirectoryEntry
  distinct : (entries.map DirectoryEntry.name).Nodup

/-- A file name with the date that was read from it. -/
abbrev LogFileInfo := Text × Int

/-- What surrounds a channel when old files are removed.  `regex` is what a text
matches as a regular expression, if it is one; the sorting function is not
stable, but it sorts. -/
structure Surroundings where
  epochTime : Int
  mktime : FileDate → Int
  regex : Text → Option (Text → Bool)
  directory : Option Directory
  sort : List LogFileInfo → List LogFileInfo
  sort_perm : ∀ files, (sort files).Perm files
  sort_sorted : ∀ files, (sort files).Pairwise fun first second => first.2 ≤ second.2

/-- Removing a file that is not there does nothing. -/
def Directory.remove (directory : Directory) (name : Text) : Except Failure Directory :=
  if directory.entries.any fun entry => entry.name = name ∧ !entry.removable then
    .error .foreign
  else
    .ok {
      entries := directory.entries.filter fun entry => entry.name ≠ name
      distinct := directory.distinct.sublist ((List.filter_sublist).map _) }

namespace FileChannel

/-- The loop over the sorted files. -/
def removeFiles (maxCount : Nat) (deleteBeforeTime : Int) :
    Nat → List LogFileInfo → Directory → Except Failure Directory
  | _, [], directory => .ok directory
  | filesCount, (name, createDate) :: files, directory =>
      if maxCount < filesCount then
        (directory.remove name).bind (removeFiles maxCount deleteBeforeTime (filesCount - 1) files)
      else if createDate < deleteBeforeTime then
        (directory.remove name).bind (removeFiles maxCount deleteBeforeTime filesCount files)
      else removeFiles maxCount deleteBeforeTime filesCount files directory

def timestampRe : Text := "_[0-9-]+[0-9_]+".toList

/-- The expression that the names of the log files match. -/
def fileNameRegex (fileName : Text) : Text :=
  '^' :: insertBeforeDot timestampRe fileName ++ ['$']

/-- The matching files, with their dates. -/
def logFiles (surroundings : Surroundings) (isMatch : Text → Bool) (directory : Directory) :
    List LogFileInfo :=
  ((directory.entries.map DirectoryEntry.name).filter isMatch).map fun name =>
    (name, getFileCreationDate surroundings.mktime logTimestampFmt name)

/-- The directory that is left; without a directory of the logs there is nothing
to be removed. -/
def clearOldFiles (surroundings : Surroundings) (channel : FileChannel) :
    Except Failure (Option Directory) :=
  if channel.logsDir = [] then .ok surroundings.directory
  else
    let deleteBeforeTime := surroundings.epochTime - channel.purgeAge * 86400
    match surroundings.regex (fileNameRegex channel.fileName) with
    | none => .error .foreign
    | some isMatch =>
        match surroundings.directory with
        | none => .error .foreign
        | some directory =>
            let files := logFiles surroundings isMatch directory
            (removeFiles channel.maxCount deleteBeforeTime files.length (surroundings.sort files)
              directory).map some

def readFlag (what option : String) : Except Failure Bool :=
  match stringToBool option with
  | some value => .ok value
  | none => .error (.exception ("Incorrect option for " ++ what ++ " '" ++ option ++ "'"))

def readCount (what option : String) : Except Failure Nat :=
  match stringToInteger false .four option with
  | some value => .ok value.toNat
  | none => .error (.exception ("Incorrect option for " ++ what ++ " '" ++ option ++ "'"))

section Constructor

variable (surroundings : Surroundings)

def readPurgeAge (channel : FileChannel) : List String → Except Failure FileChannel
  | [] => .ok channel
  | option :: _ =>
      (readCount "purge age" option).map fun purgeAge => { channel with purgeAge }

def readMaxCount (channel : FileChannel) : List String → Except Failure FileChannel
  | [] => .ok channel
  | option :: options =>
      (readCount "max count files" option).bind fun maxCount =>
        if maxCount = 0 then
          .error (.exception ("Incorrect option for max count files '" ++ option ++ "'. Min 1"))
        else readPurgeAge { channel with maxCount } options

/-- With this option, whatever its value, old files are removed. -/
def readAddTimestamp (channel : FileChannel) : List String → Except Failure FileChannel
  | [] => .ok channel
  | option :: options =>
      (readFlag "add timestamp" option).bind fun isAddTimestamp =>
        (readMaxCount { channel with isAddTimestamp } options).bind fun channel =>
          (clearOldFiles surroundings channel).map fun _ => channel

def readFlush (channel : FileChannel) : List String → Except Failure FileChannel
  | [] => .ok channel
  | option :: options =>
      (readFlag "flush" option).bind fun isFlush =>
        readAddTimestamp surroundings { channel with isFlush } options

def readOpenMode (channel : FileChannel) : List String → Except Failure FileChannel
  | [] => .ok channel
  | option :: options =>
      (readFlag "open mode" option).bind fun isOpenModeAppend =>
        readFlush surroundings { channel with isOpenModeAppend } options

def placeholder : Text := "\x7b\x7d".toList

/-- The values of a channel before its options are read. -/
def defaults (logsDir name : Text) (level : LogLevel) (patternActions : List PatternAction)
    (fileName : Text) : FileChannel where
  name := name
  level := level
  patternActions := patternActions
  logsDir := logsDir
  fileName := fileName
  logFile := none
  isDynamicFileName := placeholder <:+: fileName
  isFlush := true
  isOpenModeAppend := true
  isAddTimestamp := false
  maxCount := 20
  purgeAge := 10

/-- The constructor. -/
def create : ChannelCreateFn FileChannel :=
  fun logsDir name level pattern options =>
    match parsePattern pattern with
    | .error message => .error (.exception (String.ofList message))
    | .ok patternActions =>
        match options with
        | _ :: _ :: _ :: fileName :: optional =>
            readOpenMode surroundings
              (defaults logsDir name level patternActions fileName.toList) optional
        | _ =>
            .error (.exception ("Incorrect options count (" ++ toString options.length ++ ")"))

end Constructor

/-- What surrounds a channel when a message is written: `maxSize` is the maximal
size of a string, `tm` is the time of the clock, and `isGood` tells whether the
text could be written. -/
structure WriteSurroundings where
  maxSize : Nat
  localtime : Int → Tm
  tm : Tm
  canOpen : Text → Bool
  isGood : Bool

variable (surroundings : WriteSurroundings)

def openFile (channel : FileChannel) : LogFile × FileChannel :=
  match channel.logFile with
  | some logFile => (logFile, channel)
  | none =>
      let fileName :=
        if channel.isAddTimestamp then
          insertBeforeDot (timestamp surroundings.tm) channel.fileName
        else channel.fileName
      let path := channel.logsDir ++ fileName
      let logFile : LogFile := ⟨path, surroundings.canOpen path⟩
      (logFile, { channel with fileName := fileName, logFile := some logFile })

def closeFile (channel : FileChannel) : FileChannel :=
  { channel with logFile := none }

/-- What a call writes to which file, or the exception it throws, and the channel
it leaves. -/
structure Written where
  result : Except Failure (Text × Text)
  channel : FileChannel

def quoted (message : String) (fileName : Text) : Failure :=
  .exception (message ++ " '" ++ String.ofList fileName ++ "'")

/-- The text is written to the file of the channel. -/
def writeText (fmtFormat : Text → Text → Option Text) (option text : Text)
    (channel : FileChannel) : Written :=
  if channel.isDynamicFileName then
    match fmtFormat channel.fileName option with
    | none => ⟨.error .foreign, channel⟩
    | some fileName =>
        let opened := openFile surroundings { channel with fileName := fileName }
        if opened.1.isOpen then ⟨.ok (opened.1.path, text ++ ['\n']), opened.2.closeFile⟩
        else ⟨.error (quoted "Cannot open file" opened.2.fileName), opened.2⟩
  else
    let opened := openFile surroundings channel
    if opened.1.isOpen then
      if surroundings.isGood then ⟨.ok (opened.1.path, text ++ ['\n']), opened.2⟩
      else ⟨.error (quoted "Incorrect write to file" opened.2.fileName), opened.2⟩
    else ⟨.error (quoted "Cannot open file" opened.2.fileName), opened.2⟩

/-- `fmtFormat` formats an option into a name, unless that throws. -/
def write (fmtFormat : Text → Text → Option Text) (msg : LogMessage) (channel : FileChannel) :
    Written :=
  if channel.isDynamicFileName ∧ msg.option = [] then
    ⟨.error (quoted "Empty option for dynamic file" channel.fileName), channel⟩
  else
    match format surroundings.localtime msg surroundings.maxSize channel.patternActions
      msg.text with
    | none => ⟨.error .foreign, channel⟩
    | some text => writeText surroundings fmtFormat msg.option text channel

theorem parsePattern_messageText : parsePattern "%t".toList = .ok [⟨'t', 0, [], []⟩] := by
  simp [parsePattern, parseActions]
  rfl

def exampleDirectory : Directory where
  entries := [⟨"notes.txt".toList, true⟩, ⟨"Server_2024_01_09_00_00_00.log".toList, true⟩,
    ⟨"Server_2024_01_01_00_00_00.log".toList, true⟩,
    ⟨"Server_2024_01_05_00_00_00.log".toList, true⟩]
  distinct := by decide

def byDate (first second : LogFileInfo) : Prop := first.2 ≤ second.2

instance : DecidableRel byDate := fun first second => Int.decLe first.2 second.2

instance : Std.Total byDate := ⟨fun first second => Int.le_total first.2 second.2⟩

instance : IsTrans LogFileInfo byDate := ⟨fun _ _ _ => Int.le_trans⟩

/-- The sixteenth of January 2024, with dates of that month. -/
def exampleSurroundings : Surroundings where
  epochTime := 1704067200 + 15 * 86400
  mktime := fun date =>
    1704067200 + (date.day - 1) * 86400 + date.hour * 3600 + date.minute * 60 + date.second
  regex := fun expression =>
    if expression = "^Server_[0-9-]+[0-9_]+.log$".toList then
      some fun name => "Server_".toList.isPrefixOf name
    else none
  directory := some exampleDirectory
  sort := List.insertionSort byDate
  sort_perm := List.perm_insertionSort byDate
  sort_sorted := List.pairwise_insertionSort byDate

end FileChannel

end Logging

end WarheadBot
