import Mathlib.Data.List.DropRight
import Mathlib.Data.List.Infix
import Mathlib.Logic.Function.Basic
import WarheadBot.KeyedEntries

/-!
# Reading the configuration

`ConfigMgr` reads `.conf.dist` and then `.conf`.  The lines of a file are
collected in a hash map, the first one of each option, and once the file has
been read its options are put into the map of all options in the order of that
hash map; a `.conf` may change known options only, and add those of the logging
system.  Characters stand for bytes.
-/

namespace WarheadBot

namespace Config

abbrev Text := List Char

/-- A name and a value. -/
abbrev Entry := Text × Text

abbrev Options := Text → Option Text

/-- `std::isspace` of the classic locale. -/
def isspace (char : Char) : Bool :=
  char = ' ' || 0x09 ≤ char.toNat && char.toNat ≤ 0x0D

def trim (text : Text) : Text :=
  (text.dropWhile isspace).rdropWhile isspace

/-- One round of the loop in `ParseFile`, up to the check for duplicates. -/
def parseLine (line : Text) : Option Entry :=
  match trim line with
  | [] => none
  | first :: rest =>
      if first = '#' || first = '[' then none
      else
        let line := (first :: rest).takeWhile (· ≠ '#')
        if '=' ∈ line then
          some (trim (line.takeWhile (· ≠ '=')),
            (trim (line.dropWhile (· ≠ '=')).tail).filter (· ≠ '"'))
        else none

/-- What `ParseFile` has collected; the counter has 32 bits. -/
structure Reading where
  fileConfigs : List Entry
  count : UInt32
  deriving DecidableEq, Repr

def Reading.start : Reading := ⟨[], 0⟩

def Reading.isDuplicateOption (reading : Reading) (confOption : Text) : Bool :=
  (reading.fileConfigs.lookup confOption).isSome

def Reading.addLine (reading : Reading) (line : Text) : Reading :=
  match parseLine line with
  | none => reading
  | some (entry, value) =>
      if reading.isDuplicateOption entry then reading
      else ⟨reading.fileConfigs ++ [(entry, value)], reading.count + 1⟩

def readLines (lines : List Text) : Reading :=
  lines.foldl Reading.addLine Reading.start

/-- A file that cannot be opened, or its text; the text of a file that cannot be
read to the end is what comes before the error. -/
inductive ConfigFile
  | unopened
  | opened (text : Text) (readable : Bool)
  deriving DecidableEq, Repr

def isLoggingSystemOptions (optionName : Text) : Bool :=
  "LogChannel.".toList <:+: optionName || "Logger.".toList <:+: optionName

def addKey (isOptional : Bool) (options : Options) (entry : Entry) : Options :=
  if isOptional && (options entry.1).isNone && !isLoggingSystemOptions entry.1 then options
  else Function.update options entry.1 (some entry.2)

/-- The order in which a hash map is walked. -/
structure Iteration where
  order : List Entry → List Entry
  perm : ∀ entries, (order entries).Perm entries

/-- An exception carries its text; the options are changed only after all
lines have been read. -/
def parseFile (iteration : Iteration) (fileName : String) (file : ConfigFile)
    (isOptional : Bool) (options : Options) : Except String (Bool × Options) :=
  match file with
  | .unopened =>
      if isOptional then .ok (false, options)
      else .error ("Config::LoadFile: Failed open file '" ++ fileName ++ "'")
  | .opened text readable =>
      let lines := text.splitOn '\n'
      if !readable then
        .error ("> Config::LoadFile: Failure to read line number " ++
          toString (UInt32.ofNat lines.length) ++ " in file '" ++ fileName ++ "'")
      else
        let reading := readLines lines
        if reading.count = 0 then
          if isOptional then .ok (false, options)
          else .error ("Config::LoadFile: Empty file '" ++ fileName ++ "'")
        else .ok (true, (iteration.order reading.fileConfigs).foldl (addKey isOptional) options)

def loadFile (iteration : Iteration) (fileName : String) (file : ConfigFile)
    (isOptional : Bool) (options : Options) : Bool × Options :=
  match parseFile iteration fileName file isOptional options with
  | .ok result => result
  | .error _ => (false, options)

structure State where
  configOptions : Options
  usingDistConfig : Bool

def State.loadInitial (iteration : Iteration) (fileName : String) (file : ConfigFile)
    (state : State) : Bool × State :=
  let result := loadFile iteration fileName file false fun _ => none
  (result.1, { state with configOptions := result.2 })

def State.loadAdditionalFile (iteration : Iteration) (fileName : String) (file : ConfigFile)
    (state : State) : Bool × State :=
  let result := loadFile iteration fileName file true state.configOptions
  (result.1, { state with configOptions := result.2 })

/-- The two maps are walked in orders of their own. -/
def State.loadAppConfigs (distIteration confIteration : Iteration) (filename : String)
    (dist conf : ConfigFile) (state : State) : Bool × State :=
  let initial := state.loadInitial distIteration (filename ++ ".dist") dist
  if !initial.1 then (false, initial.2)
  else
    let additional := initial.2.loadAdditionalFile confIteration filename conf
    (true,
      if additional.1 then additional.2 else { additional.2 with usingDistConfig := true })

end Config

end WarheadBot
