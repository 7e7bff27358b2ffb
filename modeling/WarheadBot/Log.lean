import Mathlib.Order.Lattice
import WarheadBot.Config
import WarheadBot.Field
import WarheadBot.LastSeparator
import WarheadBot.MySQLConnectionInfo

/-!
# The log

`Log` keeps the loggers and the channels that the configuration names.  A
message is addressed to a filter, a dotted name, and goes to the logger of the
nearest ancestor that is registered.  `ShouldLog` first compares the level with
the highest level that was given to any logger.

What a channel is, and how one is created from the options of the configuration,
is a parameter here.
-/

namespace WarheadBot

namespace Config

/-- The options that have been read, in the order in which their hash map is
walked. -/
structure ConfigMgr where
  configOptions : List Entry
  distinct : (configOptions.map Prod.fst).Nodup

namespace ConfigMgr

variable (configMgr : ConfigMgr)

def getOption (name default : Text) : Text :=
  (configMgr.configOptions.lookup name).getD default

def getKeysByString (name : Text) : List Text :=
  (configMgr.configOptions.map Prod.fst).filter fun optionName => name.isPrefixOf optionName

end ConfigMgr

end Config

namespace Logging

open Config (ConfigMgr Text)
open Fields (stringToInteger)
open LastSeparator
open MySQL (tokenize)

inductive LogLevel
  | disabled | fatal | critical | error | warning | info | debug | trace | max
  deriving DecidableEq, Repr

namespace LogLevel

def value : LogLevel → Nat
  | disabled => 0
  | fatal => 1
  | critical => 2
  | error => 3
  | warning => 4
  | info => 5
  | debug => 6
  | trace => 7
  | max => 8

theorem value_injective : Function.Injective value := by
  intro first second same
  cases first <;> cases second <;> first | rfl | exact absurd same (by decide)

instance : LinearOrder LogLevel :=
  LinearOrder.lift' value value_injective

/-- The highest level after another logger has got its level. -/
def raisedBy (highestLogLevel level : LogLevel) : LogLevel :=
  if highestLogLevel < level then level else highestLogLevel

theorem le_raisedBy (highestLogLevel level : LogLevel) :
    highestLogLevel ≤ highestLogLevel.raisedBy level ∧ level ≤ highestLogLevel.raisedBy level := by
  unfold raisedBy
  split_ifs with above
  · exact ⟨above.le, le_rfl⟩
  · exact ⟨le_rfl, not_lt.mp above⟩

/-- The conversion from `uint8` of a number that is below `MAX_LOG_LEVEL`. -/
def ofUInt8 : Nat → LogLevel
  | 0 => disabled
  | 1 => fatal
  | 2 => critical
  | 3 => error
  | 4 => warning
  | 5 => info
  | 6 => debug
  | 7 => trace
  | _ => max

theorem ofUInt8_value (level : LogLevel) : ofUInt8 level.value = level := by
  cases level <;> rfl

end LogLevel

def getLogLevelName : LogLevel → String
  | .disabled => "Disabled"
  | .fatal => "Fatal"
  | .critical => "Critical"
  | .error => "Error"
  | .warning => "Warning"
  | .info => "Info"
  | .debug => "Debug"
  | .trace => "Trace"
  | .max => "Max"

def maxLogLevel : Nat := LogLevel.max.value

def maxChannelOptions : Nat := 7

def loggerRoot : Text := "root".toList

def prefixLogger : Text := "Logger.".toList

def prefixChannel : Text := "LogChannel.".toList

def prefixLoggerLength : Nat := 7

def prefixChannelLength : Nat := 11

/-- How the level of a logger or of a channel is read. -/
def readLogLevel (token : String) : Option LogLevel :=
  match stringToInteger false .one token with
  | none => none
  | some loggerLevel =>
      if (maxLogLevel : Int) ≤ loggerLevel then none else some (LogLevel.ofUInt8 loggerLevel.toNat)

/-- What leaves a constructor: an exception of the program's own class, or
another one. -/
inductive Failure
  | exception (message : String)
  | foreign
  deriving DecidableEq, Repr

theorem exists_of_map_ok {Error Value Result : Type} {returned : Except Error Value}
    {function : Value → Result} {result : Result} (mapped : returned.map function = .ok result) :
    ∃ value, returned = .ok value ∧ function value = result := by
  cases returned with
  | error error => exact nomatch mapped
  | ok value => exact ⟨value, rfl, Except.ok.inj mapped⟩

theorem exists_of_bind_ok {Error Value Result : Type} {returned : Except Error Value}
    {next : Value → Except Error Result} {result : Result} (ok : returned.bind next = .ok result) :
    ∃ value, returned = .ok value ∧ next value = .ok result := by
  cases returned with
  | error failure => exact nomatch ok
  | ok value => exact ⟨value, rfl, ok⟩

structure Logger (Channel : Type) where
  name : Text
  level : LogLevel
  channels : List Channel

/-- A function that creates a channel in the directory of the logs, from its
name, level and pattern and all its options. -/
abbrev ChannelCreateFn (Channel : Type) : Type :=
  Text → Text → LogLevel → Text → List String → Except Failure Channel

structure Log (Channel : Type) where
  loggers : Text → Option (Logger Channel)
  channels : Text → Option Channel
  highestLogLevel : LogLevel
  logsDir : Text
  isUseDefaultLogs : Bool

/-- Inserting a key leaves an entry that is there already. -/
def emplace {Value : Type} (map : Text → Option Value) (key : Text) (value : Value) :
    Text → Option Value :=
  if (map key).isSome then map else Function.update map key (some value)

/-- The name that is looked for after another one. -/
def parentLogger (type : Text) : Text :=
  match splitLast '.' type with
  | some (parent, _) => parent
  | none => loggerRoot

/-- The name at the root comes last, whatever its length. -/
def lookupMeasure (type : Text) : Nat :=
  if type = loggerRoot then 0 else type.length + 1

theorem lookupMeasure_parentLogger_lt {type : Text} (other : type ≠ loggerRoot) :
    lookupMeasure (parentLogger type) < lookupMeasure type := by
  unfold lookupMeasure parentLogger
  rw [if_neg other]
  cases cut : splitLast '.' type with
  | none => simp
  | some parts =>
      obtain ⟨parent, component⟩ := parts
      have shorter := length_before_lt cut
      dsimp only
      split_ifs <;> omega

def getLoggerByType {Value : Type} (loggers : Text → Option Value) (type : Text) :
    Option Value :=
  match loggers type with
  | some logger => some logger
  | none =>
      if type = loggerRoot then none
      else getLoggerByType loggers (parentLogger type)
termination_by lookupMeasure type
decreasing_by exact lookupMeasure_parentLogger_lt ‹_›

/-- `Warhead::File::CorrectDirPath`. -/
def correctDirPath (currentPath path : Text) : Text :=
  let corrected :=
    if path = [] then currentPath
    else path.map fun char => if char = '\\' then '/' else char
  if corrected.getLast? = some '/' then corrected else corrected ++ ['/']

namespace Log

variable {Channel : Type}

def start : Log Channel where
  loggers := fun _ => none
  channels := fun _ => none
  highestLogLevel := .disabled
  logsDir := []
  isUseDefaultLogs := false

def clear (log : Log Channel) : Log Channel :=
  { log with loggers := fun _ => none, channels := fun _ => none }

def createLoggerFromConfig (configMgr : ConfigMgr) (configLoggerName : Text)
    (log : Log Channel) : Log Channel :=
  if configLoggerName = [] ∨ (log.loggers configLoggerName).isSome then log
  else
    let loggerName := configLoggerName.drop prefixLoggerLength
    match tokenize (String.ofList (configMgr.getOption configLoggerName [])) ',' true with
    | [levelToken, channelTokens] =>
        match readLogLevel levelToken with
        | none => log
        | some level =>
            let channels := (tokenize channelTokens ' ' false).filterMap fun channelName =>
              log.channels channelName.toList
            { log with
              highestLogLevel := log.highestLogLevel.raisedBy level
              loggers := emplace log.loggers loggerName ⟨loggerName, level, channels⟩ }
    | _ => log

/-- What the function for the type of a channel returns, if the options are such
that it is called. -/
def createdChannel (createFunctions : Int → Option (ChannelCreateFn Channel))
    (logsDir logChannelName : Text) (tokens : List String) : Option (Except Failure Channel) :=
  match tokens with
  | typeToken :: levelToken :: pattern :: _ =>
      if maxChannelOptions < tokens.length then none
      else
        match (stringToInteger true .one typeToken).bind createFunctions with
        | none => none
        | some createFunction =>
            match readLogLevel levelToken with
            | none => none
            | some level =>
                if pattern = "" then none
                else some (createFunction logsDir logChannelName level pattern.toList tokens)
  | _ => none

/-- An exception that is not the program's own leaves the function. -/
def createChannelsFromConfig (createFunctions : Int → Option (ChannelCreateFn Channel))
    (configMgr : ConfigMgr) (logChannelName : Text) (log : Log Channel) : Option (Log Channel) :=
  if logChannelName = [] ∨ (log.channels logChannelName).isSome then some log
  else
    let channelName := logChannelName.drop prefixChannelLength
    let tokens := tokenize (String.ofList (configMgr.getOption logChannelName [])) ',' true
    match createdChannel createFunctions log.logsDir logChannelName tokens with
    | none => some log
    | some (.ok channel) =>
        some { log with channels := emplace log.channels channelName channel }
    | some (.error (.exception _)) => some log
    | some (.error .foreign) => none

def readChannelsFromConfig (createFunctions : Int → Option (ChannelCreateFn Channel))
    (configMgr : ConfigMgr) (log : Log Channel) : Option (Log Channel) :=
  (configMgr.getKeysByString prefixChannel).foldlM
    (fun current channelName =>
      current.createChannelsFromConfig createFunctions configMgr channelName) log

def readLoggersFromConfig (configMgr : ConfigMgr) (log : Log Channel) : Log Channel :=
  (configMgr.getKeysByString prefixLogger).foldl
    (fun current loggerName => current.createLoggerFromConfig configMgr loggerName) log

/-- What surrounds the log when its configuration is read. -/
structure Environment (Channel : Type) where
  configMgr : ConfigMgr
  currentPath : Text
  createDirIfNeed : Bool
  createFunctions : Int → Option (ChannelCreateFn Channel)

/-- The program ends if the directory of the logs cannot be made. -/
def loadFromConfig (environment : Environment Channel) (log : Log Channel) :
    Option (Log Channel) :=
  let log := { log with
    highestLogLevel := .fatal
    logsDir := correctDirPath environment.currentPath
      (environment.configMgr.getOption "LogsDir".toList []) }
  if environment.createDirIfNeed then
    (log.clear.readChannelsFromConfig environment.createFunctions environment.configMgr).map
      (readLoggersFromConfig environment.configMgr)
  else none

def initializeLog (environment : Environment Channel) (log : Log Channel) : Option (Log Channel) :=
  if log.isUseDefaultLogs then some log else log.loadFromConfig environment

/-- `consoleChannel` is what the constructor of the console channel returns. -/
def usingDefaultLogs (consoleChannel : Except Failure Channel) (value : Bool)
    (log : Log Channel) : Option (Log Channel) :=
  if value then
    let cleared := { log.clear with highestLogLevel := .debug, isUseDefaultLogs := true }
    match consoleChannel with
    | .ok channel =>
        some { cleared with
          channels := emplace cleared.channels "Console".toList channel
          loggers := emplace cleared.loggers loggerRoot ⟨loggerRoot, .debug, [channel]⟩ }
    | .error (.exception _) => some cleared
    | .error .foreign => none
  else some { log with isUseDefaultLogs := false }

def setLoggerLevel (name : Text) (level : LogLevel) (log : Log Channel) : Log Channel :=
  if LogLevel.max ≤ level then log
  else
    { log with
      highestLogLevel := log.highestLogLevel.raisedBy level
      loggers :=
        match log.loggers name with
        | none => log.loggers
        | some logger => Function.update log.loggers name (some { logger with level }) }

def shouldLog (log : Log Channel) (filter : Text) (level : LogLevel) : Bool :=
  if log.highestLogLevel < level then false
  else
    match getLoggerByType log.loggers filter with
    | none => false
    | some logger => logger.level ≠ .disabled && level ≤ logger.level

end Log

end Logging

end WarheadBot
