import WarheadBot.LogChannel
import WarheadBot.LogConfigured

/-!
# Where a message goes

A message passes `ShouldLog` first, and `Write` looks for its logger again.  The logger
writes to its channels one after the other; an exception in one of them keeps the message
from those behind it.
-/

namespace WarheadBot

namespace Logging

open Config (Text)

variable {Channel : Type}

/-- What a channel does with a message. -/
structure ChannelImpl (Channel : Type) where
  level : Channel → LogLevel
  -- `Write` throws the exception of the program.
  throws : Channel → LogMessage → Bool

/-- The channels of a list that have written the message. -/
def ChannelImpl.writeAll (impl : ChannelImpl Channel) (msg : LogMessage) :
    List Channel → List Channel
  | [] => []
  | channel :: channels =>
      if impl.level channel < msg.level then impl.writeAll msg channels
      else if impl.throws channel msg then []
      else channel :: impl.writeAll msg channels

def Logger.write (impl : ChannelImpl Channel) (logger : Logger Channel) (msg : LogMessage) :
    List Channel :=
  if logger.level < msg.level then [] else impl.writeAll msg logger.channels

namespace Log

def write (impl : ChannelImpl Channel) (log : Log Channel) (msg : LogMessage) : List Channel :=
  match getLoggerByType log.loggers msg.source with
  | none => []
  | some logger => logger.write impl msg

/-- The macros of the levels. -/
def msgBody (impl : ChannelImpl Channel) (log : Log Channel) (msg : LogMessage) :
    List Channel :=
  if log.shouldLog msg.source msg.level then log.write impl msg else []

/-- What a list of channels is to write: those that admit the level, up to the first one
that fails. -/
def admitted (impl : ChannelImpl Channel) (msg : LogMessage) (channels : List Channel) :
    List Channel :=
  (channels.filter fun channel => decide (msg.level ≤ impl.level channel)).takeWhile
    fun channel => !impl.throws channel msg

theorem writeAll_eq (impl : ChannelImpl Channel) (msg : LogMessage) (channels : List Channel) :
    impl.writeAll msg channels = admitted impl msg channels := by
  induction channels with
  | nil => rfl
  | cons channel channels ih =>
      rw [ChannelImpl.writeAll, ih, admitted, admitted]
      by_cases below : impl.level channel < msg.level
      · have refused : decide (msg.level ≤ impl.level channel) = false :=
          decide_eq_false (not_le.mpr below)
        rw [if_pos below, List.filter_cons_of_neg (by simp [refused])]
      · have taken : decide (msg.level ≤ impl.level channel) = true :=
          decide_eq_true (not_lt.mp below)
        have kept : ((channel :: channels).filter fun other =>
            decide (msg.level ≤ impl.level other)) =
              channel :: channels.filter fun other => decide (msg.level ≤ impl.level other) :=
          List.filter_cons_of_pos taken
        rw [if_neg below, kept, List.takeWhile_cons]
        cases impl.throws channel msg <;> rfl

/-- Where the messages of a filter go when the configuration is loaded: to the channels of
the first of its names that a well-formed option describes. -/
def describedReceivers (impl : ChannelImpl Channel) (environment : Environment Channel)
    (logsDir : Text) (msg : LogMessage) : List Channel :=
  match (lookupNames msg.source).findSome? (describedLogger
    (describedChannel environment.createFunctions logsDir environment.configMgr)
      environment.configMgr) with
  | none => []
  | some logger =>
      if msg.level ≤ logger.level then admitted impl msg logger.channels else []

/-- After any calls, a message of one of the macros reaches what its logger admits. -/
theorem msgBody_eq {log : Log Channel} (bounded : log.LevelsBounded)
    (impl : ChannelImpl Channel) {msg : LogMessage} (isLevel : LogLevel.fatal ≤ msg.level) :
    log.msgBody impl msg =
      match getLoggerByType log.loggers msg.source with
      | none => []
      | some logger =>
          if msg.level ≤ logger.level then admitted impl msg logger.channels else [] := by
  unfold msgBody write Logger.write shouldLog
  cases found : getLoggerByType log.loggers msg.source with
  | none =>
      split_ifs <;> rfl
  | some logger =>
      obtain ⟨name, registered⟩ := registered_of_getLoggerByType log.loggers found
      have highest := bounded name logger registered
      dsimp only
      by_cases accepted : msg.level ≤ logger.level
      · have notAbove : ¬ log.highestLogLevel < msg.level := not_lt.mpr (accepted.trans highest)
        have enabled : logger.level ≠ .disabled := by
          intro disabled
          rw [disabled] at accepted
          exact absurd (isLevel.trans accepted) (by decide)
        rw [if_neg notAbove, if_pos (by simp [enabled, accepted]), if_neg (not_lt.mpr accepted),
          if_pos accepted, writeAll_eq]
      · rw [if_neg accepted, if_pos (not_le.mp accepted), ite_self]

/-- After `LoadFromConfig`, whatever was done before and whatever the order of the options: a
message of one of the macros is written by exactly the channels that the options describe
for the nearest described ancestor of its filter, as far as they admit its level and no
channel before them fails. -/
theorem message_reaches_described {environment : Environment Channel} {log next : Log Channel}
    (flat : Flat environment.configMgr)
    (completed : log.loadFromConfig environment = some next) (impl : ChannelImpl Channel)
    (msg : LogMessage) (isLevel : LogLevel.fatal ≤ msg.level) :
    next.msgBody impl msg = describedReceivers impl environment next.logsDir msg := by
  have described := loadFromConfig_maps flat completed
  rw [msgBody_eq (loadFromConfig_levelsBounded completed) impl isLevel,
    getLoggerByType_lookupNames,
    describedReceivers]
  have sameChannels : next.channels = describedChannel environment.createFunctions next.logsDir
      environment.configMgr := funext described.1
  have sameLoggers : next.loggers = describedLogger (describedChannel
      environment.createFunctions next.logsDir environment.configMgr) environment.configMgr := by
    rw [← sameChannels]
    exact funext described.2.1
  rw [sameLoggers]

/-- The server takes warnings, every other channel debug messages as well; none fails. -/
def exampleImpl : ChannelImpl Text where
  level channel := if channel = "LogChannel.Server".toList then .warning else .debug
  throws _ _ := false

def exampleMessage : LogMessage :=
  ⟨"db.pool".toList, "opened".toList, .info, 0, [], 0, []⟩

theorem message_reaches_described_example :
    ∃ next, Log.start.loadFromConfig exampleEnvironment = some next ∧
      next.msgBody exampleImpl exampleMessage = ["LogChannel.Console".toList] := by
  have returns : (Log.start.loadFromConfig exampleEnvironment).isSome = true := by
    decide +kernel
  obtain ⟨next, completed⟩ := Option.isSome_iff_exists.mp returns
  have flat : Flat exampleEnvironment.configMgr := by
    unfold Flat
    decide +kernel
  refine ⟨next, completed, ?_⟩
  rw [message_reaches_described flat completed exampleImpl exampleMessage (by decide)]
  rfl

end Log

end Logging

end WarheadBot
