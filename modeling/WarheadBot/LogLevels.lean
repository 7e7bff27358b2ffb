import WarheadBot.GuardedRuns
import WarheadBot.LogLookup

/-!
# The highest level of the log

`highestLogLevel` is set anew when the loggers are dropped and raised when a
logger gets its level.  It is never below the level of a registered logger,
whatever calls have been made, so that the comparison at the beginning of
`ShouldLog` rejects no message that its logger would accept.
-/

namespace WarheadBot

namespace Logging

open Config (ConfigMgr Text)

/-- A call with what surrounds it. -/
inductive Call (Channel : Type)
  | initializeLog (environment : Log.Environment Channel)
  | loadFromConfig (environment : Log.Environment Channel)
  | usingDefaultLogs (consoleChannel : Except Failure Channel) (value : Bool)
  | setLoggerLevel (name : Text) (level : LogLevel)

namespace Log

variable {Channel : Type}

/-- The log after a call that is completed. -/
def step (log : Log Channel) : Call Channel → Option (Log Channel)
  | .initializeLog environment => log.initializeLog environment
  | .loadFromConfig environment => log.loadFromConfig environment
  | .usingDefaultLogs consoleChannel value => log.usingDefaultLogs consoleChannel value
  | .setLoggerLevel name level => some (log.setLoggerLevel name level)

/-- No registered logger has a level above the highest one. -/
def LevelsBounded (log : Log Channel) : Prop :=
  ∀ name logger, log.loggers name = some logger → logger.level ≤ log.highestLogLevel

theorem levelsBounded_of_no_loggers {log : Log Channel} (empty : ∀ name, log.loggers name = none) :
    log.LevelsBounded := by
  intro name logger registered
  rw [empty name] at registered
  exact nomatch registered

theorem emplace_cases {Value : Type} {map : Text → Option Value} {key name : Text}
    {value found : Value} (present : emplace map key value name = some found) :
    map name = some found ∨ found = value := by
  unfold emplace at present
  split_ifs at present
  · exact .inl present
  · by_cases same : name = key
    · rw [same, Function.update_self] at present
      exact .inr (Option.some.inj present).symm
    · rw [Function.update_of_ne same] at present
      exact .inl present

theorem createLoggerFromConfig_levelsBounded {log : Log Channel} (bounded : log.LevelsBounded)
    (configMgr : ConfigMgr) (configLoggerName : Text) :
    (log.createLoggerFromConfig configMgr configLoggerName).LevelsBounded := by
  unfold createLoggerFromConfig
  split_ifs
  · exact bounded
  · dsimp only
    split
    · split
      · exact bounded
      · rename_i level read
        obtain ⟨highestLe, levelLe⟩ := log.highestLogLevel.le_raisedBy level
        intro name logger registered
        cases emplace_cases registered with
        | inl earlier => exact (bounded name logger earlier).trans highestLe
        | inr created =>
            rw [created]
            exact levelLe
    · exact bounded

theorem readLoggersFromConfig_levelsBounded {log : Log Channel} (bounded : log.LevelsBounded)
    (configMgr : ConfigMgr) : (log.readLoggersFromConfig configMgr).LevelsBounded := by
  unfold readLoggersFromConfig
  induction configMgr.getKeysByString prefixLogger generalizing log with
  | nil => exact bounded
  | cons loggerName loggerNames ih =>
      exact ih (createLoggerFromConfig_levelsBounded bounded configMgr loggerName)

theorem createChannelsFromConfig_loggers {log next : Log Channel}
    {createFunctions : Int → Option (ChannelCreateFn Channel)} {configMgr : ConfigMgr}
    {logChannelName : Text}
    (created : log.createChannelsFromConfig createFunctions configMgr logChannelName = some next) :
    next.loggers = log.loggers ∧ next.highestLogLevel = log.highestLogLevel := by
  unfold createChannelsFromConfig at created
  split_ifs at created
  · rw [← Option.some.inj created]
    exact ⟨rfl, rfl⟩
  · dsimp only at created
    split at created
    · rw [← Option.some.inj created]
      exact ⟨rfl, rfl⟩
    · rw [← Option.some.inj created]
      exact ⟨rfl, rfl⟩
    · rw [← Option.some.inj created]
      exact ⟨rfl, rfl⟩
    · exact nomatch created

theorem readChannelsFromConfig_loggers {log next : Log Channel}
    {createFunctions : Int → Option (ChannelCreateFn Channel)} {configMgr : ConfigMgr}
    (completed : log.readChannelsFromConfig createFunctions configMgr = some next) :
    next.loggers = log.loggers ∧ next.highestLogLevel = log.highestLogLevel := by
  unfold readChannelsFromConfig at completed
  revert completed
  generalize configMgr.getKeysByString prefixChannel = channelNames
  intro completed
  induction channelNames generalizing log with
  | nil =>
      rw [← Option.some.inj completed]
      exact ⟨rfl, rfl⟩
  | cons channelName channelNames ih =>
      rw [List.foldlM_cons] at completed
      obtain ⟨middle, created, rest⟩ := Option.bind_eq_some_iff.mp completed
      obtain ⟨sameLoggers, sameHighest⟩ := createChannelsFromConfig_loggers created
      obtain ⟨loggersKept, highestKept⟩ := ih rest
      exact ⟨loggersKept.trans sameLoggers, highestKept.trans sameHighest⟩

theorem loadFromConfig_levelsBounded {log next : Log Channel} {environment : Environment Channel}
    (completed : log.loadFromConfig environment = some next) : next.LevelsBounded := by
  unfold loadFromConfig at completed
  dsimp only at completed
  split_ifs at completed
  obtain ⟨middle, channelsRead, loggersRead⟩ := Option.map_eq_some_iff.mp completed
  rw [← loggersRead]
  apply readLoggersFromConfig_levelsBounded
  apply levelsBounded_of_no_loggers
  intro name
  rw [(readChannelsFromConfig_loggers channelsRead).1]
  rfl

theorem usingDefaultLogs_levelsBounded {log next : Log Channel} (bounded : log.LevelsBounded)
    {consoleChannel : Except Failure Channel} {value : Bool}
    (completed : log.usingDefaultLogs consoleChannel value = some next) : next.LevelsBounded := by
  unfold usingDefaultLogs at completed
  cases value with
  | false =>
      rw [← Option.some.inj completed]
      exact bounded
  | true =>
      cases consoleChannel with
      | ok channel =>
          rw [← Option.some.inj completed]
          intro name logger registered
          have created := @emplace_cases _ (fun _ => none) loggerRoot name _ logger registered
          rw [created.resolve_left (by simp)]
      | error failure =>
          cases failure with
          | exception message =>
              rw [← Option.some.inj completed]
              exact levelsBounded_of_no_loggers fun name => rfl
          | foreign => exact nomatch completed

theorem setLoggerLevel_levelsBounded {log : Log Channel} (bounded : log.LevelsBounded)
    (name : Text) (level : LogLevel) : (log.setLoggerLevel name level).LevelsBounded := by
  obtain ⟨highestLe, levelLe⟩ := log.highestLogLevel.le_raisedBy level
  unfold setLoggerLevel
  split_ifs
  · exact bounded
  · intro other logger registered
    dsimp only at registered
    cases found : log.loggers name with
    | none =>
        rw [found] at registered
        exact (bounded other logger registered).trans highestLe
    | some current =>
        rw [found] at registered
        dsimp only at registered
        by_cases same : other = name
        · rw [same, Function.update_self, Option.some.injEq] at registered
          rw [← registered]
          exact levelLe
        · rw [Function.update_of_ne same] at registered
          exact (bounded other logger registered).trans highestLe

theorem step_levelsBounded {log next : Log Channel} {call : Call Channel}
    (bounded : log.LevelsBounded) (completed : log.step call = some next) :
    next.LevelsBounded := by
  cases call with
  | initializeLog environment =>
      rw [step, initializeLog] at completed
      split_ifs at completed
      · exact Option.some.inj completed ▸ bounded
      · exact loadFromConfig_levelsBounded completed
  | loadFromConfig environment => exact loadFromConfig_levelsBounded completed
  | usingDefaultLogs consoleChannel value => exact usingDefaultLogs_levelsBounded bounded completed
  | setLoggerLevel name level =>
      rw [← Option.some.inj completed]
      exact setLoggerLevel_levelsBounded bounded name level

theorem levelsBounded_of_exec {last : Log Channel} {calls : List (Call Channel)}
    (completed : GuardedRuns.exec step start calls = some last) : last.LevelsBounded :=
  GuardedRuns.exec_invariant_of_step step_levelsBounded completed
    (levelsBounded_of_no_loggers fun _ => rfl)

/-- After calls that are completed, the highest level is not below that of any
registered logger, and `ShouldLog` accepts exactly what the logger of the filter
accepts. -/
theorem shouldLog_iff_of_exec {last : Log Channel} {calls : List (Call Channel)}
    (completed : GuardedRuns.exec step start calls = some last) :
    (∀ name logger, last.loggers name = some logger → logger.level ≤ last.highestLogLevel) ∧
      ∀ filter level, LogLevel.fatal ≤ level → level ≤ LogLevel.trace →
        (last.shouldLog filter level = true ↔
          ∃ logger, getLoggerByType last.loggers filter = some logger ∧
            logger.level ≠ LogLevel.disabled ∧ level ≤ logger.level) := by
  have bounded := levelsBounded_of_exec completed
  refine ⟨bounded, ?_⟩
  intro filter level _ _
  unfold shouldLog
  split_ifs with above
  · apply iff_of_false (by simp)
    rintro ⟨logger, found, -, accepted⟩
    obtain ⟨name, registered⟩ := registered_of_getLoggerByType last.loggers found
    exact absurd (accepted.trans (bounded name logger registered)) (not_le.mpr above)
  · cases found : getLoggerByType last.loggers filter with
    | none => simp
    | some logger => simp

def exampleEnvironment : Environment Text where
  configMgr :=
    { configOptions := [("Logger.root".toList, "5,Console Server".toList),
        ("LogChannel.Console".toList, "1,6,[%H:%M:%S] %t".toList),
        ("Logger.db".toList, "07,Server File Console".toList),
        ("LogChannel.Server".toList, "1,4,%t".toList), ("Logger.net".toList, "8,Console".toList)]
      distinct := by decide }
  currentPath := "/srv".toList
  createDirIfNeed := true
  createFunctions := fun channelType =>
    if channelType = 1 then some fun _ name _ _ _ => .ok name else none

def exampleCalls : List (Call Text) :=
  [.usingDefaultLogs (.ok "Console".toList) true, .setLoggerLevel "root".toList .trace,
    .usingDefaultLogs (.ok "Console".toList) false, .initializeLog exampleEnvironment,
    .setLoggerLevel "db".toList .disabled]

/-- The loggers of a configuration replace the default ones; one of them is then disabled. -/
theorem shouldLog_iff_after_exampleCalls :
    ∃ last, GuardedRuns.exec step start exampleCalls = some last ∧
      last.shouldLog "net.socket".toList .info = true ∧
      last.shouldLog "net.socket".toList .debug = false ∧
      last.shouldLog "db.pool".toList .fatal = false := by
  have returns : (GuardedRuns.exec step start exampleCalls).isSome = true := by
    decide +kernel
  obtain ⟨last, completed⟩ := Option.isSome_iff_exists.mp returns
  have found (filter : Text) : (GuardedRuns.exec step start exampleCalls).map (fun log =>
      ((lookupNames filter).findSome? log.loggers).map Logger.level) =
        some ((getLoggerByType last.loggers filter).map Logger.level) := by
    rw [completed, getLoggerByType_lookupNames]
    rfl
  obtain ⟨-, accepts⟩ := shouldLog_iff_of_exec completed
  refine ⟨last, completed, ?_, ?_, ?_⟩
  · have info := (found "net.socket".toList).symm.trans
      (by decide +kernel : _ = some (some LogLevel.info))
    obtain ⟨logger, isLogger, level⟩ := Option.map_eq_some_iff.mp (Option.some.inj info)
    refine (accepts _ _ (by decide) (by decide)).mpr ⟨logger, isLogger, ?_⟩
    rw [level]
    decide
  · have info := (found "net.socket".toList).symm.trans
      (by decide +kernel : _ = some (some LogLevel.info))
    obtain ⟨logger, isLogger, level⟩ := Option.map_eq_some_iff.mp (Option.some.inj info)
    rw [Bool.eq_false_iff]
    intro accepted
    obtain ⟨other, isOther, -, admitted⟩ := (accepts _ _ (by decide) (by decide)).mp accepted
    rw [isLogger, Option.some.injEq] at isOther
    rw [← isOther, level] at admitted
    exact absurd admitted (by decide)
  · have disabled := (found "db.pool".toList).symm.trans
      (by decide +kernel : _ = some (some LogLevel.disabled))
    obtain ⟨logger, isLogger, level⟩ := Option.map_eq_some_iff.mp (Option.some.inj disabled)
    rw [Bool.eq_false_iff]
    intro accepted
    obtain ⟨other, isOther, enabled, -⟩ := (accepts _ _ (by decide) (by decide)).mp accepted
    rw [isLogger, Option.some.injEq] at isOther
    exact enabled (isOther ▸ level)

end Log

end Logging

end WarheadBot
