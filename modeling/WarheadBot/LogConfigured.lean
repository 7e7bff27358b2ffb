import WarheadBot.LogDescribed
import WarheadBot.LogLevels

/-!
# The log that a configuration describes

The options of the log are walked in the order of their hash map.  An option is skipped if
its whole name, with the prefix, is that of a logger or channel which is there already.  If
no name has the prefix twice, this never happens, and what is created does not depend on
the order.
-/

namespace WarheadBot

namespace Logging

open Config (ConfigMgr Text)
open MySQL (tokenize)

namespace Log

variable {Channel : Type}

/-- No option has the name of a logger or channel with the prefix before it. -/
def Flat (configMgr : ConfigMgr) : Prop :=
  ∀ name ∈ configMgr.configOptions.map Prod.fst,
    ¬ prefixChannel ++ prefixChannel <+: name ∧ ¬ prefixLogger ++ prefixLogger <+: name

/-- What is inserted under one name, which is not taken. -/
theorem emplace_apply {Value : Type} {map : Text → Option Value} {key : Text}
    (free : map key = none) (value : Value) (name : Text) :
    emplace map key value name = if name = key then some value else map name := by
  have absent : ¬ (map key).isSome := by simp [free]
  rw [emplace, if_neg absent, Function.update_apply]

theorem prefixChannel_ne_nil : prefixChannel ≠ [] := by
  decide

theorem prefixLogger_ne_nil : prefixLogger ≠ [] := by
  decide

theorem drop_prefixChannelLength (name : Text) :
    (prefixChannel ++ name).drop prefixChannelLength = name := by
  have length : prefixChannelLength = prefixChannel.length := by decide
  rw [length, List.drop_left]

theorem drop_prefixLoggerLength (name : Text) :
    (prefixLogger ++ name).drop prefixLoggerLength = name := by
  have length : prefixLoggerLength = prefixLogger.length := by decide
  rw [length, List.drop_left]

section Keys

variable {configMgr : ConfigMgr}

theorem mem_getKeysByString {before key : Text} :
    key ∈ configMgr.getKeysByString before ↔
      key ∈ configMgr.configOptions.map Prod.fst ∧ before <+: key := by
  rw [ConfigMgr.getKeysByString, List.mem_filter, List.isPrefixOf_iff_prefix]

theorem nodup_getKeysByString (before : Text) : (configMgr.getKeysByString before).Nodup :=
  configMgr.distinct.filter _

theorem lookup_of_notMem {before name : Text}
    (absent : before ++ name ∉ configMgr.getKeysByString before) :
    configMgr.configOptions.lookup (before ++ name) = none := by
  rw [List.lookup_eq_none_iff]
  intro entry inside
  rw [bne_iff_ne]
  intro same
  apply absent
  rw [mem_getKeysByString, same]
  exact ⟨List.mem_map_of_mem inside, same ▸ List.prefix_append before name⟩

theorem lookup_of_mem {before name : Text}
    (present : before ++ name ∈ configMgr.getKeysByString before) :
    ∃ options, configMgr.configOptions.lookup (before ++ name) = some options := by
  cases given : configMgr.configOptions.lookup (before ++ name) with
  | some options => exact ⟨options, rfl⟩
  | none =>
      obtain ⟨entry, inside, same⟩ := List.mem_map.mp (mem_getKeysByString.mp present).1
      have differs := List.lookup_eq_none_iff.mp given entry inside
      rw [bne_iff_ne] at differs
      exact absurd same.symm differs

end Keys

section Channels

variable {createFunctions : Int → Option (ChannelCreateFn Channel)} {configMgr : ConfigMgr}
  {log next : Log Channel}

/-- One option of a channel. -/
theorem createChannelsFromConfig_described {name : Text}
    (present : prefixChannel ++ name ∈ configMgr.getKeysByString prefixChannel)
    (notNested : log.channels (prefixChannel ++ name) = none) (free : log.channels name = none)
    (created : log.createChannelsFromConfig createFunctions configMgr (prefixChannel ++ name) =
      some next) :
    next.logsDir = log.logsDir ∧ ∀ other, next.channels other =
      if other = name then describedChannel createFunctions log.logsDir configMgr name
      else log.channels other := by
  obtain ⟨options, given⟩ := lookup_of_mem present
  have goesOn : ¬ (prefixChannel ++ name = [] ∨
      (log.channels (prefixChannel ++ name)).isSome) := by
    rintro (empty | taken)
    · exact List.append_ne_nil_of_left_ne_nil prefixChannel_ne_nil _ empty
    · rw [notNested] at taken
      cases taken
  have option : configMgr.getOption (prefixChannel ++ name) [] = options := by
    rw [ConfigMgr.getOption, given, Option.getD_some]
  rw [createChannelsFromConfig, if_neg goesOn] at created
  dsimp only at created
  rw [drop_prefixChannelLength, option] at created
  rw [describedChannel_eq, given, Option.bind_some]
  have unchanged (other : Text) :
      log.channels other = if other = name then none else log.channels other := by
    split_ifs with same
    · rw [same, free]
    · rfl
  split at created
  · rename_i nothing
    cases created
    rw [nothing]
    exact ⟨rfl, unchanged⟩
  · rename_i channel ok
    cases created
    rw [ok]
    exact ⟨rfl, emplace_apply free channel⟩
  · rename_i message thrown
    cases created
    rw [thrown]
    exact ⟨rfl, unchanged⟩
  · cases created

theorem foldlM_createChannelsFromConfig {names : List Text}
    (distinct : names.Nodup)
    (present : ∀ name ∈ names, prefixChannel ++ name ∈ configMgr.getKeysByString prefixChannel)
    (flat : ∀ name ∈ names, ¬ prefixChannel <+: name)
    (nested : ∀ name, prefixChannel <+: name → log.channels name = none)
    (free : ∀ name ∈ names, log.channels name = none)
    (completed : (names.map (prefixChannel ++ ·)).foldlM
      (fun current channelName =>
        current.createChannelsFromConfig createFunctions configMgr channelName) log =
      some next) :
    next.logsDir = log.logsDir ∧ ∀ other, next.channels other =
      if other ∈ names then describedChannel createFunctions log.logsDir configMgr other
      else log.channels other := by
  induction names generalizing log with
  | nil =>
      cases completed
      exact ⟨rfl, fun _ => rfl⟩
  | cons name names ih =>
      rw [List.map_cons, List.foldlM_cons] at completed
      obtain ⟨middle, created, rest⟩ := Option.bind_eq_some_iff.mp completed
      obtain ⟨absent, distinct⟩ := List.nodup_cons.mp distinct
      obtain ⟨sameDir, channels⟩ := createChannelsFromConfig_described
        (present name List.mem_cons_self) (nested _ (List.prefix_append _ _))
        (free name List.mem_cons_self) created
      have stillNested (other : Text) (isNested : prefixChannel <+: other) :
          middle.channels other = none := by
        have differs : other ≠ name :=
          fun same => flat name List.mem_cons_self (same ▸ isNested)
        rw [channels, if_neg differs]
        exact nested other isNested
      have stillFree (other : Text) (inside : other ∈ names) : middle.channels other = none := by
        have differs : other ≠ name := fun same => absent (same ▸ inside)
        rw [channels, if_neg differs]
        exact free other (List.mem_cons_of_mem _ inside)
      obtain ⟨lastDir, last⟩ := ih distinct
        (fun other inside => present other (List.mem_cons_of_mem _ inside))
        (fun other inside => flat other (List.mem_cons_of_mem _ inside))
        stillNested stillFree rest
      refine ⟨lastDir.trans sameDir, ?_⟩
      intro other
      rw [last, sameDir, channels]
      by_cases isName : other = name
      · subst isName
        simp [absent]
      · simp [isName]

end Channels

section Loggers

variable {configMgr : ConfigMgr} {log : Log Channel}

/-- One option of a logger. -/
theorem createLoggerFromConfig_described {name : Text}
    (present : prefixLogger ++ name ∈ configMgr.getKeysByString prefixLogger)
    (notNested : log.loggers (prefixLogger ++ name) = none) (free : log.loggers name = none) :
    ((log.createLoggerFromConfig configMgr (prefixLogger ++ name)).channels = log.channels ∧
        (log.createLoggerFromConfig configMgr (prefixLogger ++ name)).logsDir = log.logsDir) ∧
      (∀ other, (log.createLoggerFromConfig configMgr (prefixLogger ++ name)).loggers other =
        if other = name then describedLogger log.channels configMgr name
        else log.loggers other) ∧
      (log.createLoggerFromConfig configMgr (prefixLogger ++ name)).highestLogLevel =
        match describedLogger log.channels configMgr name with
        | none => log.highestLogLevel
        | some logger => log.highestLogLevel.raisedBy logger.level := by
  obtain ⟨options, given⟩ := lookup_of_mem present
  have goesOn : ¬ (prefixLogger ++ name = [] ∨
      (log.loggers (prefixLogger ++ name)).isSome) := by
    rintro (empty | taken)
    · exact List.append_ne_nil_of_left_ne_nil prefixLogger_ne_nil _ empty
    · rw [notNested] at taken
      cases taken
  have option : configMgr.getOption (prefixLogger ++ name) [] = options := by
    rw [ConfigMgr.getOption, given, Option.getD_some]
  have unchanged (other : Text) :
      log.loggers other = if other = name then none else log.loggers other := by
    split_ifs with same
    · rw [same, free]
    · rfl
  rw [createLoggerFromConfig, if_neg goesOn, describedLogger, given]
  dsimp only
  rw [drop_prefixLoggerLength, option, Option.bind_eq_bind, Option.bind_some]
  -- Only an option with two tokens is used.
  rcases tokenize (String.ofList options) ',' true with
    _ | ⟨levelToken, _ | ⟨channelTokens, _ | ⟨third, tokens⟩⟩⟩
  · exact ⟨⟨rfl, rfl⟩, unchanged, rfl⟩
  · exact ⟨⟨rfl, rfl⟩, unchanged, rfl⟩
  · dsimp only
    rw [readLogLevel_eq]
    cases describedLevel levelToken with
    | none => exact ⟨⟨rfl, rfl⟩, unchanged, rfl⟩
    | some level => exact ⟨⟨rfl, rfl⟩, emplace_apply free _, rfl⟩
  · exact ⟨⟨rfl, rfl⟩, unchanged, rfl⟩

/-- The highest level is that of a logger, or `Fatal`. -/
structure HighestReached (log : Log Channel) : Prop where
  reached : log.highestLogLevel = .fatal ∨
    ∃ name logger, log.loggers name = some logger ∧ logger.level = log.highestLogLevel

theorem foldl_createLoggerFromConfig {names : List Text} (distinct : names.Nodup)
    (present : ∀ name ∈ names, prefixLogger ++ name ∈ configMgr.getKeysByString prefixLogger)
    (flat : ∀ name ∈ names, ¬ prefixLogger <+: name)
    (nested : ∀ name, prefixLogger <+: name → log.loggers name = none)
    (free : ∀ name ∈ names, log.loggers name = none) (highest : log.HighestReached) :
    let last := (names.map (prefixLogger ++ ·)).foldl
      (fun current loggerName => current.createLoggerFromConfig configMgr loggerName) log
    (last.channels = log.channels ∧ last.logsDir = log.logsDir) ∧ last.HighestReached ∧
      ∀ other, last.loggers other =
        if other ∈ names then describedLogger log.channels configMgr other
        else log.loggers other := by
  induction names generalizing log with
  | nil => exact ⟨⟨rfl, rfl⟩, highest, fun _ => rfl⟩
  | cons name names ih =>
      obtain ⟨absent, distinct⟩ := List.nodup_cons.mp distinct
      obtain ⟨kept, loggers, raised⟩ := createLoggerFromConfig_described
        (present name List.mem_cons_self) (nested _ (List.prefix_append _ _))
        (free name List.mem_cons_self)
      have stillNested (other : Text) (isNested : prefixLogger <+: other) :
          (log.createLoggerFromConfig configMgr (prefixLogger ++ name)).loggers other = none := by
        have differs : other ≠ name :=
          fun same => flat name List.mem_cons_self (same ▸ isNested)
        rw [loggers, if_neg differs]
        exact nested other isNested
      have stillFree (other : Text) (inside : other ∈ names) :
          (log.createLoggerFromConfig configMgr (prefixLogger ++ name)).loggers other = none := by
        have differs : other ≠ name := fun same => absent (same ▸ inside)
        rw [loggers, if_neg differs]
        exact free other (List.mem_cons_of_mem _ inside)
      have stillHighest :
          (log.createLoggerFromConfig configMgr (prefixLogger ++ name)).HighestReached := by
        constructor
        have stays : ∀ other logger, log.loggers other = some logger →
            (log.createLoggerFromConfig configMgr (prefixLogger ++ name)).loggers other =
              some logger := by
          intro other logger registered
          have differs : other ≠ name := by
            rintro rfl
            rw [free other List.mem_cons_self] at registered
            cases registered
          rw [loggers, if_neg differs, registered]
        rw [raised]
        cases described : describedLogger log.channels configMgr name with
        | none =>
            refine highest.reached.imp_right ?_
            rintro ⟨other, logger, registered, same⟩
            exact ⟨other, logger, stays other logger registered, same⟩
        | some logger =>
            dsimp only
            rw [LogLevel.raisedBy]
            split_ifs
            · refine .inr ⟨name, logger, ?_, rfl⟩
              rw [loggers, if_pos rfl, described]
            · refine highest.reached.imp_right ?_
              rintro ⟨other, logger, registered, same⟩
              exact ⟨other, logger, stays other logger registered, same⟩
      obtain ⟨lastKept, lastHighest, last⟩ := ih distinct
        (fun other inside => present other (List.mem_cons_of_mem _ inside))
        (fun other inside => flat other (List.mem_cons_of_mem _ inside))
        stillNested stillFree stillHighest
      refine ⟨⟨lastKept.1.trans kept.1, lastKept.2.trans kept.2⟩, lastHighest, ?_⟩
      intro other
      rw [List.map_cons, List.foldl_cons, last, kept.1, loggers]
      by_cases isName : other = name
      · subst isName
        simp [absent]
      · simp [isName]

end Loggers

section Load

variable {configMgr : ConfigMgr}

/-- The keys with a prefix, and the names behind it. -/
theorem exists_names (configMgr : ConfigMgr) (before : Text) :
    ∃ names : List Text, configMgr.getKeysByString before = names.map (before ++ ·) ∧
      names.Nodup := by
  have split : configMgr.getKeysByString before =
      ((configMgr.getKeysByString before).map (List.drop before.length)).map (before ++ ·) := by
    rw [List.map_map]
    conv_lhs => rw [← List.map_id (configMgr.getKeysByString before)]
    apply List.map_congr_left
    intro key inside
    obtain ⟨name, rfl⟩ := (mem_getKeysByString.mp inside).2
    simp
  refine ⟨_, split, ?_⟩
  have distinct := @nodup_getKeysByString configMgr before
  rw [split] at distinct
  exact List.Nodup.of_map _ distinct

theorem loadFromConfig_maps {environment : Environment Channel} {log next : Log Channel}
    (flat : Flat environment.configMgr)
    (completed : log.loadFromConfig environment = some next) :
    (∀ name, next.channels name =
      describedChannel environment.createFunctions next.logsDir environment.configMgr name) ∧
      (∀ name, next.loggers name =
        describedLogger next.channels environment.configMgr name) ∧ next.HighestReached := by
  rw [loadFromConfig] at completed
  split_ifs at completed
  obtain ⟨middle, channelsRead, rfl⟩ := Option.map_eq_some_iff.mp completed
  obtain ⟨sameLoggers, sameHighest⟩ := readChannelsFromConfig_loggers channelsRead
  obtain ⟨channelNames, channelKeys, channelsDistinct⟩ :=
    exists_names environment.configMgr prefixChannel
  obtain ⟨loggerNames, loggerKeys, loggersDistinct⟩ :=
    exists_names environment.configMgr prefixLogger
  have channelPresent : ∀ name ∈ channelNames,
      prefixChannel ++ name ∈ environment.configMgr.getKeysByString prefixChannel := by
    intro name inside
    rw [channelKeys]
    exact List.mem_map_of_mem inside
  have loggerPresent : ∀ name ∈ loggerNames,
      prefixLogger ++ name ∈ environment.configMgr.getKeysByString prefixLogger := by
    intro name inside
    rw [loggerKeys]
    exact List.mem_map_of_mem inside
  rw [readChannelsFromConfig, channelKeys] at channelsRead
  have channelFlat : ∀ name ∈ channelNames, ¬ prefixChannel <+: name := by
    rintro name inside ⟨rest, rfl⟩
    apply (flat _ (mem_getKeysByString.mp (channelPresent _ inside)).1).1
    rw [← List.append_assoc]
    exact List.prefix_append _ _
  have loggerFlat : ∀ name ∈ loggerNames, ¬ prefixLogger <+: name := by
    rintro name inside ⟨rest, rfl⟩
    apply (flat _ (mem_getKeysByString.mp (loggerPresent _ inside)).1).2
    rw [← List.append_assoc]
    exact List.prefix_append _ _
  obtain ⟨sameDir, channels⟩ := foldlM_createChannelsFromConfig channelsDistinct channelPresent
    channelFlat (fun _ _ => rfl) (fun _ _ => rfl) channelsRead
  have noLoggers (name : Text) : middle.loggers name = none := by
    rw [sameLoggers]
    rfl
  have fatal : middle.HighestReached := ⟨.inl sameHighest⟩
  obtain ⟨lastKept, lastHighest, loggers⟩ := foldl_createLoggerFromConfig loggersDistinct
    loggerPresent loggerFlat (fun name _ => noLoggers name) (fun name _ => noLoggers name) fatal
  have whole : middle.readLoggersFromConfig environment.configMgr =
      (loggerNames.map (prefixLogger ++ ·)).foldl (fun current loggerName =>
        current.createLoggerFromConfig environment.configMgr loggerName) middle := by
    rw [readLoggersFromConfig, loggerKeys]
  rw [whole]
  refine ⟨?_, ?_, lastHighest⟩
  · intro name
    rw [lastKept.1, lastKept.2, channels, sameDir]
    split_ifs with inside
    · rfl
    · have absent : prefixChannel ++ name ∉
          environment.configMgr.getKeysByString prefixChannel := by
        rw [channelKeys]
        intro present
        obtain ⟨other, isName, same⟩ := List.mem_map.mp present
        exact inside (List.append_cancel_left same ▸ isName)
      rw [describedChannel_eq, lookup_of_notMem absent]
      rfl
  · intro name
    rw [loggers, lastKept.1]
    split_ifs with inside
    · rfl
    · have absent : prefixLogger ++ name ∉
          environment.configMgr.getKeysByString prefixLogger := by
        rw [loggerKeys]
        intro present
        obtain ⟨other, isName, same⟩ := List.mem_map.mp present
        exact inside (List.append_cancel_left same ▸ isName)
      rw [describedLogger, lookup_of_notMem absent]
      exact noLoggers name

/-- For every order of the options: after `LoadFromConfig` the channels and the loggers are
those that the options describe, one for each well-formed option, and the highest level is
the highest of theirs, or `Fatal`. -/
theorem loadFromConfig_described {environment : Environment Channel} {log next : Log Channel}
    (flat : Flat environment.configMgr)
    (completed : log.loadFromConfig environment = some next) :
    (∀ name, next.channels name =
      describedChannel environment.createFunctions next.logsDir environment.configMgr name) ∧
      (∀ name, next.loggers name =
        describedLogger next.channels environment.configMgr name) ∧
      (∀ name logger, next.loggers name = some logger →
        logger.level ≤ next.highestLogLevel) ∧ next.HighestReached := by
  obtain ⟨channels, loggers, highest⟩ := loadFromConfig_maps flat completed
  exact ⟨channels, loggers, loadFromConfig_levelsBounded completed, highest⟩

/-- A level of two digits is read, a level that does not exist is not; a channel that is not
described is left out. -/
theorem loadFromConfig_described_example :
    ∃ next, Log.start.loadFromConfig exampleEnvironment = some next ∧
      next.channels "Console".toList = some "LogChannel.Console".toList ∧
      next.loggers "net".toList = none ∧
      (next.loggers "db".toList).map (fun logger => (logger.level, logger.channels)) =
        some (.trace, ["LogChannel.Server".toList, "LogChannel.Console".toList]) := by
  have returns : (Log.start.loadFromConfig exampleEnvironment).isSome = true := by
    decide +kernel
  obtain ⟨next, completed⟩ := Option.isSome_iff_exists.mp returns
  have flat : Flat exampleEnvironment.configMgr := by
    unfold Flat
    decide +kernel
  obtain ⟨channels, loggers, -, -⟩ := loadFromConfig_described flat completed
  have sameLogger (name : Text) : (next.loggers name).map (fun logger =>
      (logger.level, logger.channels)) =
        (describedLogger (describedChannel exampleEnvironment.createFunctions next.logsDir
          exampleEnvironment.configMgr) exampleEnvironment.configMgr name).map (fun logger =>
            (logger.level, logger.channels)) := by
    rw [loggers, funext channels]
  refine ⟨next, completed, ?_, ?_, ?_⟩
  · rw [channels]
    rfl
  · rw [loggers]
    rfl
  · rw [sameLogger]
    rfl

end Load

end Log

end Logging

end WarheadBot
