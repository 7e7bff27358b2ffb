import WarheadBot.FieldProtocols
import WarheadBot.FileChannelCleanup
import WarheadBot.LogChannelPattern

/-!
# The options of a file channel

The documentation gives a file channel a list of up to nine elements, of which
the last five can be left out.  The log cuts the list at its commas and looks at
the first three elements, and the channel reads the others by their positions.
-/

namespace WarheadBot

namespace Logging

open Config (ConfigMgr Text)
open Fields (Width inRange stringToBool stringToInteger stringToInteger_toString)
open MySQL (tokenize)

/-- The optional settings that the documentation lists; the first `given` of them
are written down. -/
structure OptionalSettings where
  given : Nat
  given_le : given ≤ 5
  isOpenModeAppend : Bool
  isFlush : Bool
  isAddTimestamp : Bool
  maxCount : Nat
  maxCountRange : 1 ≤ maxCount ∧ maxCount < 2 ^ 32
  purgeAge : Nat
  purgeAge_lt : purgeAge < 2 ^ 32

def flagText : Bool → String
  | true => "true"
  | false => "false"

def OptionalSettings.tokens (settings : OptionalSettings) : List String :=
  [flagText settings.isOpenModeAppend, flagText settings.isFlush,
    flagText settings.isAddTimestamp, toString settings.maxCount,
    toString settings.purgeAge].take settings.given

/-- A list of options as it is documented. -/
structure FileChannelOptions where
  level : LogLevel
  level_ne : level ≠ .max
  pattern : Text
  patternActions : List PatternAction
  patternParsed : parsePattern pattern = .ok patternActions
  patternComma : ',' ∉ pattern
  fileName : Text
  fileNameComma : ',' ∉ fileName
  optional : OptionalSettings

namespace FileChannelOptions

variable (options : FileChannelOptions)

def tokens : List String :=
  "2" :: toString options.level.value :: String.ofList options.pattern ::
    String.ofList options.fileName :: options.optional.tokens

def text : Text :=
  [','].intercalate (options.tokens.map String.toList)

/-- The settings that were given, and the documented values of the others. -/
def documented (logsDir name : Text) : FileChannel where
  name := name
  level := options.level
  patternActions := options.patternActions
  logsDir := logsDir
  fileName := options.fileName
  logFile := none
  isDynamicFileName := FileChannel.placeholder <:+: options.fileName
  isOpenModeAppend := if 1 ≤ options.optional.given then options.optional.isOpenModeAppend else true
  isFlush := if 2 ≤ options.optional.given then options.optional.isFlush else true
  isAddTimestamp := if 3 ≤ options.optional.given then options.optional.isAddTimestamp else false
  maxCount := if 4 ≤ options.optional.given then options.optional.maxCount else 20
  purgeAge := if 5 ≤ options.optional.given then options.optional.purgeAge else 10

end FileChannelOptions

theorem readLogLevel_value {level : LogLevel} (existing : level ≠ .max) :
    readLogLevel (toString level.value) = some level := by
  cases level
  case max => exact absurd rfl existing
  all_goals decide

theorem tokenize_intercalate {tokens : List String} (nonempty : tokens ≠ []) {separator : Char}
    (absent : ∀ token ∈ tokens, separator ∉ token.toList) :
    tokenize (String.ofList ([separator].intercalate (tokens.map String.toList))) separator true =
      tokens := by
  have parts : ∀ part ∈ tokens.map String.toList, separator ∉ part := by
    intro part inside
    obtain ⟨token, there, rfl⟩ := List.mem_map.mp inside
    exact absent token there
  rw [tokenize, String.toList_ofList,
    List.splitOn_intercalate separator parts (by simpa using nonempty)]
  simp

theorem comma_not_mem_toString (value : Nat) : ',' ∉ (toString value).toList := by
  intro inside
  rw [Nat.toString_eq_repr, Nat.toList_repr] at inside
  exact absurd (Nat.isDigit_of_mem_toDigits (by decide) (by decide) inside) (by decide)

namespace FileChannelOptions

open FileChannel

variable (options : FileChannelOptions)

theorem comma_not_mem_tokens : ∀ token ∈ options.tokens, ',' ∉ token.toList := by
  have flags : ∀ value, ',' ∉ (flagText value).toList := by decide
  intro token inside
  simp only [tokens, List.mem_cons] at inside
  rcases inside with rfl | rfl | rfl | rfl | inside
  · decide
  · exact comma_not_mem_toString _
  · rw [String.toList_ofList]
    exact options.patternComma
  · rw [String.toList_ofList]
    exact options.fileNameComma
  · have listed := List.mem_of_mem_take inside
    simp only [List.mem_cons, List.not_mem_nil, or_false] at listed
    rcases listed with rfl | rfl | rfl | rfl | rfl
    · exact flags _
    · exact flags _
    · exact flags _
    · exact comma_not_mem_toString _
    · exact comma_not_mem_toString _

theorem tokenize_text : tokenize (String.ofList options.text) ',' true = options.tokens :=
  tokenize_intercalate (List.cons_ne_nil _ _) options.comma_not_mem_tokens

section Readers

variable (surroundings : Surroundings) (channel : FileChannel) (tokens : List String)

theorem readFlag_flagText (what : String) (value : Bool) :
    readFlag what (flagText value) = .ok value := by
  cases value <;> rfl

theorem readCount_toString (what : String) {value : Nat} (short : value < 2 ^ 32) :
    readCount what (toString value) = .ok value := by
  have inside : inRange false .four value = true := by
    rw [inRange, if_neg Bool.false_ne_true, decide_eq_true_eq]
    exact ⟨Int.natCast_nonneg value, by exact_mod_cast short⟩
  have read := stringToInteger_toString false .four value
  rw [if_pos inside] at read
  have same : toString (value : Int) = toString value := rfl
  rw [same] at read
  rw [readCount, read]
  rfl

theorem readOpenMode_flagText (value : Bool) :
    readOpenMode surroundings channel (flagText value :: tokens) =
      readFlush surroundings { channel with isOpenModeAppend := value } tokens := by
  rw [readOpenMode, readFlag_flagText]
  rfl

theorem readFlush_flagText (value : Bool) :
    readFlush surroundings channel (flagText value :: tokens) =
      readAddTimestamp surroundings { channel with isFlush := value } tokens := by
  rw [readFlush, readFlag_flagText]
  rfl

theorem readAddTimestamp_flagText {value : Bool} {read : FileChannel}
    (limited : readMaxCount { channel with isAddTimestamp := value } tokens = .ok read) :
    readAddTimestamp surroundings channel (flagText value :: tokens) =
      (clearOldFiles surroundings read).map fun _ => read := by
  rw [readAddTimestamp, readFlag_flagText]
  exact congrArg (fun result => Except.bind result fun read =>
    (clearOldFiles surroundings read).map fun _ => read) limited

theorem readMaxCount_toString {value : Nat} (range : 1 ≤ value ∧ value < 2 ^ 32) :
    readMaxCount channel (toString value :: tokens) =
      readPurgeAge { channel with maxCount := value } tokens := by
  rw [readMaxCount, readCount_toString _ range.2]
  exact if_neg (Nat.one_le_iff_ne_zero.mp range.1)

theorem readPurgeAge_toString {value : Nat} (short : value < 2 ^ 32) :
    readPurgeAge channel (toString value :: tokens) = .ok { channel with purgeAge := value } := by
  rw [readPurgeAge, readCount_toString _ short]
  rfl

end Readers

/-- The channel reads each list that is documented. -/
theorem readOpenMode_tokens (surroundings : Surroundings) (logsDir name : Text) :
    readOpenMode surroundings
        (defaults logsDir name options.level options.patternActions options.fileName)
        options.optional.tokens =
      if options.optional.given ≤ 2 then .ok (options.documented logsDir name)
      else (clearOldFiles surroundings (options.documented logsDir name)).map fun _ =>
        options.documented logsDir name := by
  obtain ⟨level, levelNe, pattern, patternActions, parsed, patternComma, fileName, fileNameComma,
    ⟨given, few, append, flush, stamp, maxCount, maxCountRange, purgeAge, purgeAgeLt⟩⟩ := options
  rw [OptionalSettings.tokens]
  interval_cases given
  · rfl
  · exact readOpenMode_flagText _ _ _ _
  · exact (readOpenMode_flagText _ _ _ _).trans (readFlush_flagText _ _ _ _)
  · exact (readOpenMode_flagText _ _ _ _).trans ((readFlush_flagText _ _ _ _).trans
      (readAddTimestamp_flagText _ _ _ rfl))
  · exact (readOpenMode_flagText _ _ _ _).trans ((readFlush_flagText _ _ _ _).trans
      (readAddTimestamp_flagText _ _ _ (readMaxCount_toString _ _ maxCountRange)))
  · exact (readOpenMode_flagText _ _ _ _).trans ((readFlush_flagText _ _ _ _).trans
      (readAddTimestamp_flagText _ _ _ ((readMaxCount_toString _ _ maxCountRange).trans
        (readPurgeAge_toString _ _ purgeAgeLt))))

theorem tokens_length : options.tokens.length = 4 + options.optional.given := by
  have few := options.optional.given_le
  simp only [tokens, OptionalSettings.tokens, List.length_cons, List.length_take, List.length_nil]
  omega

theorem pattern_ne_nil : options.pattern ≠ [] := by
  intro empty
  have parsed := options.patternParsed
  rw [empty, parsePattern, if_pos rfl] at parsed
  cases parsed

theorem create_tokens (surroundings : Surroundings) (logsDir name : Text) :
    create surroundings logsDir name options.level options.pattern options.tokens =
      if options.optional.given ≤ 2 then .ok (options.documented logsDir name)
      else (clearOldFiles surroundings (options.documented logsDir name)).map fun _ =>
        options.documented logsDir name := by
  rw [create, options.patternParsed, tokens]
  dsimp only
  rw [String.toList_ofList]
  exact options.readOpenMode_tokens surroundings logsDir name

end FileChannelOptions

/-- The functions that the constructor of the log registers. -/
def createFunctions {Console : Type} (console : ChannelCreateFn Console)
    (surroundings : Surroundings) (type : Int) : Option (ChannelCreateFn (Console ⊕ FileChannel)) :=
  if type = 1 then
    some fun logsDir name level pattern options =>
      (console logsDir name level pattern options).map Sum.inl
  else if type = 2 then
    some fun logsDir name level pattern options =>
      (FileChannel.create surroundings logsDir name level pattern options).map Sum.inr
  else none

/-- A channel is registered if it was created. -/
theorem exists_createChannelsFromConfig_iff {Channel : Type} {channel : Channel}
    {createFunctions : Int → Option (ChannelCreateFn Channel)} {configMgr : ConfigMgr}
    {log : Log Channel} {logChannelName channelName : Text} (nonempty : logChannelName ≠ [])
    (isNew : log.channels logChannelName = none)
    (named : logChannelName.drop prefixChannelLength = channelName)
    (isFree : log.channels channelName = none) :
    (∃ next, log.createChannelsFromConfig createFunctions configMgr logChannelName = some next ∧
        next.channels channelName = some channel) ↔
      Log.createdChannel createFunctions log.logsDir logChannelName
          (tokenize (String.ofList (configMgr.getOption logChannelName [])) ',' true) =
        some (.ok channel) := by
  have looked : ¬ (logChannelName = [] ∨ (log.channels logChannelName).isSome) := by
    rw [isNew]
    simp [nonempty]
  rw [Log.createChannelsFromConfig, if_neg looked, named]
  dsimp only
  generalize Log.createdChannel createFunctions log.logsDir logChannelName
    (tokenize (String.ofList (configMgr.getOption logChannelName [])) ',' true) = created
  rcases created with - | (- | -) | created
  · simp [isFree]
  · simp [isFree]
  · simp
  · simp [emplace, isFree]

namespace FileChannelOptions

open FileChannel

variable {Console : Type} {console : ChannelCreateFn Console} {surroundings : Surroundings}
variable {options : FileChannelOptions}

/-- More than seven elements are not looked at. -/
theorem createdChannel_tokens (logsDir name : Text) :
    Log.createdChannel (createFunctions console surroundings) logsDir name options.tokens =
      if 3 < options.optional.given then none
      else some ((create surroundings logsDir name options.level options.pattern
        options.tokens).map Sum.inr) := by
  have count := options.tokens_length
  have type : (stringToInteger true .one "2").bind (createFunctions console surroundings) =
      some fun logsDir name level pattern options =>
        (create surroundings logsDir name level pattern options).map Sum.inr := by
    have two : stringToInteger true .one "2" = some 2 := by decide
    rw [two]
    rfl
  have pattern : String.ofList options.pattern ≠ "" := by
    intro empty
    exact options.pattern_ne_nil (by simpa using congrArg String.toList empty)
  by_cases long : 3 < options.optional.given
  · have tooMany : maxChannelOptions < options.tokens.length := by
      rw [count, maxChannelOptions]
      omega
    rw [if_pos long]
    exact if_pos tooMany
  · have few : ¬ maxChannelOptions < options.tokens.length := by
      rw [count, maxChannelOptions]
      omega
    rw [if_neg long]
    refine (if_neg few).trans ?_
    rw [type]
    dsimp only
    rw [readLogLevel_value options.level_ne]
    dsimp only
    rw [if_neg pattern, String.toList_ofList]

/-- The channel with the documented settings is registered. -/
def Registered (console : ChannelCreateFn Console) (surroundings : Surroundings)
    (configMgr : ConfigMgr) (log : Log (Console ⊕ FileChannel)) (channelName : Text)
    (options : FileChannelOptions) : Prop :=
  ∃ next, log.createChannelsFromConfig (createFunctions console surroundings) configMgr
      (prefixChannel ++ channelName) = some next ∧
    next.channels channelName =
      some (Sum.inr (options.documented log.logsDir (prefixChannel ++ channelName)))

/-- Neither the number of files nor their age is limited, and if there is an option
for the timestamp, old files can be cleared. -/
def FitsLog (surroundings : Surroundings) (logsDir name : Text) (options : FileChannelOptions) :
    Prop :=
  options.optional.given ≤ 3 ∧ (options.optional.given = 3 →
    CanClearOldFiles surroundings (options.documented logsDir name))

theorem createdChannel_documented_iff {logsDir name : Text} :
    Log.createdChannel (createFunctions console surroundings) logsDir name options.tokens =
        some (.ok (Sum.inr (options.documented logsDir name))) ↔
      FitsLog surroundings logsDir name options := by
  rw [createdChannel_tokens, create_tokens, FitsLog, ← exists_clearOldFiles_iff]
  by_cases long : 3 < options.optional.given
  · rw [if_pos long]
    exact iff_of_false (fun created => nomatch created) fun fits => not_lt.mpr fits.1 long
  · rw [if_neg long, Option.some.injEq, and_iff_right (not_lt.mp long)]
    by_cases short : options.optional.given ≤ 2
    · rw [if_pos short]
      exact iff_of_true rfl fun three => by omega
    · have three : options.optional.given = 3 := by omega
      rw [if_neg short, forall_prop_of_true three]
      cases clearOldFiles surroundings (options.documented logsDir name) with
      | error failure => simp [Except.map]
      | ok remaining => simp [Except.map]

section Configured

variable {configMgr : ConfigMgr} {log : Log (Console ⊕ FileChannel)} {channelName : Text}

theorem registered_iff_created
    (configured : configMgr.getOption (prefixChannel ++ channelName) [] = options.text)
    (isNew : log.channels (prefixChannel ++ channelName) = none)
    (isFree : log.channels channelName = none) :
    Registered console surroundings configMgr log channelName options ↔
      Log.createdChannel (createFunctions console surroundings) log.logsDir
          (prefixChannel ++ channelName) options.tokens =
        some (.ok (Sum.inr (options.documented log.logsDir (prefixChannel ++ channelName)))) := by
  have prefixLength : prefixChannel.length = prefixChannelLength := by decide
  have named : (prefixChannel ++ channelName).drop prefixChannelLength = channelName :=
    List.drop_left' prefixLength
  have nonempty : prefixChannel ++ channelName ≠ [] := by
    intro empty
    rw [(List.append_eq_nil_iff.mp empty).1] at prefixLength
    exact nomatch prefixLength
  rw [Registered, exists_createChannelsFromConfig_iff nonempty isNew named isFree, configured,
    options.tokenize_text]

/-- The documented channel is registered exactly if its list is not longer than the
log allows, and if the old files can be cleared that are looked at. -/
theorem registered_iff
    (configured : configMgr.getOption (prefixChannel ++ channelName) [] = options.text)
    (isNew : log.channels (prefixChannel ++ channelName) = none)
    (isFree : log.channels channelName = none) :
    Registered console surroundings configMgr log channelName options ↔
      FitsLog surroundings log.logsDir (prefixChannel ++ channelName) options :=
  (registered_iff_created configured isNew isFree).trans createdChannel_documented_iff

end Configured

/-- Message texts of all levels up to `info`, written to `Server.log`. -/
def serverOptions (optional : OptionalSettings) : FileChannelOptions where
  level := .info
  level_ne := by decide
  pattern := "%t".toList
  patternActions := [⟨'t', 0, [], []⟩]
  patternParsed := parsePattern_messageText
  patternComma := by decide
  fileName := "Server.log".toList
  fileNameComma := by decide
  optional := optional

def overwriting (given : Nat) (given_le : given ≤ 5) : OptionalSettings where
  given := given
  given_le := given_le
  isOpenModeAppend := false
  isFlush := true
  isAddTimestamp := true
  maxCount := 5
  maxCountRange := by decide
  purgeAge := 30
  purgeAge_lt := by decide

def serverConfig (options : FileChannelOptions) : ConfigMgr where
  configOptions := [(prefixChannel ++ "Server".toList, options.text)]
  distinct := List.nodup_singleton _

theorem serverConfig_getOption (options : FileChannelOptions) :
    (serverConfig options).getOption (prefixChannel ++ "Server".toList) [] = options.text := by
  simp [serverConfig, ConfigMgr.getOption]

def noConsole : ChannelCreateFn Unit :=
  fun _ _ _ _ _ => .ok ()

/-- A list with a timestamp; the old files are cleared. -/
theorem registered_overwriting :
    Registered noConsole exampleSurroundings
      (serverConfig (serverOptions (overwriting 3 (by decide))))
      { Log.start with logsDir := "/srv/".toList } "Server".toList
      (serverOptions (overwriting 3 (by decide))) := by
  refine (registered_iff (serverConfig_getOption _) rfl rfl).mpr ⟨by decide, fun _ => .inr ?_⟩
  refine ⟨_, FileChannel.exampleDirectory, regex_server, rfl, ?_⟩
  intro entry inside _ fixed
  have removable : ∀ other ∈ FileChannel.exampleDirectory.entries, other.removable = true := by
    decide
  rw [removable entry inside] at fixed
  exact nomatch fixed

/-- A list with the number of files is refused. -/
theorem not_registered_maxCount :
    ¬ ∀ (surroundings : Surroundings) (configMgr : ConfigMgr) (log : Log (Unit ⊕ FileChannel))
      (channelName : Text) (options : FileChannelOptions),
      configMgr.getOption (prefixChannel ++ channelName) [] = options.text →
      log.channels (prefixChannel ++ channelName) = none → log.channels channelName = none →
      CanClearOldFiles surroundings
        (options.documented log.logsDir (prefixChannel ++ channelName)) →
      Registered noConsole surroundings configMgr log channelName options := by
  intro always
  have registered := always exampleSurroundings
    (serverConfig (serverOptions (overwriting 4 (by decide)))) Log.start "Server".toList _
    (serverConfig_getOption _) rfl rfl (Or.inl rfl)
  rw [registered_iff_created (serverConfig_getOption _) rfl rfl,
    createdChannel_documented_iff] at registered
  exact absurd registered.1 (by decide)

end FileChannelOptions

end Logging

end WarheadBot
