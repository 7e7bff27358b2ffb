import Std.Data.String.ToNat
import WarheadBot.ConfigLines

/-!
# The options after loading

Each file gives an option the value of its first line for it, whatever the order
of the hash maps.  The number of options of a file is counted in 32 bits, and a
file is taken as empty if the counter is zero.
-/

namespace WarheadBot

namespace Config

open KeyedEntries (firsts)

/-- The options of a file in the order of its lines; a file that cannot be opened
or read to the end has none. -/
def ConfigFile.entries : ConfigFile → List Entry
  | .opened text true => lineEntries (text.splitOn '\n')
  | _ => []

def ConfigFile.optionCount (file : ConfigFile) : Nat :=
  (firsts file.entries).length

/-- The value of an option from both files: `.conf` counts for an option of
`.dist` and for one of the logging system. -/
def mergedOptions (dist conf : List Entry) : Options := fun name =>
  (conf.lookup name).elim (dist.lookup name) fun value =>
    if (dist.lookup name).isSome || isLoggingSystemOptions name then some value
    else dist.lookup name

/-- The value of an option after its key has been added. -/
def valueAfter (isOptional : Bool) (name value : Text) (old : Option Text) : Option Text :=
  if isOptional && old.isNone && !isLoggingSystemOptions name then old else some value

theorem addKey_of_ne {isOptional : Bool} (options : Options) (entry : Entry) (name : Text)
    (differs : name ≠ entry.1) : addKey isOptional options entry name = options name := by
  unfold addKey
  split_ifs
  · rfl
  · exact Function.update_of_ne differs _ _

theorem addKey_self {isOptional : Bool} (options : Options) (entry : Entry) :
    addKey isOptional options entry entry.1 =
      valueAfter isOptional entry.1 entry.2 (options entry.1) := by
  unfold addKey valueAfter
  split_ifs
  · rfl
  · exact Function.update_self _ _ _

/-- The order of the hash map does not matter, since its names differ. -/
theorem foldl_addKey (iteration : Iteration) (entries : List Entry) (isOptional : Bool)
    (options : Options) (name : Text) :
    (iteration.order (firsts entries)).foldl (addKey isOptional) options name =
      (entries.lookup name).elim (options name) fun value =>
        valueAfter isOptional name value (options name) := by
  have permuted := iteration.perm (firsts entries)
  have distinct := KeyedEntries.nodup_firsts entries
  have sameLookup := KeyedEntries.lookup_perm permuted distinct name
  rw [KeyedEntries.lookup_firsts] at sameLookup
  rw [← sameLookup]
  exact @KeyedEntries.foldl_apply _ _ _ _ _ (addKey isOptional) (valueAfter isOptional)
    addKey_of_ne addKey_self _ ((permuted.map Prod.fst).nodup_iff.mpr distinct) options name

theorem ofNat_eq_zero_iff {count : Nat} : UInt32.ofNat count = 0 ↔ 4294967296 ∣ count := by
  rw [← UInt32.toNat_inj, UInt32.toNat_ofNat', Nat.dvd_iff_mod_eq_zero]
  rfl

/-- A file changes the options if its counter is not zero at the end. -/
theorem loadFile_eq (iteration : Iteration) (fileName : String) (file : ConfigFile)
    (isOptional : Bool) (options : Options) :
    loadFile iteration fileName file isOptional options =
      if 4294967296 ∣ file.optionCount then (false, options)
      else (true, (iteration.order (firsts file.entries)).foldl (addKey isOptional) options) := by
  unfold loadFile
  cases file with
  | unopened =>
      have nothing : 4294967296 ∣ ConfigFile.unopened.optionCount := Nat.dvd_zero _
      rw [if_pos nothing]
      cases isOptional <;> rfl
  | opened text readable =>
      cases readable with
      | false =>
          have nothing : 4294967296 ∣ (ConfigFile.opened text false).optionCount :=
            Nat.dvd_zero _
          rw [if_pos nothing]
          rfl
      | true =>
          unfold parseFile ConfigFile.optionCount ConfigFile.entries
          dsimp only
          rw [if_neg (by decide), readLines_eq, Reading.of]
          dsimp only
          by_cases zero : 4294967296 ∣ (firsts (lineEntries (text.splitOn '\n'))).length
          · rw [if_pos (ofNat_eq_zero_iff.mpr zero), if_pos zero]
            cases isOptional <;> rfl
          · rw [if_neg (mt ofNat_eq_zero_iff.mp zero), if_neg zero]

theorem loadInitial_eq (iteration : Iteration) (fileName : String) (dist : ConfigFile)
    (state : State) :
    state.loadInitial iteration fileName dist =
      if 4294967296 ∣ dist.optionCount then (false, { state with configOptions := fun _ => none })
      else (true, { state with configOptions := fun name => dist.entries.lookup name }) := by
  unfold State.loadInitial
  rw [loadFile_eq]
  split_ifs with zero
  · rfl
  · have options : (iteration.order (firsts dist.entries)).foldl (addKey false) (fun _ => none) =
        fun name => dist.entries.lookup name := by
      funext name
      rw [foldl_addKey]
      cases dist.entries.lookup name <;> rfl
    rw [options]

theorem loadAdditionalFile_eq (iteration : Iteration) (fileName : String) (dist conf : ConfigFile)
    (state : State) (loaded : state.configOptions = fun name => dist.entries.lookup name) :
    state.loadAdditionalFile iteration fileName conf =
      if 4294967296 ∣ conf.optionCount then (false, state)
      else (true, { state with configOptions := mergedOptions dist.entries conf.entries }) := by
  unfold State.loadAdditionalFile
  rw [loadFile_eq]
  split_ifs with zero
  · rfl
  · have options : (iteration.order (firsts conf.entries)).foldl (addKey true)
        state.configOptions = mergedOptions dist.entries conf.entries := by
      funext name
      rw [foldl_addKey, loaded, mergedOptions]
      cases conf.entries.lookup name with
      | none => rfl
      | some value =>
          have skipped : (true && (dist.entries.lookup name).isNone &&
              !isLoggingSystemOptions name) =
                !((dist.entries.lookup name).isSome || isLoggingSystemOptions name) := by
            rw [Bool.true_and, Bool.not_or, Option.not_isSome]
          rw [Option.elim_some, Option.elim_some, valueAfter, skipped]
          by_cases kept : (dist.entries.lookup name).isSome || isLoggingSystemOptions name
          · rw [if_pos kept, kept]
            rfl
          · rw [if_neg kept]
            rw [Bool.not_eq_true] at kept
            rw [kept]
            rfl
    rw [options]

/-- What the two files say after `LoadAppConfigs`. -/
structure LoadsFirstOptions (dist conf : List Entry) (result : Bool × State) : Prop where
  merged : result.1 = true →
    ∀ name, result.2.configOptions name = mergedOptions dist conf name
  distOnly : result.1 = true → conf = [] →
    ∀ name, result.2.configOptions name = dist.lookup name
  failed : dist = [] → result.1 = false ∧ ∀ name, result.2.configOptions name = none

theorem loadAppConfigs_eq (distIteration confIteration : Iteration) (filename : String)
    (dist conf : ConfigFile) (state : State) :
    state.loadAppConfigs distIteration confIteration filename dist conf =
      if 4294967296 ∣ dist.optionCount then (false, { state with configOptions := fun _ => none })
      else (true,
        if 4294967296 ∣ conf.optionCount then
          ⟨fun name => dist.entries.lookup name, true⟩
        else ⟨mergedOptions dist.entries conf.entries, state.usingDistConfig⟩) := by
  unfold State.loadAppConfigs
  dsimp only
  rw [loadInitial_eq]
  by_cases distZero : 4294967296 ∣ dist.optionCount
  · rw [if_pos distZero, if_pos distZero]
    rfl
  · rw [if_neg distZero, if_neg distZero]
    dsimp only
    rw [Bool.not_true, if_neg Bool.false_ne_true]
    rw [loadAdditionalFile_eq _ _ dist conf _ rfl]
    by_cases confZero : 4294967296 ∣ conf.optionCount
    · rw [if_pos confZero, if_pos confZero]
      rfl
    · rw [if_neg confZero, if_neg confZero]
      rfl

/-- The options are those of the two files, unless the counter of a `.conf` that
changes an option ends at zero. -/
theorem loadAppConfigs_iff (distIteration confIteration : Iteration) (filename : String)
    (dist conf : ConfigFile) (state : State) :
    LoadsFirstOptions dist.entries conf.entries
        (state.loadAppConfigs distIteration confIteration filename dist conf) ↔
      (4294967296 ∣ dist.optionCount ∨ ¬4294967296 ∣ conf.optionCount ∨
        ∀ name, mergedOptions dist.entries conf.entries name = dist.entries.lookup name) := by
  have empty (file : ConfigFile) (nothing : file.entries = []) :
      4294967296 ∣ file.optionCount := by
    rw [ConfigFile.optionCount, nothing]
    exact Nat.dvd_zero _
  rw [loadAppConfigs_eq]
  by_cases distZero : 4294967296 ∣ dist.optionCount
  · rw [if_pos distZero]
    exact iff_of_true ⟨nofun, nofun, fun _ => ⟨rfl, fun _ => rfl⟩⟩ (Or.inl distZero)
  · rw [if_neg distZero]
    have notEmpty : dist.entries ≠ [] := mt (empty dist) distZero
    by_cases confZero : 4294967296 ∣ conf.optionCount
    · rw [if_pos confZero]
      constructor
      · intro loads
        exact Or.inr (Or.inr fun name => (loads.merged rfl name).symm)
      · rintro (isZero | notZero | same)
        · exact absurd isZero distZero
        · exact absurd confZero notZero
        · refine ⟨fun _ name => (same name).symm, fun _ _ _ => rfl, ?_⟩
          exact fun nothing => absurd nothing notEmpty
    · rw [if_neg confZero]
      refine iff_of_true ⟨?_, ?_, ?_⟩ (Or.inr (Or.inl confZero))
      · intro _ name
        rfl
      · intro _ nothing
        exact absurd (empty conf nothing) confZero
      · intro nothing
        exact absurd nothing notEmpty

def Iteration.insertion : Iteration := ⟨id, fun _ => List.Perm.refl _⟩

/-- A file that gives so many options, named by numbers, the value 1. -/
def numberedOptions (count : Nat) : ConfigFile :=
  .opened (['\n'].intercalate
    ((List.range count).map fun number => quotedLine (Nat.toDigits 10 number) ['1'])) true

theorem isNameChar_of_mem_toDigits {number : Nat} {char : Char}
    (inside : char ∈ Nat.toDigits 10 number) : isNameChar char := by
  have digit : char.isDigit := Nat.isDigit_of_mem_toDigits (by decide) (by decide) inside
  simp [isNameChar, Char.isAlphanum, digit]

theorem toDigits_injective : Function.Injective (Nat.toDigits 10) := by
  intro first second same
  apply Nat.repr_injective
  rw [← String.toList_inj, Nat.toList_repr, Nat.toList_repr, same]

theorem entries_numberedOptions {count : Nat} (positive : count ≠ 0) :
    (numberedOptions count).entries =
      (List.range count).map fun number => (Nat.toDigits 10 number, ['1']) := by
  have noBreak (number : Nat) : '\n' ∉ quotedLine (Nat.toDigits 10 number) ['1'] := by
    have inName : '\n' ∉ Nat.toDigits 10 number :=
      fun inside => absurd (isNameChar_of_mem_toDigits inside) (by decide)
    simp [quotedLine, inName]
  have split : (['\n'].intercalate ((List.range count).map fun number =>
      quotedLine (Nat.toDigits 10 number) ['1'])).splitOn '\n' =
        (List.range count).map fun number => quotedLine (Nat.toDigits 10 number) ['1'] := by
    apply List.splitOn_intercalate
    · intro line inside
      obtain ⟨number, -, rfl⟩ := List.mem_map.mp inside
      exact noBreak number
    · rw [Ne, List.map_eq_nil_iff, List.range_eq_nil]
      exact positive
  have parsed (number : Nat) : parseLine (quotedLine (Nat.toDigits 10 number) ['1']) =
      some (Nat.toDigits 10 number, ['1']) := by
    obtain ⟨read, parsed, same⟩ := @parseLine_quotedLine (Nat.toDigits 10 number)
      (fun _ => isNameChar_of_mem_toDigits) ['1'] (by decide)
    rw [parsed, same.mpr (by decide)]
  rw [numberedOptions, ConfigFile.entries, split, lineEntries, List.filterMap_map,
    ← List.filterMap_eq_map]
  exact List.filterMap_congr fun number _ => parsed number

theorem nodup_numberedOptions {count : Nat} (positive : count ≠ 0) :
    ((numberedOptions count).entries.map Prod.fst).Nodup := by
  rw [entries_numberedOptions positive, List.map_map]
  exact List.nodup_range.map toDigits_injective

/-- A `.conf` with as many options as the counter has values is taken as empty:
the option that it changes keeps the value of `.dist`. -/
theorem loadAppConfigs_ignores_conf :
    ¬LoadsFirstOptions (ConfigFile.opened (quotedLine ['0'] ['0']) true).entries
      (numberedOptions 4294967296).entries
        (State.loadAppConfigs .insertion .insertion "DiscordBot.conf"
          (.opened (quotedLine ['0'] ['0']) true) (numberedOptions 4294967296)
            ⟨fun _ => none, false⟩) := by
  have many : 4294967296 ≠ 0 := by decide
  have distinct := nodup_numberedOptions many
  have count : (numberedOptions 4294967296).optionCount = 4294967296 := by
    rw [ConfigFile.optionCount, KeyedEntries.firsts_of_nodup distinct,
      entries_numberedOptions many, List.length_map, List.length_range]
  have counted : 4294967296 ∣ (numberedOptions 4294967296).optionCount :=
    count.symm ▸ Nat.dvd_refl _
  have changed : (numberedOptions 4294967296).entries.lookup ['0'] = some ['1'] := by
    rw [← KeyedEntries.mem_iff_lookup distinct, entries_numberedOptions many, List.mem_map]
    exact ⟨0, List.mem_range.mpr (by decide), rfl⟩
  have dist : (ConfigFile.opened (quotedLine ['0'] ['0']) true).entries = [(['0'], ['0'])] := by
    decide
  have single : ¬4294967296 ∣ (ConfigFile.opened (quotedLine ['0'] ['0']) true).optionCount := by
    rw [ConfigFile.optionCount, dist]
    decide
  intro loads
  rw [loadAppConfigs_eq, if_pos counted, if_neg single] at loads
  have value := loads.merged rfl ['0']
  rw [dist, mergedOptions, changed] at value
  exact absurd value (by decide)

end Config

end WarheadBot
