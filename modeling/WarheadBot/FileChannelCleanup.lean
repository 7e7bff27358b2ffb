import WarheadBot.FileChannel

/-!
# Which log files are left

The files are gone through from the oldest to the newest.  As long as there are
too many of them each one is removed, and from then on those that are too old.
-/

namespace WarheadBot

namespace Logging

open Config (Text)

theorem Directory.remove_eq_ok {directory left : Directory} {name : Text}
    (removed : directory.remove name = .ok left) :
    left.entries = directory.entries.filter fun entry => entry.name ≠ name := by
  unfold Directory.remove at removed
  split_ifs at removed
  rw [← Except.ok.inj removed]

theorem Directory.exists_remove_iff {directory : Directory} {name : Text} :
    (∃ left, directory.remove name = .ok left) ↔
      ∀ entry ∈ directory.entries, entry.name = name → entry.removable = true := by
  unfold Directory.remove
  split_ifs with fixed
  · refine iff_of_false (fun completed => nomatch completed.choose_spec) ?_
    simpa using fixed
  · refine iff_of_true ⟨_, rfl⟩ ?_
    simpa using fixed

namespace FileChannel

variable {maxCount filesCount : Nat} {deleteBeforeTime : Int} {files : List LogFileInfo}

/-- The files that the loop removes. -/
def removedFiles (maxCount : Nat) (deleteBeforeTime : Int) : Nat → List LogFileInfo →
    List LogFileInfo
  | _, [] => []
  | filesCount, file :: files =>
      if maxCount < filesCount then
        file :: removedFiles maxCount deleteBeforeTime (filesCount - 1) files
      else if file.2 < deleteBeforeTime then
        file :: removedFiles maxCount deleteBeforeTime filesCount files
      else removedFiles maxCount deleteBeforeTime filesCount files

/-- The directory without the files that are removed. -/
theorem removeFiles_eq_ok {directory left : Directory}
    (completed : removeFiles maxCount deleteBeforeTime filesCount files directory = .ok left) :
    left.entries = directory.entries.filter fun entry =>
      entry.name ∉ (removedFiles maxCount deleteBeforeTime filesCount files).map Prod.fst := by
  induction files generalizing filesCount directory with
  | nil =>
      rw [← Except.ok.inj completed]
      simp [removedFiles]
  | cons file files ih =>
      have remove : ∀ count, (directory.remove file.1).bind
          (removeFiles maxCount deleteBeforeTime count files) = .ok left →
          left.entries = directory.entries.filter fun entry => entry.name ∉
            (file :: removedFiles maxCount deleteBeforeTime count files).map Prod.fst := by
        intro count rest
        cases removed : directory.remove file.1 with
        | error failure =>
            rw [removed] at rest
            exact nomatch rest
        | ok middle =>
            rw [removed] at rest
            rw [ih rest, Directory.remove_eq_ok removed, List.filter_filter]
            apply List.filter_congr
            intro entry _
            rw [← Bool.decide_and, decide_eq_decide, List.map_cons, List.mem_cons, not_or,
              and_comm]
      unfold removeFiles at completed
      unfold removedFiles
      split_ifs at completed ⊢ with tooMany tooOld
      · exact remove _ completed
      · exact remove _ completed
      · exact ih completed

theorem exists_removeFiles_iff {directory : Directory} :
    (∃ left, removeFiles maxCount deleteBeforeTime filesCount files directory = .ok left) ↔
      ∀ entry ∈ directory.entries,
        entry.name ∈ (removedFiles maxCount deleteBeforeTime filesCount files).map Prod.fst →
        entry.removable = true := by
  induction files generalizing filesCount directory with
  | nil => exact iff_of_true ⟨directory, rfl⟩ fun _ _ named => nomatch named
  | cons file files ih =>
      have remove : ∀ count, (∃ left, (directory.remove file.1).bind
          (removeFiles maxCount deleteBeforeTime count files) = .ok left) ↔
          ∀ entry ∈ directory.entries, entry.name ∈
            (file :: removedFiles maxCount deleteBeforeTime count files).map Prod.fst →
            entry.removable = true := by
        intro count
        constructor
        · rintro ⟨left, completed⟩ entry inside named
          obtain ⟨middle, removed, rest⟩ := exists_of_bind_ok completed
          by_cases same : entry.name = file.1
          · exact Directory.exists_remove_iff.mp ⟨middle, removed⟩ entry inside same
          · refine ih.mp ⟨left, rest⟩ entry ?_ ((List.mem_cons.mp named).resolve_left same)
            rw [Directory.remove_eq_ok removed]
            exact List.mem_filter.mpr ⟨inside, decide_eq_true same⟩
        · intro removable
          obtain ⟨middle, removed⟩ := (@Directory.exists_remove_iff directory file.1).mpr
            fun entry inside same => removable entry inside (by simp [same])
          rw [removed]
          apply ih.mpr
          intro entry inside named
          rw [Directory.remove_eq_ok removed] at inside
          exact removable entry (List.mem_of_mem_filter inside) (List.mem_cons_of_mem _ named)
      unfold removeFiles removedFiles
      split_ifs
      · exact remove _
      · exact remove _
      · exact ih

theorem removedFiles_of_le (few : filesCount ≤ maxCount) :
    removedFiles maxCount deleteBeforeTime filesCount files =
      files.filter fun file => file.2 < deleteBeforeTime := by
  induction files with
  | nil => rfl
  | cons file files ih =>
      rw [removedFiles, if_neg (not_lt.mpr few), List.filter_cons, ih]
      simp only [decide_eq_true_eq]

/-- All but the last `maxCount` files are removed, and of these the old ones. -/
theorem removedFiles_length :
    removedFiles maxCount deleteBeforeTime files.length files =
      files.take (files.length - maxCount) ++
        (files.drop (files.length - maxCount)).filter fun file => file.2 < deleteBeforeTime := by
  induction files with
  | nil => simp [removedFiles]
  | cons file files ih =>
      by_cases few : (file :: files).length ≤ maxCount
      · rw [removedFiles_of_le few, Nat.sub_eq_zero_of_le few, List.take_zero, List.drop_zero,
          List.nil_append]
      · have count : (file :: files).length - maxCount = files.length - maxCount + 1 := by
          rw [List.length_cons] at few ⊢
          omega
        rw [removedFiles, if_pos (not_le.mp few), count, List.take_succ_cons,
          List.drop_succ_cons, List.length_cons, Nat.add_sub_cancel, ih, List.cons_append]

theorem removedFiles_subset :
    removedFiles maxCount deleteBeforeTime files.length files ⊆ files := by
  rw [removedFiles_length]
  apply List.append_subset.mpr
  exact ⟨List.take_subset _ _, fun _ there => List.drop_subset _ _ (List.mem_of_mem_filter there)⟩

/-- A file is left if it is one of the last and not too old. -/
theorem not_mem_removedFiles_iff (distinct : (files.map Prod.fst).Nodup) {file : LogFileInfo}
    (inside : file ∈ files) :
    file.1 ∉ (removedFiles maxCount deleteBeforeTime files.length files).map Prod.fst ↔
      file ∈ files.drop (files.length - maxCount) ∧ deleteBeforeTime ≤ file.2 := by
  have named : ∀ part, part ⊆ files → (file.1 ∈ part.map Prod.fst ↔ file ∈ part) := by
    intro part subset
    constructor
    · intro present
      obtain ⟨other, there, same⟩ := List.mem_map.mp present
      exact List.inj_on_of_nodup_map distinct (subset there) inside same ▸ there
    · exact List.mem_map_of_mem
  rw [named _ removedFiles_subset, removedFiles_length, List.mem_append, List.mem_filter,
    decide_eq_true_eq, not_or, not_and, not_lt]
  have once : file ∈ files.take (files.length - maxCount) ↔
      file ∉ files.drop (files.length - maxCount) := by
    have split := List.take_append_drop (files.length - maxCount) files
    have apart := List.disjoint_of_nodup_append (split.symm ▸ distinct.of_map _)
    constructor
    · intro early late
      exact apart early late
    · intro notLate
      rw [← split, List.mem_append] at inside
      exact inside.resolve_right notLate
  rw [once, not_not]
  constructor
  · rintro ⟨late, young⟩
    exact ⟨late, young late⟩
  · rintro ⟨late, young⟩
    exact ⟨late, fun _ => young⟩

variable {surroundings : Surroundings}

/-- The files that are sorted are the matching ones, each once. -/
theorem sorted_logFiles (surroundings : Surroundings) (isMatch : Text → Bool)
    (directory : Directory) :
    ((surroundings.sort (logFiles surroundings isMatch directory)).map Prod.fst).Nodup ∧
      ∀ file, file ∈ surroundings.sort (logFiles surroundings isMatch directory) ↔
        file.1 ∈ directory.entries.map DirectoryEntry.name ∧ isMatch file.1 = true ∧
          file.2 = getFileCreationDate surroundings.mktime logTimestampFmt file.1 := by
  have permuted := surroundings.sort_perm (logFiles surroundings isMatch directory)
  constructor
  · have names : (logFiles surroundings isMatch directory).map Prod.fst =
        (directory.entries.map DirectoryEntry.name).filter isMatch := by
      simp [logFiles, Function.comp_def]
    rw [(permuted.map Prod.fst).nodup_iff, names]
    exact directory.distinct.filter _
  · rintro ⟨name, date⟩
    rw [permuted.mem_iff, logFiles, List.mem_map]
    constructor
    · rintro ⟨other, inside, same⟩
      obtain ⟨rfl, rfl⟩ := Prod.mk.inj same
      obtain ⟨present, found⟩ := List.mem_filter.mp inside
      exact ⟨present, found, rfl⟩
    · rintro ⟨present, found, same⟩
      exact ⟨name, List.mem_filter.mpr ⟨present, found⟩, Prod.ext rfl same.symm⟩

/-- An entry of the directory is not removed if it does not match, or if it is
among the last ones and not too old. -/
theorem name_not_mem_removedFiles_iff (surroundings : Surroundings) (isMatch : Text → Bool)
    {directory : Directory} {entry : DirectoryEntry} (inside : entry ∈ directory.entries) :
    entry.name ∉ (removedFiles maxCount deleteBeforeTime
        (logFiles surroundings isMatch directory).length
        (surroundings.sort (logFiles surroundings isMatch directory))).map Prod.fst ↔
      (isMatch entry.name = true →
        (entry.name, getFileCreationDate surroundings.mktime logTimestampFmt entry.name) ∈
            (surroundings.sort (logFiles surroundings isMatch directory)).drop
              ((logFiles surroundings isMatch directory).length - maxCount) ∧
          deleteBeforeTime ≤
            getFileCreationDate surroundings.mktime logTimestampFmt entry.name) := by
  obtain ⟨distinct, members⟩ := sorted_logFiles surroundings isMatch directory
  have sortedLength :=
    (surroundings.sort_perm (logFiles surroundings isMatch directory)).length_eq
  rw [← sortedLength]
  by_cases found : isMatch entry.name = true
  · have sorted := (members (entry.name,
      getFileCreationDate surroundings.mktime logTimestampFmt entry.name)).mpr
      ⟨List.mem_map_of_mem inside, found, rfl⟩
    rw [forall_prop_of_true found]
    exact not_mem_removedFiles_iff distinct sorted
  · refine iff_of_true ?_ fun matched => absurd matched found
    intro removedName
    obtain ⟨file, there, same⟩ := List.mem_map.mp removedName
    exact found (same ▸ ((members file).mp (removedFiles_subset there)).2.1)

/-- The expression of the file name is one, the directory can be read, and each
matching file that cannot be removed is one of those that are left. -/
def CanClearOldFiles (surroundings : Surroundings) (channel : FileChannel) : Prop :=
  channel.logsDir = [] ∨
    ∃ isMatch directory,
      surroundings.regex (fileNameRegex channel.fileName) = some isMatch ∧
      surroundings.directory = some directory ∧
      ∀ entry ∈ directory.entries, isMatch entry.name = true → entry.removable = false →
        (entry.name, getFileCreationDate surroundings.mktime logTimestampFmt entry.name) ∈
            (surroundings.sort (logFiles surroundings isMatch directory)).drop
              ((logFiles surroundings isMatch directory).length - channel.maxCount) ∧
          surroundings.epochTime - channel.purgeAge * 86400 ≤
            getFileCreationDate surroundings.mktime logTimestampFmt entry.name

theorem exists_clearOldFiles_iff {channel : FileChannel} :
    (∃ remaining, clearOldFiles surroundings channel = .ok remaining) ↔
      CanClearOldFiles surroundings channel := by
  unfold clearOldFiles CanClearOldFiles
  by_cases noDirectory : channel.logsDir = []
  · rw [if_pos noDirectory]
    exact iff_of_true ⟨_, rfl⟩ (Or.inl noDirectory)
  · rw [if_neg noDirectory, or_iff_right noDirectory]
    cases expression : surroundings.regex (fileNameRegex channel.fileName) with
    | none => simp
    | some isMatch =>
        cases listing : surroundings.directory with
        | none => simp
        | some directory =>
            have removes := @exists_removeFiles_iff channel.maxCount
              (logFiles surroundings isMatch directory).length
              (surroundings.epochTime - channel.purgeAge * 86400)
              (surroundings.sort (logFiles surroundings isMatch directory)) directory
            constructor
            · rintro ⟨remaining, completed⟩
              obtain ⟨left, removed, -⟩ := exists_of_map_ok completed
              refine ⟨isMatch, directory, rfl, rfl, ?_⟩
              intro entry inside found fixed
              refine (name_not_mem_removedFiles_iff surroundings isMatch inside).mp ?_ found
              intro named
              rw [removes.mp ⟨left, removed⟩ entry inside named] at fixed
              exact nomatch fixed
            · rintro ⟨otherMatch, otherDirectory, sameMatch, sameDirectory, keeps⟩
              obtain rfl := Option.some.inj sameMatch
              obtain rfl := Option.some.inj sameDirectory
              obtain ⟨left, removed⟩ := removes.mpr (by
                intro entry inside named
                by_contra fixed
                rw [Bool.not_eq_true] at fixed
                exact (name_not_mem_removedFiles_iff surroundings isMatch inside).mpr
                  (fun found => keeps entry inside found fixed) named)
              refine ⟨some left, ?_⟩
              dsimp only
              rw [removed]
              rfl

/-- The matching files that are left are those among the last `maxCount` of
their order that are not older than the limit, and every other file is left. -/
theorem clearOldFiles_exact (surroundings : Surroundings) {channel : FileChannel}
    (hasDirectory : channel.logsDir ≠ []) :
    (∀ remaining, clearOldFiles surroundings channel = .ok remaining →
      ∃ isMatch directory left,
        surroundings.regex (fileNameRegex channel.fileName) = some isMatch ∧
        surroundings.directory = some directory ∧ remaining = some left ∧
        ∀ entry, entry ∈ left.entries ↔ entry ∈ directory.entries ∧
          (isMatch entry.name = true →
            (entry.name, getFileCreationDate surroundings.mktime logTimestampFmt entry.name) ∈
                (surroundings.sort (logFiles surroundings isMatch directory)).drop
                  ((logFiles surroundings isMatch directory).length - channel.maxCount) ∧
              surroundings.epochTime - channel.purgeAge * 86400 ≤
                getFileCreationDate surroundings.mktime logTimestampFmt entry.name)) ∧
    ∀ isMatch directory, surroundings.regex (fileNameRegex channel.fileName) = some isMatch →
      surroundings.directory = some directory →
      (∀ entry ∈ directory.entries, isMatch entry.name = true → entry.removable = true) →
      ∃ remaining, clearOldFiles surroundings channel = .ok remaining := by
  constructor
  · intro remaining completed
    unfold clearOldFiles at completed
    rw [if_neg hasDirectory] at completed
    cases expression : surroundings.regex (fileNameRegex channel.fileName) with
    | none =>
        rw [expression] at completed
        exact nomatch completed
    | some isMatch =>
        cases listing : surroundings.directory with
        | none =>
            rw [expression, listing] at completed
            exact nomatch completed
        | some directory =>
            rw [expression, listing] at completed
            obtain ⟨left, removed, rfl⟩ := exists_of_map_ok completed
            refine ⟨isMatch, directory, left, rfl, rfl, rfl, ?_⟩
            intro entry
            rw [removeFiles_eq_ok removed, List.mem_filter, decide_eq_true_eq]
            exact and_congr_right (name_not_mem_removedFiles_iff surroundings isMatch)
  · intro isMatch directory expression listing removable
    refine exists_clearOldFiles_iff.mpr (Or.inr ⟨isMatch, directory, expression, listing, ?_⟩)
    intro entry inside found fixed
    rw [removable entry inside found] at fixed
    exact nomatch fixed

def exampleChannel : FileChannel :=
  { defaults "/srv/".toList "LogChannel.Server".toList .debug [] "Server.log".toList with
    isAddTimestamp := true
    maxCount := 2 }

theorem regex_server : exampleSurroundings.regex (fileNameRegex "Server.log".toList) =
    some fun name => "Server_".toList.isPrefixOf name := by
  have expression : fileNameRegex "Server.log".toList =
      "^Server_[0-9-]+[0-9_]+.log$".toList := by decide
  rw [expression]
  rfl

/-- The oldest file is one too many, and the next one is too old. -/
theorem clearOldFiles_example :
    ∃ left, clearOldFiles exampleSurroundings exampleChannel = .ok (some left) ∧
      ⟨"notes.txt".toList, true⟩ ∈ left.entries ∧
      ⟨"Server_2024_01_09_00_00_00.log".toList, true⟩ ∈ left.entries ∧
      ⟨"Server_2024_01_05_00_00_00.log".toList, true⟩ ∉ left.entries ∧
      ⟨"Server_2024_01_01_00_00_00.log".toList, true⟩ ∉ left.entries := by
  have matching : exampleSurroundings.regex (fileNameRegex exampleChannel.fileName) =
      some fun name => "Server_".toList.isPrefixOf name := regex_server
  obtain ⟨exactly, completes⟩ := @clearOldFiles_exact exampleSurroundings exampleChannel (by decide)
  obtain ⟨remaining, completed⟩ := completes (fun name => "Server_".toList.isPrefixOf name)
    exampleDirectory matching rfl (by decide)
  obtain ⟨isMatch, directory, left, expression, listing, rfl, members⟩ :=
    exactly remaining completed
  obtain rfl : exampleDirectory = directory := Option.some.inj listing
  obtain rfl := Option.some.inj (matching.symm.trans expression)
  refine ⟨left, completed, ?_, ?_, ?_, ?_⟩
  · exact (members _).mpr (by decide +kernel)
  · exact (members _).mpr (by decide +kernel)
  · exact mt (members _).mp (by decide +kernel)
  · exact mt (members _).mp (by decide +kernel)

end FileChannel

end Logging

end WarheadBot
