import WarheadBot.UpdateFetcherDecisions
import WarheadBot.UpdateFetcherStates

/-!
# Updates of given directories

With `setDirectories` the fetcher lists the files of these directories only, all
of them as files of modules, and does not remove orphans.  A file that is not
listed counts as gone all the same, so a new file can take over the row of a
file outside the directories.
-/

namespace WarheadBot

namespace UpdateFetcher

/-- A file below a directory; `content` is `none` when it cannot be opened. -/
structure DirectoryFile where
  filename : String
  content : Option String
  deriving DecidableEq, Repr

/-- The files below a path, if it is a directory. -/
abbrev Directory := Option (List DirectoryFile)

/-- The extension of the path is `.sql`; a name that begins with its only dot
has no extension. -/
def DirectoryFile.isSql (file : DirectoryFile) : Bool :=
  ".sql".toList.isSuffixOf file.filename.toList && file.filename != ".sql"

def insertFile (file : LocaleFile) : List LocaleFile → List LocaleFile
  | [] => [file]
  | first :: files =>
      if file.filename < first.filename then file :: first :: files
      else first :: insertFile file files

theorem mem_insertFile {file other : LocaleFile} {files : List LocaleFile} :
    other ∈ insertFile file files ↔ other = file ∨ other ∈ files := by
  induction files with
  | nil => simp [insertFile]
  | cons first files ih =>
      unfold insertFile
      split_ifs
      · exact List.mem_cons
      · rw [List.mem_cons, ih, List.mem_cons]
        tauto

theorem sorted_insertFile {file : LocaleFile} {files : List LocaleFile}
    (sorted : files.Pairwise fun first second => first.filename < second.filename)
    (new : ∀ other ∈ files, other.filename ≠ file.filename) :
    (insertFile file files).Pairwise fun first second => first.filename < second.filename := by
  induction files with
  | nil => exact List.pairwise_singleton _ _
  | cons first files ih =>
      rw [List.pairwise_cons] at sorted
      unfold insertFile
      split_ifs with smaller
      · rw [List.pairwise_cons, List.pairwise_cons]
        refine ⟨?_, sorted⟩
        intro other member
        rcases List.mem_cons.mp member with rfl | later
        · exact smaller
        · exact smaller.trans (sorted.1 other later)
      · have different := new first List.mem_cons_self
        have larger : first.filename < file.filename :=
          lt_of_le_of_ne (not_lt.mp smaller) different
        rw [List.pairwise_cons]
        refine ⟨?_, ih sorted.2 fun other member => new other (List.mem_cons_of_mem _ member)⟩
        intro other member
        rcases mem_insertFile.mp member with rfl | later
        · exact larger
        · exact sorted.1 other later

/-- An entry is added, unless one of this name is there already. -/
def LocaleFileStorage.emplace (storage : LocaleFileStorage) (file : LocaleFile) :
    Option LocaleFileStorage :=
  if new : ∀ other ∈ storage.files, other.filename ≠ file.filename then
    some ⟨insertFile file storage.files, sorted_insertFile storage.sorted new⟩
  else
    none

/-- `FillFileListRecursively`, which throws at a name that occurs twice. -/
def fillFileListRecursively (state : UpdateState) :
    List DirectoryFile → LocaleFileStorage → Option LocaleFileStorage
  | [], storage => some storage
  | file :: files, storage =>
      if file.isSql then
        (storage.emplace ⟨file.filename, state, file.content⟩).bind
          (fillFileListRecursively state files)
      else
        fillFileListRecursively state files storage

/-- The loop of `GetFileList` over the directories. -/
def fillFileLists : List (List DirectoryFile) → LocaleFileStorage → Option LocaleFileStorage
  | [], storage => some storage
  | files :: lists, storage =>
      (fillFileListRecursively .module files storage).bind (fillFileLists lists)

/-- `GetFileList` with `setDirectories`.  The process is aborted if none of them
is a directory. -/
def getFileList (directories : List Directory) : Option LocaleFileStorage :=
  let found := directories.filterMap id
  if found.isEmpty then none else fillFileLists found ⟨[], List.Pairwise.nil⟩

section Directories

variable (sha1 : String → String)

/-- The state of a run that has not read the table yet. -/
def untouched (table : UpdatesTable) : FetchState :=
  { table := table, queries := [], applied := [], executed := [], importedUpdates := 0 }

/-- `UpdateFetcher::Update` with `setDirectories` after its files are listed. -/
def updateListed (run : Run) (table : UpdatesTable) :
    Except FetchState (FetchState × UpdateResult) :=
  if run.available.files.isEmpty then
    .ok (untouched table, ⟨0, 0, 0⟩)
  else
    let applied := receiveAppliedFiles run table
    match applyUpdateFiles sha1 run (hashToName applied) (passes run) (startState run table) with
    | .error left => .error left
    | .ok state =>
        .ok (state,
          { updated := state.importedUpdates
            recent := (applied.filter fun entry => entry.state = .released).length
            archived := (applied.filter fun entry => entry.state ≠ .released).length })

/-- The run with the files of the given directories. -/
def Run.withFiles (run : Run) (files : LocaleFileStorage) : Run :=
  { run with available := files }

def updateDirectories (run : Run) (directories : List Directory) (table : UpdatesTable) :
    Except FetchState (FetchState × UpdateResult) :=
  match getFileList directories with
  | none => .error (untouched table)
  | some files => updateListed sha1 (run.withFiles files) table

/-- The table that a run leaves, whether it completes or throws. -/
def tableLeft : Except FetchState (FetchState × UpdateResult) → UpdatesTable
  | .ok (final, _) => final.table
  | .error left => left.table

/-- No file below one of the directories has this name. -/
def Outside (directories : List Directory) (name : String) : Prop :=
  ∀ files, some files ∈ directories → ∀ file ∈ files, file.filename ≠ name

theorem mem_emplace {storage filled : LocaleFileStorage} {file other : LocaleFile}
    (emplaced : storage.emplace file = some filled) :
    other ∈ filled.files ↔ other = file ∨ other ∈ storage.files := by
  unfold LocaleFileStorage.emplace at emplaced
  split_ifs at emplaced
  cases emplaced
  exact mem_insertFile

theorem mem_fillFileListRecursively {state : UpdateState} {files : List DirectoryFile}
    {storage filled : LocaleFileStorage}
    (listed : fillFileListRecursively state files storage = some filled) {other : LocaleFile} :
    other ∈ filled.files ↔ other ∈ storage.files ∨
      ∃ file ∈ files, file.isSql = true ∧ other = ⟨file.filename, state, file.content⟩ := by
  induction files generalizing storage with
  | nil =>
      cases listed
      simp
  | cons file files ih =>
      unfold fillFileListRecursively at listed
      split_ifs at listed with sql
      · obtain ⟨middle, emplaced, rest⟩ := Option.bind_eq_some_iff.mp listed
        rw [ih rest, mem_emplace emplaced]
        simp only [List.exists_mem_cons_iff, sql, true_and]
        tauto
      · rw [ih listed]
        simp only [List.exists_mem_cons_iff, sql, false_and, false_or, Bool.false_eq_true]

theorem mem_fillFileLists {lists : List (List DirectoryFile)}
    {storage filled : LocaleFileStorage}
    (listed : fillFileLists lists storage = some filled) {other : LocaleFile} :
    other ∈ filled.files ↔ other ∈ storage.files ∨
      ∃ files ∈ lists, ∃ file ∈ files,
        file.isSql = true ∧ other = ⟨file.filename, .module, file.content⟩ := by
  induction lists generalizing storage with
  | nil =>
      cases listed
      simp
  | cons files lists ih =>
      obtain ⟨middle, first, rest⟩ := Option.bind_eq_some_iff.mp listed
      rw [ih rest, mem_fillFileListRecursively first, List.exists_mem_cons_iff, or_assoc]

/-- The files listed are the SQL files of the directories, as those of
modules. -/
theorem mem_getFileList {directories : List Directory} {storage : LocaleFileStorage}
    (listed : getFileList directories = some storage) {other : LocaleFile} :
    other ∈ storage.files ↔ ∃ files, some files ∈ directories ∧ ∃ file ∈ files,
      file.isSql = true ∧ other = ⟨file.filename, .module, file.content⟩ := by
  unfold getFileList at listed
  dsimp only at listed
  split_ifs at listed
  rw [mem_fillFileLists listed]
  simp

theorem not_isAvailable_of_outside {directories : List Directory} {storage : LocaleFileStorage}
    (listed : getFileList directories = some storage) (run : Run) {name : String}
    (outside : Outside directories name) : ¬ (run.withFiles storage).isAvailable name := by
  rintro ⟨other, member, rfl⟩
  obtain ⟨files, given, file, found, _, rfl⟩ := (mem_getFileList listed).mp member
  exact outside files given file found rfl

theorem tableLeft_updateListed (run : Run) (table : UpdatesTable) :
    tableLeft (updateListed sha1 run table) =
      tableAfter sha1 run table (treated sha1 run table) := by
  unfold updateListed
  split_ifs with nothing
  · have none : passes run = [] := by
      rw [← List.length_eq_zero_iff, (passes_perm run).length_eq, List.isEmpty_iff.mp nothing]
      rfl
    rw [treated, none]
    rfl
  · obtain ⟨state, progress, result⟩ := loop_treated sha1 run table
    by_cases completes : Completes sha1 run table
    · rw [if_pos completes] at result
      simp only [result, tableLeft, table_of_progress progress]
    · rw [if_neg completes] at result
      simp only [result, tableLeft, table_of_progress progress]

theorem lookup_treated_gone (run : Run) (table : UpdatesTable) {name : String}
    (gone : ¬ run.isAvailable name) :
    (tableAfter sha1 run table (treated sha1 run table)).lookup name =
      if name ∈ origins sha1 run table (treated sha1 run table) then none
      else table.lookup name := by
  have front : (treated sha1 run table).Sublist (passes run) := List.takeWhile_sublist _
  apply lookup_tableAfter_gone sha1 run table _ _ gone
  · intro file member
    exact (mem_passes run).mp (front.subset member)
  · exact (passes_nodup run).sublist (front.map LocaleFile.filename)

theorem lookup_of_mem_origins {run : Run} {table : UpdatesTable} {files : List LocaleFile}
    {name : String} (taken : name ∈ origins sha1 run table files) :
    ∃ row, table.lookup name = some row := by
  obtain ⟨file, _, renamed⟩ := (mem_origins sha1 run table).mp taken
  obtain ⟨_, _, content, _, cached⟩ := path_rename sha1 run table renamed
  obtain ⟨row, found, _⟩ := lookup_of_hashToName run table cached
  exact ⟨row, found⟩

/-- A run with `setDirectories` leaves the rows of all files outside the
directories unchanged if and only if none of the files it treats takes over
such a row. -/
theorem updateDirectories_outside_iff (run : Run) (directories : List Directory)
    (table : UpdatesTable) :
    (∀ name, Outside directories name →
      (tableLeft (updateDirectories sha1 run directories table)).lookup name =
        table.lookup name) ↔
    ∀ files, getFileList directories = some files →
      ∀ file ∈ treated sha1 (run.withFiles files) table, ∀ origin, Outside directories origin →
        ¬ TakesOver sha1 (run.withFiles files) table file origin := by
  unfold updateDirectories
  cases listed : getFileList directories with
  | none => simp [tableLeft, untouched]
  | some files =>
      simp only [tableLeft_updateListed, Option.some.injEq, forall_eq']
      have unchanged : ∀ name, Outside directories name →
          ((tableAfter sha1 (run.withFiles files) table
              (treated sha1 (run.withFiles files) table)).lookup name = table.lookup name ↔
            ∀ file ∈ treated sha1 (run.withFiles files) table,
              ¬ TakesOver sha1 (run.withFiles files) table file name) := by
        intro name outside
        rw [lookup_treated_gone sha1 _ table (not_isAvailable_of_outside listed run outside),
          ← not_mem_origins_iff]
        constructor
        · intro same taken
          obtain ⟨row, found⟩ := lookup_of_mem_origins sha1 taken
          rw [if_pos taken, found] at same
          cases same
        · intro kept
          rw [if_neg kept]
      constructor
      · intro same file member origin outside
        exact (unchanged origin outside).mp (same origin outside) file member
      · intro never name outside
        exact (unchanged name outside).mpr fun file member => never file member name outside

end Directories

/-- A module brings a copy of `old.sql`, which lies outside its directory. -/
theorem updateDirectories_takes_row_outside :
    Outside [some [⟨"a.sql", some "SELECT 1;"⟩]] "old.sql" ∧
      (tableLeft (updateDirectories exampleDigest (exampleRun oneCopy)
        [some [⟨"a.sql", some "SELECT 1;"⟩]] exampleTable)).lookup "old.sql" ≠
          exampleTable.lookup "old.sql" := by
  constructor
  · intro files member file found
    simp only [List.mem_singleton, Option.some.injEq] at member
    rw [member, List.mem_singleton] at found
    rw [found]
    decide
  · decide

end UpdateFetcher

end WarheadBot
