import WarheadBot.UpdateFetcherDirectories
import WarheadBot.MySQLConnectionInfo

/-!
# The listing of the update files

The files of a run are those below the directories that the table
`updates_include` names and below the directories of the given modules.  The
server returns the rows, and the file system the files, in any order.  A listing
succeeds exactly if no two SQL files have the same name, and then it does not
depend on these orders.
-/

namespace WarheadBot

namespace UpdateFetcher

/-- What `GetFileList` finds: the answers to the query of the table before and
after its file was applied, and the files below the directories. -/
structure Sources where
  sourceDirectory : String
  dbModuleName : String
  modulesList : String
  directory : String → Directory
  included : Option (List (String × String))
  restored : Option (List (String × String))
  applyFile : String → Bool

/-- A directory whose files are listed, with their state. -/
structure DirectoryEntry where
  files : List DirectoryFile
  state : UpdateState
  deriving DecidableEq, Repr

/-- `StateConvert` of the text in the table. -/
def stateConvert (state : String) : UpdateState :=
  if state = "RELEASED" then .released
  else if state = "CUSTOM" then .custom
  else if state = "MODULE" then .module
  else .archived

/-- `operator/=` of paths: an absolute path replaces the one before it. -/
def appendPath (path name : String) : String :=
  if name.toList.head? = some '/' then name
  else if path.toList.getLast? = none ∨ path.toList.getLast? = some '/' then path ++ name
  else path ++ "/" ++ name

/-- A `$` at the start of a path stands for the source directory. -/
def includedPath (sourceDirectory path : String) : String :=
  match path.toList with
  | '$' :: behind => sourceDirectory ++ String.ofList behind
  | _ => path

def includedDirectory (sources : Sources) (row : String × String) : Option DirectoryEntry :=
  (sources.directory (includedPath sources.sourceDirectory row.1)).map fun files =>
    ⟨files, stateConvert row.2⟩

def moduleSqlPath (sourceDirectory name : String) : String :=
  appendPath (appendPath (appendPath sourceDirectory "modules") name) "sql"

/-- The directory of a module for this database, if the module has an `sql`
directory. -/
def moduleDirectory (sources : Sources) (name : String) : Option DirectoryEntry :=
  let moduleDir := moduleSqlPath sources.sourceDirectory name
  if (sources.directory moduleDir).isNone then none
  else
    (sources.directory (appendPath moduleDir sources.dbModuleName)).map fun files =>
      ⟨files, .module⟩

/-- `ReceiveIncludedDirectories` with an answer to its query. -/
def receiveIncludedDirectories (sources : Sources) (result : Option (List (String × String))) :
    List DirectoryEntry :=
  match result with
  | none => []
  | some rows =>
      let directories := rows.filterMap (includedDirectory sources)
      if directories.isEmpty || sources.modulesList.isEmpty then directories
      else
        directories ++
          (MySQL.tokenize sources.modulesList ',' true).filterMap (moduleDirectory sources)

inductive ListingError
  -- The file that restores the table cannot be applied.
  | updateFailed
  -- There are no directories even then: `ABORT`.
  | aborted
  -- Two files have the same name.
  | duplicate
  deriving DecidableEq, Repr

/-- The file that restores `updates_include`. -/
def updatesIncludeFile (sources : Sources) : String :=
  ["data", "sql", "base", sources.dbModuleName, "updates_include.sql"].foldl appendPath
    sources.sourceDirectory

/-- The directories of `GetFileList`, which restores the table if there are
none. -/
def listedDirectories (sources : Sources) : Except ListingError (List DirectoryEntry) :=
  let directories := receiveIncludedDirectories sources sources.included
  if directories.isEmpty then
    if sources.applyFile (updatesIncludeFile sources) then
      let restored := receiveIncludedDirectories sources sources.restored
      if restored.isEmpty then .error .aborted else .ok restored
    else .error .updateFailed
  else .ok directories

/-- The loop of `GetFileList` over the directories. -/
def fillFileList : List DirectoryEntry → LocaleFileStorage → Except ListingError LocaleFileStorage
  | [], storage => .ok storage
  | entry :: entries, storage =>
      match fillFileListRecursively entry.state entry.files storage with
      | none => .error .duplicate
      | some filled => fillFileList entries filled

theorem sorted_nil :
    ([] : List LocaleFile).Pairwise fun first second => first.filename < second.filename :=
  List.Pairwise.nil

/-- `GetFileList` without `setDirectories`. -/
def getIncludedFileList (sources : Sources) : Except ListingError LocaleFileStorage :=
  (listedDirectories sources).bind fun directories =>
    fillFileList directories ⟨[], sorted_nil⟩

/-- The SQL files of a directory. -/
def DirectoryEntry.localeFiles (entry : DirectoryEntry) : List LocaleFile :=
  (entry.files.filter DirectoryFile.isSql).map fun file =>
    ⟨file.filename, entry.state, file.content⟩

def localeFiles (entries : List DirectoryEntry) : List LocaleFile :=
  entries.flatMap DirectoryEntry.localeFiles

/-- Storages are sorted, so that one with the same files is the same. -/
theorem storage_eq_of_perm {first second : LocaleFileStorage}
    (perm : first.files.Perm second.files) : first = second := by
  obtain ⟨files, sorted⟩ := first
  obtain ⟨others, sortedOthers⟩ := second
  obtain rfl : files = others := by
    apply perm.eq_of_pairwise _ sorted sortedOthers
    intro file other _ _ before after
    exact absurd (before.trans after) (lt_irrefl _)
  rfl

theorem nodup_filenames (storage : LocaleFileStorage) :
    (storage.files.map LocaleFile.filename).Nodup := by
  rw [List.nodup_iff_pairwise_ne, List.pairwise_map]
  exact storage.sorted.imp fun smaller => ne_of_lt smaller

theorem insertFile_perm (file : LocaleFile) (files : List LocaleFile) :
    (insertFile file files).Perm (file :: files) := by
  induction files with
  | nil => exact List.Perm.refl _
  | cons first files ih =>
      unfold insertFile
      split_ifs
      · exact List.Perm.refl _
      · exact (ih.cons first).trans (List.Perm.swap file first files)

/-- A file is added exactly if its name is new. -/
theorem emplace_eq_some_iff {storage filled : LocaleFileStorage} {file : LocaleFile} :
    storage.emplace file = some filled ↔ filled.files.Perm (file :: storage.files) := by
  unfold LocaleFileStorage.emplace
  constructor
  · intro emplaced
    split_ifs at emplaced
    cases emplaced
    exact insertFile_perm file storage.files
  · intro perm
    have distinct := (perm.map LocaleFile.filename).nodup_iff.mp (nodup_filenames filled)
    rw [List.map_cons, List.nodup_cons] at distinct
    have new : ∀ other ∈ storage.files, other.filename ≠ file.filename :=
      fun other member same => distinct.1 (same ▸ List.mem_map_of_mem member)
    rw [dif_pos new, Option.some.injEq]
    exact storage_eq_of_perm ((insertFile_perm file storage.files).trans perm.symm)

/-- Files with distinct names can be stored. -/
theorem exists_storage {files : List LocaleFile}
    (distinct : (files.map LocaleFile.filename).Nodup) :
    ∃ storage : LocaleFileStorage, storage.files.Perm files := by
  induction files with
  | nil => exact ⟨⟨[], List.Pairwise.nil⟩, List.Perm.refl _⟩
  | cons file files ih =>
      rw [List.map_cons, List.nodup_cons] at distinct
      obtain ⟨storage, perm⟩ := ih distinct.2
      have new : ∀ other ∈ storage.files, other.filename ≠ file.filename :=
        fun other member same => distinct.1 (same ▸ List.mem_map_of_mem (perm.subset member))
      exact ⟨⟨insertFile file storage.files, sorted_insertFile storage.sorted new⟩,
        (insertFile_perm file storage.files).trans (perm.cons file)⟩

/-- A storage of some files holds a storage of a part of them. -/
theorem exists_storage_of_sublist {storage : LocaleFileStorage} {all files : List LocaleFile}
    (perm : storage.files.Perm all) (part : files.Sublist all) :
    ∃ middle : LocaleFileStorage, middle.files.Perm files := by
  have distinct := (perm.map LocaleFile.filename).nodup_iff.mp (nodup_filenames storage)
  exact exists_storage (distinct.sublist (part.map LocaleFile.filename))

theorem fillFileListRecursively_eq_some_iff {entry : DirectoryEntry}
    {storage filled : LocaleFileStorage} :
    fillFileListRecursively entry.state entry.files storage = some filled ↔
      filled.files.Perm (entry.localeFiles ++ storage.files) := by
  obtain ⟨files, state⟩ := entry
  unfold DirectoryEntry.localeFiles
  dsimp only
  induction files generalizing storage with
  | nil =>
      simp only [fillFileListRecursively, Option.some.injEq, List.filter_nil, List.map_nil,
        List.nil_append]
      exact ⟨fun same => same ▸ List.Perm.refl _, fun perm => (storage_eq_of_perm perm).symm⟩
  | cons file files ih =>
      unfold fillFileListRecursively
      by_cases sql : file.isSql = true
      · rw [if_pos sql, List.filter_cons_of_pos sql, List.map_cons, List.cons_append,
          Option.bind_eq_some_iff]
        constructor
        · rintro ⟨middle, emplaced, rest⟩
          have first := emplace_eq_some_iff.mp emplaced
          exact (ih.mp rest).trans ((first.append_left _).trans List.perm_middle)
        · intro perm
          have regrouped := perm.trans List.perm_middle.symm
          obtain ⟨middle, first⟩ :=
            exists_storage_of_sublist regrouped (List.sublist_append_right _ _)
          exact ⟨middle, emplace_eq_some_iff.mpr first,
            ih.mpr (regrouped.trans (first.append_left _).symm)⟩
      · rw [if_neg sql, List.filter_cons_of_neg sql]
        exact ih

/-- The loop over the directories stores all of their SQL files. -/
theorem fillFileList_eq_ok_iff {entries : List DirectoryEntry}
    {storage filled : LocaleFileStorage} :
    fillFileList entries storage = .ok filled ↔
      filled.files.Perm (localeFiles entries ++ storage.files) := by
  induction entries generalizing storage with
  | nil =>
      simp only [fillFileList, Except.ok.injEq, localeFiles, List.flatMap_nil, List.nil_append]
      exact ⟨fun same => same ▸ List.Perm.refl _, fun perm => (storage_eq_of_perm perm).symm⟩
  | cons entry entries ih =>
      have regroup : (localeFiles entries ++ (entry.localeFiles ++ storage.files)).Perm
          (localeFiles (entry :: entries) ++ storage.files) := by
        rw [localeFiles, localeFiles, List.flatMap_cons, ← List.append_assoc]
        exact List.perm_append_comm.append_right _
      unfold fillFileList
      cases listed : fillFileListRecursively entry.state entry.files storage with
      | none =>
          refine ⟨nofun, ?_⟩
          intro perm
          obtain ⟨middle, first⟩ := exists_storage_of_sublist (perm.trans regroup.symm)
            (List.sublist_append_right _ _)
          rw [fillFileListRecursively_eq_some_iff.mpr first] at listed
          cases listed
      | some middle =>
          have first := fillFileListRecursively_eq_some_iff.mp listed
          rw [ih]
          exact ⟨fun rest => rest.trans ((first.append_left _).trans regroup),
            fun all => all.trans ((first.append_left _).trans regroup).symm⟩

theorem fillFileList_error {entries : List DirectoryEntry} {storage : LocaleFileStorage}
    {failure : ListingError} (failed : fillFileList entries storage = .error failure) :
    failure = .duplicate := by
  induction entries generalizing storage with
  | nil => cases failed
  | cons entry entries ih =>
      unfold fillFileList at failed
      cases listed : fillFileListRecursively entry.state entry.files storage with
      | none =>
          rw [listed] at failed
          cases failed
          rfl
      | some middle =>
          rw [listed] at failed
          exact ih failed

/-- The listing of some directories stores their SQL files, or two of these
have the same name. -/
theorem fillFileList_cases (entries : List DirectoryEntry) :
    (∃ storage, fillFileList entries ⟨[], List.Pairwise.nil⟩ = .ok storage ∧
      storage.files.Perm (localeFiles entries)) ∨
    fillFileList entries ⟨[], List.Pairwise.nil⟩ = .error .duplicate ∧
      ¬ ((localeFiles entries).map LocaleFile.filename).Nodup := by
  cases filled : fillFileList entries ⟨[], List.Pairwise.nil⟩ with
  | ok storage =>
      have perm := fillFileList_eq_ok_iff.mp filled
      rw [List.append_nil] at perm
      exact .inl ⟨storage, rfl, perm⟩
  | error failure =>
      refine .inr ⟨by rw [fillFileList_error filled], ?_⟩
      intro distinct
      obtain ⟨storage, perm⟩ := exists_storage distinct
      rw [← List.append_nil (localeFiles entries)] at perm
      rw [fillFileList_eq_ok_iff.mpr perm] at filled
      cases filled

theorem fillFileList_eq_of_perm {first second : List DirectoryEntry}
    (perm : (localeFiles first).Perm (localeFiles second)) :
    fillFileList first ⟨[], List.Pairwise.nil⟩ = fillFileList second ⟨[], List.Pairwise.nil⟩ := by
  have names := (perm.map LocaleFile.filename).nodup_iff
  rcases fillFileList_cases second with ⟨storage, filled, files⟩ | ⟨failed, doubled⟩
  · rw [filled, fillFileList_eq_ok_iff, List.append_nil]
    exact files.trans perm.symm
  · rcases fillFileList_cases first with ⟨storage, filled, files⟩ | ⟨failedToo, _⟩
    · have distinct := (files.map LocaleFile.filename).nodup_iff.mp (nodup_filenames storage)
      exact absurd (names.mp distinct) doubled
    · rw [failed, failedToo]

/-- The same rows and files in other orders. -/
structure Sources.Reorders (sources other : Sources) : Prop where
  sourceDirectory : sources.sourceDirectory = other.sourceDirectory
  dbModuleName : sources.dbModuleName = other.dbModuleName
  modulesList : sources.modulesList = other.modulesList
  directory : ∀ path, Option.Rel List.Perm (sources.directory path) (other.directory path)
  included : Option.Rel List.Perm sources.included other.included
  restored : Option.Rel List.Perm sources.restored other.restored
  applyFile : ∀ path, sources.applyFile path = other.applyFile path

/-- The same directory with its files in another order. -/
def DirectoryEntry.Reorders (entry other : DirectoryEntry) : Prop :=
  entry.files.Perm other.files ∧ entry.state = other.state

theorem DirectoryEntry.Reorders.localeFiles_perm {entry other : DirectoryEntry}
    (reorders : entry.Reorders other) : entry.localeFiles.Perm other.localeFiles := by
  rw [DirectoryEntry.localeFiles, DirectoryEntry.localeFiles, reorders.2]
  exact (reorders.1.filter _).map _

/-- The listings of two lists of directories store the same files, and one of
them is empty if the other is. -/
def SameListing (first second : List DirectoryEntry) : Prop :=
  (localeFiles first).Perm (localeFiles second) ∧ first.isEmpty = second.isEmpty

theorem sameListing_of_perm {first second : List DirectoryEntry} (perm : first.Perm second) :
    SameListing first second := by
  refine ⟨perm.flatMap_right _, ?_⟩
  rw [Bool.eq_iff_iff, List.isEmpty_iff, List.isEmpty_iff]
  exact ⟨fun none => List.nil_perm.mp (none ▸ perm), fun none => List.perm_nil.mp (none ▸ perm)⟩

theorem SameListing.trans {first second third : List DirectoryEntry}
    (same : SameListing first second) (next : SameListing second third) :
    SameListing first third :=
  ⟨same.1.trans next.1, same.2.trans next.2⟩

theorem SameListing.append {first second others more : List DirectoryEntry}
    (same : SameListing first others) (next : SameListing second more) :
    SameListing (first ++ second) (others ++ more) := by
  constructor
  · rw [localeFiles, localeFiles, List.flatMap_append, List.flatMap_append]
    exact same.1.append next.1
  · have empty := same.2
    have emptyNext := next.2
    rw [Bool.eq_iff_iff, List.isEmpty_iff, List.isEmpty_iff] at empty emptyNext ⊢
    rw [List.append_eq_nil_iff, List.append_eq_nil_iff, empty, emptyNext]

theorem sameListing_filterMap {Row : Type*} {find findOther : Row → Option DirectoryEntry}
    (related : ∀ row, Option.Rel DirectoryEntry.Reorders (find row) (findOther row))
    (rows : List Row) : SameListing (rows.filterMap find) (rows.filterMap findOther) := by
  induction rows with
  | nil => exact ⟨List.Perm.refl _, rfl⟩
  | cons row rows ih =>
      have here := related row
      rw [List.filterMap_cons, List.filterMap_cons]
      revert here
      generalize find row = found
      generalize findOther row = foundOther
      intro here
      cases here with
      | none => exact ih
      | some reorders =>
          refine ⟨?_, rfl⟩
          rw [localeFiles, localeFiles, List.flatMap_cons, List.flatMap_cons]
          exact reorders.localeFiles_perm.append ih.1

section Orders

variable {sources other : Sources}

theorem isNone_directory (reorders : sources.Reorders other) (path : String) :
    (sources.directory path).isNone = (other.directory path).isNone := by
  have here := reorders.directory path
  revert here
  generalize sources.directory path = found
  generalize other.directory path = foundOther
  intro here
  cases here with
  | none => rfl
  | some perm => rfl

theorem reorders_map {path : String} {state : UpdateState} (reorders : sources.Reorders other) :
    Option.Rel DirectoryEntry.Reorders
      ((sources.directory path).map fun files => ⟨files, state⟩)
      ((other.directory path).map fun files => ⟨files, state⟩) := by
  have here := reorders.directory path
  revert here
  generalize sources.directory path = found
  generalize other.directory path = foundOther
  intro here
  cases here with
  | none => exact .none
  | some perm => exact .some ⟨perm, rfl⟩

theorem reorders_moduleDirectory (reorders : sources.Reorders other) (name : String) :
    Option.Rel DirectoryEntry.Reorders (moduleDirectory sources name)
      (moduleDirectory other name) := by
  unfold moduleDirectory
  dsimp only
  rw [reorders.sourceDirectory, reorders.dbModuleName, isNone_directory reorders]
  split_ifs
  · exact .none
  · exact reorders_map reorders

theorem sameListing_receiveIncludedDirectories (reorders : sources.Reorders other)
    {result otherResult : Option (List (String × String))}
    (rows : Option.Rel List.Perm result otherResult) :
    SameListing (receiveIncludedDirectories sources result)
      (receiveIncludedDirectories other otherResult) := by
  cases rows with
  | none => exact ⟨List.Perm.refl _, rfl⟩
  | some perm =>
      have related : ∀ row, Option.Rel DirectoryEntry.Reorders (includedDirectory sources row)
          (includedDirectory other row) := by
        intro row
        rw [includedDirectory, includedDirectory, reorders.sourceDirectory]
        exact reorders_map reorders
      have included :=
        (sameListing_filterMap related _).trans (sameListing_of_perm (perm.filterMap _))
      unfold receiveIncludedDirectories
      dsimp only
      rw [included.2, reorders.modulesList]
      split_ifs
      · exact included
      · exact included.append (sameListing_filterMap (reorders_moduleDirectory reorders) _)

/-- The directories for the listing are the same, up to the orders. -/
theorem getIncludedFileList_reorders (reorders : sources.Reorders other) :
    getIncludedFileList other = getIncludedFileList sources := by
  have included := sameListing_receiveIncludedDirectories reorders reorders.included
  have restored := sameListing_receiveIncludedDirectories reorders reorders.restored
  have file : updatesIncludeFile sources = updatesIncludeFile other := by
    rw [updatesIncludeFile, updatesIncludeFile, reorders.sourceDirectory, reorders.dbModuleName]
  unfold getIncludedFileList listedDirectories
  dsimp only
  rw [included.2, restored.2, file, reorders.applyFile]
  split_ifs
  · rfl
  · exact (fillFileList_eq_of_perm restored.1).symm
  · rfl
  · exact (fillFileList_eq_of_perm included.1).symm

end Orders

end UpdateFetcher

end WarheadBot
