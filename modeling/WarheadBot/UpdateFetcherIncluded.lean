import WarheadBot.UpdateFetcherListing

/-!
# Which directories are listed

What the table `updates_include` and the list of modules stand for is written down here by
itself: the path and the state of a row, the directory of a module, and what is listed when
the table has to be restored.  The listing stores exactly the SQL files of these directories.
-/

namespace WarheadBot

namespace UpdateFetcher

/-- The states by the names that the table has for them. -/
def documentedStates : List (String × UpdateState) :=
  [("RELEASED", .released), ("CUSTOM", .custom), ("MODULE", .module), ("ARCHIVED", .archived)]

/-- A path of the table is relative to the source directory if it begins with `$`. -/
inductive PathOf (sourceDirectory : String) : String → String → Prop
  | relative {path full : String} {rest : List Char} (dollar : path.toList = '$' :: rest)
      (joined : full.toList = sourceDirectory.toList ++ rest) : PathOf sourceDirectory path full
  | absolute {path : String} (noDollar : path.toList.head? ≠ some '$') :
      PathOf sourceDirectory path path

/-- A row of the table stands for a directory that exists.  A state without a name is that of
archived files. -/
structure RowEntry (sources : Sources) (row : String × String) (entry : DirectoryEntry) :
    Prop where
  exists_path : ∃ path, PathOf sources.sourceDirectory row.1 path ∧
    sources.directory path = some entry.files
  state : (row.2, entry.state) ∈ documentedStates ∨
    entry.state = .archived ∧ row.2 ∉ documentedStates.map Prod.fst

/-- A module has SQL files of this database. -/
structure ModuleEntry (sources : Sources) (name : String) (entry : DirectoryEntry) : Prop where
  hasSql : ∃ files,
    sources.directory (["modules", name, "sql"].foldl appendPath sources.sourceDirectory) =
      some files
  files : sources.directory
    (["modules", name, "sql", sources.dbModuleName].foldl appendPath sources.sourceDirectory) =
      some entry.files
  state : entry.state = .module

/-- The entries that some things stand for, without those that stand for none. -/
inductive EntriesOf {Thing : Type*} (standsFor : Thing → DirectoryEntry → Prop) :
    List Thing → List DirectoryEntry → Prop
  | nil : EntriesOf standsFor [] []
  | found {thing : Thing} {things : List Thing} {entry : DirectoryEntry}
      {entries : List DirectoryEntry} (here : standsFor thing entry)
      (rest : EntriesOf standsFor things entries) :
      EntriesOf standsFor (thing :: things) (entry :: entries)
  | missing {thing : Thing} {things : List Thing} {entries : List DirectoryEntry}
      (nothing : ∀ entry, ¬ standsFor thing entry) (rest : EntriesOf standsFor things entries) :
      EntriesOf standsFor (thing :: things) entries

/-- The directories of an answer to the query of the table: those of the rows, and those of
the modules if there are any of the rows. -/
inductive Described (sources : Sources) :
    Option (List (String × String)) → List DirectoryEntry → Prop
  | unanswered : Described sources none []
  | rows {rows : List (String × String)} {entries : List DirectoryEntry}
      (ofRows : EntriesOf (RowEntry sources) rows entries)
      (noModules : entries = [] ∨ sources.modulesList = "") : Described sources (some rows) entries
  | modules {rows : List (String × String)} {entries more : List DirectoryEntry}
      (ofRows : EntriesOf (RowEntry sources) rows entries) (someRows : entries ≠ [])
      (someModules : sources.modulesList ≠ "")
      (ofModules :
        EntriesOf (ModuleEntry sources) (MySQL.tokenize sources.modulesList ',' true) more) :
      Described sources (some rows) (entries ++ more)

/-- The directories that are listed: those of the table, or of the restored table. -/
inductive Listed (sources : Sources) : List DirectoryEntry → Prop
  | included {entries : List DirectoryEntry}
      (described : Described sources sources.included entries) (some : entries ≠ []) :
      Listed sources entries
  | restored {entries : List DirectoryEntry} (none : Described sources sources.included [])
      (applied : sources.applyFile (updatesIncludeFile sources) = true)
      (described : Described sources sources.restored entries) (some : entries ≠ []) :
      Listed sources entries

section Directories

variable {sources : Sources}

theorem pathOf_iff {sourceDirectory path full : String} :
    PathOf sourceDirectory path full ↔ full = includedPath sourceDirectory path := by
  unfold includedPath
  constructor
  · intro pathOf
    cases pathOf with
    | relative dollar joined =>
        rw [dollar]
        apply String.toList_inj.mp
        rw [joined]
        exact (String.toList_append.trans (by rw [String.toList_ofList])).symm
    | absolute noDollar =>
        split
        · rename_i rest dollar
          rw [dollar] at noDollar
          exact absurd rfl noDollar
        · rfl
  · rintro rfl
    split
    · rename_i rest dollar
      exact .relative dollar (by rw [String.toList_append, String.toList_ofList])
    · rename_i other
      apply PathOf.absolute
      intro dollar
      obtain ⟨rest, same⟩ := List.head?_eq_some_iff.mp dollar
      exact other rest same

theorem stateConvert_iff {text : String} {state : UpdateState} :
    ((text, state) ∈ documentedStates ∨
      state = .archived ∧ text ∉ documentedStates.map Prod.fst) ↔ state = stateConvert text := by
  unfold stateConvert documentedStates
  split_ifs with released custom module
  · simp [released]
  · simp [custom]
  · simp [module]
  · by_cases archived : text = "ARCHIVED"
    · simp [archived]
    · simp [released, custom, module, archived]

theorem rowEntry_iff {row : String × String} {entry : DirectoryEntry} :
    RowEntry sources row entry ↔ includedDirectory sources row = some entry := by
  rw [includedDirectory, Option.map_eq_some_iff]
  constructor
  · rintro ⟨⟨path, isPath, files⟩, state⟩
    rw [pathOf_iff] at isPath
    rw [stateConvert_iff] at state
    exact ⟨entry.files, isPath ▸ files, by rw [← state]⟩
  · rintro ⟨files, isDirectory, rfl⟩
    exact ⟨⟨_, pathOf_iff.mpr rfl, isDirectory⟩, stateConvert_iff.mpr rfl⟩

theorem moduleEntry_iff {name : String} {entry : DirectoryEntry} :
    ModuleEntry sources name entry ↔ moduleDirectory sources name = some entry := by
  have path : moduleSqlPath sources.sourceDirectory name =
      ["modules", name, "sql"].foldl appendPath sources.sourceDirectory := rfl
  have longPath : appendPath (moduleSqlPath sources.sourceDirectory name) sources.dbModuleName =
      ["modules", name, "sql", sources.dbModuleName].foldl appendPath
        sources.sourceDirectory := rfl
  unfold moduleDirectory
  dsimp only
  rw [longPath, path]
  constructor
  · rintro ⟨⟨files, hasSql⟩, isDirectory, state⟩
    rw [hasSql, isDirectory, if_neg (by simp), Option.map_some, ← state]
  · intro found
    split_ifs at found with missing
    obtain ⟨files, isDirectory, rfl⟩ := Option.map_eq_some_iff.mp found
    rw [Option.isNone_iff_eq_none] at missing
    exact ⟨Option.ne_none_iff_exists'.mp missing, isDirectory, rfl⟩

theorem entriesOf_iff {Thing : Type*} {standsFor : Thing → DirectoryEntry → Prop}
    {find : Thing → Option DirectoryEntry}
    (finds : ∀ thing entry, standsFor thing entry ↔ find thing = some entry)
    {things : List Thing} {entries : List DirectoryEntry} :
    EntriesOf standsFor things entries ↔ things.filterMap find = entries := by
  constructor
  · intro entriesOf
    induction entriesOf with
    | nil => rfl
    | found here _ ih => rw [List.filterMap_cons, (finds _ _).mp here, ih]
    | @missing thing _ _ nothing _ ih =>
        have none : find thing = none :=
          Option.eq_none_iff_forall_ne_some.mpr fun entry same =>
            nothing entry ((finds thing entry).mpr same)
        rw [List.filterMap_cons, none, ih]
  · rintro rfl
    induction things with
    | nil => exact .nil
    | cons thing things ih =>
        rw [List.filterMap_cons]
        cases found : find thing with
        | none =>
            refine .missing ?_ ih
            intro entry here
            rw [(finds thing entry).mp here] at found
            cases found
        | some entry => exact .found ((finds thing entry).mpr found) ih

theorem described_iff {result : Option (List (String × String))}
    {entries : List DirectoryEntry} :
    Described sources result entries ↔ receiveIncludedDirectories sources result = entries := by
  have ofRows {rows : List (String × String)} {entries : List DirectoryEntry} :
      EntriesOf (RowEntry sources) rows entries ↔
        rows.filterMap (includedDirectory sources) = entries :=
    @entriesOf_iff _ (RowEntry sources) _ (fun _ _ => rowEntry_iff) _ _
  have ofModules {names : List String} {entries : List DirectoryEntry} :
      EntriesOf (ModuleEntry sources) names entries ↔
        names.filterMap (moduleDirectory sources) = entries :=
    @entriesOf_iff _ (ModuleEntry sources) _ (fun _ _ => moduleEntry_iff) _ _
  unfold receiveIncludedDirectories
  constructor
  · intro described
    cases described with
    | unanswered => rfl
    | rows rows noModules =>
        rw [ofRows] at rows
        dsimp only
        rw [rows, if_pos]
        simpa [String.isEmpty_iff] using noModules
    | modules rows someRows someModules more =>
        rw [ofRows] at rows
        rw [ofModules] at more
        dsimp only
        rw [rows, more, if_neg]
        simp [someRows, someModules, String.isEmpty_iff]
  · rintro rfl
    cases result with
    | none => exact .unanswered
    | some rows =>
        dsimp only
        split_ifs with none
        · exact .rows (ofRows.mpr rfl) (by simpa [String.isEmpty_iff] using none)
        · rw [Bool.or_eq_true, not_or] at none
          refine .modules (ofRows.mpr rfl) ?_ ?_ (ofModules.mpr rfl)
          · simpa using none.1
          · simpa [String.isEmpty_iff] using none.2

theorem listed_iff {entries : List DirectoryEntry} :
    Listed sources entries ↔ listedDirectories sources = .ok entries := by
  unfold listedDirectories
  dsimp only
  constructor
  · intro listed
    cases listed with
    | included described some =>
        rw [described_iff.mp described, if_neg (by simpa using some)]
    | restored none applied described some =>
        rw [described_iff.mp none, described_iff.mp described, if_pos List.isEmpty_nil,
          if_pos applied, if_neg (by simpa using some)]
  · intro listed
    split_ifs at listed with none applied noneAgain
    · obtain rfl := Except.ok.inj listed
      rw [List.isEmpty_iff] at none noneAgain
      exact .restored (described_iff.mpr none) applied (described_iff.mpr rfl) noneAgain
    · obtain rfl := Except.ok.inj listed
      rw [List.isEmpty_iff] at none
      exact .included (described_iff.mpr rfl) none

/-- What happens if nothing is listed. -/
theorem listedDirectories_error {failure : ListingError} :
    listedDirectories sources = .error failure ↔
      Described sources sources.included [] ∧
        ((sources.applyFile (updatesIncludeFile sources) = false ∧ failure = .updateFailed) ∨
          sources.applyFile (updatesIncludeFile sources) = true ∧
            Described sources sources.restored [] ∧ failure = .aborted) := by
  rw [described_iff, described_iff]
  unfold listedDirectories
  dsimp only
  by_cases none : receiveIncludedDirectories sources sources.included = []
  · rw [none, if_pos List.isEmpty_nil]
    by_cases applied : sources.applyFile (updatesIncludeFile sources) = true
    · by_cases noneAgain : receiveIncludedDirectories sources sources.restored = []
      · simp [applied, noneAgain, @eq_comm _ failure]
      · simp [applied, noneAgain]
    · simp [applied, @eq_comm _ failure]
  · simp [none]

end Directories

/-- Whatever order the server returns the rows and the file system the files in: the listing is
the same; it stores exactly the SQL files of the directories that the table and the modules
stand for, each with the state of its directory, and it throws exactly if two of them have the
same name.  If there are no such directories, it throws or aborts. -/
theorem getIncludedFileList_exact (sources other : Sources)
    (reorders : sources.Reorders other) :
    getIncludedFileList other = getIncludedFileList sources ∧
    (∀ entries, Listed sources entries →
      (∀ storage, getIncludedFileList sources = .ok storage ↔
        storage.files.Perm (localeFiles entries)) ∧
      (getIncludedFileList sources = .error .duplicate ↔
        ¬ ((localeFiles entries).map LocaleFile.filename).Nodup)) ∧
    (getIncludedFileList sources = .error .updateFailed ↔ Described sources sources.included [] ∧
      sources.applyFile (updatesIncludeFile sources) = false) ∧
    (getIncludedFileList sources = .error .aborted ↔ Described sources sources.included [] ∧
      sources.applyFile (updatesIncludeFile sources) = true ∧
        Described sources sources.restored []) := by
  have notListed (failure : ListingError) (other : failure ≠ .duplicate) :
      getIncludedFileList sources = .error failure ↔
        listedDirectories sources = .error failure := by
    unfold getIncludedFileList
    cases listedDirectories sources with
    | error listing => simp only [Except.bind, Except.error.injEq]
    | ok entries => exact ⟨fun failed => absurd (fillFileList_error failed) other, nofun⟩
  refine ⟨getIncludedFileList_reorders reorders, ?_, ?_, ?_⟩
  · intro entries listed
    have filled : getIncludedFileList sources =
        fillFileList entries ⟨[], List.Pairwise.nil⟩ := by
      rw [getIncludedFileList, listed_iff.mp listed]
      rfl
    rw [filled]
    constructor
    · intro storage
      rw [fillFileList_eq_ok_iff, List.append_nil]
    · rcases fillFileList_cases entries with ⟨storage, stored, perm⟩ | ⟨failed, doubled⟩
      · rw [stored]
        refine ⟨nofun, ?_⟩
        intro doubled
        exact absurd ((perm.map LocaleFile.filename).nodup_iff.mp (nodup_filenames storage))
          doubled
      · exact ⟨fun _ => doubled, fun _ => failed⟩
  · rw [notListed .updateFailed nofun, listedDirectories_error]
    simp
  · rw [notListed .aborted nofun, listedDirectories_error]
    simp

def exampleSources (files : List DirectoryFile) : Sources where
  sourceDirectory := "src"
  dbModuleName := "db_discord/"
  modulesList := "mod-bank"
  directory := fun path =>
    if path = "src/data/sql/updates" then some files
    else if path = "src/modules/mod-bank/sql" then some []
    else if path = "src/modules/mod-bank/sql/db_discord/" then some [⟨"b.sql", some "SELECT 2;"⟩]
    else none
  included := some [("$/data/sql/updates", "RELEASED"), ("/srv/none", "CUSTOM")]
  restored := none
  applyFile := fun _ => true

theorem reorders_exampleSources {files others : List DirectoryFile} (perm : files.Perm others) :
    (exampleSources files).Reorders (exampleSources others) := by
  refine ⟨rfl, rfl, rfl, ?_, .some (List.Perm.refl _), .none, fun _ => rfl⟩
  intro path
  unfold exampleSources
  dsimp only
  split_ifs
  · exact .some perm
  · exact .some (List.Perm.refl _)
  · exact .some (List.Perm.refl _)
  · exact .none

/-- A released file and one of a module, of which the directories are there. -/
theorem listed_exampleSources (files : List DirectoryFile) :
    Listed (exampleSources files)
      [⟨files, .released⟩, ⟨[⟨"b.sql", some "SELECT 2;"⟩], .module⟩] := by
  have path : ["modules", "mod-bank", "sql"].foldl appendPath "src" =
      "src/modules/mod-bank/sql" := by
    decide
  have longPath : ["modules", "mod-bank", "sql", "db_discord/"].foldl appendPath "src" =
      "src/modules/mod-bank/sql/db_discord/" := by
    decide
  have released : RowEntry (exampleSources files) ("$/data/sql/updates", "RELEASED")
      ⟨files, .released⟩ :=
    rowEntry_iff.mpr rfl
  have missing (entry : DirectoryEntry) :
      ¬ RowEntry (exampleSources files) ("/srv/none", "CUSTOM") entry := by
    rw [rowEntry_iff]
    exact nofun
  have module : ModuleEntry (exampleSources files) "mod-bank"
      ⟨[⟨"b.sql", some "SELECT 2;"⟩], .module⟩ :=
    ⟨⟨[], by rw [exampleSources]; dsimp only; rw [path]; rfl⟩,
      by rw [exampleSources]; dsimp only; rw [longPath]; rfl, rfl⟩
  have someModules : "mod-bank" ≠ "" := by
    decide
  have names : MySQL.tokenize "mod-bank" ',' true = ["mod-bank"] := by
    decide
  have modules : EntriesOf (ModuleEntry (exampleSources files))
      (MySQL.tokenize "mod-bank" ',' true) [⟨[⟨"b.sql", some "SELECT 2;"⟩], .module⟩] :=
    names ▸ .found module .nil
  exact .included (.modules (.found released (.missing missing .nil)) (List.cons_ne_nil _ _)
    someModules modules) (List.cons_ne_nil _ _)

/-- A file of a module with the name of a released file stops the update. -/
theorem getIncludedFileList_exact_doubled :
    getIncludedFileList (exampleSources [⟨"a.sql", some "SELECT 1;"⟩, ⟨"b.sql", none⟩]) =
      .error .duplicate := by
  have listing := getIncludedFileList_exact
    (exampleSources [⟨"b.sql", none⟩, ⟨"a.sql", some "SELECT 1;"⟩])
    (exampleSources [⟨"a.sql", some "SELECT 1;"⟩, ⟨"b.sql", none⟩])
    (reorders_exampleSources (List.Perm.swap _ _ _))
  rw [listing.1]
  exact (listing.2.1 _ (listed_exampleSources _)).2.mpr (by decide)

end UpdateFetcher

end WarheadBot
