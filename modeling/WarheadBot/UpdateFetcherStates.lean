import WarheadBot.UpdateFetcherRecords

/-!
# The states of the rows

A file that is applied, rehashed or found unchanged gets a row with the state of
its directory.  A renamed file takes over a row as it is, so the state is right
only if the file has stayed in a directory of the same kind.
-/

namespace WarheadBot

namespace UpdateFetcher

/-- The row of every available file that has one carries the state of the
file. -/
def StatesRecorded (run : Run) (rows : UpdatesTable) : Prop :=
  ∀ file ∈ run.available.files, ∀ row, rows.lookup file.filename = some row →
    row.state = file.state

section States

variable (sha1 : String → String) (run : Run) (table : UpdatesTable)

/-- The file has no row, and the cache gives its hash to a file that is
gone. -/
def TakesOver (file : LocaleFile) (origin : String) : Prop :=
  table.lookup file.filename = none ∧ ¬ run.isAvailable origin ∧
    ∃ content, file.content = some content ∧
      hashToName (receiveAppliedFiles run table) (sha1 content) = some origin

/-- The first file that takes over a row has the state of that row. -/
def RenamesKeepState : Prop :=
  ∀ before file after origin row, passes run = before ++ file :: after →
    TakesOver sha1 run table file origin →
    (∀ earlier ∈ before, ¬ TakesOver sha1 run table earlier origin) →
    table.lookup origin = some row → row.state = file.state

theorem takesOver_iff {file : LocaleFile} {origin : String} :
    TakesOver sha1 run table file origin ↔ path sha1 run table file = .rename origin := by
  constructor
  · rintro ⟨noRow, gone, content, read, cached⟩
    exact path_eq_rename sha1 run table noRow read cached gone
  · intro renamed
    exact path_rename sha1 run table renamed

theorem not_mem_origins_iff {files : List LocaleFile} {origin : String} :
    origin ∉ origins sha1 run table files ↔
      ∀ file ∈ files, ¬ TakesOver sha1 run table file origin := by
  simp only [mem_origins, takesOver_iff, not_exists, not_and]

theorem path_moved_changed {file : LocaleFile} {changed : Bool} {row : UpdatesRow}
    (moved : path sha1 run table file = .moved changed)
    (found : table.lookup file.filename = some row) : changed = (row.state != file.state) := by
  rw [path_of_row sha1 run table found] at moved
  cases read : file.content with
  | none =>
      rw [read] at moved
      split_ifs at moved
  | some content =>
      rw [read] at moved
      dsimp only at moved
      split_ifs at moved
      cases moved
      rfl

variable {sha1 run table}

theorem renamesKeepState_of_statesRecorded {final : FetchState} {result : UpdateResult}
    (completed : update sha1 run table = .ok (final, result))
    (recorded : StatesRecorded run final.table) : RenamesKeepState sha1 run table := by
  intro before file after origin row place takes first found
  have renamed := (takesOver_iff sha1 run table).mp takes
  have available : file ∈ run.available.files := by
    rw [← mem_passes, place]
    simp
  apply recorded file available
  rw [lookup_of_update_ok completed place, renamed, settledRow, lookup_renamed place takes.2.1,
    if_neg ((not_mem_origins_iff sha1 run table).mpr first), found]

theorem statesRecorded_of_renamesKeepState (redundancy : run.redundancyChecks = true)
    (archived : run.archivedRedundancy = true) {final : FetchState} {result : UpdateResult}
    (completed : update sha1 run table = .ok (final, result))
    (kept : RenamesKeepState sha1 run table) : StatesRecorded run final.table := by
  intro file available row found
  obtain ⟨before, after, place⟩ := List.append_of_mem ((mem_passes run).mpr available)
  rw [lookup_of_update_ok completed place] at found
  have new : file.filename ∉ before.map LocaleFile.filename :=
    filename_not_mem_of_nodup (place ▸ passes_nodup run)
  cases branch : path sha1 run table file with
  | skip => exact absurd branch (path_ne_skip sha1 run table redundancy archived file)
  | unreadable => exact absurd branch (path_ne_unreadable completed available)
  | record mode content hash =>
      rw [branch, settledRow] at found
      cases found
      rfl
  | moved changed =>
      rw [branch, settledRow, lookup_tableAfter_untouched sha1 run table ⟨file, available, rfl⟩
        new] at found
      obtain ⟨_, old, _, initial, _⟩ := path_moved sha1 run table branch
      rw [initial] at found
      cases changed with
      | true =>
          cases found
          rfl
      | false =>
          cases found
          have same := path_moved_changed sha1 run table branch initial
          simpa using same
  | rename origin =>
      have takes := (takesOver_iff sha1 run table).mpr branch
      rw [branch, settledRow, lookup_renamed place takes.2.1] at found
      split_ifs at found with taken
      exact kept before file after origin row place takes
        ((not_mem_origins_iff sha1 run table).mp taken) found

end States

/-- With both redundancy checks on, a completed run leaves the rows of all
available files with their states if and only if every file that takes over a
row has the state of that row. -/
theorem update_states_iff (sha1 : String → String) (run : Run) (table : UpdatesTable)
    (redundancy : run.redundancyChecks = true) (archived : run.archivedRedundancy = true)
    {final : FetchState} {result : UpdateResult}
    (completed : update sha1 run table = .ok (final, result)) :
    StatesRecorded run final.table ↔ RenamesKeepState sha1 run table :=
  ⟨renamesKeepState_of_statesRecorded completed,
    statesRecorded_of_renamesKeepState redundancy archived completed⟩

def archivedCopy : LocaleFileStorage :=
  ⟨[⟨"a.sql", .archived, some "SELECT 1;"⟩], by decide⟩

/-- A released file is renamed in its directory. -/
theorem update_states_of_renamed :
    ∃ final result, update exampleDigest (exampleRun oneCopy) exampleTable = .ok (final, result) ∧
      StatesRecorded (exampleRun oneCopy) final.table := by
  refine ⟨_, _, rfl, (update_states_iff exampleDigest (exampleRun oneCopy) exampleTable rfl rfl
    rfl).mpr ?_⟩
  intro before file after origin row place takes first found
  have member : file ∈ passes (exampleRun oneCopy) := by simp [place]
  obtain rfl : file = ⟨"a.sql", .released, some "SELECT 1;"⟩ := List.mem_singleton.mp member
  obtain ⟨_, _, content, read, cached⟩ := takes
  cases read
  have old : some "old.sql" = some origin := cached
  cases old
  have initial : some ⟨exampleDigest "SELECT 1;", .released⟩ = some row := found
  cases initial
  rfl

/-- A released file is renamed and moved to an archive. -/
theorem update_state_of_renamed_archived :
    ∃ final result, update exampleDigest (exampleRun archivedCopy) exampleTable =
        .ok (final, result) ∧
      ¬ StatesRecorded (exampleRun archivedCopy) final.table := by
  refine ⟨_, _, rfl, ?_⟩
  intro recorded
  have state := recorded ⟨"a.sql", .archived, some "SELECT 1;"⟩ (by decide)
    ⟨exampleDigest "SELECT 1;", .released⟩ rfl
  cases state

end UpdateFetcher

end WarheadBot
