import WarheadBot.UpdateFetcherRows

/-!
# Every available file is recorded

With both redundancy checks on, a completed run leaves a row with the current
hash for every available file, with one exception: two new files of the same
content, when the cache knows that content from a file that is gone.  The first
of them takes over the row of that file; the second is still treated as renamed
from it and is neither applied nor recorded.
-/

namespace WarheadBot

namespace UpdateFetcher

open UpdatesQuery

section Cleanup

variable (run : Run)

theorem cleanOrphans_eq (state : FetchState) :
    cleanOrphans run state =
      cleanUp ((toCleanup run state.applied).map AppliedFileEntry.name) state := by
  unfold cleanOrphans
  split
  · rename_i none
    have nothing : toCleanup run state.applied = [] := by
      simp [toCleanup, List.isEmpty_iff.mp none]
    simp [nothing, cleanUp]
  · rfl

theorem lookup_cleanUp (names : List String) (state : FetchState) (name : String) :
    (cleanUp names state).table.lookup name =
      if name ∈ names then none else state.table.lookup name := by
  unfold cleanUp
  cases names with
  | nil => simp
  | cons first names =>
      exact lookup_deleteIn (first :: names) state.table name

theorem mem_toCleanup {applied : List AppliedFileEntry} {entry : AppliedFileEntry}
    (removed : entry ∈ toCleanup run applied) : entry ∈ applied := by
  unfold toCleanup at removed
  split at removed
  · exact (List.mem_filter.mp removed).1
  · cases removed

end Cleanup

section Records

variable {sha1 : String → String} {run : Run} {table : UpdatesTable}

theorem lookup_cleanOrphans {done : List LocaleFile} {state : FetchState}
    (progress : Progress sha1 run table done state) {file : LocaleFile} (treated : file ∈ done) :
    (cleanOrphans run state).table.lookup file.filename =
      state.table.lookup file.filename := by
  rw [cleanOrphans_eq, lookup_cleanUp, if_neg]
  intro removed
  obtain ⟨entry, member, named⟩ := List.mem_map.mp removed
  have left := mem_toCleanup run member
  rw [progress.applied, List.mem_filter, decide_eq_true_eq] at left
  apply left.2.1
  rw [named]
  exact List.mem_map_of_mem treated

theorem table_of_progress {done : List LocaleFile} {state : FetchState}
    (progress : Progress sha1 run table done state) :
    state.table = tableAfter sha1 run table done := by
  rw [progress.rows, progress.queries]
  rfl

/-- The row of a file after a completed run. -/
theorem lookup_of_update_ok {final : FetchState} {result : UpdateResult}
    (completed : update sha1 run table = .ok (final, result)) {before after : List LocaleFile}
    {file : LocaleFile} (place : passes run = before ++ file :: after) :
    final.table.lookup file.filename =
      settledRow file (tableAfter sha1 run table before) (path sha1 run table file) := by
  obtain ⟨state, progress, rfl⟩ := update_ok sha1 run table completed
  rw [lookup_cleanOrphans progress (by simp [place]), table_of_progress progress, place]
  apply lookup_tableAfter_settled
  · intro other member
    exact (mem_passes run).mp (place ▸ member)
  · rw [← place]
    exact passes_nodup run

theorem path_ne_unreadable {final : FetchState} {result : UpdateResult}
    (completed : update sha1 run table = .ok (final, result)) {file : LocaleFile}
    (available : file ∈ run.available.files) : path sha1 run table file ≠ .unreadable := by
  obtain ⟨state, progress, _⟩ := update_ok sha1 run table completed
  exact progress.readable file ((mem_passes run).mpr available)

/-- The table has a row for every available file, with the hash of its
content. -/
def Recorded (sha1 : String → String) (run : Run) (rows : UpdatesTable) : Prop :=
  ∀ file ∈ run.available.files, ∃ content row, file.content = some content ∧
    rows.lookup file.filename = some row ∧ row.hash = sha1 content

/-- Two available files without a row never have a hash in common that the
cache gives to a file that is gone. -/
def NoSharedOrigin (sha1 : String → String) (run : Run) (table : UpdatesTable) : Prop :=
  ∀ first ∈ run.available.files, ∀ second ∈ run.available.files,
    first.filename ≠ second.filename →
    table.lookup first.filename = none → table.lookup second.filename = none →
    ∀ firstContent secondContent origin,
      first.content = some firstContent → second.content = some secondContent →
      sha1 firstContent = sha1 secondContent →
      hashToName (receiveAppliedFiles run table) (sha1 firstContent) = some origin →
      run.isAvailable origin

/-- A renamed file takes over the row of its origin, unless an earlier file
has. -/
theorem lookup_renamed {before after : List LocaleFile} {file : LocaleFile} {origin : String}
    (place : passes run = before ++ file :: after) (gone : ¬ run.isAvailable origin) :
    (tableAfter sha1 run table before).lookup origin =
      if origin ∈ origins sha1 run table before then none else table.lookup origin := by
  have distinct := passes_nodup run
  rw [place, List.map_append, List.nodup_append] at distinct
  apply lookup_tableAfter_gone sha1 run table _ distinct.1 gone
  intro other member
  exact (mem_passes run).mp (place ▸ List.mem_append_left _ member)

/-- The second of two files renamed from one origin is left without a row. -/
theorem not_recorded_of_shared {final : FetchState} {result : UpdateResult}
    (completed : update sha1 run table = .ok (final, result))
    {before after : List LocaleFile} {earlier later : LocaleFile} {origin : String}
    (place : passes run = before ++ later :: after) (first : earlier ∈ before)
    (earlierRenamed : path sha1 run table earlier = .rename origin)
    (laterRenamed : path sha1 run table later = .rename origin) :
    final.table.lookup later.filename = none := by
  have gone := (path_rename sha1 run table laterRenamed).2.1
  have taken : origin ∈ origins sha1 run table before :=
    (mem_origins sha1 run table).mpr ⟨earlier, first, earlierRenamed⟩
  rw [lookup_of_update_ok completed place, laterRenamed, settledRow,
    lookup_renamed place gone, if_pos taken]

theorem noSharedOrigin_of_recorded {final : FetchState} {result : UpdateResult}
    (completed : update sha1 run table = .ok (final, result))
    (recorded : Recorded sha1 run final.table) : NoSharedOrigin sha1 run table := by
  intro first firstAvailable second secondAvailable different firstNew secondNew
    firstContent secondContent origin firstRead secondRead sameHash cached
  by_contra gone
  have firstRenamed := path_eq_rename sha1 run table firstNew firstRead cached gone
  have secondRenamed := path_eq_rename sha1 run table secondNew secondRead
    (sameHash ▸ cached) gone
  -- Whichever of the two comes later in the loop has no row in the end.
  obtain ⟨before, after, place⟩ :=
    List.append_of_mem ((mem_passes run).mpr firstAvailable)
  have secondPlace := (mem_passes run).mpr secondAvailable
  rw [place, List.mem_append, List.mem_cons] at secondPlace
  rcases secondPlace with earlier | same | later
  · have lost := not_recorded_of_shared completed place earlier secondRenamed firstRenamed
    obtain ⟨_, row, _, found, _⟩ := recorded first firstAvailable
    rw [lost] at found
    cases found
  · exact different (by rw [same])
  · obtain ⟨middle, rest, split⟩ := List.append_of_mem later
    have regrouped : passes run = (before ++ first :: middle) ++ second :: rest := by
      rw [place, split]
      simp
    have lost := not_recorded_of_shared completed regrouped (by simp) firstRenamed secondRenamed
    obtain ⟨_, row, _, found, _⟩ := recorded second secondAvailable
    rw [lost] at found
    cases found

theorem recorded_of_noSharedOrigin (redundancy : run.redundancyChecks = true)
    (archived : run.archivedRedundancy = true) {final : FetchState} {result : UpdateResult}
    (completed : update sha1 run table = .ok (final, result))
    (unshared : NoSharedOrigin sha1 run table) : Recorded sha1 run final.table := by
  intro file available
  obtain ⟨before, after, place⟩ := List.append_of_mem ((mem_passes run).mpr available)
  rw [lookup_of_update_ok completed place]
  have new : file.filename ∉ before.map LocaleFile.filename :=
    filename_not_mem_of_nodup (place ▸ passes_nodup run)
  have untouched := lookup_tableAfter_untouched sha1 run table
    ⟨file, available, rfl⟩ new
  cases branch : path sha1 run table file with
  | skip => exact absurd branch (path_ne_skip sha1 run table redundancy archived file)
  | unreadable => exact absurd branch (path_ne_unreadable completed available)
  | moved changed =>
      obtain ⟨content, row, read, found, hash⟩ := path_moved sha1 run table branch
      rw [settledRow, untouched, found]
      cases changed with
      | false => exact ⟨content, row, read, rfl, hash⟩
      | true => exact ⟨content, { row with state := file.state }, read, rfl, hash⟩
  | record mode content hash =>
      obtain ⟨read, digest⟩ := path_record sha1 run table branch
      exact ⟨content, ⟨hash, file.state⟩, read, rfl, digest⟩
  | rename origin =>
      obtain ⟨noRow, gone, content, read, cached⟩ := path_rename sha1 run table branch
      obtain ⟨row, found, hash⟩ := lookup_of_hashToName run table cached
      rw [settledRow, lookup_renamed place gone, if_neg, found]
      · exact ⟨content, row, read, rfl, hash⟩
      · intro taken
        obtain ⟨other, earlier, renamed⟩ := (mem_origins sha1 run table).mp taken
        obtain ⟨otherNoRow, _, otherContent, otherRead, otherCached⟩ :=
          path_rename sha1 run table renamed
        obtain ⟨_, sameRow, otherHash⟩ := lookup_of_hashToName run table otherCached
        rw [found, Option.some.injEq] at sameRow
        subst sameRow
        have otherAvailable : other ∈ run.available.files :=
          (mem_passes run).mp (by rw [place]; exact List.mem_append_left _ earlier)
        have different : other.filename ≠ file.filename := fun same =>
          new (same ▸ List.mem_map_of_mem earlier)
        exact gone (unshared other otherAvailable file available different otherNoRow noRow
          otherContent content origin otherRead read (otherHash.symm.trans hash) otherCached)

/-- With both redundancy checks on, a completed run records every available
file if and only if no two new files share a hash whose file is gone. -/
theorem update_recorded_iff (sha1 : String → String) (run : Run) (table : UpdatesTable)
    (redundancy : run.redundancyChecks = true) (archived : run.archivedRedundancy = true)
    {final : FetchState} {result : UpdateResult}
    (completed : update sha1 run table = .ok (final, result)) :
    Recorded sha1 run final.table ↔ NoSharedOrigin sha1 run table :=
  ⟨noSharedOrigin_of_recorded completed,
    recorded_of_noSharedOrigin redundancy archived completed⟩

end Records

def exampleDigest (content : String) : String :=
  if content = "SELECT 1;" then "517305648b7323bf7793bed05a4f527376715093" else content

def exampleRun (files : LocaleFileStorage) : Run where
  redundancyChecks := true
  allowRehash := true
  archivedRedundancy := true
  cleanDeadReferencesMaxCount := 3
  available := files
  applyFile := fun _ => true
  iteration := fun entries => entries
  iteration_perm := fun _ => List.Perm.refl _

def exampleTable : UpdatesTable :=
  AList.singleton "old.sql" ⟨exampleDigest "SELECT 1;", .released⟩

def oneCopy : LocaleFileStorage :=
  ⟨[⟨"a.sql", .released, some "SELECT 1;"⟩], by decide⟩

def twoCopies : LocaleFileStorage :=
  ⟨[⟨"a.sql", .released, some "SELECT 1;"⟩, ⟨"b.sql", .released, some "SELECT 1;"⟩], by decide⟩

/-- A single renamed file is recorded. -/
theorem update_records_one_copy :
    ∃ final result, update exampleDigest (exampleRun oneCopy) exampleTable = .ok (final, result) ∧
      Recorded exampleDigest (exampleRun oneCopy) final.table := by
  refine ⟨_, _, rfl, (update_recorded_iff exampleDigest (exampleRun oneCopy) exampleTable rfl rfl
    rfl).mpr ?_⟩
  intro first firstAvailable second secondAvailable different
  rw [List.mem_singleton.mp firstAvailable, List.mem_singleton.mp secondAvailable] at different
  exact absurd rfl different

/-- Of two new files with the content of a file that is gone, only the first
is recorded. -/
theorem update_loses_second_copy :
    ∃ final result, update exampleDigest (exampleRun twoCopies) exampleTable =
        .ok (final, result) ∧
      ¬ Recorded exampleDigest (exampleRun twoCopies) final.table := by
  refine ⟨_, _, rfl, ?_⟩
  intro recorded
  obtain ⟨_, row, _, found, _⟩ := recorded ⟨"b.sql", .released, some "SELECT 1;"⟩ (by decide)
  have lost : (none : Option UpdatesRow) = some row := found
  cases lost

end UpdateFetcher

end WarheadBot
