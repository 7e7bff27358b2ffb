import WarheadBot.UpdateFetcherOrders
import WarheadBot.Iteration

/-!
# Repeated updates converge

A completed run may leave an available file without a row, when another new file
of the same content has taken over the row that both are renamed from.  But the
first file without a row always gets one, so each completed run leaves fewer of
them.  Once there are none, one more run settles the states and the orphans, and
no later run sends a query.

This rests on `_apply` executing every query that it is given, also in the runs
that are stopped, and on names without quotes and backslashes.  Neither the files
nor the settings change from run to run, and nobody else writes to the table.
-/

namespace WarheadBot

namespace UpdateFetcher

open UpdatesQuery Iteration

/-- What one of several runs over the same files meets. -/
structure Attempt where
  applyFile : String → Bool
  order : Order

def Run.attempt (run : Run) (attempt : Attempt) : Run :=
  { run with
    applyFile := attempt.applyFile
    iteration := attempt.order.1
    iteration_perm := attempt.order.2 }

section Converges

variable (sha1 : String → String) (run : Run) (table : UpdatesTable)

/-- The available files without a row. -/
def unrecorded (run : Run) (table : UpdatesTable) : List LocaleFile :=
  run.available.files.filter fun file => (table.lookup file.filename).isNone

/-- The run ends without an exception. -/
def completes : Bool :=
  match update sha1 run table with
  | .ok _ => true
  | .error _ => false

/-- The table after one attempt, whether it completes or throws. -/
def attempted (rows : UpdatesTable) (attempt : Attempt) : UpdatesTable :=
  (outcome sha1 (run.attempt attempt) rows).table

def attemptCompletes (rows : UpdatesTable) (attempt : Attempt) : Bool :=
  completes sha1 (run.attempt attempt) rows

/-- No attempt sends a query or applies a script. -/
def Settled : Prop :=
  ∀ attempt, (outcome sha1 (run.attempt attempt) table).queries = [] ∧
    (outcome sha1 (run.attempt attempt) table).executed = []

variable {sha1 run table}

theorem update_of_completes (completed : completes sha1 run table = true) :
    ∃ final result, update sha1 run table = .ok (final, result) := by
  unfold completes at completed
  cases finished : update sha1 run table with
  | ok final => exact ⟨final.1, final.2, rfl⟩
  | error left =>
      rw [finished] at completed
      cases completed

theorem outcome_of_update_ok {final : FetchState} {result : UpdateResult}
    (completed : update sha1 run table = .ok (final, result)) :
    outcome sha1 run table = final := by
  rw [outcome, completed]

theorem mem_unrecorded {file : LocaleFile} :
    file ∈ unrecorded run table ↔
      file ∈ run.available.files ∧ table.lookup file.filename = none := by
  rw [unrecorded, List.mem_filter, Option.isNone_iff_eq_none]

theorem isSome_settledRow {file : LocaleFile} {rows : UpdatesTable} {branch : UpdatePath}
    (recorded : (rows.lookup file.filename).isSome) (notRenamed : branch.origin = none) :
    (settledRow file rows branch).isSome := by
  cases branch with
  | skip => exact recorded
  | unreadable => exact recorded
  | rename origin => cases notRenamed
  | moved changed =>
      rw [settledRow]
      split_ifs
      · rwa [Option.isSome_map]
      · exact recorded
  | record mode content hash => rfl

theorem origin_path_of_recorded {file : LocaleFile}
    (recorded : (table.lookup file.filename).isSome) :
    (path sha1 run table file).origin = none := by
  cases branch : path sha1 run table file with
  | rename origin =>
      rw [(path_rename sha1 run table branch).1] at recorded
      cases recorded
  | _ => rfl

/-- No run loses the row of an available file. -/
theorem isSome_lookup_outcome {file : LocaleFile} (available : file ∈ run.available.files)
    (recorded : (table.lookup file.filename).isSome) :
    ((outcome sha1 run table).table.lookup file.filename).isSome := by
  obtain ⟨treated, later, state, split, _, _, rows⟩ := outcome_progress sha1 run table
  rw [rows file.filename ⟨file, available, rfl⟩]
  rcases lookup_outcome sha1 run table split available with ⟨before, after, rfl, settled⟩ | ⟨_, old⟩
  · have distinct := passes_nodup run
    rw [split, List.append_assoc] at distinct
    rw [settled]
    apply isSome_settledRow _ (origin_path_of_recorded recorded)
    rw [lookup_tableAfter_untouched sha1 run table ⟨file, available, rfl⟩
      (filename_not_mem_of_nodup distinct)]
    exact recorded
  · rwa [old]

theorem unrecorded_sublist :
    (unrecorded run (outcome sha1 run table).table).Sublist (unrecorded run table) := by
  have smaller : unrecorded run (outcome sha1 run table).table =
      (unrecorded run table).filter fun file =>
        ((outcome sha1 run table).table.lookup file.filename).isNone := by
    rw [unrecorded, unrecorded, List.filter_filter]
    apply List.filter_congr
    intro file available
    cases before : table.lookup file.filename with
    | none => simp
    | some row =>
        have kept := @isSome_lookup_outcome sha1 run table file available (by rw [before]; rfl)
        simpa using kept
  rw [smaller]
  exact List.filter_sublist

/-- The first file without a row, in the order of the loops, gets one. -/
theorem lookup_first_unrecorded {final : FetchState} {result : UpdateResult}
    (completed : update sha1 run table = .ok (final, result)) {before after : List LocaleFile}
    {file : LocaleFile} (place : passes run = before ++ file :: after)
    (earlier : ∀ other ∈ before, (table.lookup other.filename).isSome)
    (new : table.lookup file.filename = none) : (final.table.lookup file.filename).isSome := by
  have available : file ∈ run.available.files :=
    (mem_passes run).mp (by rw [place]; simp)
  rw [lookup_of_update_ok completed place]
  cases branch : path sha1 run table file with
  | skip =>
      have other := path_of_noRow sha1 run table new
      rw [branch] at other
      split at other
      · cases other
      · split at other
        · cases other
        · split_ifs at other
  | unreadable => exact absurd branch (path_ne_unreadable completed available)
  | rename origin =>
      obtain ⟨_, gone, content, _, cached⟩ := path_rename sha1 run table branch
      obtain ⟨row, found, _⟩ := lookup_of_hashToName run table cached
      rw [settledRow, lookup_renamed place gone, if_neg, found]
      · rfl
      · intro taken
        obtain ⟨other, member, renamed⟩ := (mem_origins sha1 run table).mp taken
        have noOrigin := @origin_path_of_recorded sha1 run table other (earlier other member)
        rw [renamed] at noOrigin
        cases noOrigin
  | moved changed =>
      obtain ⟨_, row, _, found, _⟩ := path_moved sha1 run table branch
      rw [new] at found
      cases found
  | record mode content hash => rfl

theorem length_unrecorded_lt (completed : completes sha1 run table = true)
    (some : unrecorded run table ≠ []) :
    (unrecorded run (outcome sha1 run table).table).length < (unrecorded run table).length := by
  obtain ⟨final, result, finished⟩ := update_of_completes completed
  -- The first file without a row splits the list of files in the order of the loops.
  have exists_new : ∃ file ∈ passes run, (table.lookup file.filename).isNone = true := by
    obtain ⟨file, member⟩ := List.exists_mem_of_ne_nil _ some
    obtain ⟨available, new⟩ := mem_unrecorded.mp member
    exact ⟨file, (mem_passes run).mpr available, Option.isNone_iff_eq_none.mpr new⟩
  obtain ⟨file, found⟩ := Option.isSome_iff_exists.mp (List.find?_isSome.mpr exists_new)
  obtain ⟨new, before, after, place, earlier⟩ := List.find?_eq_some_iff_append.mp found
  rw [Option.isNone_iff_eq_none] at new
  have recorded := lookup_first_unrecorded finished place
    (fun other member => by simpa using earlier other member) new
  rw [← outcome_of_update_ok finished] at recorded
  have available : file ∈ run.available.files :=
    (mem_passes run).mp (by rw [place]; simp)
  by_contra notFewer
  have same := (@unrecorded_sublist sha1 run table).eq_of_length_le (Nat.le_of_not_lt notFewer)
  have remains := mem_unrecorded.mpr ⟨available, new⟩
  rw [← same, mem_unrecorded] at remains
  rw [remains.2] at recorded
  cases recorded

/-- The branches that send no query and apply no script. -/
def UpdatePath.Quiet (branch : UpdatePath) : Prop :=
  branch = .skip ∨ branch = .moved false

theorem UpdatePath.Quiet.sent_eq {file : LocaleFile} {branch : UpdatePath}
    (quiet : branch.Quiet) : sent file branch = [] := by
  rcases quiet with rfl | rfl
  · rfl
  · rfl

theorem UpdatePath.Quiet.script_eq {file : LocaleFile} {branch : UpdatePath}
    (quiet : branch.Quiet) : script file branch = [] := by
  rcases quiet with rfl | rfl
  · rfl
  · rfl

/-- A row with the hash and the state of its file needs no work. -/
theorem quiet_of_settledRow {file : LocaleFile} {content : String}
    (read : file.content = some content) (digest : sha1 content ≠ "")
    (found : table.lookup file.filename = some ⟨sha1 content, file.state⟩) :
    (path sha1 run table file).Quiet := by
  rw [path_of_row sha1 run table found, read]
  have written : (sha1 content).isEmpty = false := by
    rw [Bool.eq_false_iff, ne_eq, String.isEmpty_iff]
    exact digest
  by_cases unchecked : (!run.redundancyChecks) = true
  · exact .inl (if_pos unchecked)
  · rw [if_neg unchecked]
    split
    · exact .inl rfl
    · simp [written, UpdatePath.Quiet]

/-- After its turn in a completed run, a file with a row needs no work. -/
theorem quiet_of_treated {file : LocaleFile} {row : UpdatesRow} {after : UpdatesTable}
    (digest : ∀ content, sha1 content ≠ "")
    (found : table.lookup file.filename = some row)
    (readable : path sha1 run table file ≠ .unreadable)
    (left : after.lookup file.filename = settledRow file table (path sha1 run table file))
    (attempt : Attempt) : (path sha1 (run.attempt attempt) after file).Quiet := by
  have decided := path_of_row sha1 run table found
  by_cases unchecked : (!run.redundancyChecks) = true
  · rw [if_pos unchecked] at decided
    rw [decided, settledRow, found] at left
    rw [path_of_row sha1 (run.attempt attempt) after left]
    exact .inl (if_pos unchecked)
  rw [if_neg unchecked] at decided
  by_cases archived : (!run.archivedRedundancy && row.state == .archived &&
      file.state == .archived) = true
  · rw [if_pos archived] at decided
    rw [decided, settledRow, found] at left
    rw [path_of_row sha1 (run.attempt attempt) after left]
    exact .inl ((if_neg unchecked).trans (if_pos archived))
  rw [if_neg archived] at decided
  cases read : file.content with
  | none =>
      rw [read] at decided
      exact absurd decided readable
  | some content =>
      rw [read] at decided
      dsimp only at decided
      apply quiet_of_settledRow read (digest content)
      rw [left, decided]
      split_ifs with rehashed changed
      · rfl
      · rfl
      · rw [not_not] at changed
        by_cases same : row.state = file.state
        · simp [settledRow, found, ← changed, ← same]
        · simp [settledRow, same, found, ← changed]

theorem recorded_of_unrecorded_nil (none : unrecorded run table = []) {file : LocaleFile}
    (available : file ∈ run.available.files) : (table.lookup file.filename).isSome := by
  cases found : table.lookup file.filename with
  | some row => rfl
  | none =>
      have member := mem_unrecorded.mpr ⟨available, found⟩
      rw [none] at member
      cases member

theorem origins_of_unrecorded_nil (none : unrecorded run table = []) :
    origins sha1 run table (passes run) = [] := by
  apply List.filterMap_eq_nil_iff.mpr
  intro file member
  exact origin_path_of_recorded
    (recorded_of_unrecorded_nil none ((mem_passes run).mp member))

/-- The entries left over by the loop are those of the files that are gone, if
nothing is renamed. -/
theorem mem_applied_iff {state : FetchState}
    (progress : Progress sha1 run table (passes run) state)
    (unrenamed : origins sha1 run table (passes run) = []) {entry : AppliedFileEntry} :
    entry ∈ state.applied ↔
      table.lookup entry.name = some ⟨entry.hash, entry.state⟩ ∧ ¬ run.isAvailable entry.name := by
  rw [progress.applied, List.mem_filter, mem_receiveAppliedFiles, decide_eq_true_eq, unrenamed,
    mem_filenames_passes]
  simp

theorem applied_nodup {done : List LocaleFile} {state : FetchState}
    (progress : Progress sha1 run table done state) : state.applied.Nodup := by
  rw [progress.applied]
  exact (List.Nodup.of_map _ (receiveAppliedFiles_nodup run table)).filter _

/-- What a completed cleanup has left, the next one leaves as well. -/
theorem toCleanup_eq_nil {state later : FetchState} {rows : UpdatesTable}
    (entries : ∀ entry, entry ∈ state.applied ↔
      table.lookup entry.name = some ⟨entry.hash, entry.state⟩ ∧ ¬ run.isAvailable entry.name)
    (laterEntries : ∀ entry, entry ∈ later.applied ↔
      rows.lookup entry.name = some ⟨entry.hash, entry.state⟩ ∧ ¬ run.isAvailable entry.name)
    (distinct : state.applied.Nodup)
    (left : ∀ name, ¬ run.isAvailable name → rows.lookup name =
      if name ∈ (toCleanup run state.applied).map AppliedFileEntry.name then none
      else table.lookup name) :
    toCleanup run later.applied = [] := by
  by_cases allowed : run.cleanDeadReferencesMaxCount < 0 ∨
      (later.applied.length : Int) ≤ run.cleanDeadReferencesMaxCount
  · -- The first cleanup was allowed too: otherwise it has left all of its entries.
    have allowedFirst : run.cleanDeadReferencesMaxCount < 0 ∨
        (state.applied.length : Int) ≤ run.cleanDeadReferencesMaxCount := by
      by_contra refused
      have kept : toCleanup run state.applied = [] := if_neg refused
      have subset : state.applied ⊆ later.applied := by
        intro entry member
        obtain ⟨found, gone⟩ := (entries entry).mp member
        refine (laterEntries entry).mpr ⟨?_, gone⟩
        rw [left entry.name gone, kept]
        simpa using found
      have length := (List.subperm_of_subset distinct subset).length_le
      omega
    rw [toCleanup, if_pos allowed, List.filter_eq_nil_iff]
    intro entry member
    obtain ⟨found, gone⟩ := (laterEntries entry).mp member
    rw [left entry.name gone] at found
    split_ifs at found with removed
    have remains := (entries entry).mpr ⟨found, gone⟩
    intro notModule
    apply removed
    apply List.mem_map_of_mem
    rw [toCleanup, if_pos allowedFirst, List.mem_filter]
    exact ⟨remains, notModule⟩
  · exact if_neg allowed

/-- A completed run that begins with a row for every available file settles
the table. -/
theorem settled_of_completed (digest : ∀ content, sha1 content ≠ "")
    (completed : completes sha1 run table = true) (allRecorded : unrecorded run table = []) :
    Settled sha1 run (outcome sha1 run table).table := by
  obtain ⟨final, result, finished⟩ := update_of_completes completed
  obtain ⟨state, progress, last⟩ := update_ok sha1 run table finished
  rw [outcome_of_update_ok finished]
  have unrenamed := @origins_of_unrecorded_nil sha1 run table allRecorded
  have quiet : ∀ attempt, ∀ file ∈ passes run,
      (path sha1 (run.attempt attempt) final.table file).Quiet := by
    intro attempt file member
    have available := (mem_passes run).mp member
    have recorded := recorded_of_unrecorded_nil allRecorded available
    obtain ⟨row, found⟩ := Option.isSome_iff_exists.mp recorded
    apply quiet_of_treated digest found (path_ne_unreadable finished available)
    obtain ⟨before, after, place⟩ := List.append_of_mem member
    rw [lookup_of_update_ok finished place]
    apply settledRow_congr (origin_path_of_recorded recorded)
    exact lookup_tableAfter_untouched sha1 run table ⟨file, available, rfl⟩
      (filename_not_mem_of_nodup (place ▸ passes_nodup run))
  have unrenamedLater : ∀ attempt,
      origins sha1 (run.attempt attempt) final.table (passes run) = [] := by
    intro attempt
    apply List.filterMap_eq_nil_iff.mpr
    intro file member
    rcases quiet attempt file member with branch | branch
    · rw [branch]
      rfl
    · rw [branch]
      rfl
  have gone : ∀ name, ¬ run.isAvailable name → final.table.lookup name =
      if name ∈ (toCleanup run state.applied).map AppliedFileEntry.name then none
      else table.lookup name := by
    intro name unavailable
    rw [last, cleanOrphans_eq, lookup_cleanUp, table_of_progress progress,
      lookup_tableAfter_gone sha1 run table (fun file member => (mem_passes run).mp member)
        (passes_nodup run) unavailable, unrenamed]
    simp
  intro attempt
  obtain ⟨later, laterProgress, left⟩ := outcome_treated sha1 (run.attempt attempt) final.table
  have early : ∀ file ∈ treated sha1 (run.attempt attempt) final.table, file ∈ passes run :=
    fun file member => (List.takeWhile_sublist _).subset member
  have silent : later.queries = [] := by
    rw [laterProgress.queries, List.flatMap_eq_nil_iff]
    exact fun file member => (quiet attempt file (early file member)).sent_eq
  have idle : later.executed = [] := by
    rw [laterProgress.executed, List.flatMap_eq_nil_iff]
    exact fun file member => (quiet attempt file (early file member)).script_eq
  rw [left]
  split_ifs with complete
  · have all : treated sha1 (run.attempt attempt) final.table = passes run :=
      List.takeWhile_eq_self_iff.mpr complete
    rw [all] at laterProgress
    have nothing : toCleanup (run.attempt attempt) later.applied = [] :=
      toCleanup_eq_nil (fun entry => mem_applied_iff progress unrenamed)
        (fun entry => mem_applied_iff laterProgress (unrenamedLater attempt))
        (applied_nodup progress) gone
    rw [cleanOrphans_eq, nothing]
    exact ⟨silent, idle⟩
  · exact ⟨silent, idle⟩

theorem attempted_of_settled (settled : Settled sha1 run table) (attempt : Attempt) :
    attempted sha1 run table attempt = table := by
  obtain ⟨state, progress, left⟩ := outcome_treated sha1 (run.attempt attempt) table
  have silent := (settled attempt).1
  unfold attempted
  rw [left] at silent ⊢
  split_ifs at silent ⊢ with complete
  · rw [cleanOrphans_eq, cleanUp] at silent ⊢
    split_ifs at silent ⊢
    · rw [progress.rows, silent]
      rfl
    · simp [FetchState.submit] at silent
  · rw [progress.rows, silent]
    rfl

/-- With both redundancy checks on, a settled table has the hashes of all
files. -/
def SettledFor (sha1 : String → String) (run : Run) (rows : UpdatesTable) : Prop :=
  Settled sha1 run rows ∧ (run.redundancyChecks = true → run.archivedRedundancy = true →
    Recorded sha1 run rows)

theorem settledFor_attempted (settled : SettledFor sha1 run table) (attempt : Attempt) :
    SettledFor sha1 run (attempted sha1 run table attempt) := by
  rw [attempted_of_settled settled.1]
  exact settled

theorem settledFor_of_completed (digest : ∀ content, sha1 content ≠ "")
    (completed : completes sha1 run table = true) (allRecorded : unrecorded run table = []) :
    SettledFor sha1 run (outcome sha1 run table).table := by
  refine ⟨settled_of_completed digest completed allRecorded, ?_⟩
  intro redundancy archived
  obtain ⟨final, result, finished⟩ := update_of_completes completed
  rw [outcome_of_update_ok finished]
  apply recorded_of_noSharedOrigin redundancy archived finished
  intro first available _ _ _ new
  have recorded := recorded_of_unrecorded_nil allRecorded available
  rw [new] at recorded
  cases recorded

theorem length_unrecorded_attempted (rows : UpdatesTable) (attempt : Attempt) :
    (unrecorded run (attempted sha1 run rows attempt)).length ≤ (unrecorded run rows).length :=
  (@unrecorded_sublist sha1 (run.attempt attempt) rows).length_le

theorem attempted_advances (digest : ∀ content, sha1 content ≠ "") (rows : UpdatesTable)
    (attempt : Attempt) (completed : attemptCompletes sha1 run rows attempt = true) :
    SettledFor sha1 run (attempted sha1 run rows attempt) ∨
      (unrecorded run (attempted sha1 run rows attempt)).length <
        (unrecorded run rows).length := by
  by_cases allRecorded : unrecorded run rows = []
  · exact .inl (@settledFor_of_completed sha1 (run.attempt attempt) rows digest completed
      allRecorded)
  · exact .inr (@length_unrecorded_lt sha1 (run.attempt attempt) rows completed allRecorded)

end Converges

/-- However many attempts to update are stopped by an exception: once more of
them have completed than there were available files without a row, no further
attempt sends a query or applies a script, the table stays as it is, and with
both redundancy checks on it has a row with the current hash for every file. -/
theorem updates_converge (sha1 : String → String) (digest : ∀ content, sha1 content ≠ "")
    (run : Run) (table : UpdatesTable) (attempts : List Attempt)
    (enough : (unrecorded run table).length <
      counted (attempted sha1 run) (attemptCompletes sha1 run) table attempts) :
    let settled := attempts.foldl (attempted sha1 run) table
    (∀ attempt, (outcome sha1 (run.attempt attempt) settled).queries = [] ∧
      (outcome sha1 (run.attempt attempt) settled).executed = [] ∧
      (outcome sha1 (run.attempt attempt) settled).table = settled) ∧
    (run.redundancyChecks = true → run.archivedRedundancy = true →
      Recorded sha1 run settled) := by
  have settled : SettledFor sha1 run (attempts.foldl (attempted sha1 run) table) := by
    apply settled_of_counted (fun rows => (unrecorded run rows).length) _ _ _ enough
    · exact fun rows attempt kept => settledFor_attempted kept attempt
    · exact length_unrecorded_attempted
    · exact attempted_advances digest
  refine ⟨?_, settled.2⟩
  intro attempt
  exact ⟨(settled.1 attempt).1, (settled.1 attempt).2, attempted_of_settled settled.1 attempt⟩

def nonemptyDigest (content : String) : String :=
  if content = "" then "da39a3ee5e6b4b0d3255bfef95601890afd80709" else exampleDigest content

theorem nonemptyDigest_ne (content : String) : nonemptyDigest content ≠ "" := by
  unfold nonemptyDigest exampleDigest
  split_ifs with empty
  · decide
  · decide
  · exact empty

def exampleAttempt : Attempt :=
  ⟨fun _ => true, fun entries => entries, fun _ => List.Perm.refl _⟩

/-- The copy that the first run loses is recorded by the second. -/
theorem updates_converge_two_copies :
    Recorded nonemptyDigest (exampleRun twoCopies)
      ([exampleAttempt, exampleAttempt, exampleAttempt].foldl
        (attempted nonemptyDigest (exampleRun twoCopies)) exampleTable) :=
  (updates_converge nonemptyDigest nonemptyDigest_ne (exampleRun twoCopies) exampleTable
    [exampleAttempt, exampleAttempt, exampleAttempt] (by decide)).2 rfl rfl

end UpdateFetcher

end WarheadBot
