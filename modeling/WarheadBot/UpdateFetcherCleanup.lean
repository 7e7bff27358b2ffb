import WarheadBot.UpdateFetcherRecords

/-!
# Which rows a run deletes

The entries left over at the end of a run are those of files that are gone and
were not taken over by a renamed file, because every branch of the loop erases
the entry it accounts for.  The queries of a run therefore show which rows its
cleanup deletes, and none of them deletes the row of an available file.
-/

namespace WarheadBot

namespace UpdateFetcher

open UpdatesQuery

/-- The rows that were renamed away by a list of queries. -/
def renameSources (queries : List UpdatesQuery) : List String :=
  queries.filterMap fun
    | .rename _ source => some source
    | _ => none

/-- A query of `CleanUp` deletes this row. -/
def DeletesByCleanUp (queries : List UpdatesQuery) (table : UpdatesTable) (name : String)
    (row : UpdatesRow) : Prop :=
  ∃ before names after, queries = before ++ .deleteIn names :: after ∧ name ∈ names ∧
    (meanings before table).lookup name = some row

/-- No single query deletes the row of this name. -/
def NeverDeletes (queries : List UpdatesQuery) (table : UpdatesTable) (name : String) : Prop :=
  ∀ n, name ∈ meanings (queries.take n) table → name ∈ meanings (queries.take (n + 1)) table

/-- The initial rows that neither an available file nor a rename accounts
for. -/
def orphans (run : Run) (table : UpdatesTable) (queries : List UpdatesQuery) : List String :=
  table.keys.filter fun name => ¬ run.isAvailable name ∧ name ∉ renameSources queries

/-- The limit on dead references allows the cleanup. -/
def CleanupAllowed (run : Run) (table : UpdatesTable) (queries : List UpdatesQuery) : Prop :=
  run.cleanDeadReferencesMaxCount < 0 ∨
    ((orphans run table queries).length : Int) ≤ run.cleanDeadReferencesMaxCount

theorem neverDeletes_nil (table : UpdatesTable) (name : String) : NeverDeletes [] table name := by
  intro n present
  simpa using present

theorem neverDeletes_cons {query : UpdatesQuery} {queries : List UpdatesQuery}
    {table : UpdatesTable} {name : String} :
    NeverDeletes (query :: queries) table name ↔
      (name ∈ table → name ∈ query.meaning table) ∧
        NeverDeletes queries (query.meaning table) name := by
  constructor
  · intro kept
    refine ⟨kept 0, ?_⟩
    intro n present
    exact kept (n + 1) present
  · rintro ⟨first, rest⟩ n present
    cases n with
    | zero => exact first present
    | succ n => exact rest n present

theorem neverDeletes_append {first second : List UpdatesQuery} {table : UpdatesTable}
    {name : String} (before : NeverDeletes first table name)
    (after : NeverDeletes second (meanings first table) name) :
    NeverDeletes (first ++ second) table name := by
  induction first generalizing table with
  | nil => exact after
  | cons query first ih =>
      obtain ⟨now, later⟩ := neverDeletes_cons.mp before
      exact neverDeletes_cons.mpr ⟨now, ih later after⟩

theorem mem_of_lookup_eq {name : String} {before after : UpdatesTable}
    (same : after.lookup name = before.lookup name) (present : name ∈ before) : name ∈ after := by
  rw [← AList.lookup_isSome] at present ⊢
  rw [same]
  exact present

section Cleanup

variable {sha1 : String → String} {run : Run} {table : UpdatesTable}

/-- The queries of one file keep the row of every available file. -/
theorem neverDeletes_sent {files : List LocaleFile} {file : LocaleFile}
    (available : file ∈ run.available.files)
    (new : file.filename ∉ files.map LocaleFile.filename) {name : String}
    (present : run.isAvailable name) :
    NeverDeletes (sent file (path sha1 run table file)) (tableAfter sha1 run table files)
      name := by
  have notOrigin : (path sha1 run table file).origin ≠ some name :=
    path_origin_ne sha1 run table present
  have renamed : ∀ origin, path sha1 run table file = .rename origin →
      (tableAfter sha1 run table files).lookup file.filename = none := fun origin branch =>
    (lookup_of_path_rename sha1 run table available new branch).1
  revert notOrigin renamed
  generalize tableAfter sha1 run table files = rows
  cases path sha1 run table file with
  | skip => exact fun _ _ => neverDeletes_nil _ _
  | unreadable => exact fun _ _ => neverDeletes_nil _ _
  | rename origin =>
      intro notOrigin renamed
      have absent := renamed origin rfl
      have different : name ≠ origin := fun same => notOrigin (congrArg some same.symm)
      have unchanged := lookup_delete_of_absent absent
      refine neverDeletes_cons.mpr ⟨mem_of_lookup_eq (unchanged name), ?_⟩
      refine neverDeletes_cons.mpr ⟨?_, neverDeletes_nil _ _⟩
      intro there
      by_cases target : name = file.filename
      · rw [target, ← AList.lookup_isSome, unchanged, absent] at there
        cases there
      · exact mem_of_lookup_eq (lookup_rename_of_ne _ target different) there
  | moved changed =>
      intro _ _
      cases changed with
      | false => exact neverDeletes_nil _ _
      | true =>
          refine neverDeletes_cons.mpr ⟨?_, neverDeletes_nil _ _⟩
          intro there
          by_cases same : name = file.filename
          · subst same
            rw [← AList.lookup_isSome] at there ⊢
            simpa using there
          · exact mem_of_lookup_eq (lookup_setState_of_ne _ _ same) there
  | record mode content hash =>
      intro _ _
      refine neverDeletes_cons.mpr ⟨?_, neverDeletes_nil _ _⟩
      intro there
      by_cases same : name = file.filename
      · subst same
        rw [← AList.lookup_isSome]
        simp
      · exact mem_of_lookup_eq (lookup_replace_of_ne _ _ same) there

theorem neverDeletes_loop {files : List LocaleFile}
    (available : ∀ file ∈ files, file ∈ run.available.files)
    (distinct : (files.map LocaleFile.filename).Nodup) {name : String}
    (present : run.isAvailable name) :
    NeverDeletes (files.flatMap fun file => sent file (path sha1 run table file)) table name := by
  induction files using List.reverseRecOn with
  | nil => exact neverDeletes_nil _ _
  | append_singleton files file ih =>
      have new := filename_not_mem_of_nodup distinct
      rw [List.map_append, List.nodup_append] at distinct
      rw [List.flatMap_append, List.flatMap_singleton]
      exact neverDeletes_append
        (ih (fun other member => available other (List.mem_append_left _ member)) distinct.1)
        (neverDeletes_sent (available file (by simp)) new present)

theorem renameSources_sent (file : LocaleFile) (branch : UpdatePath) :
    renameSources (sent file branch) = branch.origin.toList := by
  cases branch with
  | moved changed => cases changed <;> rfl
  | _ => rfl

theorem renameSources_append (first second : List UpdatesQuery) :
    renameSources (first ++ second) = renameSources first ++ renameSources second :=
  List.filterMap_append

theorem renameSources_loop (files : List LocaleFile) :
    renameSources (files.flatMap fun file => sent file (path sha1 run table file)) =
      origins sha1 run table files := by
  induction files using List.reverseRecOn with
  | nil => rfl
  | append_singleton files file ih =>
      rw [List.flatMap_append, List.flatMap_singleton, renameSources_append, ih,
        renameSources_sent, origins_concat]

theorem deleteIn_not_mem_sent (file : LocaleFile) (branch : UpdatePath) (names : List String) :
    .deleteIn names ∉ sent file branch := by
  cases branch with
  | moved changed => cases changed <;> simp [sent]
  | _ => simp [sent]

/-- The queries of a completed run: those of the loop and at most one of the
cleanup. -/
theorem queries_of_update_ok {final : FetchState} {result : UpdateResult}
    (completed : update sha1 run table = .ok (final, result)) :
    ∃ state, Progress sha1 run table (passes run) state ∧
      final.queries = state.queries ++
        (if toCleanup run state.applied = [] then []
          else [.deleteIn ((toCleanup run state.applied).map AppliedFileEntry.name)]) := by
  obtain ⟨state, progress, rfl⟩ := update_ok sha1 run table completed
  refine ⟨state, progress, ?_⟩
  rw [cleanOrphans_eq, cleanUp]
  by_cases nothing : toCleanup run state.applied = []
  · simp [nothing]
  · simp [nothing, FetchState.submit]

theorem renameSources_final {final : FetchState} {state : FetchState} {names : List String}
    {nothing : Prop} [Decidable nothing] (progress : Progress sha1 run table (passes run) state)
    (queries : final.queries = state.queries ++ (if nothing then [] else [.deleteIn names])) :
    renameSources final.queries = origins sha1 run table (passes run) := by
  have last : renameSources (if nothing then [] else [.deleteIn names]) = [] := by
    split_ifs <;> rfl
  rw [queries, renameSources_append, last, List.append_nil, progress.queries, renameSources_loop]

theorem mem_filenames_passes (run : Run) (name : String) :
    name ∈ (passes run).map LocaleFile.filename ↔ run.isAvailable name := by
  simp [Run.isAvailable, List.mem_map, mem_passes]

theorem applied_length {state : FetchState} {queries : List UpdatesQuery}
    (progress : Progress sha1 run table (passes run) state)
    (sources : renameSources queries = origins sha1 run table (passes run)) :
    state.applied.length = (orphans run table queries).length := by
  have received := ((run.iteration_perm (table.entries.map fun row =>
    (⟨row.1, row.2.hash, row.2.state⟩ : AppliedFileEntry))).filter fun entry =>
      entry.name ∉ (passes run).map LocaleFile.filename ∧
        entry.name ∉ origins sha1 run table (passes run)).length_eq
  rw [progress.applied, receiveAppliedFiles, received, List.filter_map, List.length_map,
    orphans, sources, AList.keys, List.keys, List.filter_map, List.length_map]
  congr 2
  funext row
  simp only [Function.comp_apply, mem_filenames_passes]

theorem mem_toCleanup_iff {state : FetchState} {queries : List UpdatesQuery}
    (progress : Progress sha1 run table (passes run) state)
    (sources : renameSources queries = origins sha1 run table (passes run)) {name : String}
    {hash : String} {fileState : UpdateState} :
    (⟨name, hash, fileState⟩ : AppliedFileEntry) ∈ toCleanup run state.applied ↔
      CleanupAllowed run table queries ∧ table.lookup name = some ⟨hash, fileState⟩ ∧
        fileState ≠ .module ∧ ¬ run.isAvailable name ∧ name ∉ renameSources queries := by
  unfold toCleanup CleanupAllowed
  rw [applied_length progress sources]
  split_ifs with allowed
  · rw [List.mem_filter, progress.applied, List.mem_filter, mem_receiveAppliedFiles, sources]
    simp only [mem_filenames_passes, decide_eq_true_eq, allowed, true_and]
    tauto
  · simp [allowed]

theorem lookup_orphan {state : FetchState}
    (progress : Progress sha1 run table (passes run) state) {name : String}
    (gone : ¬ run.isAvailable name) (kept : name ∉ origins sha1 run table (passes run)) :
    (meanings state.queries table).lookup name = table.lookup name := by
  have rows := lookup_tableAfter_gone sha1 run table
    (fun file member => (mem_passes run).mp member) (passes_nodup run) gone
  rw [if_neg kept] at rows
  rw [progress.queries]
  exact rows

/-- The only query of `CleanUp` is the last one. -/
theorem deletesByCleanUp_iff {state final : FetchState} {removed : List AppliedFileEntry}
    (progress : Progress sha1 run table (passes run) state)
    (queries : final.queries = state.queries ++
      (if removed = [] then [] else [.deleteIn (removed.map AppliedFileEntry.name)]))
    {name : String} {row : UpdatesRow} :
    DeletesByCleanUp final.queries table name row ↔
      name ∈ removed.map AppliedFileEntry.name ∧
        (meanings state.queries table).lookup name = some row := by
  have notInLoop : ∀ names, .deleteIn names ∉ state.queries := by
    intro names member
    rw [progress.queries, List.mem_flatMap] at member
    obtain ⟨file, _, inSent⟩ := member
    exact deleteIn_not_mem_sent file _ names inSent
  constructor
  · rintro ⟨before, names, after, split, member, found⟩
    rw [queries] at split
    rcases List.append_eq_append_iff.mp split with ⟨middle, prior, rest⟩ | ⟨middle, prior, rest⟩
    · split_ifs at rest with nothing
      · simp at rest
      · cases middle with
        | nil =>
            simp only [List.nil_append, List.cons.injEq, deleteIn.injEq] at rest
            rw [List.append_nil] at prior
            rw [rest.1, ← prior]
            exact ⟨member, found⟩
        | cons query middle => simp at rest
    · cases middle with
      | nil =>
          split_ifs at rest with nothing
          · simp at rest
          · simp only [List.nil_append, List.cons.injEq, deleteIn.injEq] at rest
            rw [List.append_nil] at prior
            rw [← rest.1, prior]
            exact ⟨member, found⟩
      | cons query middle =>
          rw [List.cons_append, List.cons.injEq] at rest
          exact absurd (by rw [prior, ← rest.1]; simp) (notInLoop names)
  · rintro ⟨member, found⟩
    have something : removed ≠ [] := by
      rintro rfl
      cases member
    rw [if_neg something] at queries
    exact ⟨state.queries, _, [], queries, member, found⟩

end Cleanup

/-- The cleanup of a completed run deletes exactly the orphans that are not of
a module, provided the limit allows it, and no query of the run deletes the row
of an available file. -/
theorem update_cleanup_exact (sha1 : String → String) (run : Run) (table : UpdatesTable)
    {final : FetchState} {result : UpdateResult}
    (completed : update sha1 run table = .ok (final, result)) :
    (∀ name row, DeletesByCleanUp final.queries table name row ↔
      CleanupAllowed run table final.queries ∧ table.lookup name = some row ∧
        row.state ≠ .module ∧ ¬ run.isAvailable name ∧ name ∉ renameSources final.queries) ∧
    ∀ name, run.isAvailable name → NeverDeletes final.queries table name := by
  obtain ⟨state, progress, queries⟩ := queries_of_update_ok completed
  have sources := renameSources_final progress queries
  constructor
  · intro name row
    rw [deletesByCleanUp_iff progress queries]
    constructor
    · rintro ⟨member, found⟩
      obtain ⟨⟨_, hash, fileState⟩, removed, rfl⟩ := List.mem_map.mp member
      obtain ⟨allowed, initial, notModule, gone, kept⟩ :=
        (mem_toCleanup_iff progress sources).mp removed
      rw [lookup_orphan progress gone (sources ▸ kept), initial, Option.some.injEq] at found
      subst found
      exact ⟨allowed, initial, notModule, gone, kept⟩
    · rintro ⟨allowed, initial, notModule, gone, kept⟩
      have removed := (mem_toCleanup_iff progress sources).mpr
        ⟨allowed, initial, notModule, gone, kept⟩
      refine ⟨List.mem_map_of_mem removed, ?_⟩
      rw [lookup_orphan progress gone (sources ▸ kept), initial]
  · intro name present
    rw [queries, progress.queries]
    refine neverDeletes_append
      (neverDeletes_loop (fun file member => (mem_passes run).mp member) (passes_nodup run)
        present) ?_
    split_ifs with nothing
    · exact neverDeletes_nil _ _
    · refine neverDeletes_cons.mpr ⟨?_, neverDeletes_nil _ _⟩
      apply mem_of_lookup_eq
      rw [lookup_deleteIn, if_neg]
      intro member
      obtain ⟨⟨_, hash, fileState⟩, removed, rfl⟩ := List.mem_map.mp member
      exact ((mem_toCleanup_iff progress sources).mp
        removed).2.2.2.1 present

/-- With no file available, the only row is deleted. -/
theorem update_cleanup_of_single_orphan :
    ∃ final result, update exampleDigest (exampleRun ⟨[], by decide⟩) exampleTable =
        .ok (final, result) ∧
      DeletesByCleanUp final.queries exampleTable "old.sql"
        ⟨exampleDigest "SELECT 1;", .released⟩ := by
  refine ⟨_, _, rfl, ((update_cleanup_exact exampleDigest (exampleRun ⟨[], by decide⟩)
    exampleTable rfl).1 _ _).mpr ?_⟩
  exact ⟨.inr (by decide), rfl, by decide, by decide, by decide⟩

end UpdateFetcher

end WarheadBot
