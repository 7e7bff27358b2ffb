import WarheadBot.UpdateFetcher

/-!
# The loop of the update fetcher

The entries that a run erases while it works never belong to a file that is
still to come, so the branch taken for a file depends on the rows read at the
start of the run only.  This file proves that, and reduces the whole loop to
the queries and scripts that the branches of the single files give.
-/

namespace WarheadBot

namespace UpdateFetcher

open UpdatesQuery

theorem find?_name_eq_some_iff {entries : List AppliedFileEntry}
    (distinct : (entries.map AppliedFileEntry.name).Nodup) {name : String}
    {entry : AppliedFileEntry} :
    findApplied entries name = some entry ↔ entry ∈ entries ∧ entry.name = name := by
  induction entries with
  | nil => simp [findApplied]
  | cons first entries ih =>
      rw [List.map_cons, List.nodup_cons] at distinct
      have rest := ih distinct.2
      unfold findApplied at rest ⊢
      by_cases same : first.name = name
      · rw [List.find?_cons_of_pos (by simpa using same)]
        constructor
        · intro found
          cases found
          exact ⟨List.mem_cons_self, same⟩
        · rintro ⟨member, named⟩
          rcases List.mem_cons.mp member with head | tail
          · rw [head]
          · have absent := distinct.1
            rw [same, ← named] at absent
            exact absurd (List.mem_map_of_mem tail) absent
      · rw [List.find?_cons_of_neg (by simpa using same), rest]
        constructor
        · rintro ⟨member, named⟩
          exact ⟨List.mem_cons_of_mem _ member, named⟩
        · rintro ⟨member, named⟩
          rcases List.mem_cons.mp member with head | tail
          · exact absurd (head ▸ named) same
          · exact ⟨tail, named⟩

section Rows

variable (run : Run) (table : UpdatesTable)

theorem mem_receiveAppliedFiles {entry : AppliedFileEntry} :
    entry ∈ receiveAppliedFiles run table ↔
      table.lookup entry.name = some ⟨entry.hash, entry.state⟩ := by
  rw [receiveAppliedFiles, (run.iteration_perm _).mem_iff, List.mem_map]
  constructor
  · rintro ⟨row, member, rfl⟩
    exact AList.mem_lookup_iff.mpr member
  · intro found
    exact ⟨⟨entry.name, ⟨entry.hash, entry.state⟩⟩, AList.mem_lookup_iff.mp found, rfl⟩

theorem receiveAppliedFiles_nodup :
    ((receiveAppliedFiles run table).map AppliedFileEntry.name).Nodup := by
  have perm := (run.iteration_perm (table.entries.map fun row =>
    (⟨row.1, row.2.hash, row.2.state⟩ : AppliedFileEntry))).map AppliedFileEntry.name
  refine perm.nodup_iff.mpr ?_
  rw [List.map_map]
  exact table.keys_nodup

theorem findApplied_receiveAppliedFiles (name : String) :
    findApplied (receiveAppliedFiles run table) name =
      (table.lookup name).map fun row => ⟨name, row.hash, row.state⟩ := by
  apply Option.ext
  intro entry
  rw [find?_name_eq_some_iff (receiveAppliedFiles_nodup run table), mem_receiveAppliedFiles,
    Option.map_eq_some_iff]
  constructor
  · rintro ⟨row, rfl⟩
    exact ⟨_, row, rfl⟩
  · rintro ⟨row, looked, rfl⟩
    exact ⟨looked, rfl⟩

theorem lookup_of_hashToName {hash name : String}
    (cached : hashToName (receiveAppliedFiles run table) hash = some name) :
    ∃ row, table.lookup name = some row ∧ row.hash = hash := by
  rw [hashToName, Option.map_eq_some_iff] at cached
  obtain ⟨entry, found, rfl⟩ := cached
  have member := List.mem_of_find?_eq_some found
  have same := List.find?_some found
  exact ⟨_, (mem_receiveAppliedFiles run table).mp member, by simpa using same⟩

end Rows

section Paths

variable (sha1 : String → String) (run : Run) (table : UpdatesTable)

/-- The branch for a file, decided from the rows at the start of the run. -/
def path (file : LocaleFile) : UpdatePath :=
  updatePath sha1 run (hashToName (receiveAppliedFiles run table))
    (receiveAppliedFiles run table) file

theorem path_of_row {file : LocaleFile} {row : UpdatesRow}
    (found : table.lookup file.filename = some row) :
    path sha1 run table file =
      if !run.redundancyChecks then
        .skip
      else if !run.archivedRedundancy && row.state == .archived && file.state == .archived then
        .skip
      else
        match file.content with
        | none => .unreadable
        | some content =>
            if run.allowRehash && row.hash.isEmpty then
              .record .rehash content (sha1 content)
            else if row.hash ≠ sha1 content then
              .record .apply content (sha1 content)
            else
              .moved (row.state != file.state) := by
  have entry := findApplied_receiveAppliedFiles run table file.filename
  rw [found, Option.map_some] at entry
  unfold path updatePath
  split
  · rename_i nothing
    rw [entry] at nothing
    cases nothing
  · rename_i other same
    rw [entry] at same
    cases same
    rfl

theorem path_of_noRow {file : LocaleFile} (noRow : table.lookup file.filename = none) :
    path sha1 run table file =
      match file.content with
      | none => .unreadable
      | some content =>
          match hashToName (receiveAppliedFiles run table) (sha1 content) with
          | none => .record .apply content (sha1 content)
          | some name =>
              if run.isAvailable name then
                .record .apply content (sha1 content)
              else
                .rename name := by
  have nothing := findApplied_receiveAppliedFiles run table file.filename
  rw [noRow, Option.map_none] at nothing
  unfold path updatePath
  split
  · rfl
  · rename_i entry found
    rw [nothing] at found
    cases found

/-- What the branch of a file says about the file, its row and the cache. -/
theorem path_cases (file : LocaleFile) :
    (path sha1 run table file = .skip ∧
      (run.redundancyChecks = false ∨ run.archivedRedundancy = false)) ∨
    (path sha1 run table file = .unreadable ∧ file.content = none) ∨
    ∃ content, file.content = some content ∧
      ((∃ mode, path sha1 run table file = .record mode content (sha1 content)) ∨
        (∃ origin, path sha1 run table file = .rename origin ∧
          table.lookup file.filename = none ∧ ¬ run.isAvailable origin ∧
          hashToName (receiveAppliedFiles run table) (sha1 content) = some origin) ∨
        ∃ changed row, path sha1 run table file = .moved changed ∧
          table.lookup file.filename = some row ∧ row.hash = sha1 content) := by
  cases found : table.lookup file.filename with
  | none =>
      rw [path_of_noRow sha1 run table found]
      cases read : file.content with
      | none => simp
      | some content =>
          refine .inr (.inr ⟨content, rfl, ?_⟩)
          dsimp only
          cases cached : hashToName (receiveAppliedFiles run table) (sha1 content) with
          | none => exact .inl ⟨.apply, rfl⟩
          | some name =>
              dsimp only
              split_ifs with present
              · exact .inl ⟨.apply, rfl⟩
              · exact .inr (.inl ⟨name, rfl, rfl, present, rfl⟩)
  | some row =>
      rw [path_of_row sha1 run table found]
      by_cases checked : run.redundancyChecks = true
      · by_cases archived : (!run.archivedRedundancy && row.state == .archived &&
            file.state == .archived) = true
        · have unchecked : run.archivedRedundancy = false := by
            simp only [Bool.and_eq_true, Bool.not_eq_true'] at archived
            exact archived.1.1
          exact .inl ⟨by simp [checked, archived], .inr unchecked⟩
        · rw [if_neg (by simp [checked]), if_neg archived]
          cases read : file.content with
          | none => exact .inr (.inl ⟨rfl, rfl⟩)
          | some content =>
              refine .inr (.inr ⟨content, rfl, ?_⟩)
              dsimp only
              split_ifs with _ same
              · exact .inl ⟨.rehash, rfl⟩
              · exact .inl ⟨.apply, rfl⟩
              · exact .inr (.inr ⟨_, row, rfl, rfl, not_not.mp same⟩)
      · exact .inl ⟨by simp [checked], .inl (by simpa using checked)⟩

theorem path_rename {file : LocaleFile} {origin : String}
    (renamed : path sha1 run table file = .rename origin) :
    table.lookup file.filename = none ∧ ¬ run.isAvailable origin ∧
      ∃ content, file.content = some content ∧
        hashToName (receiveAppliedFiles run table) (sha1 content) = some origin := by
  rcases path_cases sha1 run table file with ⟨branch, _⟩ | ⟨branch, _⟩ |
    ⟨content, read, ⟨mode, branch⟩ | ⟨name, branch, noRow, gone, cached⟩ | ⟨_, _, branch, _⟩⟩
  all_goals
    rw [branch] at renamed
    cases renamed
  exact ⟨noRow, gone, content, read, cached⟩

/-- A file without a row whose hash belongs to a file that is gone is treated
as that file renamed. -/
theorem path_eq_rename {file : LocaleFile} {content origin : String}
    (noRow : table.lookup file.filename = none) (read : file.content = some content)
    (cached : hashToName (receiveAppliedFiles run table) (sha1 content) = some origin)
    (gone : ¬ run.isAvailable origin) :
    path sha1 run table file = .rename origin := by
  rw [path_of_noRow sha1 run table noRow, read]
  simp only [cached, if_neg gone]

theorem path_record {file : LocaleFile} {mode : UpdateMode} {content hash : String}
    (recorded : path sha1 run table file = .record mode content hash) :
    file.content = some content ∧ hash = sha1 content := by
  rcases path_cases sha1 run table file with ⟨branch, _⟩ | ⟨branch, _⟩ |
    ⟨text, read, ⟨mode, branch⟩ | ⟨_, branch, _⟩ | ⟨_, _, branch, _⟩⟩
  all_goals
    rw [branch] at recorded
    cases recorded
  exact ⟨read, rfl⟩

theorem path_moved {file : LocaleFile} {changed : Bool}
    (moved : path sha1 run table file = .moved changed) :
    ∃ content row, file.content = some content ∧ table.lookup file.filename = some row ∧
      row.hash = sha1 content := by
  rcases path_cases sha1 run table file with ⟨branch, _⟩ | ⟨branch, _⟩ |
    ⟨content, read, ⟨_, branch⟩ | ⟨_, branch, _⟩ | ⟨_, row, branch, found, hash⟩⟩
  all_goals
    rw [branch] at moved
    cases moved
  exact ⟨content, row, read, found, hash⟩

theorem path_ne_skip (redundancy : run.redundancyChecks = true)
    (archived : run.archivedRedundancy = true) (file : LocaleFile) :
    path sha1 run table file ≠ .skip := by
  intro skipped
  rcases path_cases sha1 run table file with ⟨_, unchecked | unchecked⟩ | ⟨branch, _⟩ |
    ⟨_, _, ⟨_, branch⟩ | ⟨_, branch, _⟩ | ⟨_, _, branch, _⟩⟩
  · rw [redundancy] at unchecked
    cases unchecked
  · rw [archived] at unchecked
    cases unchecked
  all_goals
    rw [branch] at skipped
    cases skipped

def sent (file : LocaleFile) : UpdatePath → List UpdatesQuery
  | .skip => []
  | .unreadable => []
  | .rename origin => [.delete file.filename, .rename file.filename origin]
  | .moved changed => if changed then [.setState file.state file.filename] else []
  | .record _ _ hash => [.replace file.filename hash file.state]

def script (file : LocaleFile) : UpdatePath → List (String × String)
  | .record .apply content _ => [(file.filename, content)]
  | _ => []

/-- The row a branch takes its entry from. -/
def UpdatePath.origin : UpdatePath → Option String
  | .rename origin => some origin
  | _ => none

/-- What following a branch does to the state, when it does not throw. -/
theorem followPath_ok {file : LocaleFile} {state next : FetchState} {branch : UpdatePath}
    (followed : followPath run file state branch = .ok next) :
    next.applied = eraseApplied state.applied (branch.origin.getD file.filename) ∧
      next.queries = state.queries ++ sent file branch ∧
      next.table = meanings (sent file branch) state.table ∧
      next.executed = state.executed ++ script file branch ∧ branch ≠ .unreadable := by
  cases branch with
  | skip =>
      cases followed
      simp [FetchState.eraseApplied, sent, script, UpdatePath.origin, meanings]
  | unreadable => cases followed
  | rename origin =>
      cases followed
      simp [FetchState.eraseApplied, renameEntry, FetchState.submit, sent, script,
        UpdatePath.origin, meanings]
  | moved changed =>
      cases followed
      cases changed <;>
        simp [FetchState.eraseApplied, updateState, FetchState.submit, sent, script,
          UpdatePath.origin, meanings]
  | record mode content hash =>
      cases mode with
      | rehash =>
          cases followed
          simp [FetchState.eraseApplied, updateEntry, FetchState.submit, sent, script,
            UpdatePath.origin, meanings]
      | apply =>
          simp only [followPath] at followed
          split at followed
          · cases followed
            simp [FetchState.eraseApplied, updateEntry, FetchState.submit, sent, script,
              UpdatePath.origin, meanings]
          · cases followed

theorem followPath_error {file : LocaleFile} {state left : FetchState} {branch : UpdatePath}
    (thrown : followPath run file state branch = .error left) : left = state := by
  cases branch with
  | skip => cases thrown
  | unreadable => cases thrown; rfl
  | rename origin => cases thrown
  | moved changed => cases thrown
  | record mode content hash =>
      cases mode with
      | rehash => cases thrown
      | apply =>
          simp only [followPath] at thrown
          split at thrown
          · cases thrown
          · cases thrown
            rfl

def origins (files : List LocaleFile) : List String :=
  files.filterMap fun file => (path sha1 run table file).origin

theorem mem_origins {files : List LocaleFile} {name : String} :
    name ∈ origins sha1 run table files ↔
      ∃ file ∈ files, path sha1 run table file = .rename name := by
  unfold origins
  rw [List.mem_filterMap]
  constructor
  · rintro ⟨file, member, renamed⟩
    refine ⟨file, member, ?_⟩
    cases branch : path sha1 run table file <;> simp [branch, UpdatePath.origin] at renamed
    rw [renamed]
  · rintro ⟨file, member, renamed⟩
    exact ⟨file, member, by rw [renamed]; rfl⟩

theorem origins_concat (files : List LocaleFile) (file : LocaleFile) :
    origins sha1 run table (files ++ [file]) =
      origins sha1 run table files ++ (path sha1 run table file).origin.toList := by
  unfold origins
  rw [List.filterMap_append]
  cases branch : (path sha1 run table file).origin <;> simp [branch]

theorem origins_not_available {files : List LocaleFile} {name : String}
    (taken : name ∈ origins sha1 run table files) : ¬ run.isAvailable name := by
  obtain ⟨file, _, renamed⟩ := (mem_origins sha1 run table).mp taken
  exact (path_rename sha1 run table renamed).2.1

/-- The state after a list of files was treated without a throw. -/
structure Progress (done : List LocaleFile) (state : FetchState) : Prop where
  applied : state.applied = (receiveAppliedFiles run table).filter fun entry =>
    entry.name ∉ done.map LocaleFile.filename ∧ entry.name ∉ origins sha1 run table done
  queries : state.queries = done.flatMap fun file => sent file (path sha1 run table file)
  rows : state.table = meanings state.queries table
  executed : state.executed = done.flatMap fun file => script file (path sha1 run table file)
  readable : ∀ file ∈ done, path sha1 run table file ≠ .unreadable

theorem progress_start : Progress sha1 run table [] (startState run table) := by
  constructor <;> simp [startState, origins, meanings]

/-- A file that is still to come finds its entry as it was at the start. -/
theorem updatePath_of_progress {done : List LocaleFile} {state : FetchState}
    (progress : Progress sha1 run table done state) {file : LocaleFile}
    (available : file ∈ run.available.files)
    (new : file.filename ∉ done.map LocaleFile.filename) :
    updatePath sha1 run (hashToName (receiveAppliedFiles run table)) state.applied file =
      path sha1 run table file := by
  have notTaken : file.filename ∉ origins sha1 run table done := fun taken =>
    origins_not_available sha1 run table taken ⟨file, available, rfl⟩
  have same : findApplied state.applied file.filename =
      findApplied (receiveAppliedFiles run table) file.filename := by
    rw [progress.applied, findApplied, findApplied, List.find?_filter]
    congr 1
    funext entry
    by_cases named : entry.name = file.filename
    · simp [named, notTaken, List.mem_map] at new ⊢
      exact new
    · simp [named]
  unfold path updatePath
  rw [same]

theorem progress_step {done : List LocaleFile} {state next : FetchState}
    (progress : Progress sha1 run table done state) {file : LocaleFile}
    (available : file ∈ run.available.files)
    (new : file.filename ∉ done.map LocaleFile.filename)
    (treated : applyUpdateFile sha1 run (hashToName (receiveAppliedFiles run table)) file state =
      .ok next) :
    Progress sha1 run table (done ++ [file]) next := by
  rw [applyUpdateFile, updatePath_of_progress sha1 run table progress available new] at treated
  obtain ⟨applied, queries, rows, executed, read⟩ := followPath_ok run treated
  refine ⟨?_, ?_, ?_, ?_, ?_⟩
  · rw [applied, progress.applied, eraseApplied, List.filter_filter]
    apply List.filter_congr
    intro entry member
    have noEntry : ∀ origin, path sha1 run table file = .rename origin →
        entry.name ≠ file.filename := by
      intro origin renamed same
      have row := (mem_receiveAppliedFiles run table).mp member
      rw [same, (path_rename sha1 run table renamed).1] at row
      cases row
    rw [origins_concat]
    cases branch : path sha1 run table file with
    | rename origin =>
        have distinct := noEntry origin branch
        simp only [UpdatePath.origin, Option.getD_some, Option.toList_some]
        grind
    | _ =>
        simp only [UpdatePath.origin, Option.getD_none, Option.toList_none]
        grind
  · rw [queries, progress.queries, List.flatMap_append]
    simp
  · rw [rows, queries, meanings_append, progress.rows]
  · rw [executed, progress.executed, List.flatMap_append]
    simp
  · intro other member
    rcases List.mem_append.mp member with earlier | last
    · exact progress.readable other earlier
    · rw [List.mem_singleton.mp last]
      exact read

theorem filename_not_mem_of_nodup {before after : List LocaleFile} {file : LocaleFile}
    (distinct : ((before ++ file :: after).map LocaleFile.filename).Nodup) :
    file.filename ∉ before.map LocaleFile.filename := by
  rw [List.map_append, List.map_cons, List.nodup_append] at distinct
  exact fun member => distinct.2.2 _ member _ List.mem_cons_self rfl

/-- The files not yet treated carry the progress on, up to the first throw. -/
theorem applyUpdateFiles_progress (rest : List LocaleFile) {done : List LocaleFile}
    {state : FetchState}
    (progress : Progress sha1 run table done state)
    (available : ∀ file ∈ rest, file ∈ run.available.files)
    (distinct : ((done ++ rest).map LocaleFile.filename).Nodup) :
    match applyUpdateFiles sha1 run (hashToName (receiveAppliedFiles run table)) rest state with
    | .ok next => Progress sha1 run table (done ++ rest) next
    | .error left => ∃ treated later, rest = treated ++ later ∧
        Progress sha1 run table (done ++ treated) left := by
  induction rest generalizing done state with
  | nil => simpa [applyUpdateFiles] using progress
  | cons file rest ih =>
      have reordered : done ++ file :: rest = (done ++ [file]) ++ rest := by simp
      have new := filename_not_mem_of_nodup distinct
      simp only [applyUpdateFiles]
      cases treated : applyUpdateFile sha1 run (hashToName (receiveAppliedFiles run table)) file
          state with
      | error left =>
          have unchanged : left = state := followPath_error run treated
          exact ⟨[], file :: rest, rfl, by simpa [unchanged] using progress⟩
      | ok next =>
          have advanced := progress_step sha1 run table progress
            (available file List.mem_cons_self) new treated
          have remaining := ih advanced
            (fun other member => available other (List.mem_cons_of_mem _ member))
            (by rw [← reordered]; exact distinct)
          dsimp only
          cases finished : applyUpdateFiles sha1 run
              (hashToName (receiveAppliedFiles run table)) rest next with
          | ok last =>
              rw [finished] at remaining
              rw [reordered]
              exact remaining
          | error left =>
              rw [finished] at remaining
              obtain ⟨front, later, split, stopped⟩ := remaining
              exact ⟨file :: front, later, by simp [split], by simpa using stopped⟩

theorem passes_perm : (passes run).Perm run.available.files := by
  unfold passes
  induction run.available.files with
  | nil => simp
  | cons file files ih =>
      simp only [Bool.decide_or, List.append_assoc] at ih
      cases state : file.state <;> simp [state]
      · exact ih
      · exact List.perm_middle.trans (ih.cons file)
      · rw [← List.append_assoc] at ih ⊢
        exact List.perm_middle.trans (ih.cons file)
      · exact ih

theorem mem_passes {file : LocaleFile} : file ∈ passes run ↔ file ∈ run.available.files :=
  (passes_perm run).mem_iff

theorem filenames_nodup : (run.available.files.map LocaleFile.filename).Nodup := by
  rw [List.nodup_iff_pairwise_ne, List.pairwise_map]
  exact run.available.sorted.imp fun smaller => ne_of_lt smaller

theorem passes_nodup : ((passes run).map LocaleFile.filename).Nodup :=
  ((passes_perm run).map LocaleFile.filename).nodup_iff.mpr (filenames_nodup run)

theorem passes_progress :
    match applyUpdateFiles sha1 run (hashToName (receiveAppliedFiles run table)) (passes run)
        (startState run table) with
    | .ok state => Progress sha1 run table (passes run) state
    | .error left => ∃ treated later, passes run = treated ++ later ∧
        Progress sha1 run table treated left :=
  applyUpdateFiles_progress sha1 run table (passes run) (progress_start sha1 run table)
    (fun _ member => (mem_passes run).mp member) (passes_nodup run)

/-- A run that throws has treated the first few files. -/
theorem update_error {left : FetchState} (thrown : update sha1 run table = .error left) :
    ∃ treated later, passes run = treated ++ later ∧ Progress sha1 run table treated left := by
  have loop := passes_progress sha1 run table
  unfold update at thrown
  dsimp only at thrown
  cases finished : applyUpdateFiles sha1 run (hashToName (receiveAppliedFiles run table))
      (passes run) (startState run table) with
  | ok state => simp [finished] at thrown
  | error state =>
      rw [finished] at loop thrown
      cases thrown
      exact loop

/-- A run that completes has treated every file and then removes orphans. -/
theorem update_ok {final : FetchState} {result : UpdateResult}
    (completed : update sha1 run table = .ok (final, result)) :
    ∃ state, Progress sha1 run table (passes run) state ∧ final = cleanOrphans run state := by
  have loop := passes_progress sha1 run table
  unfold update at completed
  dsimp only at completed
  cases finished : applyUpdateFiles sha1 run (hashToName (receiveAppliedFiles run table))
      (passes run) (startState run table) with
  | error state => simp [finished] at completed
  | ok state =>
      rw [finished] at loop completed
      cases completed
      exact ⟨state, loop, rfl⟩

end Paths

end UpdateFetcher

end WarheadBot
