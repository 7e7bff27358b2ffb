import WarheadBot.UpdateFetcherRecords

/-!
# Scripts are applied once

A script that was applied has a row with the hash of its content, and that row
survives every later run in which the file still has this content: the branches
of the other files and the removal of orphans leave it alone, and the branches
of the file itself keep the hash.  Hence no run applies the script a second
time, however many of the runs are stopped by an exception.
-/

namespace WarheadBot

namespace UpdateFetcher

/-- What a run leaves, whether it completes or throws. -/
def outcome (sha1 : String → String) (run : Run) (table : UpdatesTable) : FetchState :=
  match update sha1 run table with
  | .ok (final, _) => final
  | .error left => left

/-- The scripts applied by successive runs on one database. -/
def appliedScripts (sha1 : String → String) : UpdatesTable → List Run → List (String × String)
  | _, [] => []
  | table, run :: runs =>
      (outcome sha1 run table).executed ++ appliedScripts sha1 (outcome sha1 run table).table runs

/-- The file is available, and if it can be read it has this content. -/
def Run.provides (run : Run) (name content : String) : Prop :=
  ∃ file ∈ run.available.files, file.filename = name ∧
    ∀ text, file.content = some text → text = content

/-- The row of the file has the hash of this content. -/
def Current (sha1 : String → String) (table : UpdatesTable) (name content : String) : Prop :=
  ∃ row, table.lookup name = some row ∧ row.hash = sha1 content

section History

variable {sha1 : String → String} {run : Run} {table : UpdatesTable}

theorem cleanOrphans_executed (state : FetchState) :
    (cleanOrphans run state).executed = state.executed := by
  unfold cleanOrphans cleanUp
  split_ifs <;> rfl

/-- Every run treats the first few files; after that it can only touch rows of
files that are gone. -/
theorem outcome_progress (sha1 : String → String) (run : Run) (table : UpdatesTable) :
    ∃ treated later state, passes run = treated ++ later ∧
      Progress sha1 run table treated state ∧
      (outcome sha1 run table).executed = state.executed ∧
      ∀ name, run.isAvailable name →
        (outcome sha1 run table).table.lookup name =
          (tableAfter sha1 run table treated).lookup name := by
  unfold outcome
  cases finished : update sha1 run table with
  | error left =>
      obtain ⟨treated, later, split, progress⟩ := update_error sha1 run table finished
      refine ⟨treated, later, left, split, progress, rfl, ?_⟩
      intro name available
      rw [table_of_progress progress]
  | ok final =>
      obtain ⟨state, progress, same⟩ := update_ok sha1 run table finished
      refine ⟨passes run, [], state, by simp, progress, ?_, ?_⟩
      · dsimp only
        rw [same, cleanOrphans_executed]
      · rintro name ⟨file, member, rfl⟩
        dsimp only
        rw [same, lookup_cleanOrphans progress ((mem_passes run).mpr member),
          table_of_progress progress]

/-- The row of an available file after a run: the one its branch has left, or
the old one if the run threw before. -/
theorem lookup_outcome (sha1 : String → String) (run : Run) (table : UpdatesTable)
    {treated later : List LocaleFile} (split : passes run = treated ++ later)
    {file : LocaleFile} (available : file ∈ run.available.files) :
    (∃ before after, treated = before ++ file :: after ∧
      (tableAfter sha1 run table treated).lookup file.filename =
        settledRow file (tableAfter sha1 run table before) (path sha1 run table file)) ∨
    file.filename ∉ treated.map LocaleFile.filename ∧
      (tableAfter sha1 run table treated).lookup file.filename = table.lookup file.filename := by
  have distinct := passes_nodup run
  have fromDisk : ∀ other ∈ treated, other ∈ run.available.files := fun other member =>
    (mem_passes run).mp (split ▸ List.mem_append_left _ member)
  rw [split, List.map_append, List.nodup_append] at distinct
  by_cases member : file ∈ treated
  · obtain ⟨before, after, rfl⟩ := List.append_of_mem member
    exact .inl ⟨before, after, rfl,
      lookup_tableAfter_settled sha1 run table fromDisk distinct.1⟩
  · have remaining : file ∈ later := by
      have place := (mem_passes run).mpr available
      rw [split, List.mem_append] at place
      exact place.resolve_left member
    have new : file.filename ∉ treated.map LocaleFile.filename := fun treatedName =>
      distinct.2.2 _ treatedName _ (List.mem_map_of_mem remaining) rfl
    exact .inr ⟨new, lookup_tableAfter_untouched sha1 run table ⟨file, available, rfl⟩ new⟩

theorem path_of_current {file : LocaleFile} {content : String} {row : UpdatesRow}
    (found : table.lookup file.filename = some row) (hash : row.hash = sha1 content)
    (same : ∀ text, file.content = some text → text = content) :
    path sha1 run table file = .skip ∨ path sha1 run table file = .unreadable ∨
      (∃ changed, path sha1 run table file = .moved changed) ∨
      path sha1 run table file = .record .rehash content (sha1 content) := by
  rw [path_of_row sha1 run table found]
  cases read : file.content with
  | none =>
      dsimp only
      split_ifs <;> simp
  | some text =>
      have equal := same text read
      subst equal
      dsimp only
      split_ifs with _ _ _ differs
      · simp
      · simp
      · simp
      · exact absurd hash differs
      · simp

/-- A run keeps the row of a file whose content is unchanged. -/
theorem outcome_current {name content : String} (current : Current sha1 table name content)
    (provided : run.provides name content) :
    Current sha1 (outcome sha1 run table).table name content := by
  obtain ⟨row, found, hash⟩ := current
  obtain ⟨file, available, rfl, same⟩ := provided
  obtain ⟨treated, later, state, split, _, _, rows⟩ := outcome_progress sha1 run table
  unfold Current
  rw [rows file.filename ⟨file, available, rfl⟩]
  rcases lookup_outcome sha1 run table split available with ⟨before, after, rfl, settled⟩ | ⟨_, old⟩
  · have distinct := passes_nodup run
    rw [split, List.append_assoc] at distinct
    have new : file.filename ∉ before.map LocaleFile.filename :=
      filename_not_mem_of_nodup distinct
    have untouched := lookup_tableAfter_untouched sha1 run table
      ⟨file, available, rfl⟩ new
    rw [settled]
    rcases path_of_current found hash same with branch | branch | ⟨changed, branch⟩ | branch
    · exact ⟨row, by rw [branch, settledRow, untouched, found], hash⟩
    · exact ⟨row, by rw [branch, settledRow, untouched, found], hash⟩
    · rw [branch, settledRow, untouched, found]
      cases changed with
      | false => exact ⟨row, rfl, hash⟩
      | true => exact ⟨{ row with state := file.state }, rfl, hash⟩
    · exact ⟨⟨sha1 content, file.state⟩, by rw [branch, settledRow], rfl⟩
  · exact ⟨row, old.trans found, hash⟩

theorem mem_script {file : LocaleFile} {branch : UpdatePath} {name content : String}
    (ran : (name, content) ∈ script file branch) :
    name = file.filename ∧ ∃ hash, branch = .record .apply content hash := by
  cases branch with
  | record mode text hash =>
      cases mode with
      | apply =>
          simp only [script, List.mem_singleton, Prod.mk.injEq] at ran
          obtain ⟨rfl, rfl⟩ := ran
          exact ⟨rfl, hash, rfl⟩
      | rehash => cases ran
  | _ => cases ran

/-- The files whose scripts a run applies. -/
theorem mem_executed {name content : String}
    (ran : (name, content) ∈ (outcome sha1 run table).executed) :
    ∃ file before after later hash, passes run = before ++ file :: after ++ later ∧
      file.filename = name ∧ path sha1 run table file = .record .apply content hash ∧
      (outcome sha1 run table).table.lookup name = some ⟨hash, file.state⟩ := by
  obtain ⟨treated, later, state, split, progress, executed, rows⟩ :=
    outcome_progress sha1 run table
  rw [executed, progress.executed, List.mem_flatMap] at ran
  obtain ⟨file, member, applied⟩ := ran
  obtain ⟨rfl, hash, branch⟩ := mem_script applied
  have available : file ∈ run.available.files :=
    (mem_passes run).mp (split ▸ List.mem_append_left _ member)
  rcases lookup_outcome sha1 run table split available with
    ⟨before, after, place, settled⟩ | ⟨new, _⟩
  · refine ⟨file, before, after, later, hash, by rw [split, place], rfl, branch, ?_⟩
    rw [rows file.filename ⟨file, available, rfl⟩, settled, branch, settledRow]
  · exact absurd (List.mem_map_of_mem member) new

theorem script_names_sublist (files : List LocaleFile) :
    List.Sublist ((files.flatMap fun file => script file (path sha1 run table file)).map Prod.fst)
      (files.map LocaleFile.filename) := by
  induction files with
  | nil => simp
  | cons file files ih =>
      rw [List.flatMap_cons, List.map_append, List.map_cons]
      cases branch : path sha1 run table file with
      | record mode content hash =>
          cases mode with
          | apply => simpa [script] using ih
          | rehash => simpa [script] using ih.cons file.filename
      | _ => simpa [script] using ih.cons file.filename

theorem executed_nodup (sha1 : String → String) (run : Run) (table : UpdatesTable) :
    (outcome sha1 run table).executed.Nodup := by
  obtain ⟨treated, later, state, split, progress, executed, _⟩ :=
    outcome_progress sha1 run table
  have distinct := passes_nodup run
  rw [split, List.map_append, List.nodup_append] at distinct
  rw [executed, progress.executed]
  exact List.Nodup.of_map Prod.fst (distinct.1.sublist (script_names_sublist treated))

/-- An applied script has its row at the end of the run. -/
theorem current_of_executed {name content : String}
    (ran : (name, content) ∈ (outcome sha1 run table).executed) :
    Current sha1 (outcome sha1 run table).table name content := by
  obtain ⟨file, before, after, later, hash, _, _, branch, found⟩ := mem_executed ran
  exact ⟨_, found, (path_record sha1 run table branch).2⟩

theorem not_executed_of_current {name content : String}
    (current : Current sha1 table name content) :
    (name, content) ∉ (outcome sha1 run table).executed := by
  intro ran
  obtain ⟨row, found, hash⟩ := current
  obtain ⟨file, before, after, later, digest, _, rfl, branch, _⟩ := mem_executed ran
  have read := (path_record sha1 run table branch).1
  have same : ∀ text, file.content = some text → text = content := by
    intro text readText
    rw [read, Option.some.injEq] at readText
    exact readText.symm
  rcases path_of_current found hash same with other | other | ⟨changed, other⟩ | other
  all_goals
    rw [branch] at other
    cases other

theorem not_applied_of_current {name content : String} {between : List Run} (later : Run)
    (kept : ∀ run ∈ between, run.provides name content)
    (current : Current sha1 table name content) :
    (name, content) ∉ appliedScripts sha1 table (between ++ [later]) := by
  induction between generalizing table with
  | nil =>
      simpa [appliedScripts] using not_executed_of_current current
  | cons run between ih =>
      rw [List.cons_append, appliedScripts, List.mem_append, not_or]
      have survives := outcome_current current (kept run List.mem_cons_self)
      exact ⟨not_executed_of_current current,
        ih (fun other member => kept other (List.mem_cons_of_mem _ member)) survives⟩

end History

/-- A script that a run applies is applied once in this run and not again by
any later run, as long as the file has kept its content in the runs between. -/
theorem script_applied_once (sha1 : String → String) (table : UpdatesTable) (run : Run)
    (between : List Run) (later : Run) (name content : String)
    (ran : (name, content) ∈ (outcome sha1 run table).executed)
    (kept : ∀ run ∈ between, run.provides name content) :
    (appliedScripts sha1 table (run :: (between ++ [later]))).count (name, content) = 1 := by
  have once : (outcome sha1 run table).executed.count (name, content) = 1 :=
    List.count_eq_one_of_mem (executed_nodup sha1 run table) ran
  have never := not_applied_of_current later kept (current_of_executed ran)
  rw [appliedScripts, List.count_append, once, List.count_eq_zero_of_not_mem never]

/-- The script of `a.sql` on an empty table, in three successive runs. -/
theorem script_applied_once_in_three_runs :
    (appliedScripts exampleDigest ∅ [exampleRun oneCopy, exampleRun oneCopy,
      exampleRun twoCopies]).count ("a.sql", "SELECT 1;") = 1 := by
  refine script_applied_once exampleDigest ∅ (exampleRun oneCopy) [exampleRun oneCopy]
    (exampleRun twoCopies) "a.sql" "SELECT 1;" (by decide) ?_
  intro run member
  rw [List.mem_singleton.mp member]
  exact ⟨_, List.mem_singleton_self _, rfl, fun text read => (Option.some.inj read).symm⟩

end UpdateFetcher

end WarheadBot
