import WarheadBot.UpdateFetcherHistory

/-!
# Which scripts a run applies

Whether the script of a file is applied depends on the rows at the start of the
run, the settings, and the available files.  The scripts are applied in three
rounds, each in the order of the file names.
-/

namespace WarheadBot

namespace UpdateFetcher

section Decisions

variable (sha1 : String → String) (run : Run) (table : UpdatesTable)

/-- The script of the file is to be applied: the file is new, and the row of
its hash, if there is one, belongs to a file that is still there; or it has a
row with another hash, and no setting excludes it. -/
def isApplied (file : LocaleFile) : Bool :=
  match file.content with
  | none => false
  | some content =>
      match table.lookup file.filename with
      | none =>
          (hashToName (receiveAppliedFiles run table) (sha1 content)).all fun origin =>
            decide (run.isAvailable origin)
      | some row =>
          run.redundancyChecks &&
            (run.archivedRedundancy || !(row.state == .archived && file.state == .archived)) &&
            !(run.allowRehash && row.hash.isEmpty) && row.hash != sha1 content

/-- The file is skipped before it is read. -/
def isSkipped (file : LocaleFile) : Bool :=
  match table.lookup file.filename with
  | none => false
  | some row =>
      !run.redundancyChecks ||
        (!run.archivedRedundancy && row.state == .archived && file.state == .archived)

/-- The file can be read if it has to be, and so can its script be applied. -/
def succeeds (file : LocaleFile) : Bool :=
  (file.content.isSome || isSkipped run table file) &&
    (!isApplied sha1 run table file || run.applyFile file.filename)

/-- The files before the first one for which an exception is thrown. -/
def treated : List LocaleFile :=
  (passes run).takeWhile fun file => succeeds sha1 run table file

/-- The file name and the content that `_applyFile` is called with. -/
def LocaleFile.script (file : LocaleFile) : String × String :=
  (file.filename, file.content.getD "")

theorem script_path (file : LocaleFile) :
    script file (path sha1 run table file) =
      if isApplied sha1 run table file then [file.script] else [] := by
  unfold isApplied LocaleFile.script
  cases found : table.lookup file.filename with
  | none =>
      rw [path_of_noRow sha1 run table found]
      cases read : file.content with
      | none => rfl
      | some content =>
          cases cached : hashToName (receiveAppliedFiles run table) (sha1 content) with
          | none => simp [cached, script]
          | some origin =>
              by_cases present : run.isAvailable origin
              · simp [cached, present, script]
              · simp [cached, present, script]
  | some row =>
      rw [path_of_row sha1 run table found]
      cases read : file.content with
      | none =>
          rw [if_neg Bool.false_ne_true]
          dsimp only
          split_ifs <;> rfl
      | some content =>
          dsimp only
          cases run.redundancyChecks with
          | false => rfl
          | true =>
              -- Both sides exclude archived files of archived rows.
              have excluded : (!run.archivedRedundancy && row.state == .archived &&
                  file.state == .archived) = !(run.archivedRedundancy ||
                    !(row.state == .archived && file.state == .archived)) := by
                cases run.archivedRedundancy <;> simp
              rcases Bool.eq_false_or_eq_true (run.archivedRedundancy ||
                !(row.state == .archived && file.state == .archived)) with allowed | allowed
              · rcases Bool.eq_false_or_eq_true (run.allowRehash && row.hash.isEmpty) with
                  rehash | rehash
                · simp only [excluded, allowed, rehash]
                  rfl
                · simp only [excluded, allowed, rehash]
                  by_cases same : row.hash = sha1 content
                  · simp [same, script]
                  · simp [same, script]
              · simp only [excluded, allowed]
                rfl

theorem path_eq_unreadable_iff (file : LocaleFile) :
    path sha1 run table file = .unreadable ↔
      (file.content.isSome || isSkipped run table file) = false := by
  unfold isSkipped
  cases found : table.lookup file.filename with
  | none =>
      rw [path_of_noRow sha1 run table found]
      cases read : file.content with
      | none => simp
      | some content =>
          cases cached : hashToName (receiveAppliedFiles run table) (sha1 content) with
          | none => simp [cached]
          | some origin =>
              by_cases present : run.isAvailable origin
              · simp [cached, present]
              · simp [cached, present]
  | some row =>
      rw [path_of_row sha1 run table found]
      cases read : file.content with
      | none =>
          dsimp only
          split_ifs with unchecked archived
          · simp [unchecked]
          · simp only [Option.isSome_none, archived, Bool.or_true]
            simp
          · simp only [Option.isSome_none, Bool.false_or, true_iff, Bool.or_eq_false_iff]
            exact ⟨Bool.eq_false_iff.mpr unchecked, Bool.eq_false_iff.mpr archived⟩
      | some content =>
          dsimp only
          split_ifs <;> simp

/-- The branch ends without an exception. -/
def UpdatePath.returns (file : LocaleFile) : UpdatePath → Bool
  | .unreadable => false
  | .record .apply _ _ => run.applyFile file.filename
  | _ => true

theorem isApplied_iff {file : LocaleFile} :
    isApplied sha1 run table file = true ↔
      script file (path sha1 run table file) ≠ [] := by
  rw [script_path]
  split_ifs with needed
  · simp [needed]
  · simp [needed]

theorem returns_path (file : LocaleFile) :
    (path sha1 run table file).returns run file = succeeds sha1 run table file := by
  have needed := @isApplied_iff sha1 run table file
  have unreadable := path_eq_unreadable_iff sha1 run table file
  unfold succeeds
  cases branch : path sha1 run table file with
  | unreadable => simp [UpdatePath.returns, unreadable.mp branch]
  | record mode content hash =>
      rw [branch] at needed unreadable
      have readable := Bool.of_not_eq_false fun failed => UpdatePath.noConfusion
        (unreadable.mpr failed)
      cases mode with
      | apply => simp [readable, needed.mpr (by simp [script]), UpdatePath.returns]
      | rehash =>
          have other : isApplied sha1 run table file = false := by
            simpa [script] using needed
          simp [readable, other, UpdatePath.returns]
  | _ =>
      rw [branch] at needed unreadable
      have readable := Bool.of_not_eq_false fun failed => UpdatePath.noConfusion
        (unreadable.mpr failed)
      have other : isApplied sha1 run table file = false := by
        simpa [script] using needed
      simp [readable, other, UpdatePath.returns]

theorem exists_followPath_of_returns {file : LocaleFile} (state : FetchState)
    {branch : UpdatePath} (returns : branch.returns run file = true) :
    ∃ next, followPath run file state branch = .ok next := by
  cases branch with
  | unreadable => cases returns
  | record mode content hash =>
      cases mode with
      | rehash => exact ⟨_, rfl⟩
      | apply =>
          have applies : run.applyFile file.filename = true := returns
          rw [followPath, if_pos applies]
          exact ⟨_, rfl⟩
  | _ => exact ⟨_, rfl⟩

theorem followPath_of_not_returns {file : LocaleFile} (state : FetchState)
    {branch : UpdatePath} (throws : branch.returns run file = false) :
    followPath run file state branch = .error state := by
  cases branch with
  | unreadable => rfl
  | record mode content hash =>
      cases mode with
      | rehash => cases throws
      | apply =>
          have fails : run.applyFile file.filename = false := throws
          rw [followPath, if_neg (Bool.eq_false_iff.mp fails)]
  | _ => cases throws

/-- The loop treats the files up to the first one that does not succeed. -/
theorem applyUpdateFiles_treated (rest : List LocaleFile) {done : List LocaleFile}
    {state : FetchState} (progress : Progress sha1 run table done state)
    (available : ∀ file ∈ rest, file ∈ run.available.files)
    (distinct : ((done ++ rest).map LocaleFile.filename).Nodup) :
    ∃ last, Progress sha1 run table
        (done ++ rest.takeWhile fun file => succeeds sha1 run table file) last ∧
      applyUpdateFiles sha1 run (hashToName (receiveAppliedFiles run table)) rest state =
        if ∀ file ∈ rest, succeeds sha1 run table file = true then .ok last else .error last := by
  induction rest generalizing done state with
  | nil => exact ⟨state, by simpa using progress, by simp [applyUpdateFiles]⟩
  | cons file rest ih =>
      have regrouped : done ++ file :: rest = (done ++ [file]) ++ rest := by simp
      have new := filename_not_mem_of_nodup distinct
      have fileAvailable := available file List.mem_cons_self
      have decided : applyUpdateFile sha1 run (hashToName (receiveAppliedFiles run table)) file
          state = followPath run file state (path sha1 run table file) := by
        rw [applyUpdateFile, updatePath_of_progress sha1 run table progress fileAvailable new]
      rcases Bool.eq_false_or_eq_true (succeeds sha1 run table file) with success | failure
      · obtain ⟨next, followed⟩ := exists_followPath_of_returns run state
          ((returns_path sha1 run table file).trans success)
        have advanced := progress_step sha1 run table progress fileAvailable new
          (decided.trans followed)
        obtain ⟨last, finished, result⟩ := ih advanced
          (fun other member => available other (List.mem_cons_of_mem _ member))
          (by rw [← regrouped]; exact distinct)
        refine ⟨last, ?_, ?_⟩
        · rw [List.takeWhile_cons_of_pos success]
          simpa using finished
        · rw [applyUpdateFiles, decided, followed]
          simp only [result, List.forall_mem_cons, success, true_and]
      · refine ⟨state, ?_, ?_⟩
        · rw [List.takeWhile_cons_of_neg (by simp [failure])]
          simpa using progress
        · rw [applyUpdateFiles, decided, followPath_of_not_returns run state
            ((returns_path sha1 run table file).trans failure)]
          simp [failure]

/-- No file of the run fails. -/
def Completes : Prop :=
  ∀ file ∈ passes run, succeeds sha1 run table file = true

instance : Decidable (Completes sha1 run table) :=
  inferInstanceAs (Decidable (∀ file ∈ passes run, succeeds sha1 run table file = true))

theorem loop_treated :
    ∃ state, Progress sha1 run table (treated sha1 run table) state ∧
      applyUpdateFiles sha1 run (hashToName (receiveAppliedFiles run table)) (passes run)
          (startState run table) =
        if Completes sha1 run table then .ok state else .error state :=
  applyUpdateFiles_treated sha1 run table (passes run) (progress_start sha1 run table)
    (fun _ member => (mem_passes run).mp member) (passes_nodup run)

/-- All that a run leaves. -/
theorem outcome_treated :
    ∃ state, Progress sha1 run table (treated sha1 run table) state ∧
      outcome sha1 run table =
        if Completes sha1 run table then cleanOrphans run state else state := by
  obtain ⟨state, progress, result⟩ := loop_treated sha1 run table
  refine ⟨state, progress, ?_⟩
  by_cases completes : Completes sha1 run table
  · rw [if_pos completes] at result ⊢
    simp only [outcome, update, result]
  · rw [if_neg completes] at result ⊢
    simp only [outcome, update, result]

theorem flatMap_script_path (files : List LocaleFile) :
    (files.flatMap fun file => script file (path sha1 run table file)) =
      (files.filter fun file => isApplied sha1 run table file).map LocaleFile.script := by
  induction files with
  | nil => rfl
  | cons file files ih =>
      rw [List.flatMap_cons, ih, script_path, List.filter_cons]
      split_ifs <;> rfl

theorem executed_of_progress {done : List LocaleFile} {state : FetchState}
    (progress : Progress sha1 run table done state) :
    state.executed = (done.filter fun file => isApplied sha1 run table file).map
      LocaleFile.script := by
  rw [progress.executed, flatMap_script_path]

theorem executed_outcome :
    (outcome sha1 run table).executed =
      ((treated sha1 run table).filter fun file => isApplied sha1 run table file).map
        LocaleFile.script := by
  obtain ⟨state, progress, left⟩ := outcome_treated sha1 run table
  rw [← executed_of_progress sha1 run table progress, left]
  split_ifs
  · exact cleanOrphans_executed state
  · rfl

/-- The scripts counted are those that were applied. -/
theorem importedUpdates_followPath {file : LocaleFile} {state next : FetchState}
    {branch : UpdatePath} (counted : state.importedUpdates = state.executed.length)
    (followed : followPath run file state branch = .ok next) :
    next.importedUpdates = next.executed.length := by
  cases branch with
  | skip =>
      cases followed
      exact counted
  | unreadable => cases followed
  | rename origin =>
      cases followed
      exact counted
  | moved changed =>
      cases followed
      cases changed <;> exact counted
  | record mode content hash =>
      cases mode with
      | rehash =>
          cases followed
          exact counted
      | apply =>
          simp only [followPath] at followed
          split_ifs at followed
          cases followed
          simp [FetchState.eraseApplied, updateEntry, FetchState.submit, counted]

theorem importedUpdates_applyUpdateFiles {origin : String → Option String}
    {files : List LocaleFile} {state next : FetchState}
    (counted : state.importedUpdates = state.executed.length)
    (finished : applyUpdateFiles sha1 run origin files state = .ok next) :
    next.importedUpdates = next.executed.length := by
  induction files generalizing state with
  | nil =>
      cases finished
      exact counted
  | cons file files ih =>
      simp only [applyUpdateFiles] at finished
      cases treated : applyUpdateFile sha1 run origin file state with
      | error left =>
          rw [treated] at finished
          cases finished
      | ok middle =>
          rw [treated] at finished
          exact ih (importedUpdates_followPath run counted treated) finished

theorem updated_of_update_ok {final : FetchState} {result : UpdateResult}
    (completed : update sha1 run table = .ok (final, result)) :
    result.updated = final.executed.length := by
  unfold update at completed
  dsimp only at completed
  cases finished : applyUpdateFiles sha1 run (hashToName (receiveAppliedFiles run table))
      (passes run) (startState run table) with
  | error left =>
      rw [finished] at completed
      cases completed
  | ok state =>
      rw [finished] at completed
      cases completed
      rw [cleanOrphans_executed]
      exact importedUpdates_applyUpdateFiles sha1 run rfl finished

/-- A completed run applies exactly the scripts of the files for which this is
decided from the rows at its start, each of them once: first those of released
and archived files, then those of custom files, then those of modules, each in
the order of the file names, and it returns their number. -/
theorem update_applies_exactly {final : FetchState} {result : UpdateResult}
    (completed : update sha1 run table = .ok (final, result)) :
    final.executed =
        ((run.available.files.filter fun file =>
            (file.state == .released || file.state == .archived) &&
              isApplied sha1 run table file) ++
          (run.available.files.filter fun file =>
            file.state == .custom && isApplied sha1 run table file) ++
          (run.available.files.filter fun file =>
            file.state == .module && isApplied sha1 run table file)).map LocaleFile.script ∧
      (final.executed.map Prod.fst).Nodup ∧ result.updated = final.executed.length := by
  obtain ⟨state, progress, rfl⟩ := update_ok sha1 run table completed
  refine ⟨?_, ?_, updated_of_update_ok sha1 run table completed⟩
  · rw [cleanOrphans_executed, executed_of_progress sha1 run table progress, passes,
      List.filter_append, List.filter_append, List.filter_filter, List.filter_filter,
      List.filter_filter]
    simp only [Bool.and_comm, Bool.decide_or, beq_eq_decide]
  · rw [cleanOrphans_executed, executed_of_progress sha1 run table progress, List.map_map]
    exact (passes_nodup run).sublist (List.filter_sublist.map LocaleFile.filename)

end Decisions

def customFirst : LocaleFileStorage :=
  ⟨[⟨"a.sql", .custom, some "SELECT 1;"⟩, ⟨"b.sql", .released, some "SELECT 2;"⟩,
    ⟨"c.sql", .released, some "SELECT 1;"⟩], by decide⟩

/-- The custom file comes last, and `c.sql` is `old.sql` renamed. -/
theorem update_applies_in_rounds :
    ∃ final result, update exampleDigest (exampleRun customFirst)
        (exampleTable.insert "a.sql" ⟨"0", .custom⟩) = .ok (final, result) ∧
      final.executed = [("b.sql", "SELECT 2;"), ("a.sql", "SELECT 1;")] ∧
      result.updated = 2 := by
  obtain ⟨final, result, completed⟩ : ∃ final result,
      update exampleDigest (exampleRun customFirst)
        (exampleTable.insert "a.sql" ⟨"0", .custom⟩) = .ok (final, result) :=
    ⟨_, _, rfl⟩
  obtain ⟨executed, _, updated⟩ := update_applies_exactly exampleDigest (exampleRun customFirst)
    (exampleTable.insert "a.sql" ⟨"0", .custom⟩) completed
  have scripts : final.executed = [("b.sql", "SELECT 2;"), ("a.sql", "SELECT 1;")] := by
    rw [executed]
    decide
  refine ⟨final, result, completed, scripts, ?_⟩
  rw [updated, scripts]
  rfl

end UpdateFetcher

end WarheadBot
