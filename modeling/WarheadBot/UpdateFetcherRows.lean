import WarheadBot.UpdateFetcherLoop
import Mathlib.Data.List.Induction

/-!
# The rows a run leaves

The queries of one file touch the row of that file and, for a renamed file, the
row it takes over, which belongs to no available file.  Hence the row of an
available file changes only when the file itself is treated, and the row of a
file that is gone disappears with the first file renamed from it.
-/

namespace WarheadBot

namespace UpdateFetcher

open UpdatesQuery

/-- The row of a file after the queries of its branch. -/
def settledRow (file : LocaleFile) (rows : UpdatesTable) : UpdatePath → Option UpdatesRow
  | .skip => rows.lookup file.filename
  | .unreadable => rows.lookup file.filename
  | .rename origin => rows.lookup origin
  | .moved changed =>
      if changed then
        (rows.lookup file.filename).map fun row => { row with state := file.state }
      else
        rows.lookup file.filename
  | .record _ _ hash => some ⟨hash, file.state⟩

theorem lookup_sent_self {file : LocaleFile} {rows : UpdatesTable} {branch : UpdatePath}
    (free : ∀ origin, branch = .rename origin → rows.lookup file.filename = none ∧
      origin ≠ file.filename) :
    (meanings (sent file branch) rows).lookup file.filename = settledRow file rows branch := by
  cases branch with
  | skip => rfl
  | unreadable => rfl
  | rename origin =>
      obtain ⟨absent, different⟩ := free origin rfl
      simp only [sent, meanings, List.foldl_cons, List.foldl_nil, settledRow]
      rw [lookup_rename_target (by rw [lookup_delete_of_absent absent, absent]),
        lookup_delete_of_absent absent]
  | moved changed =>
      cases changed with
      | false => rfl
      | true => simp [sent, meanings, settledRow]
  | record mode content hash => simp [sent, meanings, settledRow]

theorem lookup_sent_of_ne {file : LocaleFile} {rows : UpdatesTable} {branch : UpdatePath}
    {name : String} (notFile : name ≠ file.filename) (notOrigin : branch.origin ≠ some name) :
    (meanings (sent file branch) rows).lookup name = rows.lookup name := by
  cases branch with
  | skip => rfl
  | unreadable => rfl
  | rename origin =>
      have different : name ≠ origin := fun same => notOrigin (congrArg some same.symm)
      simp only [sent, meanings, List.foldl_cons, List.foldl_nil]
      rw [lookup_rename_of_ne _ notFile different, lookup_delete_of_ne _ notFile]
  | moved changed =>
      cases changed with
      | false => rfl
      | true =>
          simp only [sent, if_true, meanings, List.foldl_cons, List.foldl_nil]
          exact lookup_setState_of_ne _ _ notFile
  | record mode content hash =>
      simp only [sent, meanings, List.foldl_cons, List.foldl_nil]
      exact lookup_replace_of_ne _ _ notFile

theorem lookup_sent_origin {file : LocaleFile} {rows : UpdatesTable} {origin : String}
    (absent : rows.lookup file.filename = none) (different : origin ≠ file.filename) :
    (meanings (sent file (.rename origin)) rows).lookup origin = none := by
  simp only [sent, meanings, List.foldl_cons, List.foldl_nil]
  exact lookup_rename_source (by rw [lookup_delete_of_absent absent, absent]) different

section Rows

variable (sha1 : String → String) (run : Run) (table : UpdatesTable)

/-- The table after the queries of a list of files. -/
def tableAfter (files : List LocaleFile) : UpdatesTable :=
  meanings (files.flatMap fun file => sent file (path sha1 run table file)) table

theorem tableAfter_concat (files : List LocaleFile) (file : LocaleFile) :
    tableAfter sha1 run table (files ++ [file]) =
      meanings (sent file (path sha1 run table file)) (tableAfter sha1 run table files) := by
  simp [tableAfter]

theorem path_origin_ne {file : LocaleFile} {name : String} (available : run.isAvailable name) :
    (path sha1 run table file).origin ≠ some name := by
  intro taken
  have renamed : name ∈ origins sha1 run table [file] := by
    simp [origins, taken]
  exact origins_not_available sha1 run table renamed available

/-- The row of an available file stays as it is until the file is treated. -/
theorem lookup_tableAfter_untouched {files : List LocaleFile} {name : String}
    (available : run.isAvailable name) (untreated : name ∉ files.map LocaleFile.filename) :
    (tableAfter sha1 run table files).lookup name = table.lookup name := by
  induction files using List.reverseRecOn with
  | nil => rfl
  | append_singleton files file ih =>
      simp only [List.map_append, List.map_cons, List.map_nil, List.mem_append,
        List.mem_singleton, not_or] at untreated
      rw [tableAfter_concat, lookup_sent_of_ne untreated.2
        (path_origin_ne sha1 run table available), ih untreated.1]

theorem lookup_of_path_rename {files : List LocaleFile} {file : LocaleFile} {origin : String}
    (available : file ∈ run.available.files)
    (new : file.filename ∉ files.map LocaleFile.filename)
    (renamed : path sha1 run table file = .rename origin) :
    (tableAfter sha1 run table files).lookup file.filename = none ∧
      origin ≠ file.filename := by
  obtain ⟨noRow, gone, _⟩ := path_rename sha1 run table renamed
  have present : run.isAvailable file.filename := ⟨file, available, rfl⟩
  refine ⟨?_, fun same => gone (same ▸ present)⟩
  rw [lookup_tableAfter_untouched sha1 run table present new, noRow]

/-- The row of a file that is gone stays until a file is renamed from it. -/
theorem lookup_tableAfter_gone {files : List LocaleFile} {name : String}
    (available : ∀ file ∈ files, file ∈ run.available.files)
    (distinct : (files.map LocaleFile.filename).Nodup) (gone : ¬ run.isAvailable name) :
    (tableAfter sha1 run table files).lookup name =
      if name ∈ origins sha1 run table files then none else table.lookup name := by
  induction files using List.reverseRecOn with
  | nil => simp [tableAfter, origins, meanings]
  | append_singleton files file ih =>
      have fileAvailable := available file (by simp)
      have notFile : name ≠ file.filename := fun same =>
        gone (same ▸ ⟨file, fileAvailable, rfl⟩)
      have new := filename_not_mem_of_nodup distinct
      rw [List.map_append, List.nodup_append] at distinct
      have before := ih (fun other member => available other (List.mem_append_left _ member))
        distinct.1
      rw [tableAfter_concat, origins_concat]
      by_cases taken : (path sha1 run table file).origin = some name
      · have renamed : path sha1 run table file = .rename name := by
          cases branch : path sha1 run table file <;> simp [branch, UpdatePath.origin] at taken
          rw [taken]
        have free := lookup_of_path_rename sha1 run table fileAvailable new renamed
        rw [renamed, lookup_sent_origin free.1 free.2]
        simp [UpdatePath.origin]
      · rw [lookup_sent_of_ne notFile taken, before]
        have notLast : name ∉ (path sha1 run table file).origin.toList := by
          simpa [Option.mem_toList] using taken
        simp [notLast]

/-- After its turn, the row of a file is the one its branch has left. -/
theorem lookup_tableAfter_settled {before after : List LocaleFile} {file : LocaleFile}
    (available : ∀ other ∈ before ++ file :: after, other ∈ run.available.files)
    (distinct : ((before ++ file :: after).map LocaleFile.filename).Nodup) :
    (tableAfter sha1 run table (before ++ file :: after)).lookup file.filename =
      settledRow file (tableAfter sha1 run table before) (path sha1 run table file) := by
  have fileAvailable := available file (by simp)
  induction after using List.reverseRecOn with
  | nil =>
      rw [tableAfter_concat]
      apply lookup_sent_self
      intro origin renamed
      exact lookup_of_path_rename sha1 run table fileAvailable
        (filename_not_mem_of_nodup distinct) renamed
  | append_singleton after last ih =>
      have regrouped : before ++ file :: (after ++ [last]) =
          (before ++ file :: after) ++ [last] := by simp
      rw [regrouped] at available distinct ⊢
      rw [List.map_append, List.nodup_append] at distinct
      have different : file.filename ≠ last.filename :=
        distinct.2.2 _ (by simp) _ (by simp)
      rw [tableAfter_concat, lookup_sent_of_ne different
        (path_origin_ne sha1 run table ⟨file, fileAvailable, rfl⟩)]
      exact ih (fun other member => available other (List.mem_append_left _ member)) distinct.1

end Rows

end UpdateFetcher

end WarheadBot
