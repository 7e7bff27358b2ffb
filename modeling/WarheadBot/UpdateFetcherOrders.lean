import WarheadBot.UpdateFetcherCleanup
import WarheadBot.UpdateFetcherDirectories
import Mathlib.Data.List.Dedup
import Mathlib.Data.List.TakeWhile

/-!
# The order of the applied files

The cache of hashes keeps one name for each hash, the first in the order in
which the map of applied files is walked.  If several rows have the hash of a
new file, the order decides whether the file is applied or renamed, and from
which row.  The runs for two orders have the same effect exactly if such rows
are all there, or all gone and removed at the end anyway.
-/

namespace WarheadBot

namespace UpdateFetcher

/-- An order in which the map of applied files is walked. -/
abbrev Order :=
  { iteration : List AppliedFileEntry → List AppliedFileEntry //
    ∀ entries, (iteration entries).Perm entries }

def Run.withOrder (run : Run) (order : Order) : Run :=
  { run with iteration := order.1, iteration_perm := order.2 }

/-- The order that begins with an entry, if it is there. -/
def Order.front (entry : AppliedFileEntry) : Order :=
  ⟨fun entries => if entry ∈ entries then entry :: entries.erase entry else entries, by
    intro entries
    dsimp only
    split_ifs with member
    · exact (List.perm_cons_erase member).symm
    · exact List.Perm.refl _⟩

/-- The same scripts were executed, and the tables have the same rows. -/
def SameEffect (first second : FetchState) : Prop :=
  (∀ script, script ∈ first.executed ↔ script ∈ second.executed) ∧
    ∀ name, first.table.lookup name = second.table.lookup name

section Orders

variable (sha1 : String → String) (run : Run) (table : UpdatesTable)

def OrderIndependent : Prop :=
  ∀ first second : Order, SameEffect (outcome sha1 (run.withOrder first) table)
    (outcome sha1 (run.withOrder second) table)

/-- The file has no row and can be read, and this is its hash. -/
def IsNew (file : LocaleFile) (hash : String) : Prop :=
  table.lookup file.filename = none ∧ file.content.map sha1 = some hash

instance (file : LocaleFile) (hash : String) : Decidable (IsNew sha1 table file hash) :=
  inferInstanceAs (Decidable (_ ∧ _))

/-- The file fails whatever the order is. -/
def FailsAlways (file : LocaleFile) : Prop :=
  ∀ order, succeeds sha1 (run.withOrder order) table file = false

def goneRows : List String :=
  table.keys.filter fun name => ¬ run.isAvailable name

/-- The hashes of the new files that rows of files that are gone have. -/
def takenHashes : List String :=
  ((passes run).filterMap fun file =>
    if table.lookup file.filename = none then file.content.map sha1 else none).filter fun hash =>
      (goneRows run table).any fun name => (table.lookup name).any fun row => row.hash == hash

/-- The rows that are left for the cleanup do not exceed the limit.  Each hash
of a new file takes over one row. -/
def OrphansRemoved : Prop :=
  run.cleanDeadReferencesMaxCount < 0 ∨
    ((goneRows run table).length : Int) - (takenHashes sha1 run table).dedup.length ≤
      run.cleanDeadReferencesMaxCount

/-- Two rows with the hash of a new file that is reached belong both to files
that are there, or both to files that are gone; then they have the same state
and are removed unless they are taken over. -/
def Unambiguous : Prop :=
  ∀ before file after hash, passes run = before ++ file :: after →
    (∀ earlier ∈ before, ¬ FailsAlways sha1 run table earlier) → IsNew sha1 table file hash →
    ∀ first second firstRow secondRow, first ≠ second →
      table.lookup first = some firstRow → table.lookup second = some secondRow →
      firstRow.hash = hash → secondRow.hash = hash →
      run.isAvailable first ∧ run.isAvailable second ∨
        ¬ run.isAvailable first ∧ ¬ run.isAvailable second ∧
          firstRow.state = secondRow.state ∧ firstRow.state ≠ .module ∧
          (∀ other ∈ passes run, ¬ FailsAlways sha1 run table other) ∧
          OrphansRemoved sha1 run table

/-- The cache of a run with the order. -/
def cache (order : Order) (hash : String) : Option String :=
  hashToName (receiveAppliedFiles (run.withOrder order) table) hash

variable {sha1 run table}

theorem lookup_of_cache {order : Order} {hash name : String}
    (cached : cache run table order hash = some name) :
    ∃ row, table.lookup name = some row ∧ row.hash = hash :=
  lookup_of_hashToName (run.withOrder order) table cached

theorem cache_isSome (run : Run) {hash name : String} {row : UpdatesRow}
    (found : table.lookup name = some row) (same : row.hash = hash) (order : Order) :
    ∃ origin, cache run table order hash = some origin := by
  have member : (⟨name, row.hash, row.state⟩ : AppliedFileEntry) ∈
      receiveAppliedFiles (run.withOrder order) table :=
    (mem_receiveAppliedFiles _ _).mpr found
  cases cached : cache run table order hash with
  | some origin => exact ⟨origin, rfl⟩
  | none =>
      rw [cache, hashToName, Option.map_eq_none_iff, List.find?_eq_none] at cached
      exact absurd (by simpa using same) (cached _ member)

/-- Every row with the hash is the one that the cache names in some order. -/
theorem exists_order_cache (run : Run) {hash name : String} {row : UpdatesRow}
    (found : table.lookup name = some row) (same : row.hash = hash) :
    ∃ order, cache run table order hash = some name := by
  have member : (⟨name, row.hash, row.state⟩ : AppliedFileEntry) ∈
      table.entries.map fun row => ⟨row.1, row.2.hash, row.2.state⟩ :=
    List.mem_map.mpr ⟨⟨name, row⟩, AList.mem_lookup_iff.mp found, rfl⟩
  have walked : receiveAppliedFiles (run.withOrder (.front ⟨name, row.hash, row.state⟩)) table =
      ⟨name, row.hash, row.state⟩ :: (table.entries.map fun row =>
        (⟨row.1, row.2.hash, row.2.state⟩ : AppliedFileEntry)).erase
          ⟨name, row.hash, row.state⟩ :=
    if_pos member
  refine ⟨.front ⟨name, row.hash, row.state⟩, ?_⟩
  rw [cache, walked, hashToName, List.find?_cons_of_pos (by simpa using same)]
  rfl

/-- The rows with the hash of the file, if it is new, belong all to files that
are there or all to files that are gone. -/
def SameAvailability (sha1 : String → String) (run : Run) (table : UpdatesTable)
    (file : LocaleFile) : Prop :=
  ∀ hash, IsNew sha1 table file hash → ∀ first second firstRow secondRow,
    table.lookup first = some firstRow → table.lookup second = some secondRow →
    firstRow.hash = hash → secondRow.hash = hash →
    run.isAvailable first → run.isAvailable second

theorem isApplied_of_isNew {file : LocaleFile} {hash : String}
    (new : IsNew sha1 table file hash) (order : Order) :
    isApplied sha1 (run.withOrder order) table file =
      (cache run table order hash).all fun origin => decide (run.isAvailable origin) := by
  obtain ⟨noRow, digest⟩ := new
  obtain ⟨content, read, rfl⟩ := Option.map_eq_some_iff.mp digest
  unfold isApplied
  rw [read, noRow]
  rfl

theorem path_of_isNew {file : LocaleFile} {hash origin : String}
    (new : IsNew sha1 table file hash) {order : Order}
    (cached : cache run table order hash = some origin) (gone : ¬ run.isAvailable origin) :
    path sha1 (run.withOrder order) table file = .rename origin := by
  obtain ⟨noRow, digest⟩ := new
  obtain ⟨content, read, rfl⟩ := Option.map_eq_some_iff.mp digest
  exact path_eq_rename sha1 (run.withOrder order) table noRow read cached gone

theorem isNew_of_path_rename {file : LocaleFile} {origin : String} {order : Order}
    (renamed : path sha1 (run.withOrder order) table file = .rename origin) :
    ∃ hash, IsNew sha1 table file hash ∧ cache run table order hash = some origin ∧
      ¬ run.isAvailable origin := by
  obtain ⟨noRow, gone, content, read, cached⟩ :=
    path_rename sha1 (run.withOrder order) table renamed
  exact ⟨sha1 content, ⟨noRow, by rw [read, Option.map_some]⟩, cached, gone⟩

theorem isApplied_withOrder {file : LocaleFile} (same : SameAvailability sha1 run table file)
    (first second : Order) :
    isApplied sha1 (run.withOrder first) table file =
      isApplied sha1 (run.withOrder second) table file := by
  cases read : file.content with
  | none =>
      unfold isApplied
      rw [read]
  | some content =>
      cases found : table.lookup file.filename with
      | some row =>
          unfold isApplied
          rw [read, found]
          rfl
      | none =>
          have new : IsNew sha1 table file (sha1 content) := ⟨found, by rw [read, Option.map_some]⟩
          rw [isApplied_of_isNew new, isApplied_of_isNew new]
          cases cached : cache run table first (sha1 content) with
          | none =>
              cases cached' : cache run table second (sha1 content) with
              | none => rfl
              | some origin =>
                  obtain ⟨row, found', hash⟩ := lookup_of_cache cached'
                  obtain ⟨name, cachedName⟩ := cache_isSome run found' hash first
                  rw [cached] at cachedName
                  cases cachedName
          | some origin =>
              obtain ⟨row, found', hash⟩ := lookup_of_cache cached
              obtain ⟨other, cached'⟩ := cache_isSome run found' hash second
              obtain ⟨otherRow, otherFound, otherHash⟩ := lookup_of_cache cached'
              rw [cached', Option.all_some, Option.all_some, decide_eq_decide]
              exact ⟨same _ new _ _ _ _ found' otherFound hash otherHash,
                same _ new _ _ _ _ otherFound found' otherHash hash⟩

theorem succeeds_withOrder {file : LocaleFile} (same : SameAvailability sha1 run table file)
    (first second : Order) :
    succeeds sha1 (run.withOrder first) table file =
      succeeds sha1 (run.withOrder second) table file := by
  unfold succeeds
  rw [isApplied_withOrder same first second]
  rfl

theorem succeeds_of_not_failsAlways {file : LocaleFile}
    (same : SameAvailability sha1 run table file) (may : ¬ FailsAlways sha1 run table file)
    (order : Order) : succeeds sha1 (run.withOrder order) table file = true := by
  by_contra failure
  apply may
  intro other
  rw [succeeds_withOrder same other order]
  exact Bool.eq_false_iff.mpr failure

theorem not_failsAlways_of_succeeds {file : LocaleFile} {order : Order}
    (success : succeeds sha1 (run.withOrder order) table file = true) :
    ¬ FailsAlways sha1 run table file := by
  intro always
  rw [always order] at success
  cases success

/-- A new file is applied, or renamed from the row that the cache names. -/
theorem path_of_isNew_cases (run : Run) {file : LocaleFile} {hash : String}
    (new : IsNew sha1 table file hash) (order : Order) :
    (∃ content, path sha1 (run.withOrder order) table file = .record .apply content hash ∧
      file.content = some content ∧
      ∀ origin, cache run table order hash = some origin → run.isAvailable origin) ∨
    ∃ origin, path sha1 (run.withOrder order) table file = .rename origin ∧
      cache run table order hash = some origin ∧ ¬ run.isAvailable origin := by
  have digest := new.2
  obtain ⟨content, read, rfl⟩ := Option.map_eq_some_iff.mp digest
  cases cached : cache run table order (sha1 content) with
  | none =>
      refine .inl ⟨content, ?_, read, nofun⟩
      rw [path_of_noRow sha1 _ table new.1, read]
      simp only [show hashToName (receiveAppliedFiles (run.withOrder order) table)
        (sha1 content) = none from cached]
  | some origin =>
      by_cases present : run.isAvailable origin
      · refine .inl ⟨content, ?_, read, ?_⟩
        · rw [path_of_noRow sha1 _ table new.1, read]
          simp only [show hashToName (receiveAppliedFiles (run.withOrder order) table)
            (sha1 content) = some origin from cached]
          exact if_pos present
        · intro other same
          cases same
          exact present
      · exact .inr ⟨origin, path_of_isNew new cached present, rfl, present⟩

theorem mem_origins_withOrder {files : List LocaleFile} {name : String} {order : Order} :
    name ∈ origins sha1 (run.withOrder order) table files ↔
      ∃ file ∈ files, ∃ hash, IsNew sha1 table file hash ∧
        cache run table order hash = some name ∧ ¬ run.isAvailable name := by
  rw [mem_origins]
  constructor
  · rintro ⟨file, member, renamed⟩
    exact ⟨file, member, isNew_of_path_rename renamed⟩
  · rintro ⟨file, member, hash, new, cached, gone⟩
    exact ⟨file, member, path_of_isNew new cached gone⟩

/-- A row is taken over exactly if a file of its hash was treated. -/
theorem mem_origins_of_cache {files : List LocaleFile} {hash origin : String} {order : Order}
    (cached : cache run table order hash = some origin) (gone : ¬ run.isAvailable origin) :
    origin ∈ origins sha1 (run.withOrder order) table files ↔
      ∃ file ∈ files, IsNew sha1 table file hash := by
  rw [mem_origins_withOrder]
  constructor
  · rintro ⟨file, member, other, new, cached', _⟩
    obtain ⟨row, found, same⟩ := lookup_of_cache cached
    obtain ⟨row', found', same'⟩ := lookup_of_cache cached'
    rw [found] at found'
    cases found'
    obtain rfl : other = hash := same'.symm.trans same
    exact ⟨file, member, new⟩
  · rintro ⟨file, member, new⟩
    exact ⟨file, member, hash, new, cached, gone⟩

theorem mem_goneRows {name : String} :
    name ∈ goneRows run table ↔ (∃ row, table.lookup name = some row) ∧ ¬ run.isAvailable name := by
  rw [goneRows, List.mem_filter, ← AList.mem_keys, ← AList.lookup_isSome, Option.isSome_iff_exists,
    decide_eq_true_eq]

theorem goneRows_nodup : (goneRows run table).Nodup :=
  table.keys_nodup.filter _

theorem mem_takenHashes {hash : String} :
    hash ∈ takenHashes sha1 run table ↔
      (∃ file ∈ passes run, IsNew sha1 table file hash) ∧
        ∃ name row, table.lookup name = some row ∧ row.hash = hash ∧ ¬ run.isAvailable name := by
  have newHashes : ∀ file, (if table.lookup file.filename = none then file.content.map sha1
      else none) = some hash ↔ IsNew sha1 table file hash := by
    intro file
    unfold IsNew
    split_ifs with noRow
    · simp [noRow]
    · simp [noRow]
  rw [takenHashes, List.mem_filter, List.mem_filterMap, List.any_eq_true]
  simp only [newHashes, mem_goneRows, Option.any_eq_true, beq_iff_eq]
  refine and_congr_right fun _ => ⟨?_, ?_⟩
  · rintro ⟨name, ⟨_, gone⟩, row, found, same⟩
    exact ⟨name, row, found, same, gone⟩
  · rintro ⟨name, row, found, same, gone⟩
    exact ⟨name, ⟨⟨row, found⟩, gone⟩, row, found, same⟩

/-- A file that is renamed cannot fail. -/
theorem succeeds_of_path_rename {file : LocaleFile} {origin : String} {order : Order}
    (renamed : path sha1 (run.withOrder order) table file = .rename origin) :
    succeeds sha1 (run.withOrder order) table file = true := by
  rw [← returns_path, renamed]
  rfl

/-- The files that are reached, as long as none before fails in every order,
leave no choice between applying and renaming. -/
def ReachedSame (sha1 : String → String) (run : Run) (table : UpdatesTable) : Prop :=
  ∀ before file after, passes run = before ++ file :: after →
    (∀ earlier ∈ before, ¬ FailsAlways sha1 run table earlier) →
    SameAvailability sha1 run table file

theorem treated_of_completes {sha1 : String → String} {run : Run} {table : UpdatesTable}
    (completes : Completes sha1 run table) : treated sha1 run table = passes run :=
  List.takeWhile_eq_self_iff.mpr completes

/-- The row of an available file is not touched by the cleanup. -/
theorem lookup_outcome_available {sha1 : String → String} {run : Run} {table : UpdatesTable}
    {file : LocaleFile} (available : file ∈ run.available.files) :
    (outcome sha1 run table).table.lookup file.filename =
      (tableAfter sha1 run table (treated sha1 run table)).lookup file.filename := by
  obtain ⟨state, progress, left⟩ := outcome_treated sha1 run table
  rw [left, ← table_of_progress progress]
  split_ifs with completes
  · apply lookup_cleanOrphans progress
    rw [treated_of_completes completes, mem_passes]
    exact available
  · rfl

/-- The rows left for the cleanup, if the run completes. -/
def orphansLeft (sha1 : String → String) (run : Run) (table : UpdatesTable) : List String :=
  (goneRows run table).filter fun name => name ∉ origins sha1 run table (passes run)

theorem orphans_eq_orphansLeft {sha1 : String → String} {run : Run} {table : UpdatesTable}
    {queries : List UpdatesQuery}
    (sources : renameSources queries = origins sha1 run table (passes run)) :
    orphans run table queries = orphansLeft sha1 run table := by
  unfold orphans orphansLeft goneRows
  rw [List.filter_filter, sources]
  apply List.filter_congr
  intro name _
  rw [Bool.decide_and, Bool.and_comm]

/-- The row of a file that is gone stays unless it is taken over or removed. -/
theorem lookup_outcome_gone {sha1 : String → String} {run : Run} {table : UpdatesTable}
    {name : String} (gone : ¬ run.isAvailable name) (row : UpdatesRow) :
    (outcome sha1 run table).table.lookup name = some row ↔
      table.lookup name = some row ∧ name ∉ origins sha1 run table (treated sha1 run table) ∧
        ¬ (Completes sha1 run table ∧ row.state ≠ .module ∧
          (run.cleanDeadReferencesMaxCount < 0 ∨
            ((orphansLeft sha1 run table).length : Int) ≤ run.cleanDeadReferencesMaxCount)) := by
  obtain ⟨state, progress, left⟩ := outcome_treated sha1 run table
  have rows := lookup_treated_gone sha1 run table gone
  rw [← table_of_progress progress] at rows
  by_cases completes : Completes sha1 run table
  · rw [treated_of_completes completes] at progress rows ⊢
    have sources : renameSources state.queries = origins sha1 run table (passes run) := by
      rw [progress.queries, renameSources_loop]
    have removed : name ∈ (toCleanup run state.applied).map AppliedFileEntry.name ↔
        CleanupAllowed run table state.queries ∧ name ∉ origins sha1 run table (passes run) ∧
          ∃ row, table.lookup name = some row ∧ row.state ≠ .module := by
      rw [List.mem_map]
      constructor
      · rintro ⟨⟨_, hash, fileState⟩, member, rfl⟩
        obtain ⟨allowed, found, notModule, _, kept⟩ :=
          (mem_toCleanup_iff progress sources).mp member
        exact ⟨allowed, sources ▸ kept, _, found, notModule⟩
      · rintro ⟨allowed, kept, row, found, notModule⟩
        exact ⟨⟨name, row.hash, row.state⟩, (mem_toCleanup_iff progress sources).mpr
          ⟨allowed, found, notModule, gone, sources ▸ kept⟩, rfl⟩
    rw [CleanupAllowed, orphans_eq_orphansLeft sources] at removed
    rw [left, if_pos completes, cleanOrphans_eq, lookup_cleanUp]
    by_cases taken : name ∈ origins sha1 run table (passes run)
    · rw [rows, if_pos taken]
      simp [taken]
    · rw [rows, if_neg taken]
      simp only [removed, taken, not_false_eq_true, true_and, completes]
      cases found : table.lookup name with
      | none => simp
      | some current =>
          split_ifs with cleaned
          · obtain ⟨allowed, other, same, notModule⟩ := cleaned
            cases same
            constructor
            · intro impossible
              cases impossible
            · rintro ⟨equal, kept⟩
              cases equal
              exact absurd ⟨notModule, allowed⟩ kept
          · constructor
            · intro equal
              cases equal
              exact ⟨rfl, fun removes => cleaned ⟨removes.2, row, rfl, removes.1⟩⟩
            · rintro ⟨equal, _⟩
              exact equal
  · rw [left, if_neg completes, rows]
    split_ifs with taken
    · simp [taken]
    · simp [taken, completes]

theorem takeWhile_congr_of_reached {α : Type*} {first second : α → Bool} {list : List α}
    (same : ∀ before element after, list = before ++ element :: after →
      (∀ earlier ∈ before, first earlier = true) → first element = second element) :
    list.takeWhile first = list.takeWhile second := by
  induction list with
  | nil => rfl
  | cons element list ih =>
      have head := same [] element list rfl (by simp)
      rw [List.takeWhile_cons, List.takeWhile_cons, ← head]
      split_ifs with passed
      · rw [ih]
        intro before other after split earlier
        refine same (element :: before) other after (by rw [split]; rfl) ?_
        simpa [passed] using earlier
      · rfl

theorem succeeds_of_mem_treated {order : Order} {file : LocaleFile}
    (member : file ∈ treated sha1 (run.withOrder order) table) :
    succeeds sha1 (run.withOrder order) table file = true :=
  List.mem_takeWhile_imp member

theorem treated_of_succeeds {order : Order} {before after : List LocaleFile}
    (place : passes run = before ++ after)
    (success : ∀ file ∈ before, succeeds sha1 (run.withOrder order) table file = true) :
    treated sha1 (run.withOrder order) table =
      before ++ after.takeWhile fun file => succeeds sha1 (run.withOrder order) table file := by
  have front : treated sha1 (run.withOrder order) table = (passes run).takeWhile fun file =>
    succeeds sha1 (run.withOrder order) table file := rfl
  rw [front, place, List.takeWhile_append_of_pos success]

/-- A file that is treated is reached. -/
theorem reached_of_treated {order : Order} {before after : List LocaleFile} {file : LocaleFile}
    (place : treated sha1 (run.withOrder order) table = before ++ file :: after) :
    ∃ later, passes run = before ++ file :: later ∧
      ∀ earlier ∈ before, ¬ FailsAlways sha1 run table earlier := by
  have front : treated sha1 (run.withOrder order) table <+: passes run :=
    List.takeWhile_prefix _
  obtain ⟨rest, whole⟩ := front
  refine ⟨after ++ rest, by rw [← whole, place]; simp, ?_⟩
  intro earlier member
  have success : succeeds sha1 (run.withOrder order) table earlier = true := by
    apply succeeds_of_mem_treated
    rw [place]
    exact List.mem_append_left _ member
  exact not_failsAlways_of_succeeds success

section Reached

variable (reached : ReachedSame sha1 run table)

include reached

theorem treated_withOrder (first second : Order) :
    treated sha1 (run.withOrder first) table = treated sha1 (run.withOrder second) table := by
  apply takeWhile_congr_of_reached
  intro before file after place earlier
  refine succeeds_withOrder (reached before file after place ?_) first second
  intro other member
  exact not_failsAlways_of_succeeds (earlier other member)

theorem sameAvailability_of_mem_treated {order : Order} {file : LocaleFile}
    (member : file ∈ treated sha1 (run.withOrder order) table) :
    SameAvailability sha1 run table file := by
  obtain ⟨before, after, place⟩ := List.append_of_mem member
  obtain ⟨later, split, earlier⟩ := reached_of_treated place
  exact reached before file later split earlier

theorem completes_iff (order : Order) :
    Completes sha1 (run.withOrder order) table ↔
      ∀ file ∈ passes run, ¬ FailsAlways sha1 run table file := by
  constructor
  · intro completes file member
    exact not_failsAlways_of_succeeds (completes file member)
  · intro may file member
    obtain ⟨before, after, place⟩ := List.append_of_mem member
    have earlier : ∀ other ∈ before, ¬ FailsAlways sha1 run table other := fun other inFront =>
      may other (place.symm ▸ List.mem_append_left _ inFront)
    exact succeeds_of_not_failsAlways (reached before file after place earlier) (may file member)
      order

theorem executed_withOrder (first second : Order) :
    (outcome sha1 (run.withOrder first) table).executed =
      (outcome sha1 (run.withOrder second) table).executed := by
  rw [executed_outcome, executed_outcome, treated_withOrder reached first second]
  congr 1
  apply List.filter_congr
  intro file member
  exact isApplied_withOrder (sameAvailability_of_mem_treated reached member) first second

/-- The rows that are taken over are as many as the hashes of new files that rows
of files that are gone have. -/
theorem perm_map_takenHashes (may : ∀ file ∈ passes run, ¬ FailsAlways sha1 run table file)
    (order : Order) :
    ((takenHashes sha1 run table).dedup.map fun hash =>
        (cache run table order hash).getD "").Perm
      ((goneRows run table).filter fun name =>
        !decide (name ∉ origins sha1 (run.withOrder order) table (passes run))) := by
  have named : ∀ hash ∈ takenHashes sha1 run table, ∃ origin,
      cache run table order hash = some origin ∧ ¬ run.isAvailable origin := by
    intro hash member
    obtain ⟨⟨file, inPasses, new⟩, name, row, found, same, gone⟩ := mem_takenHashes.mp member
    obtain ⟨origin, cached⟩ := cache_isSome run found same order
    obtain ⟨originRow, originFound, originSame⟩ := lookup_of_cache cached
    obtain ⟨before, after, place⟩ := List.append_of_mem inPasses
    have earlier : ∀ other ∈ before, ¬ FailsAlways sha1 run table other := fun other inFront =>
      may other (place.symm ▸ List.mem_append_left _ inFront)
    refine ⟨origin, cached, fun present => gone ?_⟩
    exact reached before file after place earlier hash new _ _ _ _ originFound found originSame
      same present
  rw [List.perm_ext_iff_of_nodup]
  · intro name
    simp only [List.mem_map, List.mem_dedup, List.mem_filter, mem_goneRows, decide_not,
      Bool.not_not, decide_eq_true_eq, mem_origins_withOrder]
    constructor
    · rintro ⟨hash, member, rfl⟩
      obtain ⟨origin, cached, gone⟩ := named hash member
      obtain ⟨⟨file, inPasses, new⟩, _⟩ := mem_takenHashes.mp member
      obtain ⟨row, found, _⟩ := lookup_of_cache cached
      rw [cached, Option.getD_some]
      exact ⟨⟨⟨row, found⟩, gone⟩, file, inPasses, hash, new, cached, gone⟩
    · rintro ⟨_, file, inPasses, hash, new, cached, gone⟩
      obtain ⟨row, found, same⟩ := lookup_of_cache cached
      refine ⟨hash, mem_takenHashes.mpr ⟨⟨file, inPasses, new⟩, name, row, found, same, gone⟩, ?_⟩
      rw [cached, Option.getD_some]
  · refine (List.nodup_dedup _).map_on ?_
    intro first firstMember second secondMember equal
    obtain ⟨origin, cached, _⟩ := named first (List.mem_dedup.mp firstMember)
    obtain ⟨origin', cached', _⟩ := named second (List.mem_dedup.mp secondMember)
    rw [cached, cached', Option.getD_some, Option.getD_some] at equal
    subst equal
    obtain ⟨row, found, same⟩ := lookup_of_cache cached
    obtain ⟨row', found', same'⟩ := lookup_of_cache cached'
    rw [found] at found'
    cases found'
    exact same.symm.trans same'
  · exact goneRows_nodup.filter _

/-- The number of rows left for the cleanup does not depend on the order. -/
theorem length_orphansLeft (may : ∀ file ∈ passes run, ¬ FailsAlways sha1 run table file)
    (order : Order) :
    ((orphansLeft sha1 (run.withOrder order) table).length : Int) =
      (goneRows run table).length - (takenHashes sha1 run table).dedup.length := by
  have taken := (perm_map_takenHashes reached may order).length_eq
  have whole := @List.length_eq_length_filter_add _ (goneRows run table) fun name =>
    decide (name ∉ origins sha1 (run.withOrder order) table (passes run))
  rw [← taken, List.length_map] at whole
  have left : orphansLeft sha1 (run.withOrder order) table = (goneRows run table).filter fun name =>
    decide (name ∉ origins sha1 (run.withOrder order) table (passes run)) := rfl
  rw [left]
  omega

end Reached

section Independence

theorem reachedSame_of_unambiguous (unambiguous : Unambiguous sha1 run table) :
    ReachedSame sha1 run table := by
  intro before file after place earlier hash new first second firstRow secondRow firstFound
    secondFound firstHash secondHash present
  by_cases same : first = second
  · exact same ▸ present
  · rcases unambiguous before file after hash place earlier new first second firstRow secondRow
      same firstFound secondFound firstHash secondHash with ⟨_, there⟩ | ⟨gone, _⟩
    · exact there
    · exact absurd present gone

theorem settledRow_congr {file : LocaleFile} {rows others : UpdatesTable} {branch : UpdatePath}
    (notRenamed : branch.origin = none)
    (same : rows.lookup file.filename = others.lookup file.filename) :
    settledRow file rows branch = settledRow file others branch := by
  cases branch with
  | rename origin => cases notRenamed
  | moved changed =>
      unfold settledRow
      rw [same]
  | record mode content hash => rfl
  | _ => exact same

/-- The row that the cache names is there until a file of its hash takes it
over. -/
theorem lookup_origin_withOrder {order : Order} {before after : List LocaleFile}
    {file : LocaleFile} {hash origin : String} (place : passes run = before ++ file :: after)
    (cached : cache run table order hash = some origin) (gone : ¬ run.isAvailable origin) :
    (tableAfter sha1 (run.withOrder order) table before).lookup origin =
      if ∃ other ∈ before, IsNew sha1 table other hash then none else table.lookup origin := by
  have row : (tableAfter sha1 (run.withOrder order) table before).lookup origin =
      if origin ∈ origins sha1 (run.withOrder order) table before then none
      else table.lookup origin :=
    @lookup_renamed sha1 (run.withOrder order) table before after file origin place gone
  rw [row]
  simp only [mem_origins_of_cache cached gone]

/-- The row of a file that is treated is the one its branch has left. -/
theorem lookup_treated_withOrder {order : Order} {before after : List LocaleFile}
    {file : LocaleFile}
    (place : treated sha1 (run.withOrder order) table = before ++ file :: after) :
    (outcome sha1 (run.withOrder order) table).table.lookup file.filename =
      settledRow file (tableAfter sha1 (run.withOrder order) table before)
        (path sha1 (run.withOrder order) table file) := by
  have front : (treated sha1 (run.withOrder order) table).Sublist (passes run) :=
    List.takeWhile_sublist _
  have available : ∀ other ∈ treated sha1 (run.withOrder order) table,
      other ∈ run.available.files := fun other member =>
    (mem_passes run).mp (front.subset member)
  have distinct := (passes_nodup run).sublist (front.map LocaleFile.filename)
  have fileAvailable := available file (by simp [place])
  rw [@lookup_outcome_available sha1 (run.withOrder order) table file fileAvailable, place]
  rw [place] at available distinct
  exact lookup_tableAfter_settled sha1 (run.withOrder order) table available distinct

theorem lookup_untreated_withOrder {order : Order} {file : LocaleFile}
    (available : file ∈ run.available.files)
    (untreated : file ∉ treated sha1 (run.withOrder order) table) :
    (outcome sha1 (run.withOrder order) table).table.lookup file.filename =
      table.lookup file.filename := by
  rw [@lookup_outcome_available sha1 (run.withOrder order) table file available]
  obtain ⟨later, split⟩ : treated sha1 (run.withOrder order) table <+: passes run :=
    List.takeWhile_prefix _
  rcases lookup_outcome sha1 (run.withOrder order) table split.symm available with
    ⟨before, after, place, _⟩ | ⟨_, same⟩
  · exact absurd (by simp [place]) untreated
  · exact same

/-- Without a new file the order plays no role. -/
theorem path_withOrder (run : Run) {file : LocaleFile}
    (known : ∀ hash, ¬ IsNew sha1 table file hash) (first second : Order) :
    path sha1 (run.withOrder first) table file = path sha1 (run.withOrder second) table file ∧
      (path sha1 (run.withOrder first) table file).origin = none := by
  constructor
  · cases found : table.lookup file.filename with
    | some row =>
        exact (path_of_row sha1 (run.withOrder first) table found).trans
          (path_of_row sha1 (run.withOrder second) table found).symm
    | none =>
        rw [path_of_noRow sha1 _ table found, path_of_noRow sha1 _ table found]
        cases read : file.content with
        | none => rfl
        | some content =>
            exact absurd ⟨found, by rw [read, Option.map_some]⟩ (known (sha1 content))
  · cases branch : path sha1 (run.withOrder first) table file with
    | rename origin =>
        obtain ⟨hash, new, _⟩ := isNew_of_path_rename branch
        exact absurd new (known hash)
    | _ => rfl

/-- The row that an available file gets does not depend on the order. -/
theorem settledRow_withOrder (unambiguous : Unambiguous sha1 run table)
    {before after : List LocaleFile} {file : LocaleFile}
    (place : passes run = before ++ file :: after)
    (earlier : ∀ other ∈ before, ¬ FailsAlways sha1 run table other) (first second : Order) :
    settledRow file (tableAfter sha1 (run.withOrder first) table before)
        (path sha1 (run.withOrder first) table file) =
      settledRow file (tableAfter sha1 (run.withOrder second) table before)
        (path sha1 (run.withOrder second) table file) := by
  have available : file ∈ run.available.files := by
    rw [← mem_passes, place]
    simp
  have notBefore : file.filename ∉ before.map LocaleFile.filename :=
    filename_not_mem_of_nodup (place ▸ passes_nodup run)
  have untouched : ∀ order : Order, (tableAfter sha1 (run.withOrder order) table before).lookup
      file.filename = table.lookup file.filename := fun order =>
    lookup_tableAfter_untouched sha1 (run.withOrder order) table ⟨file, available, rfl⟩ notBefore
  by_cases known : ∀ hash, ¬ IsNew sha1 table file hash
  · obtain ⟨same, notRenamed⟩ := path_withOrder run known first second
    rw [← same]
    exact settledRow_congr notRenamed ((untouched first).trans (untouched second).symm)
  · simp only [not_forall, not_not] at known
    obtain ⟨hash, new⟩ := known
    have same := reachedSame_of_unambiguous unambiguous before file after place earlier
    have decision := isApplied_withOrder same first second
    rw [Bool.eq_iff_iff, isApplied_iff, isApplied_iff] at decision
    rcases path_of_isNew_cases run new first with
      ⟨content, branch, _, _⟩ | ⟨origin, branch, cached, gone⟩ <;>
    rcases path_of_isNew_cases run new second with
      ⟨content', branch', _, _⟩ | ⟨origin', branch', cached', gone'⟩ <;>
    rw [branch, branch'] at decision ⊢
    · rfl
    · exact absurd rfl (decision.mp (List.cons_ne_nil _ _))
    · exact absurd rfl (decision.mpr (List.cons_ne_nil _ _))
    · rw [settledRow, settledRow, lookup_origin_withOrder place cached gone,
        lookup_origin_withOrder place cached' gone']
      obtain ⟨row, found, rowHash⟩ := lookup_of_cache cached
      obtain ⟨row', found', rowHash'⟩ := lookup_of_cache cached'
      by_cases equal : origin = origin'
      · rw [equal]
      · rcases unambiguous before file after hash place earlier new origin origin' row row' equal
          found found' rowHash rowHash' with ⟨there, _⟩ | ⟨_, _, sameState, _⟩
        · exact absurd there gone
        · have sameRow : row = row' := by
            cases row
            cases row'
            simp_all
          rw [found, found', sameRow]

/-- Two orders that take over different rows leave neither of them. -/
theorem lookup_gone_withOrder (unambiguous : Unambiguous sha1 run table) {name : String}
    (gone : ¬ run.isAvailable name) {row : UpdatesRow} (first second : Order)
    (kept : (outcome sha1 (run.withOrder first) table).table.lookup name = some row) :
    (outcome sha1 (run.withOrder second) table).table.lookup name = some row := by
  have reached := reachedSame_of_unambiguous unambiguous
  have removed : ∀ order : Order, (Completes sha1 (run.withOrder order) table ∧
      row.state ≠ .module ∧ (run.cleanDeadReferencesMaxCount < 0 ∨
        ((orphansLeft sha1 (run.withOrder order) table).length : Int) ≤
          run.cleanDeadReferencesMaxCount)) ↔
      (∀ file ∈ passes run, ¬ FailsAlways sha1 run table file) ∧ row.state ≠ .module ∧
        OrphansRemoved sha1 run table := by
    intro order
    rw [completes_iff reached order]
    refine and_congr_right fun may => and_congr_right fun _ => ?_
    rw [length_orphansLeft reached may order]
    rfl
  obtain ⟨found, notTaken, notRemoved⟩ :=
    (@lookup_outcome_gone sha1 (run.withOrder first) table name gone row).mp kept
  refine (@lookup_outcome_gone sha1 (run.withOrder second) table name gone row).mpr
    ⟨found, fun taken => ?_, ?_⟩
  · obtain ⟨file, member, hash, new, cached, _⟩ := mem_origins_withOrder.mp taken
    obtain ⟨_, found', rowHash⟩ := lookup_of_cache cached
    rw [found] at found'
    cases found'
    obtain ⟨other, otherCached⟩ := cache_isSome run found rowHash first
    rw [treated_withOrder reached second first] at member
    by_cases same : name = other
    · exact notTaken (mem_origins_withOrder.mpr
        ⟨file, member, hash, new, same.symm ▸ otherCached, gone⟩)
    · obtain ⟨otherRow, otherFound, otherHash⟩ := lookup_of_cache otherCached
      obtain ⟨before, after, place⟩ := List.append_of_mem member
      obtain ⟨later, split, earlier⟩ := reached_of_treated place
      rcases unambiguous before file later hash split earlier new name other row otherRow same
          found otherFound rowHash otherHash with ⟨there, _⟩ | ⟨_, _, _, notModule, may, orphans⟩
      · exact gone there
      · exact notRemoved ((removed first).mpr ⟨may, notModule, orphans⟩)
  · intro cleaned
    exact notRemoved ((removed first).mpr ((removed second).mp cleaned))

theorem orderIndependent_of_unambiguous (unambiguous : Unambiguous sha1 run table) :
    OrderIndependent sha1 run table := by
  have reached := reachedSame_of_unambiguous unambiguous
  intro first second
  refine ⟨?_, ?_⟩
  · intro script
    rw [executed_withOrder reached first second]
  · intro name
    by_cases available : run.isAvailable name
    · obtain ⟨file, member, rfl⟩ := available
      have sameFiles := treated_withOrder reached first second
      by_cases treatedFile : file ∈ treated sha1 (run.withOrder first) table
      · obtain ⟨before, after, place⟩ := List.append_of_mem treatedFile
        obtain ⟨later, split, earlier⟩ := reached_of_treated place
        rw [lookup_treated_withOrder place, lookup_treated_withOrder (sameFiles ▸ place)]
        exact settledRow_withOrder unambiguous split earlier first second
      · rw [lookup_untreated_withOrder member treatedFile,
          lookup_untreated_withOrder member (sameFiles ▸ treatedFile)]
    · apply Option.ext
      intro row
      exact ⟨lookup_gone_withOrder unambiguous available first second,
        lookup_gone_withOrder unambiguous available second first⟩

theorem not_isApplied_of_path_rename {file : LocaleFile} {origin : String} {order : Order}
    (renamed : path sha1 (run.withOrder order) table file = .rename origin) :
    isApplied sha1 (run.withOrder order) table file = false := by
  rw [Bool.eq_false_iff, ne_eq, isApplied_iff, renamed]
  simp [script]

/-- The first reached file whose hash belongs to a file that is there and to one
that is gone is applied in one order and renamed in another. -/
theorem sameAvailability_of_orderIndependent (independent : OrderIndependent sha1 run table)
    {before after : List LocaleFile} {file : LocaleFile}
    (place : passes run = before ++ file :: after)
    (earlier : ∀ other ∈ before, ¬ FailsAlways sha1 run table other)
    (sameBefore : ∀ other ∈ before, SameAvailability sha1 run table other) :
    SameAvailability sha1 run table file := by
  intro hash new first second firstRow secondRow firstFound secondFound firstHash secondHash
    present
  by_contra gone
  have available : file ∈ run.available.files := by
    rw [← mem_passes, place]
    simp
  have success : ∀ order : Order, ∀ other ∈ before,
      succeeds sha1 (run.withOrder order) table other = true := fun order other member =>
    succeeds_of_not_failsAlways (sameBefore other member) (earlier other member) order
  obtain ⟨applier, cachedFirst⟩ := exists_order_cache run firstFound firstHash
  obtain ⟨renamer, cachedSecond⟩ := exists_order_cache run secondFound secondHash
  obtain ⟨scripts, rows⟩ := independent applier renamer
  have renamed := path_of_isNew new cachedSecond gone
  have needed : isApplied sha1 (run.withOrder applier) table file = true := by
    rw [isApplied_of_isNew new, cachedFirst]
    simpa using present
  have readable : file.content.isSome = true := by
    rw [← Option.isSome_map (f := sha1), new.2]
    rfl
  have ends : succeeds sha1 (run.withOrder applier) table file =
      run.applyFile file.filename := by
    rw [succeeds, readable, needed]
    rfl
  have renamedTreated := treated_of_succeeds place (success renamer)
  rw [List.takeWhile_cons_of_pos (succeeds_of_path_rename renamed)] at renamedTreated
  have appliedTreated := treated_of_succeeds place (success applier)
  rcases Bool.eq_false_or_eq_true (run.applyFile file.filename) with applies | fails
  · rw [applies] at ends
    rw [List.takeWhile_cons_of_pos ends] at appliedTreated
    have executed : file.script ∈ (outcome sha1 (run.withOrder applier) table).executed := by
      rw [executed_outcome, appliedTreated]
      exact List.mem_map_of_mem (List.mem_filter.mpr ⟨by simp, needed⟩)
    rw [scripts, executed_outcome] at executed
    obtain ⟨other, member, sameScript⟩ := List.mem_map.mp executed
    obtain ⟨otherTreated, otherNeeded⟩ := List.mem_filter.mp member
    have otherPasses : other ∈ passes run := (List.takeWhile_sublist _).subset otherTreated
    have sameFile : other = file := List.inj_on_of_nodup_map (passes_nodup run) otherPasses
      ((mem_passes run).mpr available) (congrArg Prod.fst sameScript)
    rw [sameFile, not_isApplied_of_path_rename renamed] at otherNeeded
    cases otherNeeded
  · rw [fails] at ends
    rw [List.takeWhile_cons_of_neg (by simp [ends]), List.append_nil] at appliedTreated
    have untreated : file ∉ treated sha1 (run.withOrder applier) table := by
      intro member
      rw [succeeds_of_mem_treated member] at ends
      cases ends
    have unshared : ¬ ∃ other ∈ before, IsNew sha1 table other hash := by
      rintro ⟨other, member, otherNew⟩
      exact gone (sameBefore other member hash otherNew _ _ _ _ firstFound secondFound firstHash
        secondHash present)
    have differs := rows file.filename
    rw [lookup_untreated_withOrder available untreated, new.1,
      lookup_treated_withOrder renamedTreated, renamed, settledRow,
      lookup_origin_withOrder place cachedSecond gone, if_neg unshared, secondFound] at differs
    cases differs

theorem reachedSame_of_orderIndependent (independent : OrderIndependent sha1 run table) :
    ReachedSame sha1 run table := by
  intro before
  induction length : before.length using Nat.strong_induction_on generalizing before with
  | _ n ih =>
      intro file after place earlier
      refine sameAvailability_of_orderIndependent independent place earlier ?_
      intro other member
      obtain ⟨front, back, split⟩ := List.append_of_mem member
      refine ih front.length ?_ front rfl other (back ++ file :: after) ?_ ?_
      · rw [← length, split]
        simp
      · rw [place, split]
        simp
      · intro prior inFront
        apply earlier
        rw [split]
        exact List.mem_append_left _ inFront

/-- A file that is reached and is renamed in one order is treated in every
order. -/
theorem mem_treated_of_renamed (reached : ReachedSame sha1 run table)
    {before after : List LocaleFile} {file : LocaleFile} {hash name : String} {order : Order}
    (place : passes run = before ++ file :: after)
    (earlier : ∀ other ∈ before, ¬ FailsAlways sha1 run table other)
    (new : IsNew sha1 table file hash) (cached : cache run table order hash = some name)
    (gone : ¬ run.isAvailable name) (other : Order) :
    file ∈ treated sha1 (run.withOrder other) table := by
  have success : ∀ prior ∈ before, succeeds sha1 (run.withOrder order) table prior = true := by
    intro prior member
    obtain ⟨front, back, split⟩ := List.append_of_mem member
    have whole : passes run = front ++ prior :: (back ++ file :: after) := by
      rw [place, split]
      simp
    have earlier' : ∀ first ∈ front, ¬ FailsAlways sha1 run table first := fun first inFront =>
      earlier first (split.symm ▸ List.mem_append_left _ inFront)
    exact succeeds_of_not_failsAlways (reached front prior _ whole earlier')
      (earlier prior member) order
  have renamed := path_of_isNew new cached gone
  rw [treated_withOrder reached other order, treated_of_succeeds place success,
    List.takeWhile_cons_of_pos (succeeds_of_path_rename renamed)]
  simp

/-- The first treated file of a hash gets the row that the cache names. -/
theorem exists_lookup_of_taken {order : Order} {hash name : String} {row : UpdatesRow}
    {before after : List LocaleFile} {file : LocaleFile}
    (place : treated sha1 (run.withOrder order) table = before ++ file :: after)
    (new : IsNew sha1 table file hash)
    (unshared : ¬ ∃ other ∈ before, IsNew sha1 table other hash)
    (cached : cache run table order hash = some name) (gone : ¬ run.isAvailable name)
    (found : table.lookup name = some row) :
    (outcome sha1 (run.withOrder order) table).table.lookup file.filename = some row := by
  obtain ⟨later, split, _⟩ := reached_of_treated place
  rw [lookup_treated_withOrder place, path_of_isNew new cached gone, settledRow,
    lookup_origin_withOrder split cached gone, if_neg unshared, found]

theorem unambiguous_of_orderIndependent (independent : OrderIndependent sha1 run table) :
    Unambiguous sha1 run table := by
  have reached := reachedSame_of_orderIndependent independent
  intro before file after hash place earlier new first second firstRow secondRow different
    firstFound secondFound firstHash secondHash
  have same := reached before file after place earlier hash new
  by_cases present : run.isAvailable first
  · exact .inl ⟨present, same _ _ _ _ firstFound secondFound firstHash secondHash present⟩
  · have secondGone : ¬ run.isAvailable second := fun there =>
      present (same _ _ _ _ secondFound firstFound secondHash firstHash there)
    obtain ⟨taker, cachedFirst⟩ := exists_order_cache run firstFound firstHash
    obtain ⟨leaver, cachedSecond⟩ := exists_order_cache run secondFound secondHash
    have treatedFile := mem_treated_of_renamed reached place earlier new cachedFirst present
    obtain ⟨_, rows⟩ := independent taker leaver
    have sameState : firstRow = secondRow := by
      have someNew : ((treated sha1 (run.withOrder taker) table).find? fun other =>
          decide (IsNew sha1 table other hash)).isSome := by
        rw [List.find?_isSome]
        exact ⟨file, treatedFile taker, by simpa using new⟩
      obtain ⟨leader, leads⟩ := Option.isSome_iff_exists.mp someNew
      obtain ⟨leaderNew, front, back, split, unshared⟩ := List.find?_eq_some_iff_append.mp leads
      have leaderNew : IsNew sha1 table leader hash := by simpa using leaderNew
      have none : ¬ ∃ other ∈ front, IsNew sha1 table other hash := by
        rintro ⟨other, member, otherNew⟩
        simpa [otherNew] using unshared other member
      have underTaker := exists_lookup_of_taken split leaderNew none cachedFirst present firstFound
      rw [rows, exists_lookup_of_taken (treated_withOrder reached taker leaver ▸ split) leaderNew
        none cachedSecond secondGone secondFound] at underTaker
      exact (Option.some.inj underTaker).symm
    have removed : Completes sha1 (run.withOrder leaver) table ∧ firstRow.state ≠ .module ∧
        (run.cleanDeadReferencesMaxCount < 0 ∨
          ((orphansLeft sha1 (run.withOrder leaver) table).length : Int) ≤
            run.cleanDeadReferencesMaxCount) := by
      by_contra kept
      have left : (outcome sha1 (run.withOrder leaver) table).table.lookup first =
          some firstRow := by
        refine (@lookup_outcome_gone sha1 (run.withOrder leaver) table first present
          firstRow).mpr ⟨firstFound, fun taken => ?_, kept⟩
        obtain ⟨_, _, otherHash, _, otherCached, _⟩ := mem_origins_withOrder.mp taken
        obtain ⟨row, found, rowHash⟩ := lookup_of_cache otherCached
        rw [firstFound] at found
        cases found
        obtain rfl : otherHash = hash := rowHash.symm.trans firstHash
        rw [cachedSecond] at otherCached
        cases otherCached
        exact different rfl
      rw [← rows] at left
      have untaken := ((@lookup_outcome_gone sha1 (run.withOrder taker) table first present
        firstRow).mp left).2.1
      exact untaken (mem_origins_withOrder.mpr
        ⟨file, treatedFile taker, hash, new, cachedFirst, present⟩)
    obtain ⟨completes, notModule, allowed⟩ := removed
    have may := (completes_iff reached leaver).mp completes
    rw [length_orphansLeft reached may leaver] at allowed
    exact .inr ⟨present, secondGone, congrArg UpdatesRow.state sameState, notModule, may, allowed⟩

end Independence

end Orders

/-- The scripts that a run executes and the table it leaves do not depend on the
order of the applied files if and only if the hash of no new file that is
reached is ambiguous. -/
theorem orderIndependent_iff (sha1 : String → String) (run : Run) (table : UpdatesTable) :
    OrderIndependent sha1 run table ↔ Unambiguous sha1 run table :=
  ⟨unambiguous_of_orderIndependent, orderIndependent_of_unambiguous⟩

/-- Of two rows with the same hash, one belongs to a file that is there. -/
def copiedTable : UpdatesTable :=
  exampleTable.insert "b.sql" ⟨exampleDigest "SELECT 1;", .released⟩

/-- The new file `a.sql` is applied in one order and renamed in the other. -/
theorem effect_depends_on_order :
    ¬ OrderIndependent exampleDigest (exampleRun twoCopies) copiedTable := by
  intro independent
  have scripts := (independent ⟨id, fun _ => List.Perm.refl _⟩
    ⟨List.reverse, List.reverse_perm⟩).1 ("a.sql", "SELECT 1;")
  revert scripts
  decide

end UpdateFetcher

end WarheadBot
