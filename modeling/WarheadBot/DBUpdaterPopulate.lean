import WarheadBot.GuardedRuns
import Mathlib.Data.List.Perm.Basic

/-!
# Populating an empty database

`DBUpdater::Populate` applies every `.sql` file of the base directory of a pool
to a database that `SHOW TABLES` reports as empty.  Files are applied by an
external client, so a file that fails may already have created tables.  The
next call looks at `SHOW TABLES` only: it takes such a database for a populated
one.
-/

namespace WarheadBot

namespace DBUpdater

open GuardedRuns

/-- The tables of the database, and the base files that were applied to it
successfully so far. -/
structure Database where
  tables : List String
  applied : List String
  deriving DecidableEq, Repr

def Database.empty : Database := ⟨[], []⟩

/-- `path.extension() == ".sql"`: the name ends in `.sql` and does not consist
of it. -/
def isSql (name : String) : Bool :=
  ".sql".toList.isSuffixOf name.toList && name != ".sql"

/-- What one call of `Populate` meets: whether `SHOW TABLES` is answered,
whether the client executable and the directory are found, the order in which
the directory is walked, and what `ApplyFile` makes of each file: whether it
succeeds, and the tables it leaves. -/
structure PopulateCall (directory : List String) where
  retrieved : Bool
  executable : Bool
  isDirectory : Bool
  order : List String
  order_perm : order.Perm directory
  applyFile : String → List String → Bool × List String

variable {directory : List String}

/-- `ApplyFile`: a failure is thrown with the database as the client left it. -/
def applyFile (call : PopulateCall directory) (path : String) (database : Database) :
    Except Database Database :=
  let (succeeded, tables) := call.applyFile path database.tables
  if succeeded then
    .ok ⟨tables, database.applied ++ [path]⟩
  else
    .error ⟨tables, database.applied⟩

/-- The loop over the directory, up to the first file that throws. -/
def applyFiles (call : PopulateCall directory) : List String → Database → Except Database Database
  | [], database => .ok database
  | path :: paths, database =>
      if isSql path then
        match applyFile call path database with
        | .ok next => applyFiles call paths next
        | .error left => .error left
      else
        applyFiles call paths database

/-- The result of `Populate` and the database it leaves. -/
def populate (call : PopulateCall directory) (database : Database) : Bool × Database :=
  if call.retrieved && !database.tables.isEmpty then
    (true, database)
  else if !call.executable then
    (false, database)
  else if !call.isDirectory then
    (false, database)
  else if (call.order.filter isSql).length = 0 then
    (false, database)
  else
    match applyFiles call call.order database with
    | .ok populated => (true, populated)
    | .error left => (false, left)

def populateStep (database : Database) (call : PopulateCall directory) : Option Database :=
  some (populate call database).2

def Complete (directory : List String) (database : Database) : Prop :=
  ∀ path ∈ directory, isSql path → path ∈ database.applied

theorem applyFile_ok {call : PopulateCall directory} {path : String} {database next : Database}
    (applied : applyFile call path database = .ok next) :
    next.applied = database.applied ++ [path] := by
  simp only [applyFile] at applied
  split at applied
  · cases applied
    rfl
  · cases applied

theorem applyFiles_ok {call : PopulateCall directory} {paths : List String}
    {database next : Database} (applied : applyFiles call paths database = .ok next) :
    database.applied ⊆ next.applied ∧ ∀ path ∈ paths, isSql path → path ∈ next.applied := by
  induction paths generalizing database with
  | nil =>
      cases applied
      exact ⟨List.Subset.refl _, by simp⟩
  | cons path paths ih =>
      simp only [applyFiles] at applied
      by_cases sql : isSql path = true
      · rw [if_pos sql] at applied
        cases first : applyFile call path database with
        | error left => simp [first] at applied
        | ok middle =>
            simp only [first] at applied
            obtain ⟨kept, rest⟩ := ih applied
            have grown := applyFile_ok first
            refine ⟨fun old member => kept (by simp [grown, member]), ?_⟩
            intro other member otherSql
            rcases List.mem_cons.mp member with same | later
            · exact kept (by simp [grown, same])
            · exact rest other later otherSql
      · rw [if_neg sql] at applied
        obtain ⟨kept, rest⟩ := ih applied
        refine ⟨kept, ?_⟩
        intro other member otherSql
        rcases List.mem_cons.mp member with same | later
        · exact absurd (same ▸ otherSql) sql
        · exact rest other later otherSql

theorem applyFiles_order_complete {call : PopulateCall directory} {database next : Database}
    (applied : applyFiles call call.order database = .ok next) : Complete directory next := by
  intro path member sql
  exact (applyFiles_ok applied).2 path (call.order_perm.mem_iff.mpr member) sql

def Populates (call : PopulateCall directory) (database : Database) : Prop :=
  call.retrieved = false ∨ database.tables = []

/-- If a file of the call fails, the client leaves no table behind, or every
base file has been applied by then. -/
def FailsClean (database : Database) (call : PopulateCall directory) : Prop :=
  Populates call database → ∀ left, applyFiles call call.order database = .error left →
    left.tables = [] ∨ Complete directory left

/-- A database with a table in it holds all base files. -/
def EmptyOrComplete (directory : List String) (database : Database) : Prop :=
  database.tables = [] ∨ Complete directory database

/-- What a call can do: nothing but report success on a database with tables,
give up without touching the database, apply every file, or stop at a file that
fails. -/
theorem populate_cases (call : PopulateCall directory) (database : Database) :
    (¬ Populates call database ∧ populate call database = (true, database)) ∨
      (Populates call database ∧
        (populate call database = (false, database) ∨
          (∃ populated, applyFiles call call.order database = .ok populated ∧
            populate call database = (true, populated)) ∨
          ∃ left, applyFiles call call.order database = .error left ∧
            populate call database = (false, left))) := by
  unfold populate
  by_cases early : (call.retrieved && !database.tables.isEmpty) = true
  · left
    rw [if_pos early]
    refine ⟨?_, rfl⟩
    simp only [Bool.and_eq_true, Bool.not_eq_true', List.isEmpty_eq_false_iff] at early
    rintro (unanswered | none)
    · simp [early.1] at unanswered
    · exact early.2 none
  · right
    rw [if_neg early]
    refine ⟨?_, ?_⟩
    · simp only [Bool.and_eq_true, Bool.not_eq_true', List.isEmpty_eq_false_iff, not_and,
        not_not] at early
      cases answered : call.retrieved with
      | false => exact Or.inl answered
      | true => exact Or.inr (early answered)
    · split
      · exact Or.inl rfl
      split
      · exact Or.inl rfl
      split
      · exact Or.inl rfl
      cases walked : applyFiles call call.order database with
      | ok populated => exact Or.inr (Or.inl ⟨populated, rfl, rfl⟩)
      | error left => exact Or.inr (Or.inr ⟨left, rfl, rfl⟩)

theorem emptyOrComplete_step {database next : Database} {call : PopulateCall directory}
    (before : EmptyOrComplete directory database) (clean : FailsClean database call)
    (moved : populateStep database call = some next) : EmptyOrComplete directory next := by
  rw [populateStep, Option.some.injEq] at moved
  subst moved
  rcases populate_cases call database with ⟨_, result⟩ | ⟨populates, result | result | result⟩
  · rw [result]
    exact before
  · rw [result]
    exact before
  · obtain ⟨populated, walked, result⟩ := result
    rw [result]
    exact Or.inr (applyFiles_order_complete walked)
  · obtain ⟨left, walked, result⟩ := result
    rw [result]
    exact clean populates left walked

/-- In every sequence of calls on an empty database in which a failing file
never leaves tables behind before all base files are applied, a call that
returns true finds or makes the database complete. -/
theorem populate_true_complete {calls : List (PopulateCall directory)} {database : Database}
    (clean : Meets populateStep FailsClean Database.empty calls)
    (reached : exec populateStep Database.empty calls = some database)
    (call : PopulateCall directory) (succeeded : (populate call database).1 = true) :
    Complete directory (populate call database).2 := by
  have before : EmptyOrComplete directory database :=
    exec_invariant emptyOrComplete_step clean reached (Or.inl rfl)
  rcases populate_cases call database with ⟨skipped, result⟩ | ⟨_, result | result | result⟩
  · rw [result]
    rcases before with none | complete
    · exact absurd (Or.inr none) skipped
    · exact complete
  · simp [result] at succeeded
  · obtain ⟨populated, walked, result⟩ := result
    rw [result]
    exact applyFiles_order_complete walked
  · obtain ⟨left, walked, result⟩ := result
    simp [result] at succeeded

def baseFiles : List String := ["guild_players.sql", "updates.sql", "updates_include.sql"]

/-- A call in which the given file fails and every other file creates its
table; the failing file is rolled back. -/
def failingAt (bad : String) : PopulateCall baseFiles where
  retrieved := true
  executable := true
  isDirectory := true
  order := baseFiles
  order_perm := List.Perm.refl _
  applyFile path tables := if path = bad then (false, tables) else (true, tables ++ [path])

/-- The first file fails and leaves nothing behind; the second call then
applies all of them. -/
theorem populate_after_clean_failure :
    Complete baseFiles
      (populate (failingAt "") (populate (failingAt "guild_players.sql") Database.empty).2).2 := by
  refine @populate_true_complete baseFiles [failingAt "guild_players.sql"] _ ?_ rfl
    (failingAt "") (by decide)
  refine ⟨?_, fun _ _ => trivial⟩
  intro _ left failed
  cases failed
  exact Or.inl rfl

/-- The second file fails after the first one has created its table: the next
call returns true although two files were never applied. -/
theorem populate_true_on_partial_database :
    (populate (failingAt "") (populate (failingAt "updates.sql") Database.empty).2).1 = true ∧
      ¬ Complete baseFiles
        (populate (failingAt "")
          (populate (failingAt "updates.sql") Database.empty).2).2 := by
  refine ⟨by decide, ?_⟩
  intro complete
  have applied := complete "updates.sql" (by decide) (by decide)
  revert applied
  decide

end DBUpdater

end WarheadBot
