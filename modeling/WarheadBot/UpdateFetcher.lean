import WarheadBot.UpdatesTable
import Mathlib.Data.String.Basic

/-!
# The update fetcher

`UpdateFetcher::Update` compares the update files found on disk with the
`updates` table, applies the scripts that are new or changed, follows renames
and moves, and finally removes the rows of files that are gone.  Scripts are
run by an external client, which either succeeds or throws; every other effect
goes through a query on the table.  The queries are given to `_apply`, which is
taken to execute each of them, with the meaning that `UpdatesTable` gives it for
names without quotes and backslashes.

The digest is a parameter, and so are the answers of the environment: whether a
file can be opened, whether its script can be applied, and the order in which
the hash map of applied files is walked.
-/

namespace WarheadBot

namespace UpdateFetcher

/-- An update file on disk; `content` is `none` when it cannot be opened. -/
structure LocaleFile where
  filename : String
  state : UpdateState
  content : Option String
  deriving DecidableEq, Repr

/-- The available files, ordered by file name as in the set of the source. -/
structure LocaleFileStorage where
  files : List LocaleFile
  sorted : files.Pairwise fun first second => first.filename < second.filename

/-- A row of the table as read at the start of the run. -/
structure AppliedFileEntry where
  name : String
  hash : String
  state : UpdateState
  deriving DecidableEq, Repr

/-- The configuration of one run and what the run meets. -/
structure Run where
  redundancyChecks : Bool
  allowRehash : Bool
  archivedRedundancy : Bool
  cleanDeadReferencesMaxCount : Int
  available : LocaleFileStorage
  -- Whether `_applyFile` succeeds on a file.
  applyFile : String → Bool
  -- The order in which the map of applied files is walked.
  iteration : List AppliedFileEntry → List AppliedFileEntry
  iteration_perm : ∀ entries, (iteration entries).Perm entries

def Run.isAvailable (run : Run) (name : String) : Prop :=
  ∃ file ∈ run.available.files, file.filename = name

instance (run : Run) (name : String) : Decidable (run.isAvailable name) :=
  inferInstanceAs (Decidable (∃ file ∈ run.available.files, file.filename = name))

def receiveAppliedFiles (run : Run) (table : UpdatesTable) : List AppliedFileEntry :=
  run.iteration (table.entries.map fun row => ⟨row.1, row.2.hash, row.2.state⟩)

/-- The hash-to-name cache: `emplace` keeps the first name of a hash. -/
def hashToName (applied : List AppliedFileEntry) (hash : String) : Option String :=
  (applied.find? fun entry => entry.hash = hash).map AppliedFileEntry.name

def findApplied (applied : List AppliedFileEntry) (name : String) : Option AppliedFileEntry :=
  applied.find? fun entry => entry.name = name

def eraseApplied (applied : List AppliedFileEntry) (name : String) : List AppliedFileEntry :=
  applied.filter fun entry => entry.name ≠ name

inductive UpdateMode
  | apply | rehash
  deriving DecidableEq, Repr

/-- The ways `ApplyUpdateFile` can treat a file. -/
inductive UpdatePath
  -- The redundancy checks are off, or both file and row are archived.
  | skip
  -- The file cannot be read.
  | unreadable
  -- The file is a renamed one.
  | rename (origin : String)
  -- The file is unchanged; its state may have changed.
  | moved (changed : Bool)
  -- The row is written, after the script was applied or without it.
  | record (mode : UpdateMode) (content hash : String)
  deriving DecidableEq, Repr

/-- The state of a run: the table, the queries sent so far, the entries not yet
accounted for, and the scripts applied so far with their contents. -/
structure FetchState where
  table : UpdatesTable
  queries : List UpdatesQuery
  applied : List AppliedFileEntry
  executed : List (String × String)
  importedUpdates : Nat

def FetchState.submit (query : UpdatesQuery) (state : FetchState) : FetchState :=
  { state with table := query.meaning state.table, queries := state.queries ++ [query] }

def FetchState.eraseApplied (name : String) (state : FetchState) : FetchState :=
  { state with applied := UpdateFetcher.eraseApplied state.applied name }

def updateEntry (name hash : String) (fileState : UpdateState) (state : FetchState) :
    FetchState :=
  state.submit (.replace name hash fileState)

/-- `RenameEntry`: the target is deleted first. -/
def renameEntry (source target : String) (state : FetchState) : FetchState :=
  (state.submit (.delete target)).submit (.rename target source)

def updateState (name : String) (fileState : UpdateState) (state : FetchState) : FetchState :=
  state.submit (.setState fileState name)

def cleanUp (names : List String) (state : FetchState) : FetchState :=
  if names.isEmpty then state else state.submit (.deleteIn names)

section Update

variable (sha1 : String → String) (run : Run)

/-- The branches of `ApplyUpdateFile`, for a file looked up in the entries that
are left. -/
def updatePath (origin : String → Option String) (applied : List AppliedFileEntry)
    (file : LocaleFile) : UpdatePath :=
  match findApplied applied file.filename with
  | none =>
      match file.content with
      | none => .unreadable
      | some content =>
          match origin (sha1 content) with
          | none => .record .apply content (sha1 content)
          | some name =>
              -- The old file is still there: the file is treated as a new one.
              if run.isAvailable name then
                .record .apply content (sha1 content)
              else
                .rename name
  | some entry =>
      if !run.redundancyChecks then
        .skip
      else if !run.archivedRedundancy && entry.state == .archived && file.state == .archived then
        .skip
      else
        match file.content with
        | none => .unreadable
        | some content =>
            if run.allowRehash && entry.hash.isEmpty then
              .record .rehash content (sha1 content)
            else if entry.hash ≠ sha1 content then
              .record .apply content (sha1 content)
            else
              .moved (entry.state != file.state)

/-- The effects of a branch; a throw leaves the state as it was before the
file. -/
def followPath (file : LocaleFile) (state : FetchState) :
    UpdatePath → Except FetchState FetchState
  | .skip => .ok (state.eraseApplied file.filename)
  | .unreadable => .error state
  | .rename origin =>
      .ok ((renameEntry origin file.filename state).eraseApplied origin)
  | .moved changed =>
      .ok ((if changed then updateState file.filename file.state state else state).eraseApplied
        file.filename)
  | .record .rehash _ hash =>
      .ok ((updateEntry file.filename hash file.state state).eraseApplied file.filename)
  | .record .apply content hash =>
      if run.applyFile file.filename then
        let ran := { state with executed := state.executed ++ [(file.filename, content)] }
        let recorded := updateEntry file.filename hash file.state ran
        .ok { recorded.eraseApplied file.filename with
          importedUpdates := state.importedUpdates + 1 }
      else
        .error state

def applyUpdateFile (origin : String → Option String) (file : LocaleFile) (state : FetchState) :
    Except FetchState FetchState :=
  followPath run file state (updatePath sha1 run origin state.applied file)

def applyUpdateFiles (origin : String → Option String) :
    List LocaleFile → FetchState → Except FetchState FetchState
  | [], state => .ok state
  | file :: files, state =>
      match applyUpdateFile sha1 run origin file state with
      | .ok next => applyUpdateFiles origin files next
      | .error left => .error left

/-- The files in the order of the three loops: released and archived ones, then
custom ones, then those of modules. -/
def passes : List LocaleFile :=
  (run.available.files.filter fun file => file.state = .released ∨ file.state = .archived) ++
    (run.available.files.filter fun file => file.state = .custom) ++
    run.available.files.filter fun file => file.state = .module

/-- The entries left over that are to be removed.  All of them count against
the configured limit, but those of modules are never removed. -/
def toCleanup (applied : List AppliedFileEntry) : List AppliedFileEntry :=
  if run.cleanDeadReferencesMaxCount < 0 ∨
      (applied.length : Int) ≤ run.cleanDeadReferencesMaxCount then
    applied.filter fun entry => entry.state ≠ .module
  else
    []

def cleanOrphans (state : FetchState) : FetchState :=
  if state.applied.isEmpty then
    state
  else
    cleanUp ((toCleanup run state.applied).map AppliedFileEntry.name) state

structure UpdateResult where
  updated : Nat
  recent : Nat
  archived : Nat
  deriving DecidableEq, Repr

def startState (table : UpdatesTable) : FetchState :=
  { table := table
    queries := []
    applied := receiveAppliedFiles run table
    executed := []
    importedUpdates := 0 }

/-- `UpdateFetcher::Update` without `setDirectories`: the final state with the
result, or the state in which an exception was thrown. -/
def update (table : UpdatesTable) : Except FetchState (FetchState × UpdateResult) :=
  let applied := receiveAppliedFiles run table
  match applyUpdateFiles sha1 run (hashToName applied) (passes run) (startState run table) with
  | .error left => .error left
  | .ok state =>
      .ok (cleanOrphans run state,
        { updated := state.importedUpdates
          recent := (applied.filter fun entry => entry.state = .released).length
          archived := (applied.filter fun entry => entry.state ≠ .released).length })

end Update

end UpdateFetcher

end WarheadBot
