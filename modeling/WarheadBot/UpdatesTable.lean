import Mathlib.Data.List.AList

/-!
# The `updates` table

The table records the update files that were applied to a database, keyed by
file name.  This file gives the queries that the updater sends to it and what
each of them does to the rows, with exact comparison of names.  The columns
`timestamp` and `speed` are never read by the updater and are left out.

The updater puts file names into the text of a query as they are.  Here a query
is the structure that the text stands for, so that all that is said about the
table is said of names without quotes and backslashes.
-/

namespace WarheadBot

/-- Where an update file was found, as the `state` column records it. -/
inductive UpdateState
  | released | custom | module | archived
  deriving DecidableEq, Repr

structure UpdatesRow where
  hash : String
  state : UpdateState
  deriving DecidableEq, Repr

/-- Rows keyed by the primary key `name`. -/
abbrev UpdatesTable := AList fun _ : String => UpdatesRow

/-- The statements the updater passes to `_apply`. -/
inductive UpdatesQuery
  -- `REPLACE INTO updates (name, hash, state, ...) VALUES ...`
  | replace (name hash : String) (state : UpdateState)
  -- `DELETE FROM updates WHERE name = ...`
  | delete (name : String)
  -- `UPDATE updates SET name = target WHERE name = source`
  | rename (target source : String)
  -- `UPDATE updates SET state = ... WHERE name = ...`
  | setState (state : UpdateState) (name : String)
  -- `DELETE FROM updates WHERE name IN (...)`
  | deleteIn (names : List String)
  deriving DecidableEq, Repr

namespace UpdatesQuery

/-- Renaming onto the name of another row violates the primary key and changes
nothing. -/
def renameRow (target source : String) (table : UpdatesTable) : UpdatesTable :=
  match table.lookup source with
  | none => table
  | some row => if target ∈ table then table else (table.erase source).insert target row

def setRowState (state : UpdateState) (name : String) (table : UpdatesTable) : UpdatesTable :=
  match table.lookup name with
  | none => table
  | some row => table.insert name { row with state := state }

def meaning : UpdatesQuery → UpdatesTable → UpdatesTable
  | replace name hash state, table => table.insert name ⟨hash, state⟩
  | delete name, table => table.erase name
  | rename target source, table => renameRow target source table
  | setState state name, table => setRowState state name table
  | deleteIn names, table => names.foldl (fun rows name => rows.erase name) table

def meanings (queries : List UpdatesQuery) (table : UpdatesTable) : UpdatesTable :=
  queries.foldl (fun rows query => query.meaning rows) table

@[simp]
theorem meanings_append (first second : List UpdatesQuery) (table : UpdatesTable) :
    meanings (first ++ second) table = meanings second (meanings first table) :=
  List.foldl_append

@[simp]
theorem lookup_replace_self (name hash : String) (state : UpdateState) (table : UpdatesTable) :
    ((replace name hash state).meaning table).lookup name = some ⟨hash, state⟩ :=
  AList.lookup_insert table

theorem lookup_replace_of_ne {name other hash : String} (state : UpdateState)
    (table : UpdatesTable) (different : other ≠ name) :
    ((replace name hash state).meaning table).lookup other = table.lookup other :=
  AList.lookup_insert_ne different

theorem lookup_delete_of_ne {name other : String} (table : UpdatesTable)
    (different : other ≠ name) :
    ((delete name).meaning table).lookup other = table.lookup other :=
  AList.lookup_erase_ne different

theorem lookup_delete_of_absent {name : String} {table : UpdatesTable}
    (absent : table.lookup name = none) (other : String) :
    ((delete name).meaning table).lookup other = table.lookup other := by
  by_cases same : other = name
  · subst same
    rw [absent]
    exact AList.lookup_erase other table
  · exact lookup_delete_of_ne table same

/-- Renaming to a free name moves the row. -/
theorem lookup_rename_target {target source : String} {table : UpdatesTable}
    (absent : table.lookup target = none) :
    ((rename target source).meaning table).lookup target = table.lookup source := by
  have free : target ∉ table := AList.lookup_eq_none.mp absent
  simp only [meaning, renameRow]
  cases found : table.lookup source with
  | none => exact absent
  | some row =>
      simp only [if_neg free]
      exact AList.lookup_insert _

theorem lookup_rename_source {target source : String} {table : UpdatesTable}
    (absent : table.lookup target = none) (different : source ≠ target) :
    ((rename target source).meaning table).lookup source = none := by
  have free : target ∉ table := AList.lookup_eq_none.mp absent
  simp only [meaning, renameRow]
  cases found : table.lookup source with
  | none => exact found
  | some row =>
      simp only [if_neg free]
      rw [AList.lookup_insert_ne different]
      exact AList.lookup_erase source table

theorem lookup_rename_of_ne {target source other : String} (table : UpdatesTable)
    (notTarget : other ≠ target) (notSource : other ≠ source) :
    ((rename target source).meaning table).lookup other = table.lookup other := by
  simp only [meaning, renameRow]
  cases table.lookup source with
  | none => rfl
  | some row =>
      dsimp only
      split
      · rfl
      · rw [AList.lookup_insert_ne notTarget, AList.lookup_erase_ne notSource]

@[simp]
theorem lookup_setState_self (state : UpdateState) (name : String) (table : UpdatesTable) :
    ((setState state name).meaning table).lookup name =
      (table.lookup name).map fun row => { row with state := state } := by
  simp only [meaning, setRowState]
  cases found : table.lookup name with
  | none => simp [found]
  | some row => simp [AList.lookup_insert]

theorem lookup_setState_of_ne {name other : String} (state : UpdateState)
    (table : UpdatesTable) (different : other ≠ name) :
    ((setState state name).meaning table).lookup other = table.lookup other := by
  simp only [meaning, setRowState]
  cases table.lookup name with
  | none => rfl
  | some row => exact AList.lookup_insert_ne different

theorem lookup_deleteIn (names : List String) (table : UpdatesTable) (name : String) :
    ((deleteIn names).meaning table).lookup name =
      if name ∈ names then none else table.lookup name := by
  simp only [meaning]
  induction names generalizing table with
  | nil => simp
  | cons first names ih =>
      rw [List.foldl_cons, ih]
      by_cases later : name ∈ names
      · simp [later]
      · by_cases same : name = first
        · subst same
          simp [later, AList.lookup_erase]
        · simp [later, same, AList.lookup_erase_ne same]

end UpdatesQuery

end WarheadBot
