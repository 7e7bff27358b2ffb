import WarheadBot.PreparedResultSetCells
import WarheadBot.ResultSet

/-!
# Loops over delivered results

A loop over a result that was delivered visits each of its rows once and in
order.  A text result has one row behind it when it is delivered, and each move
loads the next one; a prepared result goes through its positions.
-/

namespace WarheadBot

namespace QueryResult

open RangeFor (visits visits_eq visits_of_more visits_of_done)

section Text

/-- The fields of a text result are those of a row. -/
def ShowsRow (row : TextRow) (set : ResultSet) : Prop :=
  ∀ column < set.fieldCount, ∃ field, set.getField column = some field ∧
    field.value = (row.values column).map fun bytes => bytes.take (uint32 bytes.length)

theorem showsRow_load (row : TextRow) (set : ResultSet) (result : Option (List TextRow)) :
    ShowsRow row { set with result := result, currRow := set.load row } :=
  fun _ within => ⟨_, if_pos within, rfl⟩

/-- The loop over a text result ends, and its visits show the rows one by one. -/
def VisitsRows (rows : List TextRow) (set : ResultSet) : Prop :=
  ∃ visited last,
    (∀ fuel, rows.length ≤ fuel → visits ResultSet.nextRow fuel set = some (visited, last)) ∧
    List.Forall₂ ShowsRow rows visited

/-- The paths on which a text result is delivered. -/
def Delivers (result : MySQLResult) (set : ResultSet) : Prop :=
  (∃ hasConnection sql, DatabaseWorkerPool.query hasConnection sql (some result) = some set) ∨
    ∃ sql, BasicStatementTask.executeQuery sql (some result) = some set

/-- The rows that are left are loaded by the moves of the loop. -/
theorem exists_visits {rows : List TextRow} (lengths : ∀ row ∈ rows, row.hasLengths = true)
    {set : ResultSet} (left : set.result = some rows) :
    ∃ later last,
      (∀ fuel, rows.length < fuel →
        visits ResultSet.nextRow fuel set = some (set :: later, last)) ∧
      List.Forall₂ ShowsRow rows later := by
  induction rows generalizing set with
  | nil =>
      have done : set.nextRow = (false, set.cleanUp) := by rw [ResultSet.nextRow, left]
      refine ⟨[], set.cleanUp, ?_, List.Forall₂.nil⟩
      intro fuel enough
      rw [visits_of_done (by rw [done]) enough, done]
  | cons row rows ih =>
      have moved : set.nextRow =
          (true, { set with result := some rows, currRow := set.load row }) := by
        rw [ResultSet.nextRow, left]
        exact if_pos (lengths row List.mem_cons_self)
      obtain ⟨later, last, run, shown⟩ := @ih
        (fun other inside => lengths other (List.mem_cons_of_mem row inside))
        { set with result := some rows, currRow := set.load row } rfl
      refine ⟨_, last, ?_, List.Forall₂.cons (showsRow_load row set (some rows)) shown⟩
      intro fuel enough
      rw [visits_of_more (by rw [moved]) (Nat.zero_lt_of_lt enough), moved,
        run (fuel - 1) (by rw [List.length_cons] at enough; omega)]
      rfl

theorem of_query {result : MySQLResult} {sql : String} {set : ResultSet}
    (queried : MySQLConnection.query sql (some result) = some set) :
    set = ResultSet.create result := by
  unfold MySQLConnection.query at queried
  split_ifs at queried
  dsimp only at queried
  split_ifs at queried
  exact (Option.some.inj queried).symm

theorem of_deliver {found : Option ResultSet} {set : ResultSet}
    (delivered : deliver found = some set) :
    ∃ before, found = some before ∧ before.nextRow = (true, set) := by
  cases found with
  | none => exact nomatch delivered
  | some before =>
      unfold deliver at delivered
      dsimp only at delivered
      split_ifs at delivered with noRows moved
      exact ⟨before, rfl, Prod.ext moved (Option.some.inj delivered)⟩

/-- A move that finds a row loads it. -/
theorem of_nextRow {set next : ResultSet} (moved : set.nextRow = (true, next)) :
    ∃ row rows, set.result = some (row :: rows) ∧
      next = { set with result := some rows, currRow := set.load row } := by
  unfold ResultSet.nextRow at moved
  split at moved
  · exact nomatch moved
  · exact nomatch moved
  · next row rows left =>
    split_ifs at moved
    · exact ⟨row, rows, left, (congrArg Prod.snd moved).symm⟩
    · exact nomatch moved

/-- A result is delivered on its first row. -/
theorem exists_of_deliver {result : MySQLResult} {sql : String} {set : ResultSet}
    (delivered : deliver (MySQLConnection.query sql (some result)) = some set) :
    ∃ first rest, result.rows = first :: rest ∧ ShowsRow first set ∧ set.result = some rest := by
  obtain ⟨before, queried, moved⟩ := of_deliver delivered
  obtain rfl := of_query queried
  obtain ⟨first, rest, left, rfl⟩ := of_nextRow moved
  exact ⟨first, rest, Option.some.inj left, showsRow_load first _ _, rfl⟩

theorem visitsRows_of_delivers {result : MySQLResult} {set : ResultSet}
    (delivers : Delivers result set) (lengths : ∀ row ∈ result.rows, row.hasLengths = true) :
    VisitsRows result.rows set := by
  have delivered : ∃ sql, deliver (MySQLConnection.query sql (some result)) = some set := by
    rcases delivers with ⟨hasConnection, sql, delivered⟩ | ⟨sql, delivered⟩
    · cases hasConnection with
      | false => exact nomatch delivered
      | true => exact ⟨sql, delivered⟩
    · exact ⟨sql, delivered⟩
  obtain ⟨sql, delivered⟩ := delivered
  obtain ⟨first, rest, rows, shown, left⟩ := exists_of_deliver delivered
  rw [rows] at lengths ⊢
  obtain ⟨later, last, run, shownLater⟩ := exists_visits
    (fun row inside => lengths row (List.mem_cons_of_mem first inside)) left
  exact ⟨set :: later, last, run, List.Forall₂.cons shown shownLater⟩

end Text

section Prepared

variable {stmt : MySQLStmt} {rowCount : Fin (2 ^ 64)} {set : PreparedResultSet}

/-- The paths on which a prepared result is delivered. -/
def DeliversPrepared (stmt : MySQLStmt) (rowCount : Fin (2 ^ 64)) (set : PreparedResultSet) :
    Prop :=
  (∃ isAllSet hasConnection, DatabaseWorkerPool.queryPrepared isAllSet hasConnection
      (some (stmt, rowCount)) = some (some set)) ∨
    PreparedStatementTask.executeQuery (some (stmt, rowCount)) = some (some set)

/-- The field of a row and a column was made from what was fetched for them. -/
def ShowsValue (stmt : MySQLStmt) (set : PreparedResultSet) (row column : Nat) : Prop :=
  ∃ field, (set.atRow row).getField column = some field ∧
    field.value.isSome = (stmt.value row column).isSome ∧
    ∀ bytes ∈ stmt.value row column, field.length = uint32 bytes.length ∧
      (stmt.FitsBuffer → set.Exposes row column field bytes)

/-- The loop over a prepared result goes through its positions, at each of which `Fetch`
finds a row; if the statement could be bound and all rows fetched, it is the one that
was fetched for the position. -/
structure VisitsPositions (stmt : MySQLStmt) (set : PreparedResultSet) : Prop where
  visits : ∃ last, ∀ fuel, set.rowCount ≤ fuel →
    RangeFor.visits PreparedResultSet.nextRow fuel set =
      some ((List.range set.rowCount).map set.atRow, last)
  fetches : ∀ row < set.rowCount, (set.atRow row).fetch.isSome = true
  shows : stmt.hasMetadata = true → stmt.stores = true → stmt.binds = true →
    stmt.numRows ≤ stmt.fetched.length →
    set.rowCount = stmt.numRows ∧
      ∀ row < stmt.numRows, ∀ column < stmt.fieldCount, ShowsValue stmt set row column

theorem nextRow_atRow {row : Nat} (early : row < set.rowCount) :
    (set.atRow row).nextRow = (decide (row + 1 < set.rowCount), set.atRow (row + 1)) := by
  have bound := set.rowCount_lt
  have small : (row + 1) % 2 ^ 64 = row + 1 := Nat.mod_eq_of_lt (by omega)
  rw [PreparedResultSet.nextRow, PreparedResultSet.atRow]
  dsimp only
  rw [small]
  rfl

theorem of_deliverPrepared {found : Option PreparedResultSet}
    (delivered : deliverPrepared found = some set) : found = some set ∧ set.rowCount ≠ 0 := by
  cases found with
  | none => exact nomatch delivered
  | some before =>
      unfold deliverPrepared at delivered
      dsimp only at delivered
      split_ifs at delivered with noRows
      obtain rfl := Option.some.inj delivered
      exact ⟨rfl, noRows⟩

theorem of_deliversPrepared (delivers : DeliversPrepared stmt rowCount set) :
    PreparedResultSet.create stmt rowCount = some set ∧ set.rowCount ≠ 0 := by
  have delivered : (MySQLConnection.queryPrepared (some (stmt, rowCount))).map deliverPrepared =
      some (some set) := by
    rcases delivers with ⟨isAllSet, hasConnection, delivered⟩ | delivered
    · unfold DatabaseWorkerPool.queryPrepared at delivered
      split_ifs at delivered
      · exact delivered
      · exact nomatch delivered
    · exact delivered
  obtain ⟨found, queried, delivered⟩ := Option.map_eq_some_iff.mp delivered
  obtain ⟨rfl, hasRows⟩ := of_deliverPrepared delivered
  obtain ⟨created, constructed, same⟩ := Option.map_eq_some_iff.mp queried
  exact ⟨Option.some.inj same ▸ constructed, hasRows⟩

theorem create_rowPosition (created : PreparedResultSet.create stmt rowCount = some set) :
    set.rowPosition = 0 := by
  unfold PreparedResultSet.create at created
  split_ifs at created
  · exact Option.some.inj created ▸ rfl
  · exact Option.some.inj created ▸ rfl
  · obtain ⟨reading, -, rfl⟩ := Option.map_eq_some_iff.mp created
    rfl

open MySQLStmt in
/-- The rows of the result are those that were fetched. -/
theorem shows_of_create (hasMetadata : stmt.hasMetadata = true) (stores : stmt.stores = true)
    (binds : stmt.binds = true) (fetchesAll : stmt.numRows ≤ stmt.fetched.length)
    (created : PreparedResultSet.create stmt rowCount = some set) :
    set.rowCount = stmt.numRows ∧
      ∀ row < stmt.numRows, ∀ column < stmt.fieldCount, ShowsValue stmt set row column := by
  rw [create_of_binds hasMetadata stores binds] at created
  obtain ⟨reading, read, rfl⟩ := Option.map_eq_some_iff.mp created
  refine ⟨rfl, ?_⟩
  intro row early column within
  obtain ⟨lastRow, filled, finished⟩ := readRows_filled rfl startReading_filled read
  have before : row < lastRow := by omega
  have small : reading.rowsSize < 2 ^ 32 := filled.rowsSize ▸ startReading_rowsSize_lt
  have accessible := (index_lt within before).trans_le filled.bound
  obtain ⟨isSome, length⟩ := filled.cells row column within (Or.inl before)
  refine ⟨_, getField_resultOf early within accessible small, isSome, ?_⟩
  intro bytes inside
  refine ⟨length bytes inside, ?_⟩
  intro fits
  obtain ⟨other, readAgain, stored⟩ := exists_readRows fits
  obtain rfl : reading = other := Option.some.inj (read.symm.trans readAgain)
  exact exposes_resultOf fits stored early within inside

theorem visitsPositions_of_deliversPrepared (delivers : DeliversPrepared stmt rowCount set) :
    VisitsPositions stmt set := by
  obtain ⟨created, hasRows⟩ := of_deliversPrepared delivers
  have start : set.atRow 0 = set := by
    rw [PreparedResultSet.atRow, ← create_rowPosition created]
  refine ⟨⟨(set.atRow (set.rowCount - 1)).nextRow.2, ?_⟩, ?_, ?_⟩
  · intro fuel enough
    have count : set.rowCount - 1 + 1 = set.rowCount := by omega
    have run := @visits_eq _ PreparedResultSet.nextRow set.atRow (set.rowCount - 1)
      (by
        intro row early
        rw [nextRow_atRow (by omega), decide_eq_true (by omega)])
      (by
        rw [nextRow_atRow (by omega), count]
        exact decide_eq_false (Nat.lt_irrefl _))
      fuel (by omega)
    rw [start, count] at run
    exact run
  · intro row early
    exact congrArg Option.isSome (if_pos early)
  · intro hasMetadata stores binds fetchesAll
    exact shows_of_create hasMetadata stores binds fetchesAll created

end Prepared

/-- A loop over a delivered result visits its rows in order, each of them once, and no
assertion fails. -/
theorem rangeFor_visits_delivered :
    (∀ (result : MySQLResult) (set : ResultSet), Delivers result set →
      (∀ row ∈ result.rows, row.hasLengths = true) → VisitsRows result.rows set) ∧
    ∀ (stmt : MySQLStmt) (rowCount : Fin (2 ^ 64)) (set : PreparedResultSet),
      DeliversPrepared stmt rowCount set → VisitsPositions stmt set :=
  ⟨fun _ _ delivers lengths => visitsRows_of_delivers delivers lengths,
    fun _ _ _ delivers => visitsPositions_of_deliversPrepared delivers⟩

def exampleResult : MySQLResult where
  rows := [⟨fun _ => some [49], true⟩, ⟨fun _ => none, true⟩]
  fieldCount := 1
  fields := fun _ => ⟨"count", .long, 0⟩
  affectedRows := 2

theorem exampleResult_delivered :
    ∃ set, DatabaseWorkerPool.query true "SELECT" (some exampleResult) = some set := by
  unfold DatabaseWorkerPool.query MySQLConnection.query
  rw [if_pos rfl, if_neg (by decide)]
  exact ⟨_, rfl⟩

theorem exampleStmt_delivered :
    ∃ set, PreparedStatementTask.executeQuery (some (exampleStmt, 0)) = some (some set) := by
  obtain ⟨reading, read, -⟩ := MySQLStmt.exists_readRows exampleStmt_fits
  have created : PreparedResultSet.create exampleStmt 0 = some (resultOf exampleStmt reading) := by
    rw [create_of_binds rfl rfl rfl, read, Option.map_some]
  refine ⟨resultOf exampleStmt reading, ?_⟩
  unfold PreparedStatementTask.executeQuery MySQLConnection.queryPrepared
  dsimp only
  rw [created]
  rfl

theorem rangeFor_visits_examples :
    (∃ set, DatabaseWorkerPool.query true "SELECT" (some exampleResult) = some set ∧
      VisitsRows exampleResult.rows set) ∧
    ∃ set, PreparedStatementTask.executeQuery (some (exampleStmt, 0)) = some (some set) ∧
      VisitsPositions exampleStmt set := by
  obtain ⟨set, delivered⟩ := exampleResult_delivered
  obtain ⟨prepared, deliveredPrepared⟩ := exampleStmt_delivered
  exact ⟨⟨set, delivered, rangeFor_visits_delivered.1 exampleResult set
      (Or.inl ⟨true, "SELECT", delivered⟩) (by simp [exampleResult])⟩,
    prepared, deliveredPrepared,
    rangeFor_visits_delivered.2 exampleStmt 0 prepared (Or.inr deliveredPrepared)⟩

end QueryResult

end WarheadBot
