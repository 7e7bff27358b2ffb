import WarheadBot.PreparedResultSet

/-!
# The rows of a prepared result

If the constructor ends, each field of its rows was made from what was fetched
for that row and column: it is null for `NULL`, and otherwise it has the length
of the value.  The indices are computed with 32 bits, but an index that overflowed
would come after one that is out of range.
-/

namespace WarheadBot

namespace QueryResult

open ByteBuffer
open Iteration (countedLoop countedLoop_invariant)

namespace MySQLStmt

/-- The value that is fetched for a row and a column. -/
def value (stmt : MySQLStmt) (row column : Nat) : Option (List UInt8) :=
  (stmt.fetched[row]?).bind fun values => values column

variable {stmt : MySQLStmt} {row column : Nat}

theorem value_of_fetched {values : Row} (present : stmt.fetched[row]? = some values)
    (column : Nat) : stmt.value row column = values column := by
  rw [value, present, Option.bind_some]

theorem fetched_of_value {bytes : List UInt8} (value : stmt.value row column = some bytes) :
    row < stmt.fetched.length := by
  by_contra behind
  rw [MySQLStmt.value, List.getElem?_eq_none (not_lt.mp behind)] at value
  exact nomatch value

section Indices

/-- Each step of the index can be computed with `uint32`. -/
theorem fieldIndex_eq_uint32 (row column : Nat) :
    stmt.fieldIndex row column = uint32 (row * stmt.fieldCount + column) := by
  unfold fieldIndex uint32
  rw [Nat.mod_add_mod, Nat.add_mod, Nat.mod_mul_mod, ← Nat.add_mod]

theorem fieldIndex_eq (small : row * stmt.fieldCount + column < 2 ^ 32) :
    stmt.fieldIndex row column = row * stmt.fieldCount + column := by
  rw [fieldIndex_eq_uint32, uint32, Nat.mod_eq_of_lt small]

/-- Different fields have different indices. -/
theorem index_injective {otherRow otherColumn : Nat} (within : column < stmt.fieldCount)
    (otherWithin : otherColumn < stmt.fieldCount)
    (same : row * stmt.fieldCount + column = otherRow * stmt.fieldCount + otherColumn) :
    row = otherRow ∧ column = otherColumn := by
  have positive := Nat.zero_lt_of_lt within
  have rows : row = otherRow := by
    have divided := congrArg (· / stmt.fieldCount) same
    simpa [Nat.add_comm, Nat.add_mul_div_right _ _ positive, Nat.div_eq_of_lt within,
      Nat.div_eq_of_lt otherWithin] using divided
  subst rows
  exact ⟨rfl, Nat.add_left_cancel same⟩

theorem index_lt {rows : Nat} (early : column < stmt.fieldCount) (rowEarly : row < rows) :
    row * stmt.fieldCount + column < rows * stmt.fieldCount := by
  have whole := Nat.mul_le_mul_right stmt.fieldCount (Nat.succ_le_of_lt rowEarly)
  rw [Nat.succ_mul] at whole
  omega

end Indices

/-- What `mysql_stmt_fetch` changes for a column. -/
theorem fetchColumn_cases {values : Row} {reading next : Reading}
    (moved : fetchColumn values column reading = some next) :
    next.rows = reading.rows ∧ next.rowsSize = reading.rowsSize ∧
      next.rowPosition = reading.rowPosition ∧
      (∀ other, other ≠ column → next.binds other = reading.binds other) ∧
      (next.binds column).isNull = (values column).isNone ∧
      ∀ bytes ∈ values column, (next.binds column).length = bytes.length := by
  unfold fetchColumn at moved
  cases fetched : values column with
  | none =>
      rw [fetched] at moved
      obtain rfl := Option.some.inj moved
      refine ⟨rfl, rfl, rfl, fun other differs => Function.update_of_ne differs _ _, ?_,
        fun _ inside => nomatch inside⟩
      dsimp only
      rw [Function.update_self]
      rfl
  | some bytes =>
      rw [fetched] at moved
      obtain ⟨data, -, rfl⟩ := Option.map_eq_some_iff.mp moved
      refine ⟨rfl, rfl, rfl, fun other differs => Function.update_of_ne differs _ _, ?_, ?_⟩
      · dsimp only
        rw [Function.update_self]
        rfl
      · intro other inside
        dsimp only
        rw [Function.update_self, Option.some.inj inside]

/-- What is stored for a column of a row. -/
theorem storeColumn_cases {reading next : Reading}
    (moved : stmt.storeColumn column reading = some next) :
    stmt.fieldIndex reading.rowPosition column < reading.rowsSize ∧
      next.rowsSize = reading.rowsSize ∧ next.rowPosition = reading.rowPosition ∧
      (∀ other, other ≠ column → next.binds other = reading.binds other) ∧
      ∃ field : BufferedField,
        next.rows =
          Function.update reading.rows (stmt.fieldIndex reading.rowPosition column) field ∧
        field.value.isSome = !(reading.binds column).isNull ∧
        field.length = uint32 (reading.binds column).length := by
  unfold storeColumn at moved
  dsimp only at moved
  split_ifs at moved with accessible null
  · obtain rfl := Option.some.inj moved
    exact ⟨accessible, rfl, rfl, fun _ _ => rfl, _, rfl, by rw [null]; rfl, rfl⟩
  · obtain ⟨data, -, rfl⟩ := Option.map_eq_some_iff.mp moved
    rw [Bool.not_eq_true] at null
    exact ⟨accessible, rfl, rfl, fun other differs => Function.update_of_ne differs _ _, _, rfl,
      by rw [null]; rfl, rfl⟩

/-- What holds of the rows when some columns of a row have been fetched, and some
of these have been stored. -/
structure Filled (stmt : MySQLStmt) (row fetchedColumns storedColumns : Nat) (reading : Reading) :
    Prop where
  position : reading.rowPosition = row
  rowsSize : reading.rowsSize = stmt.startReading.rowsSize
  bound : row * stmt.fieldCount + storedColumns ≤ reading.rowsSize
  pending : ∀ column < fetchedColumns, storedColumns ≤ column →
    (reading.binds column).isNull = (stmt.value row column).isNone ∧
    ∀ bytes ∈ stmt.value row column, (reading.binds column).length = bytes.length
  cells : ∀ earlier column, column < stmt.fieldCount →
    earlier < row ∨ earlier = row ∧ column < storedColumns →
    (reading.rows (earlier * stmt.fieldCount + column)).value.isSome =
        (stmt.value earlier column).isSome ∧
      ∀ bytes ∈ stmt.value earlier column,
        (reading.rows (earlier * stmt.fieldCount + column)).length = uint32 bytes.length
  fresh : ∀ index, row * stmt.fieldCount + storedColumns ≤ index →
    (reading.rows index).value = none

theorem startReading_rowsSize_lt : stmt.startReading.rowsSize < 2 ^ 32 :=
  Nat.mod_lt _ (by decide)

/-- Before any row is read. -/
theorem startReading_filled : Filled stmt 0 0 0 stmt.startReading where
  position := rfl
  rowsSize := rfl
  bound := by omega
  pending := fun _ within => absurd within (Nat.not_lt_zero _)
  cells := fun _ _ _ before => absurd before (by omega)
  fresh := fun _ _ => rfl

section Steps

variable {columns : Nat} {reading next : Reading}

theorem fetchColumn_filled {values : Row} (present : stmt.fetched[row]? = some values)
    (filled : Filled stmt row columns 0 reading)
    (moved : fetchColumn values columns reading = some next) :
    Filled stmt row (columns + 1) 0 next := by
  obtain ⟨rows, rowsSize, position, others, isNull, length⟩ := fetchColumn_cases moved
  rw [← value_of_fetched present] at isNull length
  refine ⟨position.trans filled.position, rowsSize.trans filled.rowsSize,
    rowsSize ▸ filled.bound, ?_, rows ▸ filled.cells, rows ▸ filled.fresh⟩
  intro column within unstored
  by_cases same : column = columns
  · subst same
    exact ⟨isNull, length⟩
  · rw [others column same]
    exact filled.pending column (by omega) unstored

/-- The index where a field is stored has not overflowed. -/
theorem Filled.fieldIndex_eq {fetchedColumns : Nat}
    (filled : Filled stmt row fetchedColumns columns reading) :
    stmt.fieldIndex reading.rowPosition columns = row * stmt.fieldCount + columns := by
  rw [filled.position]
  apply MySQLStmt.fieldIndex_eq
  exact filled.bound.trans_lt (filled.rowsSize ▸ startReading_rowsSize_lt)

theorem storeColumn_filled (early : columns < stmt.fieldCount)
    (filled : Filled stmt row stmt.fieldCount columns reading)
    (moved : stmt.storeColumn columns reading = some next) :
    Filled stmt row stmt.fieldCount (columns + 1) next := by
  obtain ⟨accessible, rowsSize, position, others, field, rows, isSome, fieldLength⟩ :=
    storeColumn_cases moved
  rw [filled.fieldIndex_eq] at accessible rows
  obtain ⟨isNull, length⟩ := filled.pending columns early le_rfl
  refine ⟨position.trans filled.position, rowsSize.trans filled.rowsSize, rowsSize ▸ accessible,
    ?_, ?_, ?_⟩
  · intro column within unstored
    rw [others column (by omega)]
    exact filled.pending column within (by omega)
  · intro earlier column within before
    rw [rows]
    by_cases same : earlier = row ∧ column = columns
    · obtain ⟨rfl, rfl⟩ := same
      rw [Function.update_self, isSome, isNull, fieldLength]
      refine ⟨by simp, ?_⟩
      intro bytes inside
      rw [length bytes inside]
    · rw [Function.update_of_ne fun equal => same (index_injective within early equal)]
      exact filled.cells earlier column within (by omega)
  · intro index behind
    rw [rows, Function.update_of_ne (by omega)]
    exact filled.fresh index (by omega)

/-- The next row has not been fetched yet. -/
theorem Filled.nextRow (filled : Filled stmt row stmt.fieldCount stmt.fieldCount reading) :
    Filled stmt (row + 1) 0 0 { reading with rowPosition := reading.rowPosition + 1 } where
  position := congrArg (· + 1) filled.position
  rowsSize := filled.rowsSize
  bound := by
    rw [Nat.succ_mul]
    exact filled.bound
  pending := fun _ within => absurd within (Nat.not_lt_zero _)
  cells := fun earlier column within before => filled.cells earlier column within (by omega)
  fresh := by
    intro index behind
    rw [Nat.succ_mul] at behind
    exact filled.fresh index behind

theorem row_filled {values : Row} (present : stmt.fetched[row]? = some values)
    (filled : Filled stmt row 0 0 reading)
    (moved : (stmt.fetch values reading).bind stmt.storeRow = some next) :
    Filled stmt (row + 1) 0 0 next := by
  obtain ⟨read, fetched, stored⟩ := Option.bind_eq_some_iff.mp moved
  obtain ⟨last, storedAll, rfl⟩ := Option.map_eq_some_iff.mp stored
  have readFilled := @countedLoop_invariant _ _ (fun columns => Filled stmt row columns 0) _
    (fun _ _ _ _ holds step => fetchColumn_filled present holds step) _ _ fetched filled
  have storedFilled := @countedLoop_invariant _ _
    (fun columns => Filled stmt row stmt.fieldCount columns) _
    (fun _ early _ _ holds step => storeColumn_filled early holds step) _ _ storedAll readFilled
  exact storedFilled.nextRow

end Steps

/-- Where the next row begins, the list of the rows to be fetched does. -/
theorem fetched_of_drop {values : Row} {rows : List Row}
    (rest : stmt.fetched.drop row = values :: rows) :
    stmt.fetched[row]? = some values ∧ stmt.fetched.drop (row + 1) = rows := by
  have first := congrArg (fun list => list[0]?) rest
  rw [List.getElem?_drop, Nat.add_zero] at first
  exact ⟨first, by rw [← List.tail_drop, rest, List.tail_cons]⟩

/-- The loop ends behind all rows, or where no row was fetched any more. -/
theorem readRows_filled {rows : List Row} {reading last : Reading}
    (rest : stmt.fetched.drop row = rows) (filled : Filled stmt row 0 0 reading)
    (read : stmt.readRows rows reading = some last) :
    ∃ lastRow, Filled stmt lastRow 0 0 last ∧
      (stmt.numRows ≤ lastRow ∨ stmt.fetched.length ≤ lastRow) := by
  induction rows generalizing row reading with
  | nil =>
      obtain rfl := Option.some.inj read
      exact ⟨row, filled, Or.inr (List.drop_eq_nil_iff.mp rest)⟩
  | cons values rows ih =>
      rw [readRows] at read
      split_ifs at read with all
      · obtain rfl := Option.some.inj read
        exact ⟨row, filled, Or.inl (filled.position ▸ all)⟩
      · obtain ⟨present, later⟩ := fetched_of_drop rest
        obtain ⟨next, moved, read⟩ := Option.bind_eq_some_iff.mp read
        exact ih later (row_filled present filled moved) read

end MySQLStmt

open MySQLStmt

section Results

variable {stmt : MySQLStmt} {reading : Reading}

/-- The result that is made when the rows have been read. -/
def resultOf (stmt : MySQLStmt) (reading : Reading) : PreparedResultSet where
  fieldCount := stmt.fieldCount
  rowCount := stmt.numRows
  rowCount_lt := stmt.numRows_lt
  rowPosition := 0
  rows := reading.rows
  rowsSize := reading.rowsSize
  data := some reading.data

theorem create_of_binds (hasMetadata : stmt.hasMetadata = true) (stores : stmt.stores = true)
    (binds : stmt.binds = true) (rowCount : Fin (2 ^ 64)) :
    PreparedResultSet.create stmt rowCount =
      (stmt.readRows stmt.fetched stmt.startReading).map (resultOf stmt) := by
  rw [PreparedResultSet.create, hasMetadata, stores, binds]
  rfl

theorem exists_withoutRows
    (fails : ¬ (stmt.hasMetadata = true ∧ stmt.stores = true ∧ stmt.binds = true))
    (rowCount : Fin (2 ^ 64)) :
    ∃ count, PreparedResultSet.create stmt rowCount =
      some (PreparedResultSet.withoutRows stmt.fieldCount count) := by
  unfold PreparedResultSet.create
  split_ifs with early unbound
  · exact ⟨rowCount, rfl⟩
  · exact ⟨⟨stmt.numRows, stmt.numRows_lt⟩, rfl⟩
  · simp at early unbound
    exact absurd ⟨early.1, early.2, unbound⟩ fails

theorem getField_withoutRows (fieldCount : Nat) (rowCount : Fin (2 ^ 64)) (row column : Nat) :
    ((PreparedResultSet.withoutRows fieldCount rowCount).atRow row).getField column = none := by
  unfold PreparedResultSet.getField
  split_ifs
  · rfl
  · rfl

theorem getField_resultOf {row column : Nat} (rowEarly : row < stmt.numRows)
    (early : column < stmt.fieldCount)
    (accessible : row * stmt.fieldCount + column < reading.rowsSize)
    (small : reading.rowsSize < 2 ^ 32) :
    ((resultOf stmt reading).atRow row).getField column =
      some (reading.rows (row * stmt.fieldCount + column)) := by
  have start : stmt.fieldIndex row 0 = row * stmt.fieldCount := fieldIndex_eq (by omega)
  have same : uint32 (uint32 row * stmt.fieldCount) = row * stmt.fieldCount := by
    simpa [fieldIndex, uint32] using start
  have index : ((resultOf stmt reading).atRow row).index? column =
      some (row * stmt.fieldCount + column) := by
    rw [← same] at accessible ⊢
    exact if_pos accessible
  refine (if_pos ⟨rowEarly, early⟩).trans ?_
  rw [index]
  rfl

end Results

end QueryResult

end WarheadBot
