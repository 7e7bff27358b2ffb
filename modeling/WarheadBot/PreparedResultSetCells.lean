import WarheadBot.PreparedResultSetRows

/-!
# The fields of a result in one buffer

The values of a column are packed: the address for the next one moves on only
behind a value, so that after some rows it is the slot of the row whose number is
that of the values so far.  Different values have different slots, and neither a
fetch nor the zero behind a text leaves the slot it belongs to.
-/

namespace WarheadBot

namespace QueryResult

open ByteBuffer
open Iteration (countedLoop exists_countedLoop)

namespace MySQLStmt

variable (stmt : MySQLStmt)

/-- How many values a column has in the first rows. -/
def filled (column : Nat) : Nat → Nat
  | 0 => 0
  | row + 1 => filled column row + if (stmt.value row column).isSome then 1 else 0

/-- Where the value of a row and a column is written. -/
def address (row column : Nat) : Nat :=
  slot stmt.size stmt.rowSize (stmt.filled column row) column

/-- The fields and the bytes of the result can be counted with 32 bits, and each
value fits into its part of the buffer. -/
structure FitsBuffer : Prop where
  fields : stmt.numRows * stmt.fieldCount < 2 ^ 32
  bytes : stmt.rowSize * stmt.numRows < 2 ^ 32
  values : ∀ row column, column < stmt.fieldCount →
    ∀ bytes ∈ stmt.value row column, bytes.length ≤ stmt.size column

variable {stmt}

theorem filled_monotone (column : Nat) : Monotone (stmt.filled column) :=
  monotone_nat_of_le_succ fun _ => Nat.le_add_right _ _

theorem filled_le (column row : Nat) : stmt.filled column row ≤ row := by
  induction row with
  | zero => exact le_rfl
  | succ row ih =>
      rw [filled]
      split_ifs <;> omega

theorem filled_succ_of_some {row column : Nat} {bytes : List UInt8}
    (value : stmt.value row column = some bytes) :
    stmt.filled column (row + 1) = stmt.filled column row + 1 := by
  rw [filled, value]
  rfl

theorem filled_succ_of_none {row column : Nat} (value : stmt.value row column = none) :
    stmt.filled column (row + 1) = stmt.filled column row := by
  rw [filled, value]
  rfl

/-- After a value the next slot of its column is the one a row behind it. -/
theorem address_succ_of_some {row column : Nat} {bytes : List UInt8}
    (value : stmt.value row column = some bytes) :
    stmt.address (row + 1) column = stmt.address row column + stmt.rowSize := by
  unfold address slot
  rw [filled_succ_of_some value, Nat.add_mul, Nat.one_mul, Nat.add_right_comm]

theorem address_succ_of_none {row column : Nat} (value : stmt.value row column = none) :
    stmt.address (row + 1) column = stmt.address row column := by
  unfold address
  rw [filled_succ_of_none value]

/-- Different values have different slots. -/
theorem addresses_apart {row column otherRow otherColumn : Nat} {bytes otherBytes : List UInt8}
    (early : column < stmt.fieldCount) (otherEarly : otherColumn < stmt.fieldCount)
    (value : stmt.value row column = some bytes)
    (otherValue : stmt.value otherRow otherColumn = some otherBytes)
    (different : row ≠ otherRow ∨ column ≠ otherColumn) :
    Apart (stmt.address row column) (stmt.size column) (stmt.address otherRow otherColumn)
      (stmt.size otherColumn) := by
  apply slots_apart early otherEarly
  by_cases sameColumn : column = otherColumn
  · left
    subst sameColumn
    have rows : row ≠ otherRow := different.resolve_right (not_not.mpr rfl)
    have next := filled_succ_of_some value
    have otherNext := filled_succ_of_some otherValue
    rcases lt_or_gt_of_ne rows with before | behind
    · have grown : stmt.filled column (row + 1) ≤ stmt.filled column otherRow :=
        filled_monotone column before
      omega
    · have grown : stmt.filled column (otherRow + 1) ≤ stmt.filled column row :=
        filled_monotone column behind
      omega
  · exact Or.inr sameColumn

theorem address_add_size_le {row column : Nat} (early : column < stmt.fieldCount)
    (rowEarly : row < stmt.numRows) :
    stmt.address row column + stmt.size column ≤ stmt.rowSize * stmt.numRows :=
  slot_add_le early ((filled_le column row).trans_lt rowEarly)

/-- The sum of the sizes does not overflow. -/
theorem offset_eq {column : Nat} (within : column ≤ stmt.fieldCount)
    (small : stmt.rowSize < 2 ^ 32) : stmt.offset column = sizeBefore stmt.size column := by
  induction column with
  | zero => rfl
  | succ column ih =>
      have bound := @sizeBefore_monotone stmt.size _ _ within
      rw [offset, ih (Nat.le_of_succ_le within), uint32]
      exact Nat.mod_eq_of_lt (bound.trans_lt small)

theorem startReading_rowsSize (fits : stmt.FitsBuffer) :
    stmt.startReading.rowsSize = stmt.numRows * stmt.fieldCount := by
  have small := fits.fields
  rw [startReading, uint32, uint32, Nat.mod_mul_mod, Nat.mod_eq_of_lt small]

theorem startReading_dataSize (fits : stmt.FitsBuffer) :
    stmt.startReading.data.size = stmt.rowSize * stmt.numRows := by
  have small := fits.bytes
  exact Nat.mod_eq_of_lt (by omega)

/-- Where the values are when some columns of a row have been fetched, and some of
these have been stored. -/
structure Placed (stmt : MySQLStmt) (row fetchedColumns storedColumns : Nat) (reading : Reading) :
    Prop where
  dataSize : reading.data.size = stmt.rowSize * stmt.numRows
  binds : ∀ column < stmt.fieldCount,
    (reading.binds column).bufferLength = stmt.size column ∧
    (reading.binds column).buffer =
      stmt.address (if column < storedColumns then row + 1 else row) column
  kept : ∀ earlier column, column < stmt.fieldCount →
    earlier < row ∨ earlier = row ∧ column < fetchedColumns →
    ∀ bytes ∈ stmt.value earlier column,
      reading.data.read (stmt.address earlier column) bytes.length = bytes
  places : ∀ earlier column, column < stmt.fieldCount →
    earlier < row ∨ earlier = row ∧ column < storedColumns →
    ∀ bytes ∈ stmt.value earlier column,
      (reading.rows (earlier * stmt.fieldCount + column)).value =
        some (stmt.address earlier column)

theorem ne_or_ne_of_not_same {row column otherRow otherColumn : Nat}
    (different : ¬ (otherRow = row ∧ otherColumn = column)) :
    row ≠ otherRow ∨ column ≠ otherColumn :=
  not_and_or.mp fun ⟨sameRow, sameColumn⟩ => different ⟨sameRow.symm, sameColumn.symm⟩

theorem lt_succ_iff_of_ne {column columns : Nat} (other : column ≠ columns) :
    column < columns + 1 ↔ column < columns := by
  omega

section Steps

variable {row columns : Nat} {reading : Reading} (fits : stmt.FitsBuffer)
  (rowEarly : row < stmt.numRows)

include fits rowEarly in
/-- A value is written to its slot, and what was kept stays. -/
theorem fetchColumn_placed {values : Row} (present : stmt.fetched[row]? = some values)
    (early : columns < stmt.fieldCount) (placed : Placed stmt row columns 0 reading) :
    ∃ next, fetchColumn values columns reading = some next ∧
      Placed stmt row (columns + 1) 0 next := by
  have value := value_of_fetched present columns
  obtain ⟨bufferLength, buffer⟩ := placed.binds columns early
  rw [if_neg (Nat.not_lt_zero columns)] at buffer
  cases fetched : values columns with
  | none =>
      rw [fetched] at value
      rw [fetchColumn, fetched]
      refine ⟨_, rfl, { placed with binds := ?_, kept := ?_ }⟩
      · intro column within
        dsimp only
        by_cases same : column = columns
        · subst same
          rw [Function.update_self]
          exact placed.binds column within
        · rw [Function.update_of_ne same]
          exact placed.binds column within
      · intro earlier column within before bytes inside
        apply placed.kept earlier column within _ bytes inside
        rcases before with before | ⟨rfl, within⟩
        · exact Or.inl before
        · refine Or.inr ⟨rfl, (Nat.lt_succ_iff_lt_or_eq.mp within).resolve_right ?_⟩
          rintro rfl
          rw [value] at inside
          exact nomatch inside
  | some bytes =>
      rw [fetched] at value
      have short := fits.values row columns early bytes value
      have space := address_add_size_le early rowEarly
      obtain ⟨data, wrote⟩ := @exists_write _ reading.data (stmt.address row columns) bytes
        (by rw [placed.dataSize]; omega)
      rw [fetchColumn, fetched]
      dsimp only
      rw [bufferLength, buffer, List.take_of_length_le short, wrote]
      refine ⟨_, rfl, { placed with
        dataSize := (size_of_write wrote).trans placed.dataSize
        binds := ?_, kept := ?_ }⟩
      · intro column within
        dsimp only
        by_cases same : column = columns
        · subst same
          rw [Function.update_self]
          exact ⟨rfl, by rw [if_neg (Nat.not_lt_zero _)]⟩
        · rw [Function.update_of_ne same]
          exact placed.binds column within
      · intro earlier column within before other inside
        by_cases same : earlier = row ∧ column = columns
        · obtain ⟨rfl, rfl⟩ := same
          obtain rfl : bytes = other := Option.some.inj (value.symm.trans inside)
          exact read_write wrote
        · have apart := addresses_apart early within value inside (ne_or_ne_of_not_same same)
          have otherShort := fits.values earlier column within other inside
          rw [read_write_of_apart wrote (apart.mono short otherShort)]
          exact placed.kept earlier column within (by omega) other inside

/-- A text is terminated within its slot. -/
theorem exists_terminate {bind : MySQLBind} {data : Buffer UInt8} {address length : Nat}
    (buffer : bind.buffer = address) (bufferLength : bind.bufferLength = length)
    (space : address + length ≤ data.size) (short : bind.length ≤ length) :
    ∃ terminated, terminate bind data = some terminated ∧ terminated.size = data.size ∧
      terminated.read address bind.length = data.read address bind.length ∧
      ∀ other otherLength, Apart address length other otherLength →
        terminated.read other otherLength = data.read other otherLength := by
  subst buffer bufferLength
  unfold terminate
  split_ifs with ends
  · obtain ⟨terminated, wrote⟩ := @exists_write _ data (bind.buffer + bind.length) [0]
      (by rw [List.length_singleton]; omega)
    refine ⟨terminated, wrote, size_of_write wrote, ?_, ?_⟩
    · exact read_write_of_apart wrote (Or.inr le_rfl)
    · intro other otherLength apart
      apply read_write_of_apart wrote
      rw [List.length_singleton]
      unfold Apart at apart ⊢
      omega
  · exact ⟨data, rfl, rfl, rfl, fun _ _ _ => rfl⟩

include fits rowEarly in
/-- The field gets the slot of its value, which is not written to again. -/
theorem storeColumn_placed (early : columns < stmt.fieldCount)
    (filled : Filled stmt row stmt.fieldCount columns reading)
    (placed : Placed stmt row stmt.fieldCount columns reading) :
    ∃ next, stmt.storeColumn columns reading = some next ∧
      Placed stmt row stmt.fieldCount (columns + 1) next := by
  have accessible : row * stmt.fieldCount + columns < reading.rowsSize := by
    rw [filled.rowsSize, startReading_rowsSize fits]
    exact index_lt early rowEarly
  obtain ⟨bufferLength, buffer⟩ := placed.binds columns early
  obtain ⟨isNull, length⟩ := filled.pending columns early le_rfl
  rw [if_neg (Nat.lt_irrefl columns)] at buffer
  unfold storeColumn
  dsimp only
  rw [filled.fieldIndex_eq, if_pos accessible]
  cases value : stmt.value row columns with
  | none =>
      rw [value] at isNull
      refine ⟨_, if_pos isNull, { placed with binds := ?_, places := ?_ }⟩
      · intro column within
        obtain ⟨sameLength, sameBuffer⟩ := placed.binds column within
        refine ⟨sameLength, sameBuffer.trans ?_⟩
        by_cases same : column = columns
        · subst same
          rw [if_neg (Nat.lt_irrefl column), if_pos (Nat.lt_succ_self column),
            address_succ_of_none value]
        · rw [if_congr (lt_succ_iff_of_ne same) rfl rfl]
      · intro earlier column within before bytes inside
        have other : ¬ (earlier = row ∧ column = columns) := by
          rintro ⟨rfl, rfl⟩
          rw [value] at inside
          exact nomatch inside
        dsimp only
        rw [Function.update_of_ne fun equal => other (index_injective within early equal)]
        exact placed.places earlier column within (by omega) bytes inside
  | some bytes =>
      have short := fits.values row columns early bytes value
      have space := address_add_size_le early rowEarly
      have lengthEq := length bytes value
      obtain ⟨data, terminated, dataSize, same, elsewhere⟩ :=
        @exists_terminate (reading.binds columns) reading.data _ _ buffer bufferLength
          (by rw [placed.dataSize]; exact space) (by rw [lengthEq]; exact short)
      rw [value] at isNull
      rw [if_neg (by rw [isNull]; exact Bool.false_ne_true), terminated]
      refine ⟨_, rfl, ⟨dataSize.trans placed.dataSize, ?_, ?_, ?_⟩⟩
      · intro column within
        dsimp only
        by_cases same : column = columns
        · subst same
          rw [Function.update_self, if_pos (Nat.lt_succ_self column), address_succ_of_some value,
            buffer]
          exact ⟨bufferLength, rfl⟩
        · rw [Function.update_of_ne same, if_congr (lt_succ_iff_of_ne same) rfl rfl]
          exact placed.binds column within
      · intro earlier column within before other inside
        have old := placed.kept earlier column within before other inside
        by_cases sameField : earlier = row ∧ column = columns
        · obtain ⟨rfl, rfl⟩ := sameField
          obtain rfl : bytes = other := Option.some.inj (value.symm.trans inside)
          rw [lengthEq] at same
          exact same.trans old
        · have apart := addresses_apart early within value inside
            (ne_or_ne_of_not_same sameField)
          have otherShort := fits.values earlier column within other inside
          exact (elsewhere _ _ (apart.mono le_rfl otherShort)).trans old
      · intro earlier column within before other inside
        dsimp only
        by_cases sameField : earlier = row ∧ column = columns
        · obtain ⟨rfl, rfl⟩ := sameField
          rw [Function.update_self]
          exact congrArg some buffer
        · rw [Function.update_of_ne fun equal => sameField (index_injective within early equal)]
          exact placed.places earlier column within (by omega) other inside

/-- The next row has not been fetched yet. -/
theorem Placed.nextRow (placed : Placed stmt row stmt.fieldCount stmt.fieldCount reading) :
    Placed stmt (row + 1) 0 0 { reading with rowPosition := reading.rowPosition + 1 } where
  dataSize := placed.dataSize
  binds := by
    intro column within
    have bound := placed.binds column within
    rw [if_pos within] at bound
    exact bound
  kept := fun earlier column within before => placed.kept earlier column within (by omega)
  places := fun earlier column within before => placed.places earlier column within (by omega)

include fits rowEarly in
/-- A row is fetched and stored. -/
theorem row_placed {values : Row} (present : stmt.fetched[row]? = some values)
    (filled : Filled stmt row 0 0 reading) (placed : Placed stmt row 0 0 reading) :
    ∃ next, (stmt.fetch values reading).bind stmt.storeRow = some next ∧
      Placed stmt (row + 1) 0 0 next := by
  obtain ⟨read, fetched, readFilled, readPlaced⟩ := @exists_countedLoop _ (fetchColumn values)
    (fun columns state => Filled stmt row columns 0 state ∧ Placed stmt row columns 0 state)
    stmt.fieldCount
    (by
      rintro columns early state ⟨stateFilled, statePlaced⟩
      obtain ⟨next, moved, nextPlaced⟩ := fetchColumn_placed fits rowEarly present early statePlaced
      exact ⟨next, moved, fetchColumn_filled present stateFilled moved, nextPlaced⟩)
    reading ⟨filled, placed⟩
  obtain ⟨stored, storedAll, -, storedPlaced⟩ := @exists_countedLoop _ stmt.storeColumn
    (fun columns state => Filled stmt row stmt.fieldCount columns state ∧
      Placed stmt row stmt.fieldCount columns state) stmt.fieldCount
    (by
      rintro columns early state ⟨stateFilled, statePlaced⟩
      obtain ⟨next, moved, nextPlaced⟩ :=
        storeColumn_placed fits rowEarly early stateFilled statePlaced
      exact ⟨next, moved, storeColumn_filled early stateFilled moved, nextPlaced⟩)
    read ⟨readFilled, readPlaced⟩
  refine ⟨{ stored with rowPosition := stored.rowPosition + 1 }, ?_, storedPlaced.nextRow⟩
  rw [fetch, fetched, Option.bind_some, storeRow, storedAll]
  rfl

end Steps

/-- All rows are read. -/
theorem exists_readRows_placed (fits : stmt.FitsBuffer) {rows : List Row} {row : Nat}
    {reading : Reading} (rest : stmt.fetched.drop row = rows)
    (filled : Filled stmt row 0 0 reading) (placed : Placed stmt row 0 0 reading) :
    ∃ last lastRow, stmt.readRows rows reading = some last ∧ Filled stmt lastRow 0 0 last ∧
      Placed stmt lastRow 0 0 last ∧
      (stmt.numRows ≤ lastRow ∨ stmt.fetched.length ≤ lastRow) := by
  induction rows generalizing row reading with
  | nil => exact ⟨reading, row, rfl, filled, placed, Or.inr (List.drop_eq_nil_iff.mp rest)⟩
  | cons values rows ih =>
      rw [readRows]
      split_ifs with all
      · exact ⟨reading, row, rfl, filled, placed, Or.inl (filled.position ▸ all)⟩
      · have rowEarly : row < stmt.numRows := by
          rw [filled.position] at all
          exact not_le.mp all
        obtain ⟨present, later⟩ := fetched_of_drop rest
        obtain ⟨next, moved, nextPlaced⟩ := row_placed fits rowEarly present filled placed
        rw [moved, Option.bind_some]
        exact ih later (row_filled present filled moved) nextPlaced

theorem startReading_placed (fits : stmt.FitsBuffer) (hasRows : 0 < stmt.numRows) :
    Placed stmt 0 0 0 stmt.startReading where
  dataSize := startReading_dataSize fits
  binds := by
    intro column within
    have small : stmt.rowSize < 2 ^ 32 :=
      (Nat.le_mul_of_pos_right stmt.rowSize hasRows).trans_lt fits.bytes
    refine ⟨rfl, ?_⟩
    rw [if_neg (Nat.not_lt_zero column), address, slot, filled, Nat.zero_mul, Nat.zero_add]
    exact offset_eq within.le small
  kept := fun _ _ _ before => absurd before (by omega)
  places := fun _ _ _ before => absurd before (by omega)

/-- What holds of all fields when the rows have been read. -/
structure AllStored (stmt : MySQLStmt) (reading : Reading) : Prop where
  rowsSize : reading.rowsSize = stmt.numRows * stmt.fieldCount
  dataSize : reading.data.size = stmt.rowSize * stmt.numRows
  null : ∀ row < stmt.numRows, ∀ column < stmt.fieldCount, stmt.value row column = none →
    (reading.rows (row * stmt.fieldCount + column)).value = none
  bytes : ∀ row < stmt.numRows, ∀ column < stmt.fieldCount, ∀ bytes ∈ stmt.value row column,
    (reading.rows (row * stmt.fieldCount + column)).value = some (stmt.address row column) ∧
      (reading.rows (row * stmt.fieldCount + column)).length = bytes.length ∧
      reading.data.read (stmt.address row column) bytes.length = bytes

/-- The rows that were not fetched are empty. -/
theorem allStored_of_placed (fits : stmt.FitsBuffer) {lastRow : Nat} {reading : Reading}
    (filled : Filled stmt lastRow 0 0 reading) (placed : Placed stmt lastRow 0 0 reading)
    (finished : stmt.numRows ≤ lastRow ∨ stmt.fetched.length ≤ lastRow) :
    AllStored stmt reading where
  rowsSize := filled.rowsSize.trans (startReading_rowsSize fits)
  dataSize := placed.dataSize
  null := by
    intro row early column within null
    by_cases before : row < lastRow
    · have isSome := (filled.cells row column within (Or.inl before)).1
      rw [null] at isSome
      exact Option.not_isSome_iff_eq_none.mp (by rw [isSome]; exact Bool.false_ne_true)
    · have behind := Nat.mul_le_mul_right stmt.fieldCount (not_lt.mp before)
      exact filled.fresh _ (by omega)
  bytes := by
    intro row early column within bytes inside
    have fetched := fetched_of_value inside
    have before : row < lastRow := by omega
    have short := fits.values row column within bytes inside
    have small := address_add_size_le within early
    have bounded := fits.bytes
    refine ⟨placed.places row column within (Or.inl before) bytes inside, ?_,
      placed.kept row column within (Or.inl before) bytes inside⟩
    rw [(filled.cells row column within (Or.inl before)).2 bytes inside]
    exact Nat.mod_eq_of_lt (by omega)

theorem exists_readRows (fits : stmt.FitsBuffer) :
    ∃ last, stmt.readRows stmt.fetched stmt.startReading = some last ∧ AllStored stmt last := by
  by_cases hasRows : 0 < stmt.numRows
  · obtain ⟨last, lastRow, read, filled, placed, finished⟩ :=
      exists_readRows_placed fits rfl startReading_filled (startReading_placed fits hasRows)
    exact ⟨last, read, allStored_of_placed fits filled placed finished⟩
  · refine ⟨stmt.startReading, ?_, {
      rowsSize := startReading_rowsSize fits
      dataSize := startReading_dataSize fits
      null := fun row early => absurd early (by omega)
      bytes := fun row early => absurd early (by omega) }⟩
    cases stmt.fetched with
    | nil => rfl
    | cons values rows => exact if_pos (by omega)

end MySQLStmt

open MySQLStmt

/-- The field exposes the bytes: they stand in the buffer, where no other field of
the result has its bytes. -/
def PreparedResultSet.Exposes (set : PreparedResultSet) (row column : Nat)
    (field : BufferedField) (bytes : List UInt8) : Prop :=
  ∃ data address, set.data = some data ∧ field.value = some address ∧
    field.length = bytes.length ∧ address + field.length ≤ data.size ∧
    data.read address field.length = bytes ∧
    ∀ otherRow otherColumn otherField otherAddress,
      (set.atRow otherRow).getField otherColumn = some otherField →
      otherField.value = some otherAddress → row ≠ otherRow ∨ column ≠ otherColumn →
      Apart address field.length otherAddress otherField.length

section Stored

variable {stmt : MySQLStmt} {reading : Reading}

theorem getField_of_stored (fits : stmt.FitsBuffer) (stored : AllStored stmt reading)
    {row column : Nat} (rowEarly : row < stmt.numRows) (early : column < stmt.fieldCount) :
    ((resultOf stmt reading).atRow row).getField column =
      some (reading.rows (row * stmt.fieldCount + column)) := by
  apply getField_resultOf rowEarly early
  · rw [stored.rowsSize]
    exact index_lt early rowEarly
  · rw [stored.rowsSize]
    exact fits.fields

/-- The fields of the result are those of its rows. -/
theorem of_getField (fits : stmt.FitsBuffer) (stored : AllStored stmt reading)
    {row column : Nat} {field : BufferedField}
    (found : ((resultOf stmt reading).atRow row).getField column = some field) :
    row < stmt.numRows ∧ column < stmt.fieldCount ∧
      field = reading.rows (row * stmt.fieldCount + column) := by
  by_cases within : row < stmt.numRows ∧ column < stmt.fieldCount
  · rw [getField_of_stored fits stored within.1 within.2] at found
    exact ⟨within.1, within.2, (Option.some.inj found).symm⟩
  · have nothing : ((resultOf stmt reading).atRow row).getField column = none := if_neg within
    rw [nothing] at found
    exact nomatch found

theorem exposes_resultOf (fits : stmt.FitsBuffer) (stored : AllStored stmt reading)
    {row column : Nat} (rowEarly : row < stmt.numRows) (early : column < stmt.fieldCount)
    {bytes : List UInt8} (value : stmt.value row column = some bytes) :
    (resultOf stmt reading).Exposes row column
      (reading.rows (row * stmt.fieldCount + column)) bytes := by
  obtain ⟨address, length, read⟩ := stored.bytes row rowEarly column early bytes value
  have short := fits.values row column early bytes value
  have space := address_add_size_le early rowEarly
  refine ⟨reading.data, stmt.address row column, rfl, address, length, ?_, ?_, ?_⟩
  · rw [stored.dataSize]
    omega
  · rw [length]
    exact read
  · intro otherRow otherColumn otherField otherAddress found otherValue different
    obtain ⟨otherEarly, otherWithin, rfl⟩ := of_getField fits stored found
    cases present : stmt.value otherRow otherColumn with
    | none =>
        rw [stored.null otherRow otherEarly otherColumn otherWithin present] at otherValue
        exact nomatch otherValue
    | some otherBytes =>
        obtain ⟨place, otherLength, -⟩ :=
          stored.bytes otherRow otherEarly otherColumn otherWithin otherBytes present
        have otherShort := fits.values otherRow otherColumn otherWithin otherBytes present
        rw [← Option.some.inj (place.symm.trans otherValue)]
        exact (addresses_apart early otherWithin value present different).mono
          (length ▸ short) (otherLength ▸ otherShort)

end Stored

/-- Each field of the result exposes what was fetched for its row and column. -/
theorem create_exposes {stmt : MySQLStmt} (fits : stmt.FitsBuffer)
    (rowCount : Fin (2 ^ 64)) :
    ∃ set, PreparedResultSet.create stmt rowCount = some set ∧
      (stmt.hasMetadata = true → stmt.stores = true → stmt.binds = true →
        ∀ row < stmt.numRows, ∀ column < stmt.fieldCount,
          ((set.atRow row).getField column).isSome = true) ∧
      ∀ row column field, (set.atRow row).getField column = some field →
        (stmt.value row column = none → field.value = none) ∧
        ∀ bytes ∈ stmt.value row column, set.Exposes row column field bytes := by
  by_cases succeeds : stmt.hasMetadata = true ∧ stmt.stores = true ∧ stmt.binds = true
  · obtain ⟨hasMetadata, stores, binds⟩ := succeeds
    obtain ⟨last, read, stored⟩ := exists_readRows fits
    refine ⟨resultOf stmt last, ?_, ?_, ?_⟩
    · rw [create_of_binds hasMetadata stores binds, read, Option.map_some]
    · intro _ _ _ row rowEarly column early
      rw [getField_of_stored fits stored rowEarly early]
      rfl
    · intro row column field found
      obtain ⟨rowEarly, early, rfl⟩ := of_getField fits stored found
      exact ⟨stored.null row rowEarly column early,
        fun bytes value => exposes_resultOf fits stored rowEarly early value⟩
  · obtain ⟨count, created⟩ := exists_withoutRows succeeds rowCount
    refine ⟨_, created, ?_, ?_⟩
    · intro hasMetadata stores binds
      exact absurd ⟨hasMetadata, stores, binds⟩ succeeds
    · intro row column field found
      rw [getField_withoutRows] at found
      exact nomatch found

/-- A column of names of at most three bytes and a column of numbers. -/
def exampleStmt : MySQLStmt where
  hasMetadata := true
  fieldCount := 2
  fields := fun column =>
    if column = 0 then ⟨"name", .varString, 3⟩ else ⟨"count", .long, 0⟩
  sizeofTime := 40
  stores := true
  numRows := 2
  numRows_lt := by decide
  binds := true
  fetched := [fun column => if column = 0 then none else some [1, 0, 0, 0],
    fun column => if column = 0 then some [65, 66, 67] else none]
  memory := fun _ => 255

theorem exampleStmt_fits : exampleStmt.FitsBuffer where
  fields := by decide
  bytes := by decide
  values := by
    intro row column early bytes inside
    have columns : column = 0 ∨ column = 1 := by
      have two : column < 2 := early
      omega
    match row with
    | 0 =>
        rcases columns with rfl | rfl
        · exact nomatch inside
        · rw [← Option.some.inj inside]
          decide
    | 1 =>
        rcases columns with rfl | rfl
        · rw [← Option.some.inj inside]
          decide
        · exact nomatch inside
    | _ + 2 => exact nomatch inside

/-- The name of the second row is exposed, although the first row has none before
it. -/
theorem create_exposes_exampleStmt :
    ∃ set field, PreparedResultSet.create exampleStmt 0 = some set ∧
      (set.atRow 1).getField 0 = some field ∧ set.Exposes 1 0 field [65, 66, 67] := by
  obtain ⟨set, created, present, exposes⟩ := create_exposes exampleStmt_fits 0
  obtain ⟨field, found⟩ :=
    Option.isSome_iff_exists.mp (present rfl rfl rfl 1 (by decide) 0 (by decide))
  exact ⟨set, field, created, found, (exposes 1 0 field found).2 [65, 66, 67] rfl⟩

end QueryResult

end WarheadBot
