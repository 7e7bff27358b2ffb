import WarheadBot.ByteBuffer
import WarheadBot.Field

/-!
# Results of prepared statements

The constructor of `PreparedResultSet` reads all rows of a result into one
buffer.  Each column has a bind with the address where its next value goes; the
address moves on by the size of a row when a value was fetched, and stays where
it is for `NULL`.

The client library is a parameter: whether its calls succeed, and which rows
`mysql_stmt_fetch` returns before it does not return one.
-/

namespace WarheadBot

namespace QueryResult

open ByteBuffer
open Fields (DatabaseFieldTypes QueryResultFieldMetadata)
open Iteration (countedLoop)

/-- `enum_field_types`, as far as the code names its values. -/
inductive EnumFieldTypes
  | null | tiny | year | short | int24 | long | float | double | longlong | bit
  | timestamp | date | time | datetime
  | tinyBlob | mediumBlob | longBlob | blob | string | varString
  | decimal | newDecimal | geometry | other
  deriving DecidableEq, Repr

/-- The types whose values are texts or blobs. -/
def EnumFieldTypes.isText : EnumFieldTypes → Bool
  | .tinyBlob | .mediumBlob | .longBlob | .blob | .string | .varString => true
  | _ => false

structure MySQLField where
  name : String
  type : EnumFieldTypes
  maxLength : Nat
  deriving DecidableEq, Repr

/-- The conversion to `uint32`. -/
def uint32 (value : Nat) : Nat := value % 2 ^ 32

/-- `sizeofTime` is the size of `MYSQL_TIME`. -/
def sizeForType (sizeofTime : Nat) (field : MySQLField) : Nat :=
  match field.type with
  | .null => 0
  | .tiny => 1
  | .year | .short => 2
  | .int24 | .long | .float => 4
  | .double | .longlong | .bit => 8
  | .timestamp | .date | .time | .datetime => sizeofTime
  | .tinyBlob | .mediumBlob | .longBlob | .blob | .string | .varString =>
      uint32 (field.maxLength + 1)
  | .decimal | .newDecimal => 64
  | .geometry | .other => 0

def mysqlTypeToFieldType : EnumFieldTypes → DatabaseFieldTypes
  | .null => .null
  | .tiny => .int8
  | .year | .short => .int16
  | .int24 | .long => .int32
  | .longlong | .bit => .int64
  | .float => .float
  | .double => .double
  | .decimal | .newDecimal => .decimal
  | .timestamp | .date | .time | .datetime => .date
  | .tinyBlob | .mediumBlob | .longBlob | .blob | .string | .varString => .binary
  | .geometry | .other => .null

def initializeDatabaseFieldMetadata (field : MySQLField) : QueryResultFieldMetadata where
  aliasName := field.name
  type := mysqlTypeToFieldType field.type

/-- A field whose value is an address in the buffer of its result. -/
structure BufferedField where
  value : Option Nat
  length : Nat
  raw : Bool
  metadata : Option QueryResultFieldMetadata
  deriving DecidableEq, Repr

namespace BufferedField

def empty : BufferedField := ⟨none, 0, false, none⟩

def setMetadata (metadata : QueryResultFieldMetadata) (field : BufferedField) : BufferedField :=
  { field with metadata := some metadata }

def setByteValue (newValue : Option Nat) (length : Nat) (field : BufferedField) : BufferedField :=
  { field with value := newValue, length := uint32 length, raw := true }

end BufferedField

/-- A row of a result, with the bytes of the columns that are not `NULL`. -/
abbrev Row := Nat → Option (List UInt8)

/-- What the client library does with the statement of a result; `memory` is what
stands in the buffer before anything is written. -/
structure MySQLStmt where
  hasMetadata : Bool
  fieldCount : Nat
  fields : Nat → MySQLField
  sizeofTime : Nat
  stores : Bool
  numRows : Nat
  numRows_lt : numRows < 2 ^ 64
  binds : Bool
  fetched : List Row
  memory : Nat → UInt8

/-- A bind of the statement, with what its pointers point to. -/
structure MySQLBind where
  bufferType : EnumFieldTypes
  bufferLength : Nat
  buffer : Nat
  length : Nat
  isNull : Bool
  deriving DecidableEq, Repr

/-- Where the constructor is with its rows. -/
structure Reading where
  binds : Nat → MySQLBind
  data : Buffer UInt8
  rows : Nat → BufferedField
  rowsSize : Nat
  rowPosition : Nat

namespace MySQLStmt

variable (stmt : MySQLStmt)

def size (column : Nat) : Nat :=
  sizeForType stmt.sizeofTime (stmt.fields column)

def rowSize : Nat :=
  sizeBefore stmt.size stmt.fieldCount

/-- The `uint32` that the sizes of the columns are added to. -/
def offset : Nat → Nat
  | 0 => 0
  | column + 1 => uint32 (offset column + stmt.size column)

def bufferSize : Nat :=
  stmt.rowSize * stmt.numRows % 2 ^ 64

/-- The index of a field, computed with `uint32`. -/
def fieldIndex (rowPosition column : Nat) : Nat :=
  uint32 (uint32 (uint32 rowPosition * stmt.fieldCount) + column)

def bind (column : Nat) : MySQLBind where
  bufferType := (stmt.fields column).type
  bufferLength := stmt.size column
  buffer := stmt.offset column
  length := 0
  isNull := false

/-- One column in `mysql_stmt_fetch`: a value that is too long is truncated, and
`NULL` writes nothing. -/
def fetchColumn (row : Row) (column : Nat) (reading : Reading) : Option Reading :=
  let bind := reading.binds column
  match row column with
  | none =>
      some { reading with
        binds := Function.update reading.binds column { bind with isNull := true } }
  | some bytes =>
      (reading.data.write bind.buffer (bytes.take bind.bufferLength)).map fun data =>
        { reading with
          data := data
          binds := Function.update reading.binds column
            { bind with isNull := false, length := bytes.length } }

def fetch (row : Row) (reading : Reading) : Option Reading :=
  countedLoop (fetchColumn row) stmt.fieldCount reading

/-- A text is terminated if there is space behind it. -/
def terminate (bind : MySQLBind) (data : Buffer UInt8) : Option (Buffer UInt8) :=
  if bind.bufferType.isText ∧ bind.length < bind.bufferLength then
    data.write (bind.buffer + bind.length) [0]
  else some data

/-- One column of the loop over a row that has been fetched. -/
def storeColumn (column : Nat) (reading : Reading) : Option Reading :=
  let bind := reading.binds column
  let index := stmt.fieldIndex reading.rowPosition column
  if index < reading.rowsSize then
    let field := (reading.rows index).setMetadata
      (initializeDatabaseFieldMetadata (stmt.fields column))
    if bind.isNull then
      some { reading with
        rows := Function.update reading.rows index (field.setByteValue none bind.length) }
    else
      (terminate bind reading.data).map fun data =>
        { reading with
          data := data
          rows := Function.update reading.rows index
            (field.setByteValue (some bind.buffer) bind.length)
          binds := Function.update reading.binds column
            { bind with buffer := bind.buffer + stmt.rowSize } }
  else none

def storeRow (reading : Reading) : Option Reading :=
  (countedLoop stmt.storeColumn stmt.fieldCount reading).map fun stored =>
    { stored with rowPosition := stored.rowPosition + 1 }

/-- The loop over the rows. -/
def readRows : List Row → Reading → Option Reading
  | [], reading => some reading
  | row :: rows, reading =>
      if stmt.numRows ≤ reading.rowPosition then some reading
      else ((stmt.fetch row reading).bind stmt.storeRow).bind (readRows rows)

def startReading : Reading where
  binds := stmt.bind
  data := ⟨stmt.bufferSize, stmt.memory⟩
  rows := fun _ => .empty
  rowsSize := uint32 (uint32 stmt.numRows * stmt.fieldCount)
  rowPosition := 0

end MySQLStmt

/-- A result, with its buffer if it has one. -/
structure PreparedResultSet where
  fieldCount : Nat
  rowCount : Nat
  rowCount_lt : rowCount < 2 ^ 64
  rowPosition : Nat
  rows : Nat → BufferedField
  rowsSize : Nat
  data : Option (Buffer UInt8)

namespace PreparedResultSet

def withoutRows (fieldCount : Nat) (rowCount : Fin (2 ^ 64)) : PreparedResultSet where
  fieldCount := fieldCount
  rowCount := rowCount
  rowCount_lt := rowCount.isLt
  rowPosition := 0
  rows := fun _ => .empty
  rowsSize := 0
  data := none

/-- The constructor; there is no result if it writes outside of its memory. -/
def create (stmt : MySQLStmt) (rowCount : Fin (2 ^ 64)) : Option PreparedResultSet :=
  if !stmt.hasMetadata || !stmt.stores then some (withoutRows stmt.fieldCount rowCount)
  else if !stmt.binds then some (withoutRows stmt.fieldCount ⟨stmt.numRows, stmt.numRows_lt⟩)
  else
    (stmt.readRows stmt.fetched stmt.startReading).map fun reading =>
      { fieldCount := stmt.fieldCount
        rowCount := stmt.numRows
        rowCount_lt := stmt.numRows_lt
        rowPosition := 0
        rows := reading.rows
        rowsSize := reading.rowsSize
        data := some reading.data }

variable (set : PreparedResultSet)

/-- The result is moved to the next row, whether there is one or not. -/
def nextRow : Bool × PreparedResultSet :=
  let moved := { set with rowPosition := (set.rowPosition + 1) % 2 ^ 64 }
  (moved.rowPosition < moved.rowCount, moved)

/-- The index of a field of the current row, if there is such a field. -/
def index? (column : Nat) : Option Nat :=
  let index := uint32 (uint32 set.rowPosition * set.fieldCount) + column
  if index < set.rowsSize then some index else none

/-- The index the pointer to the first field of the current row stands for. -/
def fetch : Option Nat :=
  if set.rowPosition < set.rowCount then
    some (uint32 (uint32 set.rowPosition * set.fieldCount))
  else none

/-- `operator[]`; there is no value if an assertion fails. -/
def getField (column : Nat) : Option BufferedField :=
  if set.rowPosition < set.rowCount ∧ column < set.fieldCount then
    (set.index? column).map set.rows
  else none

def atRow (row : Nat) : PreparedResultSet :=
  { set with rowPosition := row }

end PreparedResultSet

end QueryResult

end WarheadBot
