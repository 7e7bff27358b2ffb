import WarheadBot.PreparedResultSet
import WarheadBot.RangeFor

/-!
# Results and their delivery

A text result holds the result of the client library and one row; `NextRow` loads
the next row, and frees the result of the library behind the last one.  Before a
text result is delivered it is moved to its first row, while a prepared result is
on its first row from the beginning.

What the client library has for a query that was executed is a parameter.
-/

namespace WarheadBot

namespace QueryResult

open Fields (Field QueryResultFieldMetadata)

/-- A row of a text result, and whether `mysql_fetch_lengths` returns its lengths. -/
structure TextRow where
  values : Row
  hasLengths : Bool

/-- What the client library has stored for a text query. -/
structure MySQLResult where
  rows : List TextRow
  fieldCount : Nat
  fields : Nat → MySQLField
  affectedRows : Nat

/-- A text result, with the rows that have not been fetched, unless the result of the
library has been freed. -/
structure ResultSet where
  rowCount : Nat
  fieldCount : Nat
  fieldMetadata : Nat → QueryResultFieldMetadata
  result : Option (List TextRow)
  currRow : Nat → Field

/-- `SetStructuredValue`, with a length of 32 bits. -/
def setStructuredValue (newValue : Option (List UInt8)) (field : Field) : Field :=
  { field with
    value := newValue.map fun bytes => bytes.take (uint32 bytes.length)
    raw := false }

namespace ResultSet

def create (result : MySQLResult) : ResultSet where
  rowCount := result.affectedRows
  fieldCount := result.fieldCount
  fieldMetadata := fun column => initializeDatabaseFieldMetadata (result.fields column)
  result := some result.rows
  currRow := fun column => ⟨none, false, initializeDatabaseFieldMetadata (result.fields column)⟩

variable (set : ResultSet)

def cleanUp : ResultSet :=
  { set with result := none }

/-- The fields after a row has been fetched. -/
def load (row : TextRow) (column : Nat) : Field :=
  setStructuredValue (row.values column) (set.currRow column)

def nextRow : Bool × ResultSet :=
  match set.result with
  | none => (false, set)
  | some [] => (false, set.cleanUp)
  | some (row :: rows) =>
      if row.hasLengths then
        (true, { set with result := some rows, currRow := set.load row })
      else (false, set.cleanUp)

/-- `operator[]`; there is no value if its assertion fails. -/
def getField (column : Nat) : Option Field :=
  if column < set.fieldCount then some (set.currRow column) else none

end ResultSet

namespace MySQLConnection

/-- `result` is what `mysql_store_result` returned for the query, if it was executed. -/
def query (sql : String) (result : Option MySQLResult) : Option ResultSet :=
  if sql = "" then none
  else
    match result with
    | none => none
    | some result => if result.affectedRows = 0 then none else some (ResultSet.create result)

/-- `executed` is the statement that was executed, with the number of rows it has
before they are stored.  There is no result at all if the constructor writes outside
of its memory. -/
def queryPrepared (executed : Option (MySQLStmt × Fin (2 ^ 64))) :
    Option (Option PreparedResultSet) :=
  match executed with
  | none => some none
  | some (stmt, rowCount) => (PreparedResultSet.create stmt rowCount).map some

end MySQLConnection

/-- What a text result has to pass before it is handed out. -/
def deliver (result : Option ResultSet) : Option ResultSet :=
  match result with
  | none => none
  | some set =>
      if set.rowCount = 0 then none
      else if set.nextRow.1 then some set.nextRow.2
      else none

/-- What a prepared result has to pass. -/
def deliverPrepared (result : Option PreparedResultSet) : Option PreparedResultSet :=
  match result with
  | none => none
  | some set => if set.rowCount = 0 then none else some set

namespace DatabaseWorkerPool

def query (hasConnection : Bool) (sql : String) (result : Option MySQLResult) :
    Option ResultSet :=
  if hasConnection then deliver (MySQLConnection.query sql result) else none

def queryPrepared (isAllSet hasConnection : Bool)
    (executed : Option (MySQLStmt × Fin (2 ^ 64))) : Option (Option PreparedResultSet) :=
  if isAllSet && hasConnection then
    (MySQLConnection.queryPrepared executed).map deliverPrepared
  else some none

end DatabaseWorkerPool

/-- The value of the promise of the task. -/
def BasicStatementTask.executeQuery (sql : String) (result : Option MySQLResult) :
    Option ResultSet :=
  deliver (MySQLConnection.query sql result)

def PreparedStatementTask.executeQuery (executed : Option (MySQLStmt × Fin (2 ^ 64))) :
    Option (Option PreparedResultSet) :=
  (MySQLConnection.queryPrepared executed).map deliverPrepared

end QueryResult

end WarheadBot
