import Mathlib.Logic.Function.Basic
import WarheadBot.ResultSet

/-!
# Query holders

A holder keeps queries under indices, each with a place for its result.  The task
executes all of them and stores their results, and after that the results can be
asked for.  A text result is moved when it is asked for, and the holder shares it
with everyone who has been given it.
-/

namespace WarheadBot

namespace QueryResult

/-- The two alternatives of a query. -/
inductive HolderQuery (Statement : Type)
  | string (sql : String)
  | prepared (stmt : Statement)
  deriving DecidableEq, Repr

/-- The two alternatives of a result. -/
inductive HolderResult
  | query (result : Option ResultSet)
  | prepared (result : Option PreparedResultSet)

structure SQLQueryHolderQuery (Statement : Type) where
  holderQuery : HolderQuery Statement
  holderResult : HolderResult

structure SQLQueryHolderBase (Statement : Type) where
  queries : Nat → Option (SQLQueryHolderQuery Statement)

/-- What the client library has for the query at an index when it is executed. -/
structure HolderConnection (Statement : Type) where
  stored : Nat → String → Option MySQLResult
  executed : Nat → Statement → Option (MySQLStmt × Fin (2 ^ 64))

namespace SQLQueryHolderBase

variable {Statement : Type}

def empty : SQLQueryHolderBase Statement := ⟨fun _ => none⟩

/-- Adds a query under an index that is not used yet. -/
def add (index : Nat) (query : HolderQuery Statement) (holder : SQLQueryHolderBase Statement) :
    Bool × SQLQueryHolderBase Statement :=
  if (holder.queries index).isSome then (false, holder)
  else (true, ⟨Function.update holder.queries index (some ⟨query, .query none⟩)⟩)

def addQuery (index : Nat) (sql : String) (holder : SQLQueryHolderBase Statement) :
    Bool × SQLQueryHolderBase Statement :=
  holder.add index (.string sql)

def addPreparedQuery (index : Nat) (stmt : Statement) (holder : SQLQueryHolderBase Statement) :
    Bool × SQLQueryHolderBase Statement :=
  holder.add index (.prepared stmt)

def addOne (holder : SQLQueryHolderBase Statement) :
    Nat × HolderQuery Statement → SQLQueryHolderBase Statement
  | (index, .string sql) => (holder.addQuery index sql).2
  | (index, .prepared stmt) => (holder.addPreparedQuery index stmt).2

/-- The holder to which queries have been added one after the other. -/
def ofAdditions (additions : List (Nat × HolderQuery Statement)) :
    SQLQueryHolderBase Statement :=
  additions.foldl addOne empty

/-- Stores a result at an index that is used. -/
def store (index : Nat) (result : HolderResult) (holder : SQLQueryHolderBase Statement) :
    SQLQueryHolderBase Statement :=
  match holder.queries index with
  | none => holder
  | some query =>
      ⟨Function.update holder.queries index (some { query with holderResult := result })⟩

/-- A result without rows is dropped. -/
def setResult (index : Nat) (result : Option ResultSet) (holder : SQLQueryHolderBase Statement) :
    SQLQueryHolderBase Statement :=
  holder.store index (.query (result.filter fun set => set.rowCount ≠ 0))

def setPreparedResult (index : Nat) (result : Option PreparedResultSet)
    (holder : SQLQueryHolderBase Statement) : SQLQueryHolderBase Statement :=
  holder.store index (.prepared (result.filter fun set => set.rowCount ≠ 0))

/-- The result that is returned, and the holder with the result that was moved; the
exception for a result of the other kind is caught. -/
def getResult (index : Nat) (holder : SQLQueryHolderBase Statement) :
    Option ResultSet × SQLQueryHolderBase Statement :=
  match holder.queries index with
  | none => (none, holder)
  | some query =>
      match query.holderResult with
      | .prepared _ => (none, holder)
      | .query none => (none, holder)
      | .query (some set) =>
          if set.rowCount = 0 then (none, holder)
          else
            let moved := set.nextRow
            (if moved.1 then some moved.2 else none, holder.store index (.query (some moved.2)))

def getPreparedResult (index : Nat) (holder : SQLQueryHolderBase Statement) :
    Option PreparedResultSet :=
  match holder.queries index with
  | none => none
  | some query =>
      match query.holderResult with
      | .query _ => none
      | .prepared none => none
      | .prepared (some set) => if set.rowCount = 0 then none else some set

end SQLQueryHolderBase

section Task

variable {Statement : Type} (connection : HolderConnection Statement)

/-- One round of the loop of the task. -/
def executeAt (index : Nat) (holder : SQLQueryHolderBase Statement) :
    Option (SQLQueryHolderBase Statement) :=
  match holder.queries index with
  | none => some holder
  | some query =>
      match query.holderQuery with
      | .string sql =>
          some (holder.setResult index (MySQLConnection.query sql (connection.stored index sql)))
      | .prepared stmt =>
          (MySQLConnection.queryPrepared (connection.executed index stmt)).map fun result =>
            holder.setPreparedResult index result

/-- The indices are walked through in the order in which the map has them. -/
def executeQuery (indices : List Nat) (holder : SQLQueryHolderBase Statement) :
    Option (SQLQueryHolderBase Statement) :=
  indices.foldlM (fun current index => executeAt connection index current) holder

end Task

/-- A call that asks for a result. -/
inductive Call
  | getResult (index : Nat)
  | getPreparedResult (index : Nat)
  deriving DecidableEq, Repr

inductive Returned
  | result (set : Option ResultSet)
  | preparedResult (set : Option PreparedResultSet)

section Calls

variable {Statement : Type}

def Call.run (holder : SQLQueryHolderBase Statement) :
    Call → Returned × SQLQueryHolderBase Statement
  | .getResult index => (.result (holder.getResult index).1, (holder.getResult index).2)
  | .getPreparedResult index => (.preparedResult (holder.getPreparedResult index), holder)

/-- What one call after the other returns. -/
def answers : List Call → SQLQueryHolderBase Statement → List Returned
  | [], _ => []
  | call :: calls, holder => (call.run holder).1 :: answers calls (call.run holder).2

end Calls

end QueryResult

end WarheadBot
