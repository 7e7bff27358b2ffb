import WarheadBot.MySQLTransaction
import WarheadBot.PreparedStatement
import WarheadBot.TransactionTask

/-!
# Submitting prepared statements

A pool offers several ways to submit a prepared statement.  `Execute` and
`Query` ask for all parameters before they pass the statement on; the others
pass on what they are given, and `BindParameters` binds the data of every
parameter, set or not.

For each way the statements are listed that are bound on a connection.  A run
gives the connection, the answers of the client library, the readings of the
clock while a transaction is retried, and the order in which the map of a query
holder is gone through.
-/

namespace WarheadBot

namespace Submissions

open MySQL
open Transactions

variable {preparedStatementSize : List UInt8}

/-- A query of a transaction or of a query holder. -/
inductive Element (preparedStatementSize : List UInt8)
  | raw (sql : String)
  | prepared (stmt : Option (PoolStatement preparedStatementSize))
  deriving DecidableEq

namespace Element

/-- The statement as the connection gets it, with the texts of its data. -/
def statement (toText : PreparedStatementData → String) :
    Element preparedStatementSize → Statement
  | raw sql => .raw sql
  | prepared none => .prepared none
  | prepared (some statement) =>
      .prepared (some ⟨statement.stmt.index, statement.stmt.statementData.map toText⟩)

def stmts : Element preparedStatementSize → List (PoolStatement preparedStatementSize)
  | raw _ => []
  | prepared stmt => stmt.toList

def isEmpty : Element preparedStatementSize → Bool
  | raw sql => sql = ""
  | prepared stmt => stmt.isNone

theorem statement_isEmpty (toText : PreparedStatementData → String)
    (element : Element preparedStatementSize) :
    (element.statement toText).isEmpty = element.isEmpty := by
  cases element with
  | raw sql => rfl
  | prepared stmt => cases stmt <;> rfl

end Element

section

variable (toText : PreparedStatementData → String)

/-- The statement that `BindParameters` is called for, and that it gets
through. -/
def bindings (connection : Connection) (element : Element preparedStatementSize) :
    List (PoolStatement preparedStatementSize) :=
  match connection.readiness (element.statement toText) with
  | .notSent => []
  | .crash => []
  | .stale => element.stmts
  | .ready => element.stmts

/-- What a call on a connection binds, the connection it leaves and its error
code. -/
structure Outcome (preparedStatementSize : List UInt8) where
  bound : List (PoolStatement preparedStatementSize)
  result : Option (Connection × Int)

/-- The loop of `ExecuteTransaction` and what follows it. -/
def executeElements (libraryErrno : Nat) : Connection → List (Element preparedStatementSize) →
    List Reply → Outcome preparedStatementSize
  | connection, [], replies =>
      ⟨[], (connection.send Request.commit.statement replies).map fun sent =>
        (sent.connection, 0)⟩
  | connection, element :: elements, replies =>
      if element.isEmpty then
        ⟨[], none⟩
      else
        match connection.send (element.statement toText) replies with
        | none => ⟨bindings toText connection element, none⟩
        | some sent =>
            if sent.succeeded then
              let rest := executeElements libraryErrno sent.connection elements sent.replies
              ⟨bindings toText connection element ++ rest.bound, rest.result⟩
            else
              ⟨bindings toText connection element,
                (sent.connection.send Request.rollback.statement sent.replies).map fun undone =>
                  (undone.connection, sent.connection.getLastError libraryErrno)⟩

def executeTransaction (libraryErrno : Nat) (connection : Connection)
    (queries : List (Element preparedStatementSize)) (replies : List Reply) :
    Outcome preparedStatementSize :=
  if queries.isEmpty then
    ⟨[], some (connection, -1)⟩
  else
    match connection.send Request.startTransaction.statement replies with
    | none => ⟨[], none⟩
    | some begun => executeElements toText libraryErrno begun.connection queries begun.replies

theorem executeElements_errorCode (libraryErrno : Nat) (connection : Connection)
    (session : Session) (elements : List (Element preparedStatementSize))
    (replies : List Reply) :
    (executeElements toText libraryErrno connection elements replies).result.map Prod.snd =
      (executeQueries libraryErrno connection session
        (elements.map (Element.statement toText)) replies).map fun result => (result.1 : Int) := by
  induction elements generalizing connection session replies with
  | nil =>
      simp only [executeElements, List.map_nil, executeQueries, Option.map_map]
      rfl
  | cons element elements induction =>
      simp only [executeElements, List.map_cons, executeQueries, Element.statement_isEmpty]
      split_ifs with empty
      · rfl
      · cases connection.send (element.statement toText) replies with
        | none => rfl
        | some sent =>
            simp only [Option.bind_some]
            split_ifs with succeeded
            · exact induction sent.connection _ sent.replies
            · simp only [Option.map_map]
              rfl

/-- The error codes are those of `ExecuteTransaction` on the connection. -/
theorem executeTransaction_errorCode (libraryErrno : Nat) (connection : Connection)
    (session : Session) (queries : List (Element preparedStatementSize))
    (replies : List Reply) :
    (executeTransaction toText libraryErrno connection queries replies).result.map Prod.snd =
      (MySQL.executeTransaction libraryErrno connection session
        (queries.map (Element.statement toText)) replies).map Prod.fst := by
  cases queries with
  | nil => rfl
  | cons query queries =>
      simp only [executeTransaction, MySQL.executeTransaction, List.map_cons, List.isEmpty_cons,
        Bool.false_eq_true, if_false]
      cases connection.send Request.startTransaction.statement replies with
      | none => rfl
      | some begun =>
          simp only [Option.bind_some, Option.map_map]
          rw [executeElements_errorCode toText libraryErrno begun.connection
            (session.afterSent .startTransaction begun)]
          rfl

/-- The answers to one call of `ExecuteTransaction`. -/
structure Attempt where
  libraryErrno : Nat
  replies : List Reply

/-- The loop that follows a deadlock. -/
def retry (mayRetry : Nat → Bool) (queries : List (Element preparedStatementSize)) :
    Nat → Connection → List Attempt → List (PoolStatement preparedStatementSize)
  | _, _, [] => []
  | retries, connection, attempt :: attempts =>
      if mayRetry retries then
        let outcome :=
          executeTransaction toText attempt.libraryErrno connection queries attempt.replies
        match outcome.result with
        | none => outcome.bound
        | some (after, errorCode) =>
            if errorCode = 0 then outcome.bound
            else outcome.bound ++ retry mayRetry queries (retries + 1) after attempts
      else
        []

def commit (mayRetry : Nat → Bool) (queries : List (Element preparedStatementSize))
    (connection : Connection) :
    List Attempt → List (PoolStatement preparedStatementSize)
  | [] => []
  | attempt :: attempts =>
      let outcome :=
        executeTransaction toText attempt.libraryErrno connection queries attempt.replies
      match outcome.result with
      | none => outcome.bound
      | some (after, errorCode) =>
          if errorCode = lockDeadlock then
            outcome.bound ++ retry toText mayRetry queries 0 after attempts
          else
            outcome.bound

/-- `AddQuery` and `AddPreparedQuery`: an index that is in use keeps its
query. -/
def addQuery (queries : List (Nat × Element preparedStatementSize))
    (query : Nat × Element preparedStatementSize) :
    List (Nat × Element preparedStatementSize) :=
  if query.1 ∈ queries.map Prod.fst then queries else queries ++ [query]

def holderQueries (calls : List (Nat × Element preparedStatementSize)) :
    List (Nat × Element preparedStatementSize) :=
  calls.foldl addQuery []

/-- `Query` on the connection; a null pointer is looked into. -/
def queryElement (connection : Connection) (replies : List Reply) :
    Element preparedStatementSize → Option (Connection × List Reply)
  | .prepared none => if connection.mysqlHandle = none then some (connection, replies) else none
  | element => (connection.send (element.statement toText) replies).map fun sent =>
      (sent.connection, sent.replies)

/-- The loop of `SQLQueryHolderTask`. -/
def executeHolder : Connection → List (Element preparedStatementSize) → List Reply →
    List (PoolStatement preparedStatementSize)
  | _, [], _ => []
  | connection, element :: elements, replies =>
      match queryElement toText connection replies element with
      | none => bindings toText connection element
      | some (after, rest) =>
          bindings toText connection element ++ executeHolder after elements rest

inductive Submission (preparedStatementSize : List UInt8)
  | execute (stmt : Option (PoolStatement preparedStatementSize))
  | query (stmt : Option (PoolStatement preparedStatementSize))
  | asyncQuery (stmt : Option (PoolStatement preparedStatementSize))
  | directExecute (stmt : Option (PoolStatement preparedStatementSize))
  | transaction (executor : Executor) (queries : List (Element preparedStatementSize))
  | delayQueryHolder (calls : List (Nat × Element preparedStatementSize))

/-- The circumstances of a submission. -/
structure Run (preparedStatementSize : List UInt8) where
  connection : Connection
  -- The answers to the queries of a holder.
  replies : List Reply
  -- The answers to the attempts of a transaction.
  attempts : List Attempt
  clock : Nat → Int
  order : List (Nat × Element preparedStatementSize) → List (Nat × Element preparedStatementSize)
  order_perm : ∀ queries, (order queries).Perm queries

/-- Passes a statement on if all its parameters are set. -/
def bindChecked (connection : Connection) :
    Option (PoolStatement preparedStatementSize) → List (PoolStatement preparedStatementSize)
  | none => []
  | some statement =>
      if statement.stmt.isAllParamsSet.1 then
        bindings toText connection (.prepared (some statement))
      else
        []

/-- The statements bound on the connection, in this order. -/
def Submission.bound (run : Run preparedStatementSize) :
    Submission preparedStatementSize → List (PoolStatement preparedStatementSize)
  | execute stmt => bindChecked toText run.connection stmt
  | query stmt => bindChecked toText run.connection stmt
  | asyncQuery stmt => bindings toText run.connection (.prepared stmt)
  | directExecute stmt => bindings toText run.connection (.prepared stmt)
  | transaction executor queries =>
      commit toText (executor.scheme run.clock).mayRetry queries run.connection run.attempts
  | delayQueryHolder calls =>
      executeHolder toText run.connection ((run.order (holderQueries calls)).map Prod.snd)
        run.replies

end

end Submissions

end WarheadBot
