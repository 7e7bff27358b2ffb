import WarheadBot.MySQLConnection

/-!
# Transactions on a connection

`ExecuteTransaction` sends `START TRANSACTION`, the queries of the transaction
and `COMMIT`, and on the first query that fails `ROLLBACK`; it looks at the
result of the queries only.  The session on the server is modelled by what was
committed, as groups of queries that were committed together, and by the
queries of the open transaction.  Only the queries of one call are recorded, so
a transaction that an earlier call has left open is one without queries.  A
session that is lost rolls its open transaction back, a deadlock does so too,
and outside a transaction every query is committed on its own.
-/

namespace WarheadBot

namespace MySQL

inductive Request
  | startTransaction
  | query (element : Statement)
  | commit
  | rollback
  deriving DecidableEq, Repr

def Request.statement : Request → Statement
  | startTransaction => .raw "START TRANSACTION"
  | query element => element
  | commit => .raw "COMMIT"
  | rollback => .raw "ROLLBACK"

structure Session where
  committed : List (List Statement)
  -- The queries of the open transaction, if there is one; those of earlier
  -- calls do not count.
  pending : Option (List Statement)
  deriving DecidableEq, Repr

namespace Session

def undo (session : Session) : Session :=
  { session with pending := none }

/-- A transaction without queries commits nothing. -/
def commitPending (session : Session) : Session :=
  match session.pending with
  | none => session
  | some [] => session.undo
  | some (first :: rest) => ⟨session.committed ++ [first :: rest], none⟩

def perform (session : Session) : Request → Session
  | .startTransaction => { session.commitPending with pending := some [] }
  | .query element =>
      match session.pending with
      | none => { session with committed := session.committed ++ [[element]] }
      | some elements => { session with pending := some (elements ++ [element]) }
  | .commit => session.commitPending
  | .rollback => session.undo

/-- An attempt that loses the session, possibly after the request was carried
out. -/
def lose (session : Session) (request : Request) (performed : Bool) : Session :=
  (if performed then session.perform request else session).undo

def afterFinal (session : Session) (request : Request) : Final → Session
  | .notSent => session
  | .acknowledged => session.perform request
  | .refused errNo => if errNo = lockDeadlock then session.undo else session
  | .disconnected performed => session.lose request performed

def afterSent (session : Session) (request : Request) (sent : Sent) : Session :=
  (sent.lost.foldl (fun session performed => session.lose request performed) session).afterFinal
    request sent.final

end Session

/-- An element that fails an assertion of `ExecuteTransaction`. -/
def Statement.isEmpty : Statement → Bool
  | .raw sql => sql = ""
  | .prepared stmt => stmt.isNone

/-- The loop over the queries and what follows it, with the error code. -/
def executeQueries (libraryErrno : Nat) : Connection → Session → List Statement → List Reply →
    Option (Nat × Session)
  | connection, session, [], replies =>
      (connection.send Request.commit.statement replies).map fun sent =>
        (0, session.afterSent .commit sent)
  | connection, session, element :: elements, replies =>
      if element.isEmpty then
        none
      else
        (connection.send element replies).bind fun sent =>
          let executed := session.afterSent (.query element) sent
          if sent.succeeded then
            executeQueries libraryErrno sent.connection executed elements sent.replies
          else
            (sent.connection.send Request.rollback.statement sent.replies).map fun undone =>
              (sent.connection.getLastError libraryErrno, executed.afterSent .rollback undone)

/-- `ExecuteTransaction`, with the session it leaves. -/
def executeTransaction (libraryErrno : Nat) (connection : Connection) (session : Session)
    (queries : List Statement) (replies : List Reply) : Option (Int × Session) :=
  if queries.isEmpty then
    some (-1, session)
  else
    (connection.send Request.startTransaction.statement replies).bind fun begun =>
      (executeQueries libraryErrno begun.connection (session.afterSent .startTransaction begun)
        queries begun.replies).map fun result => (result.1, result.2)

end MySQL

end WarheadBot
