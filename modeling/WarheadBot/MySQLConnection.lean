import Mathlib.Data.List.Basic

/-!
# A connection to the database server

`MySQLConnection` keeps the handle of its session and the list of statements
prepared for it.  The four functions that send a statement share one scheme: on
an error they call `HandleMySQLError`, which may close the handle and open a
new one, and then try again.

The answers of the client library are given with each call: one reply for each
attempt to send the statement and, with a failed attempt, one reply for each
call of `Open` that follows it.  A call that never returns, because an assertion
fails, the process is aborted, an index or a port is invalid or an answer is
still missing, gives `none`.
-/

namespace WarheadBot

namespace MySQL

inductive ConnectionFlags
  | async | sync | both
  deriving DecidableEq, Repr

def ConnectionFlags.overlaps : ConnectionFlags → ConnectionFlags → Bool
  | async, sync => false
  | sync, async => false
  | _, _ => true

/-- `DYNAMIC_CONNECTION_TIMEOUT`, in milliseconds. -/
def dynamicConnectionTimeout : Int := 1000

def canRemoveConnection (isDynamic : Bool) (now lastUseTime : Int) : Bool :=
  isDynamic && decide (dynamicConnectionTimeout ≤ now - lastUseTime)

abbrev ErrorCode := { code : Nat // code ≠ 0 }

inductive ErrorClass
  | connectionLost | hostError | skipQuery | fatal | unhandled
  deriving DecidableEq, Repr

def lockDeadlock : Nat := 1213

def unknownError : Nat := 2000

def errorClass (errNo : Nat) : ErrorClass :=
  -- `CR_SERVER_GONE_ERROR`, `CR_SERVER_LOST`, `CR_SERVER_LOST_EXTENDED`
  if errNo = 2006 ∨ errNo = 2013 ∨ errNo = 2055 then .connectionLost
  -- `CR_CONN_HOST_ERROR`
  else if errNo = 2003 then .hostError
  -- `ER_LOCK_DEADLOCK`, `ER_WRONG_VALUE_COUNT`, `ER_DUP_ENTRY`
  else if errNo = lockDeadlock ∨ errNo = 1058 ∨ errNo = 1062 then .skipQuery
  -- `ER_BAD_FIELD_ERROR`, `ER_NO_SUCH_TABLE`, `ER_PARSE_ERROR`
  else if errNo = 1054 ∨ errNo = 1146 ∨ errNo = 1064 then .fatal
  else .unhandled

def isConnectionError (errNo : Nat) : Bool :=
  errorClass errNo = .connectionLost ∨ errorClass errNo = .hostError

/-- The session behind an open handle. -/
abbrev Handle := Nat

structure ConnectionInfo where
  host : String
  portOrSocket : String
  deriving DecidableEq, Repr

/-- A statement prepared on the server, with the handle it belongs to. -/
structure MySQLPreparedStatement where
  handle : Handle
  queryString : String
  paramCount : Nat
  deriving DecidableEq, Repr

structure Connection where
  mysqlHandle : Option Handle
  connectionInfo : ConnectionInfo
  connectionFlags : ConnectionFlags
  stmtList : List (Option MySQLPreparedStatement)
  prepareError : Bool
  -- `mysql_errno` of the open handle.
  lastErrno : Nat
  -- The session that the next successful `Open` starts.
  nextHandle : Handle
  deriving DecidableEq, Repr

inductive OpenReply
  -- `mysql_init` fails.
  | initFailed
  | refused (errNo : ErrorCode)
  | connected
  deriving DecidableEq, Repr

/-- `Warhead::StringTo<uint32>`. -/
def parsePort (text : String) : Option Nat :=
  if text ≠ "" ∧ text.toList.all Char.isDigit = true then
    let value := text.toList.foldl (fun number digit => 10 * number + (digit.toNat - 48)) 0
    if value < 4294967296 then some value else none
  else
    none

/-- The host is rewritten when it names a socket; any other host needs a valid
port. -/
def ConnectionInfo.resolve (info : ConnectionInfo) : Option ConnectionInfo :=
  if info.host = "." then
    some { info with host := "localhost" }
  else
    (parsePort info.portOrSocket).map fun _ => info

namespace Connection

/-- `Open`, with the error number it returns. -/
def open' (connection : Connection) : OpenReply → Option (Connection × Nat)
  | .initFailed => some (connection, unknownError)
  | .refused errNo => connection.connectionInfo.resolve.map fun info =>
      ({ connection with connectionInfo := info, mysqlHandle := none }, errNo)
  | .connected => connection.connectionInfo.resolve.map fun info =>
      ({ connection with
          connectionInfo := info
          mysqlHandle := some connection.nextHandle
          lastErrno := 0
          nextHandle := connection.nextHandle + 1 }, 0)

/-- `PrepareStatements`, which prepares nothing. -/
def prepareStatements (connection : Connection) : Bool :=
  !connection.prepareError

def closeHandle (connection : Connection) : Connection :=
  { connection with mysqlHandle := none }

def closeIfLost (connection : Connection) (errNo : Nat) : Connection :=
  if errorClass errNo = .connectionLost then connection.closeHandle else connection

/-- `HandleMySQLError` with the number of attempts left. -/
def handleMySQLError : Nat → Connection → Nat → List OpenReply → Option (Connection × Bool)
  | 0, _, _, _ => none
  | attempts + 1, connection, errNo, replies =>
      if isConnectionError errNo then
        match replies with
        | [] => none
        | reply :: replies =>
            match (connection.closeIfLost errNo).open' reply with
            | none => none
            | some (opened, errorCode) =>
                if errorCode = 0 then
                  -- Statements that are not re-prepared abort the process.
                  if opened.prepareStatements then some (opened, true) else none
                else if attempts = 0 then
                  none
                else
                  handleMySQLError attempts opened errorCode replies
      else if errorClass errNo = .fatal then
        none
      else
        some (connection, false)

/-- All that a call of `HandleMySQLError` that returns can have done. -/
theorem handleMySQLError_cases {attempts errNo : Nat} {connection after : Connection}
    {replies : List OpenReply} {handled : Bool}
    (returned : handleMySQLError attempts connection errNo replies = some (after, handled)) :
    (isConnectionError errNo = false ∧ after = connection ∧ handled = false) ∨
    (isConnectionError errNo = true ∧ ∃ rest left reply opened errorCode,
      attempts = left + 1 ∧ replies = reply :: rest ∧
      (connection.closeIfLost errNo).open' reply = some (opened, errorCode) ∧
      (errorCode = 0 ∧ after = opened ∧ handled = true ∨
        errorCode ≠ 0 ∧ handleMySQLError left opened errorCode rest = some (after, handled))) := by
  cases attempts with
  | zero => cases returned
  | succ left =>
      unfold handleMySQLError at returned
      by_cases reconnects : isConnectionError errNo = true
      · rw [if_pos reconnects] at returned
        refine .inr ⟨reconnects, ?_⟩
        cases replies with
        | nil => cases returned
        | cons reply rest =>
            dsimp only at returned
            split at returned
            · cases returned
            · rename_i opened errorCode success
              refine ⟨rest, left, reply, opened, errorCode, rfl, rfl, success, ?_⟩
              by_cases zero : errorCode = 0
              · rw [if_pos zero] at returned
                split_ifs at returned
                cases returned
                exact .inl ⟨zero, rfl, rfl⟩
              · rw [if_neg zero] at returned
                split_ifs at returned
                exact .inr ⟨zero, returned⟩
      · rw [if_neg reconnects] at returned
        split_ifs at returned
        cases returned
        exact .inl ⟨by simpa using reconnects, rfl, rfl⟩

inductive PrepareReply
  | initFailed
  | prepareFailed
  | prepared (paramCount : Nat)
  deriving DecidableEq, Repr

def prepareStatement (connection : Connection) (index : Nat) (sql : String)
    (flags : ConnectionFlags) (reply : PrepareReply) : Option Connection :=
  if connection.stmtList.length ≤ index then
    none
  else if !connection.connectionFlags.overlaps flags then
    some { connection with stmtList := connection.stmtList.set index none }
  else
    match connection.mysqlHandle, reply with
    | none, _ => none
    | some handle, .prepared paramCount =>
        some { connection with
          stmtList := connection.stmtList.set index (some ⟨handle, sql, paramCount⟩) }
    | some _, _ => some { connection with prepareError := true }

/-- `GetPreparedStatementList()->resize(size)`. -/
def resizeStatements (connection : Connection) (size : Nat) : Connection :=
  { connection with
    stmtList := connection.stmtList.take size ++
      List.replicate (size - connection.stmtList.length) none }

end Connection

structure PreparedStatement where
  index : Nat
  parameters : List String
  deriving DecidableEq, Repr

/-- What `Execute` and `Query` are called with; a prepared statement may be a
null pointer. -/
inductive Statement
  | raw (sql : String)
  | prepared (stmt : Option PreparedStatement)
  deriving DecidableEq, Repr

inductive Readiness
  -- There is no handle or no statement, and the function returns false.
  | notSent
  -- An assertion fails.
  | crash
  -- The statement was prepared for another session.
  | stale
  | ready
  deriving DecidableEq, Repr

def Connection.readiness (connection : Connection) : Statement → Readiness
  | .raw sql => if connection.mysqlHandle = none ∨ sql = "" then .notSent else .ready
  | .prepared none => .notSent
  | .prepared (some stmt) =>
      match connection.mysqlHandle with
      | none => .notSent
      | some handle =>
          match connection.stmtList[stmt.index]? with
          | none => .crash
          | some none => .crash
          | some (some mysqlStmt) =>
              if mysqlStmt.paramCount < stmt.parameters.length then .crash
              else if mysqlStmt.handle = handle then .ready
              else .stale

/-- The answer to one attempt to send a statement.  If the connection is lost,
the server may have carried the statement out before. -/
inductive Reply
  | acknowledged
  | failed (errNo : ErrorCode) (performed : Bool) (opens : List OpenReply)
  deriving DecidableEq, Repr

inductive Final
  -- The server was not reached.
  | notSent
  | acknowledged
  -- The statement was not carried out, and the session goes on.
  | refused (errNo : Nat)
  -- The session is lost, and there is no new one.
  | disconnected (performed : Bool)
  deriving DecidableEq, Repr

/-- What a call leaves: for each attempt that lost the session and was followed
by a reconnect, whether the server had carried the statement out; the end of
the last attempt; the connection; and the replies not used. -/
structure Sent where
  lost : List Bool
  final : Final
  connection : Connection
  replies : List Reply
  deriving DecidableEq, Repr

def Sent.succeeded (sent : Sent) : Bool :=
  sent.final = .acknowledged

/-- A lost connection may hide that the statement was carried out. -/
def performedDespite (errNo : Nat) (performed : Bool) : Bool :=
  performed && errorClass errNo = .connectionLost

def reconnectAttempts : Nat := 5

def unhandledEnd (before after : Connection) (errNo : Nat) (performed : Bool) : Final :=
  if after.mysqlHandle = before.mysqlHandle then .refused errNo else .disconnected performed

def Connection.sendNothing (connection : Connection) (statement : Statement)
    (replies : List Reply) : Option Sent :=
  match connection.readiness statement with
  | .notSent => some ⟨[], .notSent, connection, replies⟩
  | .stale =>
      -- The error is that of the statement, but the one of the handle is read.
      match handleMySQLError reconnectAttempts connection connection.lastErrno [] with
      | some (after, false) => some ⟨[], .notSent, after, replies⟩
      | _ => none
  | .crash => none
  | .ready => none

/-- The scheme of `Execute` and `Query`. -/
def Connection.send (connection : Connection) (statement : Statement) :
    List Reply → Option Sent
  | [] => connection.sendNothing statement []
  | reply :: replies =>
      if connection.readiness statement ≠ .ready then
        connection.sendNothing statement (reply :: replies)
      else
        match reply with
        | .acknowledged => some ⟨[], .acknowledged, { connection with lastErrno := 0 }, replies⟩
        | .failed errNo performed opens =>
            let failed := { connection with lastErrno := errNo }
            match handleMySQLError reconnectAttempts failed errNo opens with
            | none => none
            | some (after, false) =>
                some ⟨[], unhandledEnd failed after errNo (performedDespite errNo performed),
                  after, replies⟩
            | some (after, true) => (after.send statement replies).map fun sent =>
                { sent with lost := performedDespite errNo performed :: sent.lost }

/-- All that a call with at least one answer can have done. -/
theorem send_cons_cases {connection : Connection} {statement : Statement} {reply : Reply}
    {replies : List Reply} {sent : Sent}
    (returned : connection.send statement (reply :: replies) = some sent) :
    (connection.readiness statement ≠ .ready ∧
      connection.sendNothing statement (reply :: replies) = some sent) ∨
    (connection.readiness statement = .ready ∧ reply = .acknowledged ∧
      sent = ⟨[], .acknowledged, { connection with lastErrno := 0 }, replies⟩) ∨
    ∃ errNo performed opens after handled, connection.readiness statement = .ready ∧
      reply = .failed errNo performed opens ∧
      Connection.handleMySQLError reconnectAttempts { connection with lastErrno := errNo } errNo
        opens = some (after, handled) ∧
      (handled = false ∧ sent = ⟨[], unhandledEnd { connection with lastErrno := errNo } after
          errNo (performedDespite errNo performed), after, replies⟩ ∨
        handled = true ∧ ∃ rest, after.send statement replies = some rest ∧
          sent = { rest with lost := performedDespite errNo performed :: rest.lost }) := by
  cases reply with
  | acknowledged =>
      rw [Connection.send] at returned
      split_ifs at returned with unready
      · exact .inl ⟨unready, returned⟩
      · cases returned
        exact .inr (.inl ⟨not_not.mp unready, rfl, rfl⟩)
  | failed errNo performed opens =>
      rw [Connection.send] at returned
      split_ifs at returned with unready
      · exact .inl ⟨unready, returned⟩
      · refine .inr (.inr ⟨errNo, performed, opens, ?_⟩)
        dsimp only at returned
        split at returned
        · cases returned
        · rename_i after result
          cases returned
          exact ⟨after, false, not_not.mp unready, rfl, result, .inl ⟨rfl, rfl⟩⟩
        · rename_i after result
          obtain ⟨rest, again, rfl⟩ := Option.map_eq_some_iff.mp returned
          exact ⟨after, true, not_not.mp unready, rfl, result, .inr ⟨rfl, rest, again, rfl⟩⟩

def Connection.execute (connection : Connection) (statement : Statement) (replies : List Reply) :
    Option (Connection × Bool) :=
  (connection.send statement replies).map fun sent => (sent.connection, sent.succeeded)

/-- `Query`; a raw query also fails when its result has no rows, and a prepared
one needs a statement. -/
def Connection.query (connection : Connection) (statement : Statement) (replies : List Reply)
    (hasRows : Bool) : Option (Connection × Bool) :=
  match statement with
  | .raw sql => (connection.send (.raw sql) replies).map fun sent =>
      (sent.connection, sent.succeeded && hasRows)
  | .prepared none =>
      if connection.mysqlHandle = none then some (connection, false) else none
  | .prepared (some stmt) => connection.execute (.prepared (some stmt)) replies

/-- `GetLastError`: without a handle, the last error of the client library is
read. -/
def Connection.getLastError (connection : Connection) (libraryErrno : Nat) : Nat :=
  match connection.mysqlHandle with
  | none => libraryErrno
  | some _ => connection.lastErrno

end MySQL

end WarheadBot
