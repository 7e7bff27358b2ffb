import WarheadBot.GuardedRuns
import WarheadBot.MySQLConnection

/-!
# Prepared statements and reconnects

A reconnect replaces the handle, but `PrepareStatements` only reads a flag and
prepares nothing, so the statements of the list stay with the session that was
lost.  As long as no call loses the connection while a statement is prepared,
every statement of the list belongs to the current handle.
-/

namespace WarheadBot

namespace MySQL

open GuardedRuns

inductive Call
  | open' (reply : OpenReply)
  | resizeStatements (size : Nat)
  | prepareStatement (index : Nat) (sql : String) (flags : ConnectionFlags)
      (reply : Connection.PrepareReply)
  | execute (statement : Statement) (replies : List Reply)
  | query (statement : Statement) (replies : List Reply) (hasRows : Bool)
  | handleMySQLError (errNo : Nat) (replies : List OpenReply)

namespace Connection

def step (connection : Connection) : Call → Option Connection
  | .open' reply => (connection.open' reply).map Prod.fst
  | .resizeStatements size => some (connection.resizeStatements size)
  | .prepareStatement index sql flags reply => connection.prepareStatement index sql flags reply
  | .execute statement replies => (connection.execute statement replies).map Prod.fst
  | .query statement replies hasRows =>
      (connection.query statement replies hasRows).map Prod.fst
  | .handleMySQLError errNo replies =>
      (handleMySQLError reconnectAttempts connection errNo replies).map Prod.fst

def construct (info : ConnectionInfo) (flags : ConnectionFlags) : Connection where
  mysqlHandle := none
  connectionInfo := info
  connectionFlags := flags
  stmtList := []
  prepareError := false
  lastErrno := 0
  nextHandle := 0

/-- Every statement of the list was prepared on the current handle. -/
def StatementsBound (connection : Connection) : Prop :=
  ∀ stmt, some stmt ∈ connection.stmtList → connection.mysqlHandle = some stmt.handle

end Connection

def Reply.isConnectionError : Reply → Bool
  | .acknowledged => false
  | .failed errNo _ _ => MySQL.isConnectionError errNo

def Call.reconnects : Call → Bool
  | .open' _ => true
  | .resizeStatements _ => false
  | .prepareStatement _ _ _ _ => false
  | .execute _ replies => replies.any Reply.isConnectionError
  | .query _ replies _ => replies.any Reply.isConnectionError
  | .handleMySQLError errNo _ => isConnectionError errNo

/-- No call reconnects while a statement is prepared. -/
def ReconnectsUnprepared (connection : Connection) (call : Call) : Prop :=
  call.reconnects = true → ∀ entry ∈ connection.stmtList, entry = none

instance (connection : Connection) (call : Call) :
    Decidable (ReconnectsUnprepared connection call) :=
  inferInstanceAs (Decidable (_ → _))

section Errors

variable {connection after : Connection} {errNo : Nat} {handled : Bool}

theorem open'_stmtList {errorCode : Nat} {reply : OpenReply}
    (opened : connection.open' reply = some (after, errorCode)) :
    after.stmtList = connection.stmtList := by
  cases reply with
  | initFailed =>
      cases opened
      rfl
  | refused code =>
      obtain ⟨info, _, equal⟩ := Option.map_eq_some_iff.mp opened
      cases equal
      rfl
  | connected =>
      obtain ⟨info, _, equal⟩ := Option.map_eq_some_iff.mp opened
      cases equal
      rfl

theorem handleMySQLError_stmtList {attempts : Nat} {replies : List OpenReply}
    (returned : Connection.handleMySQLError attempts connection errNo replies =
      some (after, handled)) :
    after.stmtList = connection.stmtList := by
  induction attempts generalizing connection errNo replies with
  | zero => cases returned
  | succ attempts ih =>
      rcases Connection.handleMySQLError_cases returned with
        ⟨_, rfl, _⟩ | ⟨_, rest, left, reply, opened, errorCode, count, _, success, ended⟩
      · rfl
      · have closed : (connection.closeIfLost errNo).stmtList = connection.stmtList := by
          unfold Connection.closeIfLost
          split_ifs <;> rfl
        have kept : opened.stmtList = connection.stmtList :=
          (open'_stmtList success).trans closed
        cases count
        rcases ended with ⟨_, rfl, _⟩ | ⟨_, again⟩
        · exact kept
        · exact (ih again).trans kept

theorem handleMySQLError_other {attempts : Nat} {replies : List OpenReply}
    (other : isConnectionError errNo = false)
    (returned : Connection.handleMySQLError attempts connection errNo replies =
      some (after, handled)) :
    after = connection ∧ handled = false := by
  rcases Connection.handleMySQLError_cases returned with ⟨_, same, unhandled⟩ | ⟨reconnects, _⟩
  · exact ⟨same, unhandled⟩
  · rw [other] at reconnects
    cases reconnects

end Errors

section Calls

variable {connection after : Connection} {statement : Statement}

theorem sendNothing_connection {replies : List Reply} {sent : Sent}
    (returned : connection.sendNothing statement replies = some sent) :
    sent.connection = connection := by
  unfold Connection.sendNothing at returned
  split at returned
  · cases returned
    rfl
  · split at returned
    · rename_i afterError result
      cases returned
      -- Without an answer of `Open` a reconnect does not return.
      rcases Connection.handleMySQLError_cases result with
        ⟨_, same, _⟩ | ⟨_, _, _, _, _, _, _, noReply, _⟩
      · exact same
      · cases noReply
    · cases returned
  · cases returned
  · cases returned

theorem send_stmtList {replies : List Reply} {sent : Sent}
    (returned : connection.send statement replies = some sent) :
    sent.connection.stmtList = connection.stmtList := by
  induction replies generalizing connection sent with
  | nil =>
      rw [Connection.send] at returned
      rw [sendNothing_connection returned]
  | cons reply replies ih =>
      rcases send_cons_cases returned with
        ⟨_, nothing⟩ | ⟨_, _, rfl⟩ | ⟨errNo, performed, opens, opened, handled, _, _, result, ended⟩
      · rw [sendNothing_connection nothing]
      · rfl
      · have kept := handleMySQLError_stmtList result
        rcases ended with ⟨_, rfl⟩ | ⟨_, rest, again, rfl⟩
        · exact kept
        · exact (ih again).trans kept

theorem send_mysqlHandle {replies : List Reply} {sent : Sent}
    (steady : replies.any Reply.isConnectionError = false)
    (returned : connection.send statement replies = some sent) :
    sent.connection.mysqlHandle = connection.mysqlHandle := by
  cases replies with
  | nil =>
      rw [Connection.send] at returned
      rw [sendNothing_connection returned]
  | cons reply replies =>
      rw [List.any_cons, Bool.or_eq_false_iff] at steady
      rcases send_cons_cases returned with
        ⟨_, nothing⟩ | ⟨_, _, rfl⟩ |
          ⟨errNo, performed, opens, opened, handled, _, rfl, result, ended⟩
      · rw [sendNothing_connection nothing]
      · rfl
      · obtain ⟨rfl, rfl⟩ := handleMySQLError_other steady.1 result
        rcases ended with ⟨_, rfl⟩ | ⟨impossible, _⟩
        · rfl
        · cases impossible

theorem execute_send {replies : List Reply}
    (returned : connection.step (.execute statement replies) = some after) :
    ∃ sent, connection.send statement replies = some sent ∧ after = sent.connection := by
  simp only [Connection.step, Connection.execute, Option.map_map, Option.map_eq_some_iff,
    Function.comp_apply] at returned
  obtain ⟨sent, result, rfl⟩ := returned
  exact ⟨sent, result, rfl⟩

theorem query_send {replies : List Reply} {hasRows : Bool}
    (returned : connection.step (.query statement replies hasRows) = some after) :
    after = connection ∨
      ∃ sent, connection.send statement replies = some sent ∧ after = sent.connection := by
  cases statement with
  | raw sql =>
      simp only [Connection.step, Connection.query, Option.map_map, Option.map_eq_some_iff,
        Function.comp_apply] at returned
      obtain ⟨sent, result, rfl⟩ := returned
      exact .inr ⟨sent, result, rfl⟩
  | prepared stmt =>
      cases stmt with
      | none =>
          simp only [Connection.step, Connection.query] at returned
          split at returned
          · cases returned
            exact .inl rfl
          · cases returned
      | some stmt => exact .inr (execute_send returned)

/-- The calls other than `PrepareStatement` and the resizing of the list keep
the list, and the handle unless they reconnect. -/
theorem step_stmtList {call : Call} (returned : connection.step call = some after) :
    (∃ index sql flags reply, call = .prepareStatement index sql flags reply) ∨
      (∃ size, call = .resizeStatements size) ∨
      after.stmtList = connection.stmtList ∧
        (call.reconnects = false → after.mysqlHandle = connection.mysqlHandle) := by
  cases call with
  | open' reply =>
      obtain ⟨⟨opened, errorCode⟩, result, rfl⟩ := Option.map_eq_some_iff.mp returned
      exact .inr (.inr ⟨open'_stmtList result, nofun⟩)
  | resizeStatements size => exact .inr (.inl ⟨size, rfl⟩)
  | prepareStatement index sql flags reply => exact .inl ⟨index, sql, flags, reply, rfl⟩
  | execute statement replies =>
      obtain ⟨sent, result, rfl⟩ := execute_send returned
      exact .inr (.inr ⟨send_stmtList result, fun steady => send_mysqlHandle steady result⟩)
  | query statement replies hasRows =>
      right
      right
      rcases query_send returned with rfl | ⟨sent, result, rfl⟩
      · exact ⟨rfl, fun _ => rfl⟩
      · exact ⟨send_stmtList result, fun steady => send_mysqlHandle steady result⟩
  | handleMySQLError errNo replies =>
      obtain ⟨⟨next, handled⟩, result, rfl⟩ := Option.map_eq_some_iff.mp returned
      refine .inr (.inr ⟨handleMySQLError_stmtList result, ?_⟩)
      intro steady
      rw [(handleMySQLError_other steady result).1]

theorem statementsBound_prepareStatement {index : Nat} {sql : String} {flags : ConnectionFlags}
    {reply : Connection.PrepareReply} (bound : connection.StatementsBound)
    (returned : connection.prepareStatement index sql flags reply = some after) :
    after.StatementsBound := by
  unfold Connection.prepareStatement at returned
  split_ifs at returned
  · cases returned
    intro stmt member
    rcases List.mem_or_eq_of_mem_set member with old | new
    · exact bound stmt old
    · cases new
  · split at returned
    · cases returned
    · rename_i handle paramCount opened
      cases returned
      intro stmt member
      rcases List.mem_or_eq_of_mem_set member with old | new
      · exact bound stmt old
      · cases new
        exact opened
    · cases returned
      exact bound

theorem statementsBound_step {call : Call} (bound : connection.StatementsBound)
    (unprepared : ReconnectsUnprepared connection call)
    (returned : connection.step call = some after) : after.StatementsBound := by
  rcases step_stmtList returned with
    ⟨index, sql, flags, reply, rfl⟩ | ⟨size, rfl⟩ | ⟨sameList, sameHandle⟩
  · exact statementsBound_prepareStatement bound returned
  · cases returned
    intro stmt member
    rcases List.mem_append.mp member with old | new
    · exact bound stmt (List.mem_of_mem_take old)
    · cases (List.mem_replicate.mp new).2
  · intro stmt member
    rw [sameList] at member
    cases reconnects : call.reconnects with
    | false =>
        rw [sameHandle reconnects]
        exact bound stmt member
    | true => cases unprepared reconnects _ member

end Calls

/-- In a run in which no call reconnects while a statement is prepared, every
statement of the list belongs to the current handle. -/
theorem statements_belong_to_handle (info : ConnectionInfo) (flags : ConnectionFlags)
    {calls : List Call} {connection : Connection}
    (unprepared : Meets Connection.step ReconnectsUnprepared (.construct info flags) calls)
    (reached : exec Connection.step (.construct info flags) calls = some connection) :
    connection.StatementsBound :=
  exec_invariant statementsBound_step unprepared reached nofun

/-- A connection with one prepared statement executes a query. -/
def preparedConnection (replies : List Reply) : List Call :=
  [.open' .connected, .resizeStatements 1,
    .prepareStatement 0 "SELECT 1" .async (.prepared 0), .execute (.raw "SELECT 1") replies]

def exampleInfo : ConnectionInfo := ⟨"127.0.0.1", "3306"⟩

theorem statements_bound_after_query :
    ∃ connection, exec Connection.step (.construct exampleInfo .async)
        (preparedConnection [.acknowledged]) = some connection ∧
      connection.StatementsBound := by
  have unprepared : Meets Connection.step ReconnectsUnprepared (.construct exampleInfo .async)
      (preparedConnection [.acknowledged]) := by
    decide
  exact ⟨_, rfl, statements_belong_to_handle exampleInfo .async unprepared rfl⟩

/-- The connection is lost during the query and opened again. -/
theorem statements_stale_after_reconnect :
    ∃ connection, exec Connection.step (.construct exampleInfo .async)
        (preparedConnection [.failed ⟨2013, by decide⟩ false [.connected], .acknowledged]) =
          some connection ∧
      ¬ connection.StatementsBound := by
  refine ⟨_, rfl, ?_⟩
  intro bound
  have current : (some 1 : Option Handle) = some 0 :=
    bound ⟨0, "SELECT 1", 0⟩ List.mem_cons_self
  cases current

end MySQL

end WarheadBot
