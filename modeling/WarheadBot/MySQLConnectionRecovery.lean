import WarheadBot.MySQLConnection

/-!
# Recovering a lost connection

`HandleMySQLError` calls itself with the error of each attempt to reconnect, so
that an attempt may be followed by any branch of its `switch`.  Here the answers
to the attempts are an infinite sequence, and the function says how it ends:
it returns, it aborts the process, or it reads the port of a connection that
has none.
-/

namespace WarheadBot

namespace MySQL

inductive Outcome
  | returned (connection : Connection) (handled : Bool)
  | aborted
  -- `*StringTo<uint32>` of an empty result.
  | invalidPort
  deriving DecidableEq, Repr

def Outcome.toOption : Outcome → Option (Connection × Bool)
  | returned connection handled => some (connection, handled)
  | aborted => none
  | invalidPort => none

/-- How the recovery ends, and how many connection attempts were made up to
its end, those before it included. -/
structure Recovery where
  outcome : Outcome
  opened : Nat
  deriving DecidableEq, Repr

/-- `HandleMySQLError`, where `opened` attempts were made before. -/
def Connection.recover (opens : Nat → OpenReply) : Nat → Connection → Nat → Nat → Recovery
  | 0, _, _, opened => ⟨.aborted, opened⟩
  | attempts + 1, connection, errNo, opened =>
      if isConnectionError errNo then
        match (connection.closeIfLost errNo).open' (opens opened) with
        | none => ⟨.invalidPort, opened + 1⟩
        | some (next, errorCode) =>
            if errorCode = 0 then
              if next.prepareStatements then ⟨.returned next true, opened + 1⟩
              else ⟨.aborted, opened + 1⟩
            else if attempts = 0 then
              ⟨.aborted, opened + 1⟩
            else
              recover opens attempts next errorCode (opened + 1)
      else if errorClass errNo = .fatal then
        ⟨.aborted, opened⟩
      else
        ⟨.returned connection false, opened⟩

/-- A recovery returns what `handleMySQLError` returns for the answers it may
use. -/
theorem handleMySQLError_eq_recover (opens : Nat → OpenReply) (attempts : Nat)
    (connection : Connection) (errNo opened : Nat) :
    Connection.handleMySQLError attempts connection errNo
        ((List.range' opened attempts).map opens) =
      (Connection.recover opens attempts connection errNo opened).outcome.toOption := by
  induction attempts generalizing connection errNo opened with
  | zero => rfl
  | succ attempts ih =>
      unfold Connection.handleMySQLError Connection.recover
      by_cases lost : isConnectionError errNo = true
      · rw [if_pos lost, if_pos lost, List.range'_succ, List.map_cons]
        dsimp only
        cases (connection.closeIfLost errNo).open' (opens opened) with
        | none => rfl
        | some result =>
            obtain ⟨next, errorCode⟩ := result
            dsimp only
            split_ifs
            · rfl
            · rfl
            · rfl
            · exact ih next errorCode (opened + 1)
      · rw [if_neg lost, if_neg lost]
        split_ifs <;> rfl

def OpenReply.errorCode : OpenReply → Nat
  | initFailed => unknownError
  | refused errNo => errNo
  | connected => 0

/-- The attempt with this number finds a port or still the name of a socket,
which the first attempt overwrites. -/
def ConnectionInfo.ResolvesAt (info : ConnectionInfo) (attempt : Nat) : Prop :=
  (parsePort info.portOrSocket).isSome = true ∨ info.host = "." ∧ attempt = 0

theorem resolve_eq_none_iff {info : ConnectionInfo} :
    info.resolve = none ↔ ¬ info.ResolvesAt 0 := by
  unfold ConnectionInfo.resolve ConnectionInfo.ResolvesAt
  split_ifs with socket
  · simp [socket]
  · simp [socket]

/-- A later attempt finds a port exactly if the first one could have. -/
theorem resolvesAt_succ {info resolved : ConnectionInfo} (resolves : info.resolve = some resolved)
    (attempt : Nat) : info.ResolvesAt (attempt + 1) ↔ resolved.ResolvesAt attempt := by
  unfold ConnectionInfo.resolve at resolves
  unfold ConnectionInfo.ResolvesAt
  split_ifs at resolves with socket
  · cases resolves
    simp
  · obtain ⟨_, _, rfl⟩ := Option.map_eq_some_iff.mp resolves
    simp [socket]

/-- An answer after which the recovery goes on, succeeds or aborts; the answer
to the last attempt may be anything. -/
def Tolerated (info : ConnectionInfo) (attempts attempt : Nat) : OpenReply → Prop
  | .connected => info.ResolvesAt attempt
  | .initFailed => attempt + 1 = attempts
  | .refused errNo => info.ResolvesAt attempt ∧
      (attempt + 1 = attempts ∨ isConnectionError errNo = true ∨ errorClass errNo = .fatal)

/-- After nothing but connection errors every answer is a tolerated one. -/
def Settles (info : ConnectionInfo) (opens : Nat → OpenReply) (attempts opened : Nat) : Prop :=
  ∀ attempt < attempts,
    (∀ earlier < attempt, isConnectionError (opens (opened + earlier)).errorCode = true) →
      Tolerated info attempts attempt (opens (opened + attempt))

theorem tolerated_succ {info resolved : ConnectionInfo} (resolves : info.resolve = some resolved)
    (attempts attempt : Nat) (reply : OpenReply) :
    Tolerated info (attempts + 1) (attempt + 1) reply ↔
      Tolerated resolved attempts attempt reply := by
  cases reply with
  | connected => exact resolvesAt_succ resolves attempt
  | initFailed => simp [Tolerated]
  | refused errNo => simp [Tolerated, resolvesAt_succ resolves attempt]

theorem settles_succ {info : ConnectionInfo} {opens : Nat → OpenReply} {attempts opened : Nat} :
    Settles info opens (attempts + 1) opened ↔
      Tolerated info (attempts + 1) 0 (opens opened) ∧
        (isConnectionError (opens opened).errorCode = true →
          ∀ resolved, info.resolve = some resolved →
            Settles resolved opens attempts (opened + 1)) := by
  constructor
  · intro settles
    refine ⟨settles 0 (by omega) (by simp), ?_⟩
    intro lost resolved resolves attempt inside earlierLost
    rw [← tolerated_succ resolves, Nat.add_assoc, Nat.add_comm 1 attempt]
    refine settles (attempt + 1) (by omega) ?_
    intro earlier before
    cases earlier with
    | zero => exact lost
    | succ earlier =>
        have later := earlierLost earlier (by omega)
        rwa [Nat.add_assoc, Nat.add_comm 1 earlier] at later
  · rintro ⟨first, rest⟩ attempt inside earlierLost
    cases attempt with
    | zero => exact first
    | succ attempt =>
        have lost := earlierLost 0 (by omega)
        cases resolves : info.resolve with
        | none =>
            rw [resolve_eq_none_iff] at resolves
            cases reply : opens opened with
            | connected =>
                rw [reply] at first
                exact absurd first resolves
            | initFailed =>
                rw [Nat.add_zero, reply] at lost
                cases lost
            | refused errNo =>
                rw [reply] at first
                exact absurd first.1 resolves
        | some resolved =>
            rw [tolerated_succ resolves]
            have later := rest lost resolved resolves attempt (by omega)
            rw [Nat.add_assoc, Nat.add_comm 1 attempt] at later
            refine later ?_
            intro earlier before
            have sooner := earlierLost (earlier + 1) (by omega)
            rwa [Nat.add_assoc, Nat.add_comm 1 earlier]

/-- The recovery has aborted, or has returned true with an open handle. -/
def Outcome.Expected : Outcome → Prop
  | returned connection handled => handled = true ∧ connection.mysqlHandle ≠ none
  | aborted => True
  | invalidPort => False

instance : DecidablePred Outcome.Expected
  | .returned _ _ => inferInstanceAs (Decidable (_ ∧ _))
  | .aborted => isTrue trivial
  | .invalidPort => isFalse id

theorem recover_other (opens : Nat → OpenReply) (attempts : Nat) (connection : Connection)
    {errNo : Nat} (other : isConnectionError errNo = false) (opened : Nat) :
    Connection.recover opens (attempts + 1) connection errNo opened =
      if errorClass errNo = .fatal then ⟨.aborted, opened⟩
      else ⟨.returned connection false, opened⟩ := by
  rw [Connection.recover, other]
  rfl

theorem closeIfLost_connectionInfo (connection : Connection) (errNo : Nat) :
    (connection.closeIfLost errNo).connectionInfo = connection.connectionInfo := by
  unfold Connection.closeIfLost
  split_ifs <;> rfl

section OneAttempt

variable {opens : Nat → OpenReply} {attempts : Nat} {connection : Connection} {errNo : Nat}
  {opened : Nat}

/-- `CR_UNKNOWN_ERROR` is not one of the errors that are handled. -/
theorem recover_initFailed (lost : isConnectionError errNo = true)
    (reply : opens opened = .initFailed) :
    Connection.recover opens (attempts + 1) connection errNo opened =
      if attempts = 0 then ⟨.aborted, opened + 1⟩
      else ⟨.returned (connection.closeIfLost errNo) false, opened + 1⟩ := by
  rw [Connection.recover, if_pos lost, reply]
  cases attempts with
  | zero => rfl
  | succ attempts => rfl

theorem recover_invalidPort (lost : isConnectionError errNo = true)
    (reply : opens opened ≠ .initFailed)
    (unresolved : connection.connectionInfo.resolve = none) :
    Connection.recover opens (attempts + 1) connection errNo opened =
      ⟨.invalidPort, opened + 1⟩ := by
  rw [Connection.recover, if_pos lost]
  cases isReply : opens opened with
  | initFailed => exact absurd isReply reply
  | refused code => simp [Connection.open', closeIfLost_connectionInfo, unresolved]
  | connected => simp [Connection.open', closeIfLost_connectionInfo, unresolved]

/-- The connection after an attempt that was refused. -/
def Connection.afterRefusal (connection : Connection) (errNo : Nat) (info : ConnectionInfo) :
    Connection :=
  { connection.closeIfLost errNo with connectionInfo := info, mysqlHandle := none }

theorem recover_refused (lost : isConnectionError errNo = true) {code : ErrorCode}
    (reply : opens opened = .refused code) {info : ConnectionInfo}
    (resolved : connection.connectionInfo.resolve = some info) :
    Connection.recover opens (attempts + 1) connection errNo opened =
      if attempts = 0 then ⟨.aborted, opened + 1⟩
      else Connection.recover opens attempts (connection.afterRefusal errNo info) code
        (opened + 1) := by
  rw [Connection.recover, if_pos lost, reply]
  simp [Connection.open', closeIfLost_connectionInfo, resolved, code.property,
    Connection.afterRefusal]

/-- The connection after a successful attempt. -/
def Connection.afterReconnect (connection : Connection) (errNo : Nat) (info : ConnectionInfo) :
    Connection :=
  { connection.closeIfLost errNo with
    connectionInfo := info
    mysqlHandle := some (connection.closeIfLost errNo).nextHandle
    lastErrno := 0
    nextHandle := (connection.closeIfLost errNo).nextHandle + 1 }

theorem recover_connected (lost : isConnectionError errNo = true)
    (reply : opens opened = .connected) {info : ConnectionInfo}
    (resolved : connection.connectionInfo.resolve = some info) :
    Connection.recover opens (attempts + 1) connection errNo opened =
      if (connection.afterReconnect errNo info).prepareStatements then
        ⟨.returned (connection.afterReconnect errNo info) true, opened + 1⟩
      else ⟨.aborted, opened + 1⟩ := by
  rw [Connection.recover, if_pos lost, reply]
  simp only [Connection.open', closeIfLost_connectionInfo, resolved, Option.map_some, if_true]
  rfl

end OneAttempt

theorem resolvesAt_zero {info resolved : ConnectionInfo} (resolves : info.resolve = some resolved) :
    info.ResolvesAt 0 := by
  by_contra unresolved
  rw [resolve_eq_none_iff.mpr unresolved] at resolves
  cases resolves

theorem settles_zero (info : ConnectionInfo) (opens : Nat → OpenReply) (opened : Nat) :
    Settles info opens 0 opened := by
  intro attempt inside
  omega

theorem expected_invalidPort {opens : Nat → OpenReply} {attempts : Nat}
    {connection : Connection} {errNo opened : Nat} (lost : isConnectionError errNo = true)
    (initialized : opens opened ≠ .initFailed)
    (unresolved : connection.connectionInfo.resolve = none) :
    (Connection.recover opens (attempts + 1) connection errNo opened).outcome.Expected ↔
      Settles connection.connectionInfo opens (attempts + 1) opened := by
  have noPort := resolve_eq_none_iff.mp unresolved
  rw [recover_invalidPort lost initialized unresolved, settles_succ]
  cases reply : opens opened with
  | initFailed => exact absurd reply initialized
  | refused code => simp [Tolerated, Outcome.Expected, noPort]
  | connected => simp [Tolerated, Outcome.Expected, noPort]

theorem expected_connected {opens : Nat → OpenReply} {attempts : Nat} {connection : Connection}
    {errNo opened : Nat} (lost : isConnectionError errNo = true)
    (reply : opens opened = .connected) :
    (Connection.recover opens (attempts + 1) connection errNo opened).outcome.Expected ↔
      Settles connection.connectionInfo opens (attempts + 1) opened := by
  have noError : isConnectionError OpenReply.connected.errorCode = false := by decide
  cases resolves : connection.connectionInfo.resolve with
  | none => exact expected_invalidPort lost (by simp [reply]) resolves
  | some info =>
      rw [recover_connected lost reply resolves, settles_succ, reply]
      split_ifs
      · simp [Tolerated, Outcome.Expected, resolvesAt_zero resolves, noError,
          Connection.afterReconnect]
      · simp [Tolerated, Outcome.Expected, resolvesAt_zero resolves, noError]

/-- The recovery ends as expected exactly if the answers settle it. -/
theorem expected_iff_settles (opens : Nat → OpenReply) (attempts : Nat)
    (connection : Connection) {errNo : Nat} (lost : isConnectionError errNo = true)
    (opened : Nat) :
    (Connection.recover opens (attempts + 1) connection errNo opened).outcome.Expected ↔
      Settles connection.connectionInfo opens (attempts + 1) opened := by
  induction attempts generalizing connection errNo opened with
  | zero =>
      cases reply : opens opened with
      | initFailed =>
          rw [recover_initFailed lost reply, settles_succ, reply]
          simp [Tolerated, Outcome.Expected, settles_zero]
      | refused code =>
          cases resolves : connection.connectionInfo.resolve with
          | none => exact expected_invalidPort lost (by simp [reply]) resolves
          | some info =>
              rw [recover_refused lost reply resolves, settles_succ, reply]
              simp [Tolerated, Outcome.Expected, settles_zero, resolvesAt_zero resolves]
      | connected => exact expected_connected lost reply
  | succ attempts ih =>
      cases reply : opens opened with
      | initFailed =>
          rw [recover_initFailed lost reply, settles_succ, reply]
          simp [Tolerated, Outcome.Expected]
      | refused code =>
          cases resolves : connection.connectionInfo.resolve with
          | none => exact expected_invalidPort lost (by simp [reply]) resolves
          | some info =>
              rw [recover_refused lost reply resolves, if_neg (Nat.succ_ne_zero attempts),
                settles_succ, reply]
              by_cases again : isConnectionError code = true
              · rw [ih (connection.afterRefusal errNo info) again (opened + 1)]
                simp [Tolerated, resolvesAt_zero resolves, resolves, OpenReply.errorCode, again,
                  Connection.afterRefusal]
              · rw [recover_other opens attempts _ (by simpa using again)]
                by_cases fatal : errorClass code = .fatal
                · simp [Tolerated, Outcome.Expected, resolvesAt_zero resolves, fatal,
                    OpenReply.errorCode, again]
                · simp [Tolerated, Outcome.Expected, fatal, again]
      | connected => exact expected_connected lost reply

theorem recover_opened_le (opens : Nat → OpenReply) (attempts : Nat) (connection : Connection)
    (errNo opened : Nat) :
    (Connection.recover opens attempts connection errNo opened).opened ≤ opened + attempts := by
  induction attempts generalizing connection errNo opened with
  | zero => exact Nat.le_refl _
  | succ attempts ih =>
      unfold Connection.recover
      by_cases lost : isConnectionError errNo = true
      · rw [if_pos lost]
        split
        · simp only
          omega
        · rename_i next errorCode _
          have later := ih next errorCode (opened + 1)
          split_ifs
          · simp only
            omega
          · simp only
            omega
          · simp only
            omega
          · omega
      · rw [if_neg lost]
        split_ifs <;> simp only <;> omega

/-- At most five connection attempts are made, and the process is aborted or
the connection has an open handle afterwards. -/
structure Restored (recovery : Recovery) : Prop where
  attempts : recovery.opened ≤ reconnectAttempts
  expected : recovery.outcome.Expected

/-- For all answers to the connection attempts: a lost connection is restored
or the process is aborted, exactly if after nothing but connection errors every
answer before the fifth is a success, another connection error or an error that
aborts the process, and a port is there to be read. -/
theorem recover_restored_iff (connection : Connection) {errNo : Nat}
    (lost : isConnectionError errNo = true) (opens : Nat → OpenReply) :
    Restored (Connection.recover opens reconnectAttempts connection errNo 0) ↔
      Settles connection.connectionInfo opens reconnectAttempts 0 := by
  have bound := recover_opened_le opens reconnectAttempts connection errNo 0
  constructor
  · intro restored
    exact (expected_iff_settles opens 4 connection lost 0).mp restored.expected
  · intro settles
    exact ⟨by omega, (expected_iff_settles opens 4 connection lost 0).mpr settles⟩

/-- A connection over TCP that is open. -/
def openConnection : Connection :=
  { mysqlHandle := some 0
    connectionInfo := ⟨"127.0.0.1", "3306"⟩
    connectionFlags := .async
    stmtList := []
    prepareError := false
    lastErrno := 0
    nextHandle := 1 }

/-- The server is not reachable at first, and then it is. -/
def reachableAgain : Nat → OpenReply
  | 0 => .refused ⟨2003, by decide⟩
  | _ => .connected

theorem recover_restored_reachableAgain :
    Settles openConnection.connectionInfo reachableAgain reconnectAttempts 0 := by
  refine (@recover_restored_iff openConnection 2006 (by decide) reachableAgain).mp ?_
  exact ⟨by decide, by decide⟩

/-- A server that refuses the user: the recovery returns false and leaves no
handle. -/
theorem recover_access_denied :
    isConnectionError 2006 = true ∧
      ¬ Restored (Connection.recover (fun _ => .refused ⟨1045, by decide⟩) reconnectAttempts
        openConnection 2006 0) ∧
        (Connection.recover (fun _ => .refused ⟨1045, by decide⟩) reconnectAttempts
          openConnection 2006 0).outcome =
            .returned { openConnection with mysqlHandle := none } false := by
  refine ⟨by decide, ?_, by decide⟩
  intro restored
  exact absurd restored.expected (by decide)

end MySQL

end WarheadBot
