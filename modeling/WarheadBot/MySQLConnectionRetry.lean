import WarheadBot.Iteration
import WarheadBot.MySQLConnectionRecovery

/-!
# Sending a query until it is answered

A query that fails because the connection is lost is sent again after each
successful recovery.  The number of attempts is limited within one recovery
only, so a query that loses the connection each time is sent forever.

The answers to the query and to the connection attempts are two infinite
sequences.
-/

namespace WarheadBot

namespace MySQL

open Iteration

/-- A call of `Execute` or `Query` with a text: it is about to send the query
after some failed queries and some connection attempts, or has come to an end. -/
inductive CallState
  | sending (connection : Connection) (failed opened : Nat)
  | returned (connection : Connection) (succeeded : Bool)
  | aborted
  | invalidPort
  deriving DecidableEq, Repr

def CallState.afterRecovery (failed : Nat) : Recovery → CallState
  | ⟨.returned connection true, opened⟩ => sending connection (failed + 1) opened
  | ⟨.returned connection false, _⟩ => returned connection false
  | ⟨.aborted, _⟩ => aborted
  | ⟨.invalidPort, _⟩ => invalidPort

/-- The answers to the query are the errors of `mysql_query`, if there are any. -/
def CallState.step (sql : String) (answers : Nat → Option ErrorCode) (opens : Nat → OpenReply) :
    CallState → CallState
  | sending connection failed opened =>
      if connection.mysqlHandle = none ∨ sql = "" then
        returned connection false
      else
        match answers failed with
        | none => returned { connection with lastErrno := 0 } true
        | some errNo => afterRecovery failed
            (Connection.recover opens reconnectAttempts { connection with lastErrno := errNo }
              errNo opened)
  | state => state

/-- The call has returned or has aborted the process. -/
def CallState.Over : CallState → Prop
  | returned _ _ => True
  | aborted => True
  | _ => False

def Connection.callEnds (connection : Connection) (sql : String)
    (answers : Nat → Option ErrorCode) (opens : Nat → OpenReply) : Prop :=
  Ends (CallState.step sql answers opens) CallState.Over (.sending connection 0 0)

/-- The query is answered by a connection error. -/
def Lost (answers : Nat → Option ErrorCode) (attempt : Nat) : Prop :=
  ∃ errNo, answers attempt = some errNo ∧ isConnectionError errNo = true

/-- Every query loses the connection, and every recovery succeeds. -/
structure Endless (connection : Connection) (sql : String) (answers : Nat → Option ErrorCode)
    (opens : Nat → OpenReply) : Prop where
  hasHandle : connection.mysqlHandle ≠ none
  hasText : sql ≠ ""
  prepared : connection.prepareError = false
  hasPort : (parsePort connection.connectionInfo.portOrSocket).isSome = true
  lost : ∀ attempt, Lost answers attempt
  tolerable : ∀ attempt,
    opens attempt = .connected ∨ isConnectionError (opens attempt).errorCode = true
  reconnects : ∀ attempt, ∃ later, attempt ≤ later ∧ later < attempt + reconnectAttempts ∧
    opens later = .connected

/-- The port of a connection without one is read when the connection is lost,
for the first time or, if the host was the name of a socket, for the second. -/
def ReadsNoPort (connection : Connection) (sql : String) (answers : Nat → Option ErrorCode)
    (opens : Nat → OpenReply) : Prop :=
  connection.mysqlHandle ≠ none ∧ sql ≠ "" ∧
    parsePort connection.connectionInfo.portOrSocket = none ∧ Lost answers 0 ∧
      if connection.connectionInfo.host = "." then
        opens 1 ≠ .initFailed ∧
          (isConnectionError (opens 0).errorCode = true ∨
            opens 0 = .connected ∧ connection.prepareError = false ∧ Lost answers 1)
      else
        opens 0 ≠ .initFailed

variable {sql : String} {answers : Nat → Option ErrorCode} {opens : Nat → OpenReply}

@[simp]
theorem not_ends_invalidPort :
    ¬ Ends (CallState.step sql answers opens) CallState.Over .invalidPort :=
  not_ends_of_invariant (fun _ isInvalid => isInvalid ▸ rfl) (fun _ isInvalid => isInvalid ▸ id)
    rfl

@[simp]
theorem ends_returned (connection : Connection) (succeeded : Bool) :
    Ends (CallState.step sql answers opens) CallState.Over (.returned connection succeeded) :=
  ends_of_final trivial

@[simp]
theorem ends_aborted : Ends (CallState.step sql answers opens) CallState.Over .aborted :=
  ends_of_final trivial

theorem step_sending (connection : Connection) (failed opened : Nat) :
    CallState.step sql answers opens (.sending connection failed opened) =
      if connection.mysqlHandle = none ∨ sql = "" then .returned connection false
      else
        match answers failed with
        | none => .returned { connection with lastErrno := 0 } true
        | some errNo => .afterRecovery failed (Connection.recover opens reconnectAttempts
            { connection with lastErrno := errNo } errNo opened) :=
  rfl

/-- What has to happen for a call to end. -/
theorem ends_sending_iff {connection : Connection} {failed opened : Nat} :
    Ends (CallState.step sql answers opens) CallState.Over
        (.sending connection failed opened) ↔
      (connection.mysqlHandle = none ∨ sql = "") ∨ answers failed = none ∨
        ∃ errNo, answers failed = some errNo ∧
          Ends (CallState.step sql answers opens) CallState.Over
            (.afterRecovery failed (Connection.recover opens reconnectAttempts
              { connection with lastErrno := errNo } errNo opened)) := by
  rw [ends_iff_step (fun isOver => isOver), step_sending]
  split_ifs with notSent
  · simp [notSent]
  · cases answer : answers failed with
    | none => simp [notSent]
    | some errNo => simp [notSent]

/-- The answers that a call with at most the given number of queries uses, each
with those to the connection attempts that may follow it. -/
def CallState.replies (sql : String) (answers : Nat → Option ErrorCode)
    (opens : Nat → OpenReply) : Nat → CallState → List Reply
  | 0, _ => []
  | queries + 1, sending connection failed opened =>
      match answers failed with
      | none => [.acknowledged]
      | some errNo =>
          .failed errNo false ((List.range' opened reconnectAttempts).map opens) ::
            replies sql answers opens queries
              (CallState.step sql answers opens (sending connection failed opened))
  | _ + 1, _ => []

theorem iterate_returned (steps : Nat) (connection : Connection) (succeeded : Bool) :
    (CallState.step sql answers opens)^[steps] (.returned connection succeeded) =
      .returned connection succeeded :=
  Function.iterate_fixed rfl steps

theorem iterate_aborted (steps : Nat) :
    (CallState.step sql answers opens)^[steps] .aborted = .aborted :=
  Function.iterate_fixed rfl steps

theorem iterate_invalidPort (steps : Nat) :
    (CallState.step sql answers opens)^[steps] .invalidPort = .invalidPort :=
  Function.iterate_fixed rfl steps

theorem execute_of_notSent {connection : Connection} {statement : Statement}
    (unready : connection.readiness statement = .notSent) (replies : List Reply) :
    connection.execute statement replies = some (connection, false) := by
  cases replies with
  | nil => simp [Connection.execute, Connection.send, Connection.sendNothing, unready,
      Sent.succeeded]
  | cons reply replies => simp [Connection.execute, Connection.send, Connection.sendNothing,
      unready, Sent.succeeded]

/-- A call that has returned has returned what `Execute` returns for the answers
it has used. -/
theorem execute_replies {queries failed opened : Nat} {connection after : Connection}
    {succeeded : Bool}
    (returned : (CallState.step sql answers opens)^[queries]
      (.sending connection failed opened) = .returned after succeeded) :
    connection.execute (.raw sql)
        (CallState.replies sql answers opens queries (.sending connection failed opened)) =
      some (after, succeeded) := by
  induction queries generalizing connection failed opened with
  | zero => cases returned
  | succ queries ih =>
      rw [Function.iterate_succ_apply, step_sending] at returned
      by_cases notSent : connection.mysqlHandle = none ∨ sql = ""
      · rw [if_pos notSent, iterate_returned] at returned
        have unready : connection.readiness (.raw sql) = .notSent := if_pos notSent
        cases returned
        exact execute_of_notSent unready _
      · have ready : connection.readiness (.raw sql) = .ready := if_neg notSent
        rw [if_neg notSent] at returned
        rw [CallState.replies, step_sending, if_neg notSent]
        cases answer : answers failed with
        | none =>
            rw [answer] at returned
            dsimp only at returned
            rw [iterate_returned] at returned
            cases returned
            simp [Connection.execute, Connection.send, ready, Sent.succeeded]
        | some errNo =>
            rw [answer] at returned
            dsimp only at returned ⊢
            have handles := handleMySQLError_eq_recover opens reconnectAttempts
              { connection with lastErrno := errNo } errNo opened
            rcases recovered : Connection.recover opens reconnectAttempts
              { connection with lastErrno := errNo } errNo opened with ⟨outcome, last⟩
            rw [recovered] at handles returned
            cases outcome with
            | aborted =>
                rw [CallState.afterRecovery, iterate_aborted] at returned
                cases returned
            | invalidPort =>
                rw [CallState.afterRecovery, iterate_invalidPort] at returned
                cases returned
            | returned next handled =>
                cases handled with
                | false =>
                    rw [CallState.afterRecovery, iterate_returned] at returned
                    cases returned
                    simp only [Connection.execute, Connection.send, ready, handles,
                      Outcome.toOption]
                    simp only [Sent.succeeded, ne_eq, not_true_eq_false, ↓reduceIte, unhandledEnd,
                      Option.map_some, Option.some.injEq, Prod.mk.injEq,
                      decide_eq_false_iff_not, true_and]
                    split_ifs <;> simp
                | true =>
                    have rest := ih returned
                    rw [Connection.execute] at rest
                    simp only [Connection.execute, Connection.send, ready, handles,
                      Outcome.toOption, CallState.afterRecovery]
                    simpa [Function.comp_def, Sent.succeeded] using rest

/-- A recovery that succeeds consists of refused attempts and a last one that
is not refused. -/
structure Reconnected (opens : Nat → OpenReply) (attempts : Nat) (before : Connection)
    (opened : Nat) (after : Connection) (last : Nat) : Prop where
  later : opened < last
  bound : last ≤ opened + attempts
  refused : ∀ attempt, opened ≤ attempt → attempt + 1 < last →
    isConnectionError (opens attempt).errorCode = true
  connected : opens (last - 1) = .connected
  hasHandle : after.mysqlHandle ≠ none
  prepared : before.prepareError = false ∧ after.prepareError = false
  samePort : after.connectionInfo.portOrSocket = before.connectionInfo.portOrSocket

theorem resolve_portOrSocket {info resolved : ConnectionInfo}
    (resolves : info.resolve = some resolved) : resolved.portOrSocket = info.portOrSocket := by
  unfold ConnectionInfo.resolve at resolves
  split_ifs at resolves
  · cases resolves
    rfl
  · obtain ⟨_, _, rfl⟩ := Option.map_eq_some_iff.mp resolves
    rfl

theorem closeIfLost_prepareError (connection : Connection) (errNo : Nat) :
    (connection.closeIfLost errNo).prepareError = connection.prepareError := by
  unfold Connection.closeIfLost
  split_ifs <;> rfl

theorem reconnected_of_recover {attempts : Nat} {connection after : Connection}
    {errNo opened last : Nat}
    (recovered : Connection.recover opens attempts connection errNo opened =
      ⟨.returned after true, last⟩) :
    isConnectionError errNo = true ∧
      Reconnected opens attempts connection opened after last := by
  induction attempts generalizing connection errNo opened with
  | zero => cases recovered
  | succ attempts ih =>
      by_cases lost : isConnectionError errNo = true
      · refine ⟨lost, ?_⟩
        cases reply : opens opened with
        | initFailed =>
            rw [recover_initFailed lost reply] at recovered
            split_ifs at recovered <;> cases recovered
        | refused code =>
            cases resolves : connection.connectionInfo.resolve with
            | none =>
                rw [recover_invalidPort lost (by simp [reply]) resolves] at recovered
                cases recovered
            | some info =>
                rw [recover_refused lost reply resolves] at recovered
                split_ifs at recovered
                · cases recovered
                · obtain ⟨again, rest⟩ := ih recovered
                  refine ⟨?_, ?_, ?_, rest.connected, rest.hasHandle, ?_, ?_⟩
                  · have later := rest.later
                    omega
                  · have bound := rest.bound
                    omega
                  · intro attempt notBefore before
                    rcases Nat.lt_or_eq_of_le notBefore with less | rfl
                    · exact rest.refused attempt less before
                    · rw [reply]
                      exact again
                  · rw [← closeIfLost_prepareError connection errNo]
                    exact rest.prepared
                  · rw [← resolve_portOrSocket resolves]
                    exact rest.samePort
        | connected =>
            cases resolves : connection.connectionInfo.resolve with
            | none =>
                rw [recover_invalidPort lost (by simp [reply]) resolves] at recovered
                cases recovered
            | some info =>
                rw [recover_connected lost reply resolves] at recovered
                split_ifs at recovered with prepared
                · cases recovered
                  have noError : connection.prepareError = false := by
                    simpa [Connection.prepareStatements, Connection.afterReconnect,
                      closeIfLost_prepareError] using prepared
                  refine ⟨by omega, by omega, ?_, by simpa using reply, ?_, ⟨noError, ?_⟩, ?_⟩
                  · intro attempt notBefore before
                    omega
                  · simp [Connection.afterReconnect]
                  · simpa [Connection.afterReconnect, closeIfLost_prepareError] using noError
                  · exact resolve_portOrSocket resolves
                · cases recovered
      · rw [recover_other opens attempts connection (by simpa using lost)] at recovered
        split_ifs at recovered <;> cases recovered

theorem exists_resolve {info : ConnectionInfo}
    (hasPort : (parsePort info.portOrSocket).isSome = true) :
    ∃ resolved, info.resolve = some resolved := by
  cases resolves : info.resolve with
  | none => exact absurd (.inl hasPort) (resolve_eq_none_iff.mp resolves)
  | some resolved => exact ⟨resolved, rfl⟩

/-- A recovery succeeds if one of its attempts is answered and those before it
are refused. -/
theorem exists_recover (tolerable : ∀ attempt,
      opens attempt = .connected ∨ isConnectionError (opens attempt).errorCode = true)
    {attempts : Nat} {connection : Connection} {errNo opened : Nat}
    (lost : isConnectionError errNo = true) (prepared : connection.prepareError = false)
    (hasPort : (parsePort connection.connectionInfo.portOrSocket).isSome = true)
    (reconnects : ∃ later, opened ≤ later ∧ later < opened + attempts ∧
      opens later = .connected) :
    ∃ after last, Connection.recover opens attempts connection errNo opened =
      ⟨.returned after true, last⟩ := by
  induction attempts generalizing connection errNo opened with
  | zero =>
      obtain ⟨later, notBefore, before, _⟩ := reconnects
      omega
  | succ attempts ih =>
      obtain ⟨info, resolves⟩ := exists_resolve hasPort
      cases reply : opens opened with
      | initFailed =>
          rcases tolerable opened with connected | again
          · rw [reply] at connected
            cases connected
          · rw [reply] at again
            cases again
      | connected =>
          have stillPrepared : (connection.afterReconnect errNo info).prepareStatements = true := by
            simp [Connection.prepareStatements, Connection.afterReconnect,
              closeIfLost_prepareError, prepared]
          refine ⟨connection.afterReconnect errNo info, opened + 1, ?_⟩
          rw [recover_connected lost reply resolves, if_pos stillPrepared]
      | refused code =>
          obtain ⟨later, notBefore, before, connected⟩ := reconnects
          have differs : later ≠ opened := by
            rintro rfl
            rw [reply] at connected
            cases connected
          have again : isConnectionError code = true := by
            rcases tolerable opened with connected | again
            · rw [reply] at connected
              cases connected
            · rw [reply] at again
              exact again
          rw [recover_refused lost reply resolves, if_neg (by omega)]
          refine ih again ?_ ?_ ⟨later, by omega, by omega, connected⟩
          · simpa [Connection.afterRefusal, closeIfLost_prepareError] using prepared
          · simpa [Connection.afterRefusal, resolve_portOrSocket resolves] using hasPort

/-- The query is about to be sent on a connection that can be restored. -/
def CallState.Resends : CallState → Prop
  | sending connection _ _ => connection.mysqlHandle ≠ none ∧ connection.prepareError = false ∧
      (parsePort connection.connectionInfo.portOrSocket).isSome = true
  | _ => False

theorem not_callEnds_of_endless {connection : Connection}
    (endless : Endless connection sql answers opens) :
    ¬ connection.callEnds sql answers opens := by
  have start : (CallState.sending connection 0 0).Resends :=
    ⟨endless.hasHandle, endless.prepared, endless.hasPort⟩
  refine not_ends_of_invariant ?_ ?_ start
  · intro state resends
    cases state with
    | sending current failed opened =>
        obtain ⟨hasHandle, prepared, hasPort⟩ := resends
        obtain ⟨errNo, answer, lost⟩ := endless.lost failed
        obtain ⟨after, last, recovered⟩ :=
          @exists_recover opens endless.tolerable reconnectAttempts
            { current with lastErrno := errNo } errNo opened lost prepared hasPort
            (endless.reconnects opened)
        obtain ⟨_, reconnected⟩ := reconnected_of_recover recovered
        rw [step_sending, if_neg (by simp [hasHandle, endless.hasText]), answer]
        simp only [recovered]
        refine ⟨reconnected.hasHandle, reconnected.prepared.2, ?_⟩
        rw [reconnected.samePort]
        exact hasPort
    | returned current succeeded => cases resends
    | aborted => cases resends
    | invalidPort => cases resends
  · intro state resends isOver
    cases state with
    | sending current failed opened => exact isOver
    | returned current succeeded => exact resends
    | aborted => exact resends
    | invalidPort => exact resends

theorem recover_ne_invalidPort {attempts : Nat} {connection : Connection} {errNo opened : Nat}
    (hasPort : (parsePort connection.connectionInfo.portOrSocket).isSome = true) :
    (Connection.recover opens attempts connection errNo opened).outcome ≠ .invalidPort := by
  induction attempts generalizing connection errNo opened with
  | zero => simp [Connection.recover]
  | succ attempts ih =>
      by_cases lost : isConnectionError errNo = true
      · obtain ⟨info, resolves⟩ := exists_resolve hasPort
        cases reply : opens opened with
        | initFailed =>
            rw [recover_initFailed lost reply]
            split_ifs <;> simp
        | connected =>
            rw [recover_connected lost reply resolves]
            split_ifs <;> simp
        | refused code =>
            rw [recover_refused lost reply resolves]
            split_ifs
            · simp
            · apply ih
              simpa [Connection.afterRefusal, resolve_portOrSocket resolves] using hasPort
      · rw [recover_other opens attempts connection (by simpa using lost)]
        split_ifs <;> simp

/-- What happens in a call that does not end, from one query to the next, if
there is a port. -/
theorem round_of_not_ends {connection : Connection} {failed opened : Nat}
    (hasPort : (parsePort connection.connectionInfo.portOrSocket).isSome = true)
    (forever : ¬ Ends (CallState.step sql answers opens) CallState.Over
      (.sending connection failed opened)) :
    connection.mysqlHandle ≠ none ∧ sql ≠ "" ∧ Lost answers failed ∧
      ∃ after last, Reconnected opens reconnectAttempts connection opened after last ∧
        ¬ Ends (CallState.step sql answers opens) CallState.Over
          (.sending after (failed + 1) last) := by
  rw [ends_sending_iff, not_or, not_or, not_or] at forever
  obtain ⟨⟨hasHandle, hasText⟩, answered, continues⟩ := forever
  cases answer : answers failed with
  | none => exact absurd answer answered
  | some errNo =>
      have unfinished : ¬ Ends (CallState.step sql answers opens) CallState.Over
          (.afterRecovery failed (Connection.recover opens reconnectAttempts
            { connection with lastErrno := errNo } errNo opened)) :=
        fun ends => continues ⟨errNo, answer, ends⟩
      have valid := @recover_ne_invalidPort opens reconnectAttempts
        { connection with lastErrno := errNo } errNo opened hasPort
      rcases recovered : Connection.recover opens reconnectAttempts
        { connection with lastErrno := errNo } errNo opened with ⟨outcome, last⟩
      rw [recovered] at unfinished valid
      cases outcome with
      | aborted => exact absurd ends_aborted unfinished
      | invalidPort => exact absurd rfl valid
      | returned after handled =>
          cases handled with
          | false => exact absurd (ends_returned after false) unfinished
          | true =>
              obtain ⟨lost, reconnected⟩ := reconnected_of_recover recovered
              refine ⟨hasHandle, hasText, ⟨errNo, answer, lost⟩, after, last, ?_, unfinished⟩
              exact ⟨reconnected.later, reconnected.bound, reconnected.refused,
                reconnected.connected, reconnected.hasHandle, reconnected.prepared,
                reconnected.samePort⟩

section Forever

variable {connection : Connection} {failed opened : Nat}

theorem lost_of_not_ends
    (hasPort : (parsePort connection.connectionInfo.portOrSocket).isSome = true)
    (forever : ¬ Ends (CallState.step sql answers opens) CallState.Over
      (.sending connection failed opened)) (later : Nat) :
    Lost answers (failed + later) := by
  induction later generalizing connection failed opened with
  | zero =>
      obtain ⟨_, _, lost, _⟩ := round_of_not_ends hasPort forever
      exact lost
  | succ later ih =>
      obtain ⟨_, _, _, after, last, reconnected, continues⟩ := round_of_not_ends hasPort forever
      have next := ih (by rw [reconnected.samePort]; exact hasPort) continues
      rwa [Nat.add_assoc, Nat.add_comm 1 later] at next

/-- Every connection attempt belongs to a recovery that succeeds. -/
theorem open_of_not_ends
    (hasPort : (parsePort connection.connectionInfo.portOrSocket).isSome = true)
    (forever : ¬ Ends (CallState.step sql answers opens) CallState.Over
      (.sending connection failed opened)) {attempt : Nat} (notBefore : opened ≤ attempt) :
    (opens attempt = .connected ∨ isConnectionError (opens attempt).errorCode = true) ∧
      ∃ later, attempt ≤ later ∧ later < attempt + reconnectAttempts ∧
        opens later = .connected := by
  -- The rounds move on, so the distance to the attempt falls.
  induction distance : attempt - opened using Nat.strongRecOn
    generalizing connection failed opened with
  | ind distance ih =>
      obtain ⟨_, _, _, after, last, reconnected, continues⟩ := round_of_not_ends hasPort forever
      have moves := reconnected.later
      by_cases inside : attempt < last
      · have bound := reconnected.bound
        refine ⟨?_, last - 1, by omega, by omega, reconnected.connected⟩
        by_cases isLast : attempt = last - 1
        · rw [isLast]
          exact .inl reconnected.connected
        · exact .inr (reconnected.refused attempt notBefore (by omega))
      · have stillPort : (parsePort after.connectionInfo.portOrSocket).isSome = true := by
          rw [reconnected.samePort]
          exact hasPort
        exact ih (attempt - last) (by omega) stillPort continues (by omega) rfl

end Forever

theorem endless_of_not_callEnds {connection : Connection}
    (hasPort : (parsePort connection.connectionInfo.portOrSocket).isSome = true)
    (forever : ¬ connection.callEnds sql answers opens) :
    Endless connection sql answers opens := by
  obtain ⟨hasHandle, hasText, _, _, _, reconnected, _⟩ := round_of_not_ends hasPort forever
  refine ⟨hasHandle, hasText, reconnected.prepared.1, hasPort, ?_, ?_, ?_⟩
  · intro attempt
    simpa using lost_of_not_ends hasPort forever attempt
  · intro attempt
    exact (open_of_not_ends hasPort forever (Nat.zero_le attempt)).1
  · intro attempt
    exact (open_of_not_ends hasPort forever (Nat.zero_le attempt)).2

section NoPort

variable {connection : Connection} {errNo failed opened : Nat}

theorem ends_afterRecovery_other (attempts : Nat) (other : isConnectionError errNo = false) :
    Ends (CallState.step sql answers opens) CallState.Over
      (.afterRecovery failed
        (Connection.recover opens (attempts + 1) connection errNo opened)) := by
  rw [recover_other opens attempts connection other]
  split_ifs
  · exact ends_aborted
  · exact ends_returned connection false

theorem ends_afterRecovery_initFailed (attempts : Nat) (lost : isConnectionError errNo = true)
    (reply : opens opened = .initFailed) :
    Ends (CallState.step sql answers opens) CallState.Over
      (.afterRecovery failed
        (Connection.recover opens (attempts + 1) connection errNo opened)) := by
  rw [recover_initFailed lost reply]
  split_ifs
  · exact ends_aborted
  · exact ends_returned _ false

/-- A recovery that would read a missing port comes to an end only if nothing
can be opened at all. -/
theorem ends_afterRecovery_unresolved (attempts : Nat) (lost : isConnectionError errNo = true)
    (unresolved : connection.connectionInfo.resolve = none) :
    Ends (CallState.step sql answers opens) CallState.Over
        (.afterRecovery failed
          (Connection.recover opens (attempts + 1) connection errNo opened)) ↔
      opens opened = .initFailed := by
  by_cases reply : opens opened = .initFailed
  · simp [ends_afterRecovery_initFailed attempts lost reply, reply]
  · rw [recover_invalidPort lost reply unresolved]
    simp [CallState.afterRecovery, reply]

theorem ends_sending_unresolved (unresolved : connection.connectionInfo.resolve = none) :
    Ends (CallState.step sql answers opens) CallState.Over (.sending connection failed opened) ↔
      ¬ (connection.mysqlHandle ≠ none ∧ sql ≠ "" ∧ Lost answers failed ∧
        opens opened ≠ .initFailed) := by
  rw [ends_sending_iff]
  cases answer : answers failed with
  | none => simp [Lost, answer]
  | some errNo =>
      by_cases lost : isConnectionError errNo = true
      · have reads := @ends_afterRecovery_unresolved sql answers opens
          { connection with lastErrno := errNo } errNo failed opened 4 lost unresolved
        have isLost : Lost answers failed := ⟨errNo, answer, lost⟩
        rw [reconnectAttempts]
        simp only [reduceCtorEq, Option.some.injEq, ne_eq, exists_eq_left', reads, false_or,
          isLost, true_and, not_and, not_not]
        tauto
      · have ends := @ends_afterRecovery_other sql answers opens
          { connection with lastErrno := errNo } errNo failed opened 4 (by simpa using lost)
        simp [Lost, answer, lost, reconnectAttempts, ends]

/-- The name of a socket is good for one attempt. -/
theorem ends_afterRecovery_socket {info : ConnectionInfo} (hasText : sql ≠ "")
    (lost : isConnectionError errNo = true)
    (resolves : connection.connectionInfo.resolve = some info) (noPort : info.resolve = none) :
    Ends (CallState.step sql answers opens) CallState.Over
        (.afterRecovery failed
          (Connection.recover opens reconnectAttempts connection errNo opened)) ↔
      opens (opened + 1) = .initFailed ∨
        ¬ (isConnectionError (opens opened).errorCode = true ∨
          opens opened = .connected ∧ connection.prepareError = false ∧
            Lost answers (failed + 1)) := by
  cases reply : opens opened with
  | initFailed =>
      have ends := @ends_afterRecovery_initFailed sql answers opens connection errNo failed opened 4
        lost reply
      have notLost : isConnectionError OpenReply.initFailed.errorCode = false := by decide
      simp [reconnectAttempts, ends, notLost]
  | refused code =>
      rw [reconnectAttempts, recover_refused lost reply resolves, if_neg (by omega)]
      by_cases again : isConnectionError code = true
      · rw [ends_afterRecovery_unresolved 3 again (by simpa [Connection.afterRefusal] using noPort)]
        simp [OpenReply.errorCode, again]
      · simp [ends_afterRecovery_other 3 (by simpa using again), OpenReply.errorCode, again]
  | connected =>
      have notLost : isConnectionError OpenReply.connected.errorCode = false := by decide
      rw [reconnectAttempts, recover_connected lost reply resolves]
      have prepares : (connection.afterReconnect errNo info).prepareStatements =
          !connection.prepareError := by
        simp [Connection.prepareStatements, Connection.afterReconnect, closeIfLost_prepareError]
      rw [prepares]
      cases connection.prepareError with
      | true => simp [CallState.afterRecovery, notLost]
      | false =>
          have sendsAgain := @ends_sending_unresolved sql answers opens
            (connection.afterReconnect errNo info) (failed + 1) (opened + 1) noPort
          have hasHandle : (connection.afterReconnect errNo info).mysqlHandle ≠ none := by
            simp [Connection.afterReconnect]
          simp only [Bool.not_false, if_true, CallState.afterRecovery, sendsAgain, notLost]
          simp only [ne_eq, hasHandle, not_false_eq_true, hasText, true_and, not_and, not_not,
            Bool.false_eq_true, false_or]
          tauto

theorem callEnds_iff_of_no_port (noPort : parsePort connection.connectionInfo.portOrSocket = none) :
    connection.callEnds sql answers opens ↔ ¬ ReadsNoPort connection sql answers opens := by
  unfold ReadsNoPort
  by_cases socket : connection.connectionInfo.host = "."
  · have resolves : connection.connectionInfo.resolve =
        some { connection.connectionInfo with host := "localhost" } := if_pos socket
    have unresolved :
        ({ connection.connectionInfo with host := "localhost" } : ConnectionInfo).resolve =
          none := by
      simp [ConnectionInfo.resolve, noPort]
    rw [if_pos socket, Connection.callEnds, ends_sending_iff]
    by_cases notSent : connection.mysqlHandle = none ∨ sql = ""
    · simp only [notSent, true_or, true_iff]
      tauto
    · rw [not_or] at notSent
      cases answer : answers 0 with
      | none => simp [Lost, answer]
      | some errNo =>
          by_cases lost : isConnectionError errNo = true
          · have isLost : Lost answers 0 := ⟨errNo, answer, lost⟩
            have reads := @ends_afterRecovery_socket sql answers opens
              { connection with lastErrno := errNo } errNo 0 0 _ notSent.2 lost resolves
              unresolved
            simp [notSent, noPort, isLost, reads, or_iff_not_imp_left]
          · have ends := @ends_afterRecovery_other sql answers opens
              { connection with lastErrno := errNo } errNo 0 0 4 (by simpa using lost)
            simp [Lost, answer, lost, reconnectAttempts, ends]
  · have unresolved : connection.connectionInfo.resolve = none := by
      simp [ConnectionInfo.resolve, socket, noPort]
    rw [if_neg socket, Connection.callEnds, ends_sending_unresolved unresolved]
    simp [noPort]

end NoPort

/-- For all answers to the queries and to the connection attempts: a call of
`Execute` or `Query` returns or aborts the process, unless every query loses the
connection and every recovery succeeds, or a port is read that is not there. -/
theorem callEnds_iff (connection : Connection) (sql : String)
    (answers : Nat → Option ErrorCode) (opens : Nat → OpenReply) :
    connection.callEnds sql answers opens ↔
      ¬ Endless connection sql answers opens ∧ ¬ ReadsNoPort connection sql answers opens := by
  by_cases hasPort : (parsePort connection.connectionInfo.portOrSocket).isSome = true
  · have readsPort : ¬ ReadsNoPort connection sql answers opens := by
      rintro ⟨_, _, noPort, _⟩
      rw [noPort] at hasPort
      cases hasPort
    constructor
    · intro ends
      exact ⟨fun endless => not_callEnds_of_endless endless ends, readsPort⟩
    · rintro ⟨notEndless, _⟩
      by_contra forever
      exact notEndless (endless_of_not_callEnds hasPort forever)
  · have noPort : parsePort connection.connectionInfo.portOrSocket = none := by
      simpa using hasPort
    rw [callEnds_iff_of_no_port noPort]
    constructor
    · intro reads
      exact ⟨fun endless => hasPort endless.hasPort, reads⟩
    · exact And.right

/-- A query that drops the connection each time, on a server that can be reached
again each time, is sent forever. -/
theorem call_never_ends :
    ¬ openConnection.callEnds "SELECT 1" (fun _ => some ⟨2006, by decide⟩)
      (fun _ => .connected) := by
  apply not_callEnds_of_endless
  refine ⟨by decide, by decide, by decide, by decide, ?_, fun _ => .inl rfl, ?_⟩
  · intro attempt
    exact ⟨⟨2006, by decide⟩, rfl, by decide⟩
  · intro attempt
    exact ⟨attempt, Nat.le_refl attempt, by simp [reconnectAttempts], rfl⟩

end MySQL

end WarheadBot
