import WarheadBot.MySQLTransaction

/-!
# When a transaction is atomic

`ExecuteTransaction` ignores the results of `START TRANSACTION`, `COMMIT` and
`ROLLBACK`, and after a reconnect `Execute` sends the query again in a session
without a transaction.  This file states on the answers of the server when the
returned code is right nevertheless, and proves that this is exactly when it
is.
-/

namespace WarheadBot

namespace MySQL

/-- A zero code means that all queries were committed together, any other code
that none of them is applied or waits in an open transaction. -/
def Atomic (queries : List Statement) (code : Int) (session : Session) : Prop :=
  (code = 0 → session.committed = [queries]) ∧
    (code ≠ 0 → session.committed = [] ∧ session.pending.getD [] = [])

/-- The error code that `ExecuteTransaction` returns if this query ends it. -/
def Sent.errorCode (sent : Sent) (libraryErrno : Nat) : Nat :=
  if sent.succeeded then 0 else sent.connection.getLastError libraryErrno

def Final.performed : Final → Bool
  | .acknowledged => true
  | .disconnected performed => performed
  | _ => false

def carriedOut (lost : List Bool) (final : Final) : Nat :=
  lost.count true + if final.performed then 1 else 0

def Sent.carriedOutFirst (sent : Sent) : Bool :=
  match sent.lost with
  | performed :: _ => performed
  | [] => sent.final.performed

/-- The request ends the open transaction, unless it is refused. -/
def Sent.endsTransaction (sent : Sent) : Bool :=
  match sent.lost, sent.final with
  | _ :: _, _ => true
  | [], .notSent => false
  | [], .acknowledged => true
  | [], .refused errNo => errNo = lockDeadlock
  | [], .disconnected _ => true

/-- A query sent outside a transaction: it is carried out once and is the only
query, or it is never carried out and an error is returned. -/
def OutsideAtomic (libraryErrno : Nat) (sent : Sent) (outside : List Bool) (alone : Prop) :
    Prop :=
  (sent.errorCode libraryErrno = 0 → alone ∧ carriedOut outside sent.final = 1) ∧
    (sent.errorCode libraryErrno ≠ 0 → carriedOut outside sent.final = 0)

/-- The queries sent inside a transaction that has the earlier ones. -/
def InsideAtomic (libraryErrno : Nat) : List Statement → Connection → List Statement →
    List Reply → Prop
  | _, connection, [], replies =>
      ∀ sent ∈ connection.send Request.commit.statement replies, sent.carriedOutFirst = true
  | earlier, connection, element :: elements, replies =>
      ∀ sent ∈ connection.send element replies,
        match sent.lost, sent.final with
        -- The transaction is lost, and the query is sent again outside of it.
        | _ :: outside, _ =>
            OutsideAtomic libraryErrno sent outside (earlier = [] ∧ elements = [])
        | [], .acknowledged =>
            InsideAtomic libraryErrno (earlier ++ [element]) sent.connection elements sent.replies
        | [], .disconnected _ => sent.errorCode libraryErrno ≠ 0
        -- The earlier queries have to be undone.
        | [], final => sent.errorCode libraryErrno ≠ 0 ∧
            (earlier = [] ∨ final = .refused lockDeadlock ∨
              ∀ undone ∈ sent.connection.send Request.rollback.statement sent.replies,
                undone.endsTransaction = true)

/-- The answers to a transaction, by whether its start has opened one. -/
def TransactionAtomic (libraryErrno : Nat) (connection : Connection) (session : Session)
    (queries : List Statement) (replies : List Reply) : Prop :=
  ∀ begun ∈ connection.send Request.startTransaction.statement replies,
    if (session.afterSent .startTransaction begun).pending.isSome then
      InsideAtomic libraryErrno [] begun.connection queries begun.replies
    else
      ∀ element ∈ queries.head?, ∀ sent ∈ begun.connection.send element begun.replies,
        OutsideAtomic libraryErrno sent sent.lost (queries.tail = [])

section Sessions

variable {committed : List (List Statement)} {element : Statement} {earlier : List Statement}

theorem afterSent_of_not_lost {session : Session} {request : Request} {sent : Sent}
    (lost : sent.lost = []) :
    session.afterSent request sent = session.afterFinal request sent.final := by
  rw [Session.afterSent, lost, List.foldl_nil]

theorem foldl_lose_outside (committed : List (List Statement)) (element : Statement)
    (lost : List Bool) :
    lost.foldl (fun session performed => session.lose (.query element) performed)
        (⟨committed, none⟩ : Session) =
      ⟨committed ++ List.replicate (lost.count true) [element], none⟩ := by
  induction lost generalizing committed with
  | nil => simp
  | cons performed lost ih =>
      cases performed with
      | false =>
          have first : (⟨committed, none⟩ : Session).lose (.query element) false =
              ⟨committed, none⟩ := rfl
          rw [List.foldl_cons, first, ih]
          simp
      | true =>
          have first : (⟨committed, none⟩ : Session).lose (.query element) true =
              ⟨committed ++ [[element]], none⟩ := rfl
          rw [List.foldl_cons, first, ih, List.count_cons_self, Nat.add_comm,
            List.replicate_add]
          simp

theorem afterFinal_outside (committed : List (List Statement)) (element : Statement)
    (final : Final) :
    (⟨committed, none⟩ : Session).afterFinal (.query element) final =
      ⟨committed ++ List.replicate (if final.performed then 1 else 0) [element], none⟩ := by
  cases final with
  | notSent => simp [Session.afterFinal, Final.performed]
  | acknowledged => simp [Session.afterFinal, Session.perform, Final.performed]
  | refused errNo => simp [Session.afterFinal, Session.undo, Final.performed]
  | disconnected performed =>
      cases performed <;>
        simp [Session.afterFinal, Session.lose, Session.undo, Session.perform, Final.performed]

theorem afterSent_outside (committed : List (List Statement)) (element : Statement)
    (sent : Sent) :
    (⟨committed, none⟩ : Session).afterSent (.query element) sent =
      ⟨committed ++ List.replicate (carriedOut sent.lost sent.final) [element], none⟩ := by
  rw [Session.afterSent, foldl_lose_outside, afterFinal_outside, List.append_assoc,
    List.replicate_append_replicate]
  rfl

theorem lose_inside (committed : List (List Statement)) (earlier : List Statement)
    (element : Statement) (performed : Bool) :
    (⟨committed, some earlier⟩ : Session).lose (.query element) performed =
      ⟨committed, none⟩ := by
  cases performed <;> rfl

theorem afterSent_lost {sent : Sent} {performed : Bool} {outside : List Bool}
    (lost : sent.lost = performed :: outside) :
    (⟨committed, some earlier⟩ : Session).afterSent (.query element) sent =
      ⟨committed ++ List.replicate (carriedOut outside sent.final) [element], none⟩ := by
  have rest := afterSent_outside committed element { sent with lost := outside }
  rw [Session.afterSent, lost, List.foldl_cons, lose_inside]
  exact rest

theorem afterSent_idle {request : Request} (ends : request = .commit ∨ request = .rollback)
    (committed : List (List Statement)) (sent : Sent) :
    (⟨committed, none⟩ : Session).afterSent request sent = ⟨committed, none⟩ := by
  have performs : (⟨committed, none⟩ : Session).perform request = ⟨committed, none⟩ := by
    rcases ends with rfl | rfl <;> rfl
  have loses : ∀ performed, (⟨committed, none⟩ : Session).lose request performed =
      ⟨committed, none⟩ := by
    intro performed
    unfold Session.lose
    rw [performs]
    cases performed <;> rfl
  have folds : sent.lost.foldl (fun session performed => session.lose request performed)
      (⟨committed, none⟩ : Session) = ⟨committed, none⟩ := by
    induction sent.lost with
    | nil => rfl
    | cons performed lost ih => rw [List.foldl_cons, loses, ih]
  rw [Session.afterSent, folds]
  cases sent.final with
  | notSent => rfl
  | acknowledged => exact performs
  | refused errNo =>
      rw [Session.afterFinal]
      split_ifs <;> rfl
  | disconnected performed => exact loses performed

/-- `COMMIT` counts if its first attempt is carried out. -/
theorem afterSent_commit (nonempty : earlier ≠ []) (sent : Sent) :
    ((⟨[], some earlier⟩ : Session).afterSent .commit sent).committed =
      if sent.carriedOutFirst then [earlier] else [] := by
  cases earlier with
  | nil => exact absurd rfl nonempty
  | cons first rest =>
      have performs : (⟨[], some (first :: rest)⟩ : Session).perform .commit =
          ⟨[first :: rest], none⟩ := rfl
      have loses : ∀ performed, (⟨[], some (first :: rest)⟩ : Session).lose .commit performed =
          ⟨if performed then [first :: rest] else [], none⟩ := by
        intro performed
        cases performed <;> rfl
      cases lost : sent.lost with
      | cons performed outside =>
          have later := afterSent_idle (.inl rfl) (if performed then [first :: rest] else [])
            { sent with lost := outside }
          rw [Session.afterSent, lost, List.foldl_cons, loses, Sent.carriedOutFirst, lost]
          exact congrArg Session.committed later
      | nil =>
          rw [afterSent_of_not_lost lost, Sent.carriedOutFirst, lost]
          cases sent.final with
          | notSent => rfl
          | acknowledged => rfl
          | refused errNo =>
              rw [Session.afterFinal]
              by_cases deadlock : errNo = lockDeadlock
              · simp [deadlock, Session.undo, Final.performed]
              · simp [deadlock, Final.performed]
          | disconnected performed =>
              rw [Session.afterFinal, loses]
              rfl

/-- `ROLLBACK` undoes the transaction unless it is refused. -/
theorem afterSent_rollback (committed : List (List Statement)) (earlier : List Statement)
    (sent : Sent) :
    (⟨committed, some earlier⟩ : Session).afterSent .rollback sent =
      ⟨committed, if sent.endsTransaction then none else some earlier⟩ := by
  have loses : ∀ performed, (⟨committed, some earlier⟩ : Session).lose .rollback performed =
      ⟨committed, none⟩ := by
    intro performed
    cases performed <;> rfl
  cases lost : sent.lost with
  | cons performed outside =>
      have later := afterSent_idle (.inr rfl) committed { sent with lost := outside }
      rw [Session.afterSent, lost, List.foldl_cons, loses, Sent.endsTransaction, lost]
      exact later
  | nil =>
      rw [afterSent_of_not_lost lost, Sent.endsTransaction, lost]
      cases sent.final with
      | notSent => rfl
      | acknowledged => rfl
      | refused errNo =>
          rw [Session.afterFinal]
          by_cases deadlock : errNo = lockDeadlock
          · simp [deadlock, Session.undo]
          · simp [deadlock]
      | disconnected performed =>
          rw [Session.afterFinal, loses]
          rfl

end Sessions

section Outside

variable {libraryErrno code : Nat} {session : Session} {elements : List Statement}

theorem executeQueries_outside {connection : Connection} {committed : List (List Statement)}
    {replies : List Reply}
    (returned : executeQueries libraryErrno connection ⟨committed, none⟩ elements replies =
      some (code, session)) :
    ∃ more, session.committed = committed ++ more := by
  induction elements generalizing connection committed replies with
  | nil =>
      obtain ⟨sent, _, equal⟩ := Option.map_eq_some_iff.mp returned
      rw [afterSent_idle (.inl rfl)] at equal
      cases equal
      exact ⟨[], by simp⟩
  | cons element elements ih =>
      rw [executeQueries] at returned
      split_ifs at returned
      obtain ⟨sent, _, rest⟩ := Option.bind_eq_some_iff.mp returned
      rw [afterSent_outside] at rest
      split_ifs at rest
      · obtain ⟨more, equal⟩ := ih rest
        exact ⟨_, by rw [equal, List.append_assoc]⟩
      · obtain ⟨undone, _, equal⟩ := Option.map_eq_some_iff.mp rest
        rw [afterSent_idle (.inr rfl)] at equal
        cases equal
        exact ⟨_, rfl⟩

theorem replicate_eq_single {earlier : List Statement} {element : Statement} {times : Nat} :
    List.replicate times [element] = [earlier ++ element :: elements] ↔
      (earlier = [] ∧ elements = []) ∧ times = 1 := by
  constructor
  · intro equal
    have one : times = 1 := by
      simpa using congrArg List.length equal
    subst one
    rw [List.replicate_one, List.singleton_inj] at equal
    have total : 1 = earlier.length + (elements.length + 1) := by
      simpa using congrArg List.length equal
    exact ⟨⟨List.eq_nil_of_length_eq_zero (by omega),
      List.eq_nil_of_length_eq_zero (by omega)⟩, rfl⟩
  · rintro ⟨⟨rfl, rfl⟩, rfl⟩
    rfl

/-- What follows a query that was sent outside a transaction. -/
theorem atomic_outside {earlier : List Statement} {element : Statement} {sent : Sent}
    {outside : List Bool}
    (returned : (if sent.succeeded then
        executeQueries libraryErrno sent.connection
          ⟨List.replicate (carriedOut outside sent.final) [element], none⟩ elements sent.replies
      else
        (sent.connection.send Request.rollback.statement sent.replies).map fun undone =>
          (sent.connection.getLastError libraryErrno,
            (⟨List.replicate (carriedOut outside sent.final) [element], none⟩ :
              Session).afterSent .rollback undone)) = some (code, session)) :
    Atomic (earlier ++ element :: elements) code session ↔
      OutsideAtomic libraryErrno sent outside (earlier = [] ∧ elements = []) := by
  cases success : sent.succeeded with
  | false =>
      rw [success, if_neg (by simp)] at returned
      obtain ⟨undone, _, equal⟩ := Option.map_eq_some_iff.mp returned
      rw [afterSent_idle (.inr rfl)] at equal
      cases equal
      have same : sent.errorCode libraryErrno = sent.connection.getLastError libraryErrno := by
        simp [Sent.errorCode, success]
      simp only [Atomic, OutsideAtomic, same, replicate_eq_single, Int.natCast_eq_zero, ne_eq,
        Option.getD_none, and_true, List.replicate_eq_nil_iff]
  | true =>
      rw [success, if_pos rfl] at returned
      have code0 : sent.errorCode libraryErrno = 0 := by
        simp [Sent.errorCode, success]
      have carried : carriedOut outside sent.final = outside.count true + 1 := by
        rw [Sent.succeeded, decide_eq_true_eq] at success
        simp [carriedOut, success, Final.performed]
      cases elements with
      | nil =>
          obtain ⟨committed, _, equal⟩ := Option.map_eq_some_iff.mp returned
          rw [afterSent_idle (.inl rfl)] at equal
          cases equal
          simp only [Atomic, OutsideAtomic, code0, replicate_eq_single, Int.natCast_eq_zero, ne_eq,
            not_true_eq_false, false_imp_iff, true_imp_iff, and_true]
      | cons next elements =>
          -- The query is committed alone, whatever happens to the others.
          obtain ⟨more, equal⟩ := executeQueries_outside returned
          rw [carried, List.replicate_succ, List.cons_append] at equal
          refine iff_of_false ?_ ?_
          · rintro ⟨zero, nonzero⟩
            by_cases ended : (code : Int) = 0
            · have whole := zero ended
              rw [equal, List.cons.injEq] at whole
              have lengths := congrArg List.length whole.1
              simp at lengths
              omega
            · have nothing := (nonzero ended).1
              rw [equal] at nothing
              cases nothing
          · rintro ⟨zero, _⟩
            cases (zero code0).1.2

end Outside

section Inside

variable {libraryErrno code : Nat} {session : Session}

theorem atomic_refused {earlier elements : List Statement} {element : Statement} {sent : Sent}
    {pending : Option (List Statement)} (failed : sent.succeeded = false)
    (returned : (sent.connection.send Request.rollback.statement sent.replies).map (fun undone =>
        (sent.connection.getLastError libraryErrno,
          (⟨[], pending⟩ : Session).afterSent .rollback undone)) = some (code, session))
    (left : pending = none ∨ pending = some earlier) :
    Atomic (earlier ++ element :: elements) code session ↔
      sent.errorCode libraryErrno ≠ 0 ∧ (earlier = [] ∨ pending = none ∨
        ∀ undone ∈ sent.connection.send Request.rollback.statement sent.replies,
          undone.endsTransaction = true) := by
  obtain ⟨undone, found, equal⟩ := Option.map_eq_some_iff.mp returned
  have same : sent.errorCode libraryErrno = sent.connection.getLastError libraryErrno := by
    simp [Sent.errorCode, failed]
  have nothing : session.committed = [] ∧ (session.pending.getD [] = [] ↔
      earlier = [] ∨ pending = none ∨ undone.endsTransaction = true) := by
    rcases left with rfl | rfl
    · rw [afterSent_idle (.inr rfl)] at equal
      cases equal
      simp
    · rw [afterSent_rollback] at equal
      cases equal
      cases undone.endsTransaction <;> simp
  rw [Prod.mk.injEq] at equal
  simp only [Atomic, nothing.1, nothing.2, same, ← equal.1, found, Int.natCast_eq_zero]
  by_cases zero : sent.connection.getLastError libraryErrno = 0
  · simp [zero]
  · simp [zero]

theorem atomic_inside {elements : List Statement} (earlier : List Statement)
    (nonempty : earlier ++ elements ≠ []) {connection : Connection} {replies : List Reply}
    (returned : executeQueries libraryErrno connection ⟨[], some earlier⟩ elements replies =
      some (code, session)) :
    Atomic (earlier ++ elements) code session ↔
      InsideAtomic libraryErrno earlier connection elements replies := by
  induction elements generalizing connection replies earlier with
  | nil =>
      rw [List.append_nil] at nonempty ⊢
      obtain ⟨sent, found, equal⟩ := Option.map_eq_some_iff.mp returned
      rw [Prod.mk.injEq] at equal
      have committed := afterSent_commit nonempty sent
      rw [equal.2] at committed
      simp only [Atomic, InsideAtomic, found, ← equal.1, committed]
      cases first : sent.carriedOutFirst <;> simp [first]
  | cons element elements ih =>
      rw [executeQueries] at returned
      split_ifs at returned
      obtain ⟨sent, found, rest⟩ := Option.bind_eq_some_iff.mp returned
      rw [InsideAtomic]
      simp only [found, Option.mem_some_iff, forall_eq']
      cases lost : sent.lost with
      | cons performed outside =>
          rw [afterSent_lost lost, List.nil_append] at rest
          exact atomic_outside rest
      | nil =>
          rw [afterSent_of_not_lost lost] at rest
          cases final : sent.final with
          | acknowledged =>
              have success : sent.succeeded = true := by
                simp [Sent.succeeded, final]
              have executed : (⟨[], some earlier⟩ : Session).afterFinal (.query element)
                  .acknowledged = ⟨[], some (earlier ++ [element])⟩ := rfl
              rw [success, if_pos rfl, final, executed] at rest
              have regrouped : earlier ++ element :: elements =
                  (earlier ++ [element]) ++ elements := by
                simp
              rw [regrouped]
              exact ih (earlier ++ [element]) (by simp) rest
          | disconnected performed =>
              have failed : sent.succeeded = false := by
                simp [Sent.succeeded, final]
              have executed : (⟨[], some earlier⟩ : Session).afterFinal (.query element)
                  (.disconnected performed) = ⟨[], none⟩ :=
                lose_inside [] earlier element performed
              rw [failed, if_neg (by simp), final, executed] at rest
              rw [atomic_refused failed rest (.inl rfl)]
              simp
          | notSent =>
              have failed : sent.succeeded = false := by
                simp [Sent.succeeded, final]
              have executed : (⟨[], some earlier⟩ : Session).afterFinal (.query element)
                  .notSent = ⟨[], some earlier⟩ := rfl
              rw [failed, if_neg (by simp), final, executed] at rest
              rw [atomic_refused failed rest (.inr rfl)]
              simp
          | refused errNo =>
              have failed : sent.succeeded = false := by
                simp [Sent.succeeded, final]
              rw [failed, if_neg (by simp), final, Session.afterFinal] at rest
              by_cases deadlock : errNo = lockDeadlock
              · rw [if_pos deadlock] at rest
                rw [atomic_refused failed rest (.inl rfl)]
                simp [deadlock]
              · rw [if_neg deadlock] at rest
                rw [atomic_refused failed rest (.inr rfl)]
                simp [deadlock]

end Inside

section Start

variable {session : Session}

/-- Nothing is committed, and no query waits in an open transaction. -/
def Session.Untouched (session : Session) : Prop :=
  session = ⟨[], none⟩ ∨ session = ⟨[], some []⟩

theorem untouched_of_idle (clean : session.committed = [])
    (idle : session.pending.getD [] = []) : session.Untouched := by
  obtain ⟨committed, pending⟩ := session
  cases pending with
  | none => exact .inl (by rw [← clean])
  | some elements => exact .inr (by rw [← clean, ← idle]; rfl)

theorem undo_untouched (untouched : session.Untouched) : session.undo = ⟨[], none⟩ := by
  rcases untouched with rfl | rfl <;> rfl

theorem perform_startTransaction (untouched : session.Untouched) :
    session.perform .startTransaction = ⟨[], some []⟩ := by
  rcases untouched with rfl | rfl <;> rfl

theorem lose_startTransaction (untouched : session.Untouched) (performed : Bool) :
    session.lose .startTransaction performed = ⟨[], none⟩ := by
  cases performed with
  | false => exact undo_untouched untouched
  | true =>
      rw [Session.lose, if_pos rfl, perform_startTransaction untouched]
      rfl

theorem foldl_lose_startTransaction (untouched : session.Untouched) (lost : List Bool) :
    (lost.foldl (fun session performed => session.lose .startTransaction performed)
      session).Untouched := by
  induction lost generalizing session with
  | nil => exact untouched
  | cons performed lost ih =>
      rw [List.foldl_cons]
      exact ih (.inl (lose_startTransaction untouched performed))

/-- The start of a transaction leaves a session with or without an open
transaction, and nothing committed. -/
theorem afterSent_startTransaction (untouched : session.Untouched) (sent : Sent) :
    (session.afterSent .startTransaction sent).Untouched := by
  have before := foldl_lose_startTransaction untouched sent.lost
  rw [Session.afterSent]
  cases sent.final with
  | notSent => exact before
  | acknowledged => exact .inr (perform_startTransaction before)
  | refused errNo =>
      rw [Session.afterFinal]
      split_ifs
      · exact .inl (undo_untouched before)
      · exact before
  | disconnected performed => exact .inl (lose_startTransaction before performed)

end Start

/-- A call of `ExecuteTransaction` that returns has done what its code says if
and only if the server has answered as `TransactionAtomic` states. -/
theorem executeTransaction_atomic_iff (libraryErrno : Nat) (connection : Connection)
    {session last : Session} (queries : List Statement) (replies : List Reply) {code : Int}
    (nonempty : queries ≠ []) (clean : session.committed = [])
    (idle : session.pending.getD [] = [])
    (returned : executeTransaction libraryErrno connection session queries replies =
      some (code, last)) :
    Atomic queries code last ↔
      TransactionAtomic libraryErrno connection session queries replies := by
  cases queries with
  | nil => exact absurd rfl nonempty
  | cons element elements =>
      rw [executeTransaction, List.isEmpty_cons, if_neg (by simp)] at returned
      obtain ⟨begun, found, rest⟩ := Option.bind_eq_some_iff.mp returned
      obtain ⟨⟨errorCode, final⟩, executed, equal⟩ := Option.map_eq_some_iff.mp rest
      cases equal
      simp only [TransactionAtomic, found, Option.mem_some_iff, forall_eq', List.head?_cons,
        List.tail_cons]
      rcases afterSent_startTransaction (untouched_of_idle clean idle) begun with outside | inside
      · rw [outside] at executed ⊢
        rw [executeQueries] at executed
        split_ifs at executed
        obtain ⟨sent, sentFound, ended⟩ := Option.bind_eq_some_iff.mp executed
        rw [afterSent_outside, List.nil_append] at ended
        have alone : Atomic ([] ++ element :: elements) errorCode final ↔
            OutsideAtomic libraryErrno sent sent.lost (([] : List Statement) = [] ∧
              elements = []) := atomic_outside ended
        simpa [sentFound] using alone
      · rw [inside] at executed ⊢
        exact atomic_inside [] (by simp) executed

def exampleConnection : Connection where
  mysqlHandle := some 0
  connectionInfo := ⟨"127.0.0.1", "3306"⟩
  connectionFlags := .async
  stmtList := []
  prepareError := false
  lastErrno := 0
  nextHandle := 1

def transfer : List Statement :=
  [.raw "UPDATE account SET gold = gold - 1 WHERE id = 1",
    .raw "UPDATE account SET gold = gold + 1 WHERE id = 2"]

/-- The server acknowledges everything. -/
theorem executeTransaction_acknowledged :
    ∃ last, executeTransaction 0 exampleConnection ⟨[], none⟩ transfer
        [.acknowledged, .acknowledged, .acknowledged, .acknowledged] = some (0, last) ∧
      Atomic transfer 0 last := by
  refine ⟨_, rfl, (executeTransaction_atomic_iff 0 exampleConnection transfer
    [.acknowledged, .acknowledged, .acknowledged, .acknowledged] (by decide) rfl rfl rfl).mpr ?_⟩
  intro begun started
  cases started
  intro first sentFirst
  cases sentFirst
  intro second sentSecond
  cases sentSecond
  intro committed sentCommit
  cases sentCommit
  rfl

/-- The connection is lost at the second query and opened again. -/
theorem executeTransaction_after_reconnect :
    ∃ last, executeTransaction 0 exampleConnection ⟨[], none⟩ transfer
        [.acknowledged, .acknowledged, .failed ⟨2013, by decide⟩ false [.connected],
          .acknowledged, .acknowledged] = some (0, last) ∧
      ¬ Atomic transfer 0 last := by
  refine ⟨_, rfl, ?_⟩
  rintro ⟨together, _⟩
  exact absurd (together rfl) (by decide)

end MySQL

end WarheadBot
