import WarheadBot.PreparedStatementSubmission

/-!
# Which submissions bind unset parameters

The statements that a submission can bind are found by two arguments.  No run
binds a statement that the submission does not contain, that a check has held
back or that stands behind an assertion that fails; and a connection on which
every statement is prepared and every request is acknowledged binds all the
others.
-/

namespace WarheadBot

namespace Submissions

open MySQL
open Transactions

variable {preparedStatementSize : List UInt8} (toText : PreparedStatementData → String)

/-- The queries of a transaction before the first that fails an assertion. -/
def reachable (queries : List (Element preparedStatementSize)) :
    List (Element preparedStatementSize) :=
  queries.takeWhile fun element => !element.isEmpty

/-- The way of submission checks the parameters, or there is no statement in
reach that needs it. -/
def Submission.Admissible : Submission preparedStatementSize → Prop
  | execute _ => True
  | query _ => True
  | asyncQuery stmt => ∀ statement ∈ stmt, statement.Complete
  | directExecute stmt => ∀ statement ∈ stmt, statement.Complete
  | transaction _ queries =>
      ∀ statement ∈ (reachable queries).flatMap Element.stmts, statement.Complete
  | delayQueryHolder calls =>
      ∀ statement ∈ (holderQueries calls).flatMap fun query => query.2.stmts,
        statement.Complete

theorem bindings_subset (connection : Connection) (element : Element preparedStatementSize) :
    bindings toText connection element ⊆ element.stmts := by
  intro statement member
  unfold bindings at member
  split at member
  · cases member
  · cases member
  · exact member
  · exact member

theorem executeElements_subset (libraryErrno : Nat) (connection : Connection)
    (elements : List (Element preparedStatementSize)) (replies : List Reply) :
    (executeElements toText libraryErrno connection elements replies).bound ⊆
      (reachable elements).flatMap Element.stmts := by
  induction elements generalizing connection replies with
  | nil => exact List.nil_subset _
  | cons element elements induction =>
      rw [executeElements]
      split_ifs with empty
      · exact List.nil_subset _
      · have reached : (reachable (element :: elements)).flatMap Element.stmts =
            element.stmts ++ (reachable elements).flatMap Element.stmts := by
          simp [reachable, empty]
        rw [reached]
        have here : bindings toText connection element ⊆
            element.stmts ++ (reachable elements).flatMap Element.stmts :=
          List.subset_append_of_subset_left _ (bindings_subset toText connection element)
        split
        · exact here
        · rename_i sent _
          split_ifs
          · exact List.append_subset.mpr ⟨here, List.subset_append_of_subset_right _
              (induction sent.connection sent.replies)⟩
          · exact here

theorem executeTransaction_subset (libraryErrno : Nat) (connection : Connection)
    (queries : List (Element preparedStatementSize)) (replies : List Reply) :
    (executeTransaction toText libraryErrno connection queries replies).bound ⊆
      (reachable queries).flatMap Element.stmts := by
  unfold executeTransaction
  split_ifs
  · exact List.nil_subset _
  · split
    · exact List.nil_subset _
    · exact executeElements_subset toText libraryErrno _ queries _

theorem retry_subset (mayRetry : Nat → Bool) (queries : List (Element preparedStatementSize))
    (retries : Nat) (connection : Connection) (attempts : List Attempt) :
    retry toText mayRetry queries retries connection attempts ⊆
      (reachable queries).flatMap Element.stmts := by
  induction attempts generalizing retries connection with
  | nil => exact List.nil_subset _
  | cons attempt attempts induction =>
      have here := executeTransaction_subset toText attempt.libraryErrno connection
        queries attempt.replies
      rw [retry]
      split_ifs
      · dsimp only
        split
        · exact here
        · split_ifs
          · exact here
          · exact List.append_subset.mpr ⟨here, induction _ _⟩
      · exact List.nil_subset _

/-- However often a commit is tried again, only statements in reach are
bound. -/
theorem commit_subset (mayRetry : Nat → Bool) (queries : List (Element preparedStatementSize))
    (connection : Connection) (attempts : List Attempt) :
    commit toText mayRetry queries connection attempts ⊆
      (reachable queries).flatMap Element.stmts := by
  cases attempts with
  | nil => exact List.nil_subset _
  | cons attempt attempts =>
      have here := executeTransaction_subset toText attempt.libraryErrno connection
        queries attempt.replies
      rw [commit]
      split
      · exact here
      · split_ifs
        · exact List.append_subset.mpr ⟨here, retry_subset toText _ _ _ _ _⟩
        · exact here

theorem executeHolder_subset (connection : Connection)
    (elements : List (Element preparedStatementSize)) (replies : List Reply) :
    executeHolder toText connection elements replies ⊆ elements.flatMap Element.stmts := by
  induction elements generalizing connection replies with
  | nil => exact List.nil_subset _
  | cons element elements induction =>
      have here : bindings toText connection element ⊆
          element.stmts ++ elements.flatMap Element.stmts :=
        List.subset_append_of_subset_left _ (bindings_subset toText connection element)
      rw [executeHolder, List.flatMap_cons]
      split
      · exact here
      · exact List.append_subset.mpr ⟨here, List.subset_append_of_subset_right _ (induction _ _)⟩

variable {toText}

theorem bindChecked_complete {connection : Connection}
    {stmt : Option (PoolStatement preparedStatementSize)}
    {statement : PoolStatement preparedStatementSize}
    (bound : statement ∈ bindChecked toText connection stmt) : statement.Complete := by
  cases stmt with
  | none => cases bound
  | some passed =>
      rw [bindChecked] at bound
      split_ifs at bound with allSet
      · have same : statement ∈ [passed] := bindings_subset toText connection _ bound
        rw [List.mem_singleton.mp same]
        exact passed.isAllParamsSet_iff.mp allSet
      · cases bound

theorem Submission.Admissible.complete {submission : Submission preparedStatementSize}
    (admissible : submission.Admissible) (run : Run preparedStatementSize)
    {statement : PoolStatement preparedStatementSize}
    (bound : statement ∈ submission.bound toText run) : statement.Complete := by
  cases submission with
  | execute stmt => exact bindChecked_complete bound
  | query stmt => exact bindChecked_complete bound
  | asyncQuery stmt =>
      have given : statement ∈ stmt.toList := bindings_subset toText run.connection _ bound
      exact admissible statement (Option.mem_toList.mp given)
  | directExecute stmt =>
      have given : statement ∈ stmt.toList := bindings_subset toText run.connection _ bound
      exact admissible statement (Option.mem_toList.mp given)
  | transaction executor queries =>
      exact admissible statement (commit_subset toText _ queries _ _ bound)
  | delayQueryHolder calls =>
      obtain ⟨element, ordered, contained⟩ :=
        List.mem_flatMap.mp (executeHolder_subset toText run.connection _ _ bound)
      obtain ⟨query, inOrder, rfl⟩ := List.mem_map.mp ordered
      have inHolder := (run.order_perm (holderQueries calls)).mem_iff.mp inOrder
      exact admissible statement (List.mem_flatMap.mpr ⟨query, inHolder, contained⟩)

/-- The statements prepared on a connection have the sizes known to the
pool. -/
def Serves (preparedStatementSize : List UInt8) (connection : Connection) : Prop :=
  ∀ (index : Nat) (mysqlStmt : MySQLPreparedStatement),
    connection.stmtList[index]? = some (some mysqlStmt) →
      preparedStatementSize[index]?.map UInt8.toNat = some mysqlStmt.paramCount

/-- A connection on which every statement of the pool is prepared. -/
def serving (preparedStatementSize : List UInt8) : Connection :=
  { mysqlHandle := some 0
    connectionInfo := ⟨"127.0.0.1", "3306"⟩
    connectionFlags := .both
    stmtList := preparedStatementSize.map fun size => some ⟨0, "", size.toNat⟩
    prepareError := false
    lastErrno := 0
    nextHandle := 1 }

theorem serving_serves (preparedStatementSize : List UInt8) :
    Serves preparedStatementSize (serving preparedStatementSize) := by
  intro index mysqlStmt prepared
  obtain ⟨size, found, same⟩ := Option.map_eq_some_iff.mp
    ((List.getElem?_map).symm.trans prepared)
  cases same
  rw [found]
  rfl

theorem serving_readiness {element : Element preparedStatementSize}
    (notEmpty : element.isEmpty = false) :
    (serving preparedStatementSize).readiness (element.statement toText) = .ready := by
  cases element with
  | raw sql => exact if_neg (by simpa [serving, Element.isEmpty] using notEmpty)
  | prepared stmt =>
      cases stmt with
      | none => cases notEmpty
      | some statement =>
          obtain ⟨sameIndex, size⟩ := statement.stmt_size
          obtain ⟨capacity, found, length⟩ := Option.map_eq_some_iff.mp size
          have slot : (serving preparedStatementSize).stmtList[statement.stmt.index]? =
              some (some ⟨0, "", statement.stmt.statementData.length⟩) := by
            simp [serving, sameIndex, found, length]
          have enough : ¬ statement.stmt.statementData.length <
              (statement.stmt.statementData.map toText).length := by simp
          have handle : (serving preparedStatementSize).mysqlHandle = some 0 := rfl
          simp only [Element.statement, Connection.readiness, handle, slot, if_neg enough, if_true]

theorem bindings_serving {element : Element preparedStatementSize}
    (notEmpty : element.isEmpty = false) :
    bindings toText (serving preparedStatementSize) element = element.stmts := by
  rw [bindings, serving_readiness notEmpty]

theorem mem_bindings_serving {element : Element preparedStatementSize}
    {statement : PoolStatement preparedStatementSize} (contained : statement ∈ element.stmts) :
    statement ∈ bindings toText (serving preparedStatementSize) element := by
  have notEmpty : element.isEmpty = false := by
    cases element with
    | raw sql => cases contained
    | prepared stmt =>
        cases stmt with
        | none => cases contained
        | some given => rfl
  rw [bindings_serving notEmpty]
  exact contained

theorem send_serving {statement : Statement} (replies : List Reply)
    (ready : (serving preparedStatementSize).readiness statement = .ready) :
    (serving preparedStatementSize).send statement (.acknowledged :: replies) =
      some ⟨[], .acknowledged, serving preparedStatementSize, replies⟩ := by
  rw [Connection.send, if_neg (not_not.mpr ready)]
  rfl

theorem executeElements_serving (libraryErrno : Nat)
    (elements : List (Element preparedStatementSize)) :
    (executeElements toText libraryErrno (serving preparedStatementSize) elements
        (List.replicate elements.length .acknowledged)).bound =
      (reachable elements).flatMap Element.stmts := by
  induction elements with
  | nil => rfl
  | cons element elements induction =>
      rw [executeElements]
      split_ifs with empty
      · simp [reachable, empty]
      · have notEmpty : element.isEmpty = false := by simpa using empty
        rw [List.length_cons, List.replicate_succ, send_serving _ (serving_readiness notEmpty)]
        simp only [Sent.succeeded, decide_true, if_true, bindings_serving notEmpty, induction]
        simp [reachable, notEmpty]

theorem executeTransaction_serving (libraryErrno : Nat)
    (queries : List (Element preparedStatementSize)) :
    (executeTransaction toText libraryErrno (serving preparedStatementSize) queries
        (List.replicate (queries.length + 1) .acknowledged)).bound =
      (reachable queries).flatMap Element.stmts := by
  cases queries with
  | nil => rfl
  | cons query queries =>
      have ready : (serving preparedStatementSize).readiness
          Request.startTransaction.statement = .ready := by
        simp [Request.statement, Connection.readiness, serving]
      rw [executeTransaction, if_neg (by simp), List.replicate_succ, send_serving _ ready]
      exact executeElements_serving libraryErrno (query :: queries)

theorem executeTransaction_subset_commit (mayRetry : Nat → Bool)
    (queries : List (Element preparedStatementSize)) (connection : Connection)
    (attempt : Attempt) (attempts : List Attempt) :
    (executeTransaction toText attempt.libraryErrno connection queries attempt.replies).bound ⊆
      commit toText mayRetry queries connection (attempt :: attempts) := by
  rw [commit]
  split
  · exact List.Subset.refl _
  · split_ifs
    · exact List.subset_append_left _ _
    · exact List.Subset.refl _

theorem bindings_subset_executeHolder (connection : Connection)
    (element : Element preparedStatementSize) (elements : List (Element preparedStatementSize))
    (replies : List Reply) :
    bindings toText connection element ⊆
      executeHolder toText connection (element :: elements) replies := by
  rw [executeHolder]
  split
  · exact List.Subset.refl _
  · exact List.subset_append_left _ _

/-- The order of a map that begins with one of its queries. -/
def startWith (first : Nat × Element preparedStatementSize)
    (queries : List (Nat × Element preparedStatementSize)) :
    List (Nat × Element preparedStatementSize) :=
  if first ∈ queries then first :: queries.erase first else queries

theorem startWith_perm (first : Nat × Element preparedStatementSize)
    (queries : List (Nat × Element preparedStatementSize)) :
    (startWith first queries).Perm queries := by
  unfold startWith
  split_ifs with member
  · exact (List.perm_cons_erase member).symm
  · exact List.Perm.refl queries

/-- A run on the connection that serves every statement. -/
def servingRun (preparedStatementSize : List UInt8) (requests : Nat)
    (order : List (Nat × Element preparedStatementSize) →
      List (Nat × Element preparedStatementSize))
    (order_perm : ∀ queries, (order queries).Perm queries) : Run preparedStatementSize :=
  { connection := serving preparedStatementSize
    replies := List.replicate requests .acknowledged
    attempts := [⟨0, List.replicate requests .acknowledged⟩]
    clock := fun _ => 0
    order := order
    order_perm := order_perm }

/-- A submission binds only statements with all parameters set, on whatever
connection and with whatever answers, exactly if it is admissible. -/
theorem Submission.bound_complete_iff (toText : PreparedStatementData → String)
    (submission : Submission preparedStatementSize) :
    (∀ run : Run preparedStatementSize, Serves preparedStatementSize run.connection →
      ∀ statement ∈ submission.bound toText run, statement.Complete) ↔
        submission.Admissible := by
  refine ⟨fun complete => ?_, fun admissible run _ statement bound => admissible.complete run bound⟩
  have serves := serving_serves preparedStatementSize
  cases submission with
  | execute stmt => trivial
  | query stmt => trivial
  | asyncQuery stmt =>
      intro statement given
      exact complete (servingRun preparedStatementSize 1 id List.Perm.refl) serves statement
        (mem_bindings_serving (Option.mem_toList.mpr given))
  | directExecute stmt =>
      intro statement given
      exact complete (servingRun preparedStatementSize 1 id List.Perm.refl) serves statement
        (mem_bindings_serving (Option.mem_toList.mpr given))
  | transaction executor queries =>
      intro statement reached
      rw [← executeTransaction_serving 0 queries] at reached
      exact complete (servingRun preparedStatementSize (queries.length + 1) id List.Perm.refl)
        serves statement (executeTransaction_subset_commit _ queries _ _ _ reached)
  | delayQueryHolder calls =>
      intro statement contained
      obtain ⟨query, inHolder, inQuery⟩ := List.mem_flatMap.mp contained
      refine complete (servingRun preparedStatementSize 1 (startWith query) (startWith_perm query))
        serves statement ?_
      have first : startWith query (holderQueries calls) =
          query :: (holderQueries calls).erase query := if_pos inHolder
      change statement ∈ executeHolder toText (serving preparedStatementSize)
        ((startWith query (holderQueries calls)).map Prod.snd) _
      rw [first]
      exact bindings_subset_executeHolder _ _ _ _ (mem_bindings_serving inQuery)

/-- A statement with one parameter that is never set. -/
def unset : PoolStatement [1] :=
  { index := 0
    calls := []
    stmt := .create 0 1
    built := rfl }

theorem asyncQuery_unset :
    ¬ ∀ (preparedStatementSize : List UInt8) (toText : PreparedStatementData → String)
      (submission : Submission preparedStatementSize) (run : Run preparedStatementSize),
      Serves preparedStatementSize run.connection →
        ∀ statement ∈ submission.bound toText run, statement.Complete := by
  intro always
  have bound : unset ∈ bindings (fun _ => "") (serving [1]) (.prepared (some unset)) :=
    mem_bindings_serving (List.mem_singleton.mpr rfl)
  have complete : unset.Complete :=
    always [1] (fun _ => "") (.asyncQuery (some unset)) (servingRun [1] 1 id List.Perm.refl)
      (serving_serves [1]) unset bound
  exact absurd complete (by decide)

end Submissions

end WarheadBot
