import Mathlib.Data.List.Nodup
import WarheadBot.QueryHolderExecution
import WarheadBot.ResultSetVisits

/-!
# What a holder returns

Asking for a text result moves the result that the holder keeps, so that only the
first call for an index finds the result on its first row.
-/

namespace WarheadBot

namespace QueryResult

/-- The rows of a text result that have not been fetched. -/
def rowsLeft : Option ResultSet → List TextRow
  | none => []
  | some set => set.result.getD []

/-- A text result on the first of its rows, if it has one. -/
def onFirstRow : Option ResultSet → Option ResultSet
  | none => none
  | some set =>
      match set.result with
      | some (first :: rest) => some { set with result := some rest, currRow := set.load first }
      | _ => none

/-- A prepared result on the first of its rows, if it has one. -/
def onFirstPosition : Option PreparedResultSet → Option PreparedResultSet
  | none => none
  | some set => if set.rowCount = 0 then none else some (set.atRow 0)

theorem onFirstRow_of_nil {found : Option ResultSet} (noRows : rowsLeft found = []) :
    onFirstRow found = none := by
  cases found with
  | none => rfl
  | some set =>
      unfold rowsLeft at noRows
      unfold onFirstRow
      dsimp only at noRows ⊢
      cases left : set.result with
      | none => rfl
      | some rows =>
          rw [left, Option.getD_some] at noRows
          rw [noRows]

/-- The result on its first row tells how many rows there were. -/
theorem onFirstRow_of_cons {found : Option ResultSet} {first : TextRow} {rest : List TextRow}
    (rows : rowsLeft found = first :: rest) :
    ∃ set, onFirstRow found = some set ∧ set.result = some rest := by
  cases found with
  | none => exact nomatch rows
  | some set =>
      unfold rowsLeft at rows
      unfold onFirstRow
      dsimp only at rows ⊢
      cases left : set.result with
      | none =>
          rw [left] at rows
          exact nomatch rows
      | some all =>
          rw [left, Option.getD_some] at rows
          rw [rows]
          exact ⟨_, rfl, rfl⟩

theorem rowsLeft_length_of_onFirstRow {found other : Option ResultSet}
    (same : onFirstRow found = onFirstRow other) :
    (rowsLeft found).length = (rowsLeft other).length := by
  cases rows : rowsLeft found with
  | nil =>
      cases otherRows : rowsLeft other with
      | nil => rfl
      | cons first rest =>
          obtain ⟨set, onFirst, -⟩ := onFirstRow_of_cons otherRows
          rw [onFirstRow_of_nil rows, onFirst] at same
          exact nomatch same
  | cons first rest =>
      obtain ⟨set, onFirst, left⟩ := onFirstRow_of_cons rows
      cases otherRows : rowsLeft other with
      | nil =>
          rw [onFirst, onFirstRow_of_nil otherRows] at same
          exact nomatch same
      | cons otherFirst otherRest =>
          obtain ⟨otherSet, otherOnFirst, otherLeft⟩ := onFirstRow_of_cons otherRows
          rw [onFirst, otherOnFirst] at same
          obtain rfl := Option.some.inj same
          rw [Option.some.inj (left.symm.trans otherLeft)]
          rfl

/-- A move comes to the first row that is left, and leaves the others. -/
theorem nextRow_spec {set : ResultSet}
    (lengths : ∀ row ∈ rowsLeft (some set), row.hasLengths = true) :
    (if set.nextRow.1 then some set.nextRow.2 else none) = onFirstRow (some set) ∧
      rowsLeft (some set.nextRow.2) = (rowsLeft (some set)).tail ∧
      set.nextRow.2.rowCount = set.rowCount := by
  unfold rowsLeft at lengths
  unfold rowsLeft onFirstRow
  dsimp only at lengths ⊢
  cases left : set.result with
  | none =>
      have moved : set.nextRow = (false, set) := by rw [ResultSet.nextRow, left]
      rw [moved]
      dsimp only
      rw [left]
      exact ⟨rfl, rfl, rfl⟩
  | some rows =>
      cases rows with
      | nil =>
          have moved : set.nextRow = (false, set.cleanUp) := by rw [ResultSet.nextRow, left]
          rw [moved]
          exact ⟨rfl, rfl, rfl⟩
      | cons first rest =>
          rw [left] at lengths
          have moved : set.nextRow =
              (true, { set with result := some rest, currRow := set.load first }) := by
            rw [ResultSet.nextRow, left]
            exact if_pos (lengths first List.mem_cons_self)
          rw [moved]
          exact ⟨rfl, rfl, rfl⟩

namespace SQLQueryHolderBase

variable {Statement : Type} (holder : SQLQueryHolderBase Statement)

/-- The text result that is kept at an index. -/
def textAt (index : Nat) : Option ResultSet :=
  match holder.queries index with
  | some ⟨_, .query result⟩ => result
  | _ => none

def preparedAt (index : Nat) : Option PreparedResultSet :=
  match holder.queries index with
  | some ⟨_, .prepared result⟩ => result
  | _ => none

/-- The rows that are left can be fetched, and results without rows have been dropped. -/
structure Ready : Prop where
  rowCount : ∀ index set, holder.textAt index = some set → set.rowCount ≠ 0
  preparedCount : ∀ index set, holder.preparedAt index = some set → set.rowCount ≠ 0
  lengths : ∀ index, ∀ row ∈ rowsLeft (holder.textAt index), row.hasLengths = true

variable {holder}

theorem getPreparedResult_eq (ready : holder.Ready) (index : Nat) :
    holder.getPreparedResult index = holder.preparedAt index := by
  have positive := ready.preparedCount index
  unfold preparedAt at positive ⊢
  unfold getPreparedResult
  cases found : holder.queries index with
  | none => rfl
  | some query =>
      obtain ⟨holderQuery, holderResult⟩ := query
      rcases holderResult with result | - | set
      · rfl
      · rfl
      · rw [found] at positive
        exact if_neg (positive set rfl)

theorem getResult_of_none {index : Nat} (nothing : holder.textAt index = none) :
    holder.getResult index = (none, holder) := by
  unfold textAt at nothing
  unfold getResult
  cases present : holder.queries index with
  | none => rfl
  | some query =>
      obtain ⟨holderQuery, holderResult⟩ := query
      rcases holderResult with (- | set) | result
      · rfl
      · rw [present] at nothing
        exact nomatch nothing
      · rfl

theorem getResult_of_some {index : Nat} {set : ResultSet} (present : holder.textAt index = some set)
    (positive : set.rowCount ≠ 0) :
    holder.getResult index =
        (if set.nextRow.1 then some set.nextRow.2 else none,
          holder.store index (.query (some set.nextRow.2))) ∧
      ∃ holderQuery, holder.queries index = some ⟨holderQuery, .query (some set)⟩ := by
  unfold textAt at present
  unfold getResult
  cases found : holder.queries index with
  | none =>
      rw [found] at present
      exact nomatch present
  | some query =>
      rw [found] at present
      obtain ⟨holderQuery, holderResult⟩ := query
      rcases holderResult with result | result
      · obtain rfl : result = some set := present
        exact ⟨if_neg positive, holderQuery, rfl⟩
      · exact nomatch present

section Store

variable {index : Nat} {holderQuery : HolderQuery Statement} {set moved : ResultSet}
  (present : holder.queries index = some ⟨holderQuery, .query (some set)⟩)

include present

theorem textAt_store_self :
    (holder.store index (.query (some moved))).textAt index = some moved := by
  rw [textAt, queries_store_self present]

theorem preparedAt_store (other : Nat) :
    (holder.store index (.query (some moved))).preparedAt other = holder.preparedAt other := by
  by_cases same : other = index
  · subst same
    rw [preparedAt, preparedAt, queries_store_self present, present]
  · rw [preparedAt, queries_store_of_ne same, ← preparedAt]

omit present in
theorem textAt_store_of_ne {other : Nat} (differs : other ≠ index) (stored : HolderResult) :
    (holder.store index stored).textAt other = holder.textAt other := by
  rw [textAt, queries_store_of_ne differs, ← textAt]

/-- A result can be replaced by one whose rows are left of it. -/
theorem Ready.store (ready : holder.Ready) (sameCount : moved.rowCount = set.rowCount)
    (left : ∀ row ∈ rowsLeft (some moved), row ∈ rowsLeft (some set)) :
    (holder.store index (.query (some moved))).Ready where
  rowCount := by
    intro other otherSet found
    by_cases same : other = index
    · subst same
      rw [textAt_store_self present] at found
      rw [← Option.some.inj found, sameCount]
      exact ready.rowCount other set (by rw [textAt, present])
    · rw [textAt_store_of_ne same] at found
      exact ready.rowCount other otherSet found
  preparedCount := by
    intro other otherSet found
    rw [preparedAt_store present] at found
    exact ready.preparedCount other otherSet found
  lengths := by
    intro other row inside
    by_cases same : other = index
    · subst same
      rw [textAt_store_self present] at inside
      exact ready.lengths other row (by rw [textAt, present]; exact left row inside)
    · rw [textAt_store_of_ne same] at inside
      exact ready.lengths other row inside

end Store

/-- What a call for a text result returns and leaves. -/
theorem getResult_spec (ready : holder.Ready) (index : Nat) :
    (holder.getResult index).1 = onFirstRow (holder.textAt index) ∧
      rowsLeft ((holder.getResult index).2.textAt index) =
        (rowsLeft (holder.textAt index)).tail ∧
      (∀ other, other ≠ index → (holder.getResult index).2.textAt other = holder.textAt other) ∧
      (∀ other, (holder.getResult index).2.preparedAt other = holder.preparedAt other) ∧
      (holder.getResult index).2.Ready := by
  cases found : holder.textAt index with
  | none =>
      rw [getResult_of_none found]
      exact ⟨rfl, congrArg rowsLeft found, fun _ _ => rfl, fun _ => rfl, ready⟩
  | some set =>
      have lengths := ready.lengths index
      rw [found] at lengths
      obtain ⟨returned, left, sameCount⟩ := nextRow_spec lengths
      obtain ⟨moved, holderQuery, present⟩ :=
        getResult_of_some found (ready.rowCount index set found)
      rw [moved]
      exact ⟨returned, (congrArg rowsLeft (textAt_store_self present)).trans left,
        fun _ differs => textAt_store_of_ne differs _, preparedAt_store present,
        ready.store present sameCount fun _ inside => List.mem_of_mem_tail (left ▸ inside)⟩

end SQLQueryHolderBase

section Returned

variable {Statement : Type} (fresh : Nat → Option ResultSet)
  (freshPrepared : Nat → Option PreparedResultSet)

/-- What a call is to return, given the results of the queries. -/
def rightAnswer : Call → Returned
  | .getResult index => .result (onFirstRow (fresh index))
  | .getPreparedResult index => .preparedResult (freshPrepared index)

/-- The index of a call for a text result that has rows. -/
def movedIndex : Call → Option Nat
  | .getResult index => if rowsLeft (fresh index) = [] then none else some index
  | .getPreparedResult _ => none

/-- What holds after some calls, where `used` are the indices whose text results have
been moved. -/
structure Asked (used : List Nat) (holder : SQLQueryHolderBase Statement) : Prop where
  ready : holder.Ready
  prepared : ∀ index, holder.preparedAt index = freshPrepared index
  noRows : ∀ index, rowsLeft (fresh index) = [] → rowsLeft (holder.textAt index) = []
  unused : ∀ index, index ∉ used → rowsLeft (fresh index) ≠ [] →
    holder.textAt index = fresh index
  fewer : ∀ index ∈ used,
    (rowsLeft (holder.textAt index)).length < (rowsLeft (fresh index)).length

variable {fresh freshPrepared} {used : List Nat} {holder : SQLQueryHolderBase Statement}

/-- Asking for a result without rows changes nothing for the later calls. -/
theorem Asked.getResult_noRows (asked : Asked fresh freshPrepared used holder) {index : Nat}
    (noRows : rowsLeft (fresh index) = []) :
    Asked fresh freshPrepared used (holder.getResult index).2 := by
  obtain ⟨-, left, others, prepared, ready⟩ :=
    SQLQueryHolderBase.getResult_spec asked.ready index
  refine ⟨ready, fun other => (prepared other).trans (asked.prepared other), ?_, ?_, ?_⟩
  · intro other otherNoRows
    by_cases same : other = index
    · subst same
      rw [left, asked.noRows other noRows]
      rfl
    · rw [others other same]
      exact asked.noRows other otherNoRows
  · intro other notUsed hasRows
    have differs : other ≠ index := by
      rintro rfl
      exact hasRows noRows
    rw [others other differs]
    exact asked.unused other notUsed hasRows
  · intro other inUsed
    have shorter := asked.fewer other inUsed
    have differs : other ≠ index := by
      rintro rfl
      rw [noRows] at shorter
      exact Nat.not_lt_zero _ shorter
    rw [others other differs]
    exact shorter

theorem Asked.getResult_hasRows (asked : Asked fresh freshPrepared used holder) {index : Nat}
    (hasRows : rowsLeft (fresh index) ≠ []) (notUsed : index ∉ used) :
    Asked fresh freshPrepared (used ++ [index]) (holder.getResult index).2 := by
  obtain ⟨-, left, others, prepared, ready⟩ :=
    SQLQueryHolderBase.getResult_spec asked.ready index
  rw [asked.unused index notUsed hasRows] at left
  refine ⟨ready, fun other => (prepared other).trans (asked.prepared other), ?_, ?_, ?_⟩
  · intro other otherNoRows
    have differs : other ≠ index := by
      rintro rfl
      exact hasRows otherNoRows
    rw [others other differs]
    exact asked.noRows other otherNoRows
  · intro other notIn otherHasRows
    rw [List.mem_append, not_or, List.mem_singleton] at notIn
    rw [others other notIn.2]
    exact asked.unused other notIn.1 otherHasRows
  · intro other inUsed
    by_cases same : other = index
    · subst same
      rw [left, List.length_tail]
      exact Nat.sub_lt (List.length_pos_iff.mpr hasRows) Nat.one_pos
    · rw [others other same]
      exact asked.fewer other ((List.mem_append.mp inUsed).resolve_right (by simpa using same))

/-- The calls return what they are to return exactly if no text result with rows is asked
for twice. -/
theorem answers_eq_iff {calls : List Call} (distinct : used.Nodup)
    (asked : Asked fresh freshPrepared used holder) :
    answers calls holder = calls.map (rightAnswer fresh freshPrepared) ↔
      (used ++ calls.filterMap (movedIndex fresh)).Nodup := by
  induction calls generalizing used holder with
  | nil => simpa [answers] using distinct
  | cons call calls ih =>
      cases call with
      | getPreparedResult index =>
          have right : holder.getPreparedResult index = freshPrepared index :=
            (SQLQueryHolderBase.getPreparedResult_eq asked.ready index).trans (asked.prepared index)
          rw [answers, Call.run, List.map_cons, rightAnswer, right,
            List.filterMap_cons_none (by rfl), ← ih distinct asked, List.cons.injEq]
          exact and_iff_right rfl
      | getResult index =>
          obtain ⟨returned, -⟩ := SQLQueryHolderBase.getResult_spec asked.ready index
          rw [answers, Call.run, List.map_cons, rightAnswer, returned, List.cons.injEq,
            Returned.result.injEq]
          by_cases noRows : rowsLeft (fresh index) = []
          · have nothing : movedIndex fresh (.getResult index) = none := if_pos noRows
            rw [List.filterMap_cons_none nothing, ← ih distinct (asked.getResult_noRows noRows),
              onFirstRow_of_nil noRows, onFirstRow_of_nil (asked.noRows index noRows)]
            exact and_iff_right rfl
          · have moved : movedIndex fresh (.getResult index) = some index := if_neg noRows
            rw [List.filterMap_cons_some moved]
            by_cases again : index ∈ used
            · refine iff_of_false ?_ ?_
              · rintro ⟨same, -⟩
                have shorter := asked.fewer index again
                rw [rowsLeft_length_of_onFirstRow same] at shorter
                exact Nat.lt_irrefl _ shorter
              · intro nodup
                exact List.disjoint_of_nodup_append nodup again List.mem_cons_self
            · have nodup : (used ++ [index]).Nodup :=
                List.nodup_append.mpr ⟨distinct, List.nodup_singleton index, by
                  rintro other inUsed _ inSingle rfl
                  exact again (List.mem_singleton.mp inSingle ▸ inUsed)⟩
              have later := ih nodup (asked.getResult_hasRows noRows again)
              rw [List.append_assoc, List.singleton_append] at later
              rw [asked.unused index again noRows, later]
              exact and_iff_right rfl

end Returned

section Executed

open SQLQueryHolderBase (textAt preparedAt queries_ofAdditions)

variable {Statement : Type} (connection : HolderConnection Statement)
  (additions : List (Nat × HolderQuery Statement))

/-- The result of the string query that was added under an index. -/
def textQuery (index : Nat) : Option ResultSet :=
  match additions.lookup index with
  | some (.string sql) => MySQLConnection.query sql (connection.stored index sql)
  | _ => none

/-- The result of the prepared query that was added under an index. -/
def preparedQuery (index : Nat) : Option PreparedResultSet :=
  match additions.lookup index with
  | some (.prepared stmt) => (MySQLConnection.queryPrepared (connection.executed index stmt)).join
  | _ => none

/-- The client library knows the lengths of each row that it has fetched. -/
def HolderConnection.KnowsLengths : Prop :=
  ∀ index sql result, connection.stored index sql = some result →
    ∀ row ∈ result.rows, row.hasLengths = true

variable {connection additions}

theorem filter_query (sql : String) (result : Option MySQLResult) :
    (MySQLConnection.query sql result).filter (fun set => set.rowCount ≠ 0) =
      MySQLConnection.query sql result := by
  unfold MySQLConnection.query
  split_ifs
  · rfl
  · cases result with
    | none => rfl
    | some result =>
        dsimp only
        split_ifs with noRows
        · rfl
        · exact Option.filter_some_pos (decide_eq_true noRows)

theorem mem_rowsLeft_query {sql : String} {result : Option MySQLResult} {row : TextRow}
    (inside : row ∈ rowsLeft (MySQLConnection.query sql result)) :
    ∃ found, result = some found ∧ row ∈ found.rows := by
  unfold MySQLConnection.query at inside
  split_ifs at inside
  · exact nomatch inside
  · cases result with
    | none => exact nomatch inside
    | some found =>
        dsimp only at inside
        split_ifs at inside
        · exact nomatch inside
        · exact ⟨found, rfl, inside⟩

/-- A prepared result that is kept is on its first row from the beginning. -/
theorem filter_queryPrepared (executed : Option (MySQLStmt × Fin (2 ^ 64))) :
    (MySQLConnection.queryPrepared executed).join.filter (fun set => set.rowCount ≠ 0) =
      onFirstPosition (MySQLConnection.queryPrepared executed).join := by
  cases found : (MySQLConnection.queryPrepared executed).join with
  | none => rfl
  | some set =>
      have queried := Option.join_eq_some_iff.mp found
      cases executed with
      | none => exact nomatch Option.some.inj queried
      | some statement =>
          obtain ⟨created, constructed, same⟩ := Option.map_eq_some_iff.mp queried
          obtain rfl := Option.some.inj same
          have start : created.atRow 0 = created := by
            rw [PreparedResultSet.atRow, ← create_rowPosition constructed]
          rw [onFirstPosition, start]
          by_cases noRows : created.rowCount = 0
          · rw [if_pos noRows]
            exact Option.filter_some_neg (by simpa using noRows)
          · rw [if_neg noRows]
            exact Option.filter_some_pos (decide_eq_true noRows)

variable {indices : List Nat} {after : SQLQueryHolderBase Statement}

/-- What the holder has under an index when the task is done. -/
theorem queries_executed (walked : indices.Perm (additions.map Prod.fst))
    (executed : executeQuery connection indices (.ofAdditions additions) = some after)
    (index : Nat) :
    after.queries index =
      (additions.lookup index).map fun query => ⟨query, kept connection index query⟩ := by
  rw [executeQuery_spec executed, queries_ofAdditions, Option.map_map]
  split_ifs with inside
  · rfl
  · have absent : additions.lookup index = none := by
      refine List.lookup_eq_none_iff.mpr fun addition added => ?_
      rw [bne_iff_ne]
      rintro rfl
      exact inside (walked.mem_iff.mpr (List.mem_map_of_mem added))
    rw [absent]
    rfl

theorem textAt_executed (walked : indices.Perm (additions.map Prod.fst))
    (executed : executeQuery connection indices (.ofAdditions additions) = some after)
    (index : Nat) : after.textAt index = textQuery connection additions index := by
  rw [textAt, queries_executed walked executed, textQuery]
  rcases additions.lookup index with - | (sql | stmt)
  · rfl
  · exact filter_query sql _
  · rfl

theorem preparedAt_executed (walked : indices.Perm (additions.map Prod.fst))
    (executed : executeQuery connection indices (.ofAdditions additions) = some after)
    (index : Nat) :
    after.preparedAt index = onFirstPosition (preparedQuery connection additions index) := by
  rw [preparedAt, queries_executed walked executed, preparedQuery]
  rcases additions.lookup index with - | (sql | stmt)
  · rfl
  · rfl
  · exact filter_queryPrepared _

theorem textQuery_cases (index : Nat) :
    textQuery connection additions index = none ∨
      ∃ sql, textQuery connection additions index =
        MySQLConnection.query sql (connection.stored index sql) := by
  unfold textQuery
  rcases additions.lookup index with - | (sql | stmt)
  · exact Or.inl rfl
  · exact Or.inr ⟨sql, rfl⟩
  · exact Or.inl rfl

theorem rowCount_of_textQuery {index : Nat} {set : ResultSet}
    (found : textQuery connection additions index = some set) : set.rowCount ≠ 0 := by
  obtain nothing | ⟨sql, query⟩ := @textQuery_cases _ connection additions index
  · exact nomatch nothing.symm.trans found
  · rw [query, ← filter_query] at found
    exact of_decide_eq_true (Option.filter_eq_some_iff.mp found).2

theorem rowCount_of_onFirstPosition {result : Option PreparedResultSet} {set : PreparedResultSet}
    (found : onFirstPosition result = some set) : set.rowCount ≠ 0 := by
  cases result with
  | none => exact nomatch found
  | some other =>
      unfold onFirstPosition at found
      dsimp only at found
      split_ifs at found with noRows
      exact Option.some.inj found ▸ noRows

theorem hasLengths_of_textQuery (lengths : connection.KnowsLengths) {index : Nat} {row : TextRow}
    (inside : row ∈ rowsLeft (textQuery connection additions index)) : row.hasLengths = true := by
  obtain nothing | ⟨sql, query⟩ := @textQuery_cases _ connection additions index
  · rw [nothing] at inside
    exact nomatch inside
  · rw [query] at inside
    obtain ⟨found, stored, fetched⟩ := mem_rowsLeft_query inside
    exact lengths index sql found stored row fetched

/-- Nothing has been asked for when the task is done. -/
theorem asked_executed (walked : indices.Perm (additions.map Prod.fst))
    (executed : executeQuery connection indices (.ofAdditions additions) = some after)
    (lengths : connection.KnowsLengths) :
    Asked (textQuery connection additions)
      (fun index => onFirstPosition (preparedQuery connection additions index)) [] after where
  ready :=
    { rowCount := fun index _ found =>
        rowCount_of_textQuery ((textAt_executed walked executed index).symm.trans found)
      preparedCount := fun index _ found =>
        rowCount_of_onFirstPosition ((preparedAt_executed walked executed index).symm.trans found)
      lengths := fun index _ inside =>
        hasLengths_of_textQuery lengths (textAt_executed walked executed index ▸ inside) }
  prepared := preparedAt_executed walked executed
  noRows := fun index noRows => (textAt_executed walked executed index).symm ▸ noRows
  unused := fun index _ _ => textAt_executed walked executed index
  fewer := fun _ inside => nomatch inside

/-- The calls after the execution return the results of the queries exactly if no text
result with rows is asked for twice. -/
theorem answers_executed_iff (walked : indices.Perm (additions.map Prod.fst))
    (executed : executeQuery connection indices (.ofAdditions additions) = some after)
    (lengths : connection.KnowsLengths) (calls : List Call) :
    answers calls after =
        calls.map (rightAnswer (textQuery connection additions)
          fun index => onFirstPosition (preparedQuery connection additions index)) ↔
      (calls.filterMap (movedIndex (textQuery connection additions))).Nodup := by
  have iff := @answers_eq_iff _ _ _ _ _ calls List.nodup_nil
    (asked_executed walked executed lengths)
  rwa [List.nil_append] at iff

end Executed

/-- Each text query has a single row. -/
def exampleConnection : HolderConnection Unit where
  stored := fun _ _ => some
    { exampleResult with rows := [⟨fun _ => some [49], true⟩], affectedRows := 1 }
  executed := fun _ _ => some (exampleStmt, 0)

def exampleAdditions : List (Nat × HolderQuery Unit) :=
  [(0, .string "SELECT"), (1, .prepared ())]

theorem exampleConnection_knowsLengths : exampleConnection.KnowsLengths := by
  intro index sql result stored row inside
  obtain rfl := Option.some.inj stored
  rw [List.mem_singleton.mp inside]

theorem exampleAdditions_executed :
    ∃ after, executeQuery exampleConnection [1, 0] (.ofAdditions exampleAdditions) =
      some after := by
  obtain ⟨set, delivered⟩ := exampleStmt_delivered
  obtain ⟨result, queried, -⟩ := Option.map_eq_some_iff.mp delivered
  have present : (SQLQueryHolderBase.ofAdditions exampleAdditions).queries 1 =
      some ⟨.prepared (), .query none⟩ := SQLQueryHolderBase.queries_ofAdditions _ _
  have round : executeAt exampleConnection 1 (.ofAdditions exampleAdditions) =
      some ((SQLQueryHolderBase.ofAdditions exampleAdditions).setPreparedResult 1 result) := by
    rw [executeAt, present]
    exact congrArg (Option.map _) queried
  rw [executeQuery, List.foldlM_cons, round]
  exact ⟨_, rfl⟩

/-- Results without rows, and the prepared ones, can be asked for again. -/
theorem answers_executed_example :
    ∃ after, executeQuery exampleConnection [1, 0] (.ofAdditions exampleAdditions) = some after ∧
      answers [.getPreparedResult 1, .getResult 0, .getResult 2, .getPreparedResult 1,
          .getResult 2] after =
        [.getPreparedResult 1, .getResult 0, .getResult 2, .getPreparedResult 1,
          .getResult 2].map (rightAnswer (textQuery exampleConnection exampleAdditions)
            fun index => onFirstPosition (preparedQuery exampleConnection exampleAdditions index))
      := by
  obtain ⟨after, executed⟩ := exampleAdditions_executed
  exact ⟨after, executed, (answers_executed_iff (List.Perm.swap 0 1 []) executed
    exampleConnection_knowsLengths _).mpr (by decide)⟩

/-- The second call for the text result moves it behind its only row. -/
theorem not_answers_executed_twice :
    ∃ after, executeQuery exampleConnection [1, 0] (.ofAdditions exampleAdditions) = some after ∧
      answers [.getResult 0, .getResult 0] after ≠
        [.getResult 0, .getResult 0].map (rightAnswer (textQuery exampleConnection exampleAdditions)
          fun index => onFirstPosition (preparedQuery exampleConnection exampleAdditions index))
      := by
  obtain ⟨after, executed⟩ := exampleAdditions_executed
  have asked := asked_executed (List.Perm.swap 0 1 []) executed exampleConnection_knowsLengths
  exact ⟨after, executed, fun same => absurd ((answers_eq_iff List.nodup_nil asked).mp same)
    (by decide)⟩

end QueryResult

end WarheadBot
