import WarheadBot.QueryHolder

/-!
# The execution of the queries of a holder

When the task has walked through the indices, the holder keeps for each query that
was added what its execution gave, whatever the order of the walk was.
-/

namespace WarheadBot

namespace QueryResult

namespace SQLQueryHolderBase

variable {Statement : Type} {holder : SQLQueryHolderBase Statement}

theorem queries_store_of_ne {index other : Nat} (differs : other ≠ index)
    (stored : HolderResult) :
    (holder.store index stored).queries other = holder.queries other := by
  unfold store
  cases holder.queries index with
  | none => rfl
  | some query => exact Function.update_of_ne differs _ _

theorem queries_store_self {index : Nat} {query : SQLQueryHolderQuery Statement}
    (present : holder.queries index = some query) (stored : HolderResult) :
    (holder.store index stored).queries index = some { query with holderResult := stored } := by
  unfold store
  rw [present]
  exact Function.update_self _ _ _

theorem addOne_eq_add (index : Nat) (query : HolderQuery Statement) :
    holder.addOne (index, query) = (holder.add index query).2 := by
  cases query with
  | string sql => rfl
  | prepared stmt => rfl

/-- Adding a query does not change the one that is already at the index. -/
theorem queries_addOne (index other : Nat) (query : HolderQuery Statement) :
    (holder.addOne (index, query)).queries other =
      (holder.queries other).or
        (if other = index then some ⟨query, .query none⟩ else none) := by
  rw [addOne_eq_add]
  unfold add
  cases present : holder.queries index with
  | some found =>
      rw [if_pos (by rfl)]
      dsimp only
      by_cases same : other = index
      · rw [same, present, Option.some_or]
      · rw [if_neg same, Option.or_none]
  | none =>
      rw [if_neg (by simp)]
      dsimp only
      by_cases same : other = index
      · rw [same, Function.update_self, present, if_pos rfl, Option.none_or]
      · rw [Function.update_of_ne same, if_neg same, Option.or_none]

theorem queries_foldl_addOne (additions : List (Nat × HolderQuery Statement)) (index : Nat) :
    (additions.foldl addOne holder).queries index =
      (holder.queries index).or
        ((additions.lookup index).map fun query => ⟨query, .query none⟩) := by
  induction additions generalizing holder with
  | nil => exact Option.or_none.symm
  | cons addition additions ih =>
      obtain ⟨added, query⟩ := addition
      rw [List.foldl_cons, ih, queries_addOne, Option.or_assoc, List.lookup_cons]
      by_cases same : index = added
      · rw [if_pos same, beq_iff_eq.mpr same, Option.some_or]
        rfl
      · rw [if_neg same, beq_false_of_ne same, Option.none_or]

/-- The holder has the query that was added under the index. -/
theorem queries_ofAdditions (additions : List (Nat × HolderQuery Statement)) (index : Nat) :
    (ofAdditions additions).queries index =
      (additions.lookup index).map fun query => ⟨query, .query none⟩ :=
  (queries_foldl_addOne additions index).trans Option.none_or

end SQLQueryHolderBase

section Task

open SQLQueryHolderBase (queries_store_of_ne queries_store_self queries_ofAdditions)

variable {Statement : Type} (connection : HolderConnection Statement)

/-- What the holder keeps for a query that has been executed. -/
def kept (index : Nat) : HolderQuery Statement → HolderResult
  | .string sql =>
      .query ((MySQLConnection.query sql (connection.stored index sql)).filter
        fun set => set.rowCount ≠ 0)
  | .prepared stmt =>
      .prepared ((MySQLConnection.queryPrepared (connection.executed index stmt)).join.filter
        fun set => set.rowCount ≠ 0)

/-- A query with what is kept for it. -/
def withKept (index : Nat) (query : SQLQueryHolderQuery Statement) :
    SQLQueryHolderQuery Statement :=
  { query with holderResult := kept connection index query.holderQuery }

variable {connection} {holder next : SQLQueryHolderBase Statement}

/-- One round stores the result of one query and leaves the other ones. -/
theorem executeAt_spec {index : Nat} (executed : executeAt connection index holder = some next) :
    next.queries index = (holder.queries index).map (withKept connection index) ∧
      ∀ other, other ≠ index → next.queries other = holder.queries other := by
  unfold executeAt at executed
  cases present : holder.queries index with
  | none =>
      rw [present] at executed
      obtain rfl := Option.some.inj executed
      exact ⟨present, fun _ _ => rfl⟩
  | some query =>
      rw [present] at executed
      obtain ⟨holderQuery, holderResult⟩ := query
      cases holderQuery with
      | string sql =>
          obtain rfl := Option.some.inj executed
          exact ⟨queries_store_self present _, fun _ differs => queries_store_of_ne differs _⟩
      | prepared stmt =>
          obtain ⟨result, queried, rfl⟩ := Option.map_eq_some_iff.mp executed
          refine ⟨?_, fun _ differs => queries_store_of_ne differs _⟩
          rw [SQLQueryHolderBase.setPreparedResult, queries_store_self present, Option.map_some,
            withKept, kept, queried]
          rfl

theorem executeQuery_spec {indices : List Nat}
    (executed : executeQuery connection indices holder = some next) (index : Nat) :
    next.queries index =
      if index ∈ indices then (holder.queries index).map (withKept connection index)
      else holder.queries index := by
  induction indices generalizing holder with
  | nil =>
      obtain rfl := Option.some.inj executed
      rfl
  | cons first rest ih =>
      obtain ⟨current, round, later⟩ := Option.bind_eq_some_iff.mp executed
      obtain ⟨self, others⟩ := executeAt_spec round
      rw [ih later]
      by_cases same : index = first
      · subst same
        rw [if_pos List.mem_cons_self, self, Option.map_map]
        split_ifs <;> rfl
      · rw [others index same]
        simp only [List.mem_cons, same, false_or]

end Task

end QueryResult

end WarheadBot
