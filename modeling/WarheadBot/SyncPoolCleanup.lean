import WarheadBot.SyncPool
import Mathlib.Data.List.Nodup

/-!
# Connections in use and the cleanup

The cleanup looks only at the time of the last completed query, not at the
mutex of the connection.  A connection in use therefore stays in the pool in
exactly those runs in which each test of a dynamic connection that is in use
comes less than a second after its last use.
-/

namespace WarheadBot

namespace SyncPool

open GuardedRuns
open MySQL (dynamicConnectionTimeout)

/-- Every connection that was handed out and not unlocked is in the pool. -/
def HeldInPool (state : State) : Prop :=
  ∀ index, ∀ connection ∈ state.connections[index]?, connection.locked = true →
    index ∈ state.pool

def State.tested (state : State) : Label → Option Nat
  | .testConnection =>
      match state.cleanupMutex with
      | .cleaning (index :: _) => some index
      | _ => none
  | _ => none

/-- A dynamic connection that is in use when it is tested was used, or opened,
less than a second ago. -/
def UsedRecently (state : State) (label : Label) : Prop :=
  ∀ index ∈ state.tested label, ∀ connection ∈ state.connections[index]?,
    connection.isDynamic = true → connection.locked = true →
      state.clock - connection.lastUseTime < dynamicConnectionTimeout

instance (state : State) (label : Label) : Decidable (UsedRecently state label) :=
  inferInstanceAs (Decidable (∀ index ∈ state.tested label, _))

/-- The pool has no connection twice, and a scan is over the pool. -/
structure Consistent (state : State) : Prop where
  distinct : state.pool.Nodup
  bounded : ∀ index ∈ state.pool, index < state.connections.length
  scanned : ∀ todo, state.cleanupMutex = .scanning todo → ∀ index ∈ todo, index ∈ state.pool

theorem consistent_start : Consistent start := by
  constructor <;> simp [start]

section Steps

variable {state next : State} {label : Label}

theorem updateHeld_eq_some {index : Nat} {change : Connection → Connection}
    (moved : state.updateHeld index change = some next) :
    (∃ connection ∈ state.connections[index]?, connection.locked = true) ∧
      next = { state with connections := state.connections.modify index change } := by
  unfold State.updateHeld at moved
  rw [Option.bind_eq_some_iff] at moved
  obtain ⟨connection, found, used⟩ := moved
  split_ifs at used with locked
  cases used
  exact ⟨⟨connection, found, locked⟩, rfl⟩

theorem consistent_modify (consistent : Consistent state) (index : Nat)
    (change : Connection → Connection) :
    Consistent { state with connections := state.connections.modify index change } := by
  refine ⟨consistent.distinct, ?_, consistent.scanned⟩
  intro other member
  rw [List.length_modify]
  exact consistent.bounded other member

theorem consistent_lockIfReady {index : Nat} {otherwise : CleanupMutex}
    (consistent : Consistent state)
    (scanned : ∀ todo, otherwise = .scanning todo → ∀ other ∈ todo, other ∈ state.pool)
    (moved : state.lockIfReady index otherwise = some next) : Consistent next := by
  unfold State.lockIfReady at moved
  rw [Option.map_eq_some_iff] at moved
  obtain ⟨connection, _, rfl⟩ := moved
  split_ifs
  · exact ⟨consistent.distinct, consistent.bounded, scanned⟩
  · refine ⟨consistent.distinct, ?_, nofun⟩
    exact (consistent_modify consistent index Connection.lock).bounded

theorem consistent_step (consistent : Consistent state)
    (moved : step state label = some next) : Consistent next := by
  cases poolStep_of_step moved with
  | clockSet time => exact ⟨consistent.distinct, consistent.bounded, consistent.scanned⟩
  | scanStarted free =>
      refine ⟨consistent.distinct, consistent.bounded, ?_⟩
      rintro todo equal index member
      cases equal
      exact member
  | scanned owner tried =>
      refine consistent_lockIfReady consistent ?_ tried
      rintro rest equal other member
      cases equal
      exact consistent.scanned _ owner other (List.mem_cons_of_mem _ member)
  | opened owner room =>
      refine ⟨?_, ?_, nofun⟩
      · rw [List.nodup_append]
        refine ⟨consistent.distinct, by simp, ?_⟩
        intro index member other new same
        rw [List.mem_singleton.mp new] at same
        have bound := consistent.bounded index member
        omega
      · intro index member
        rw [List.length_append, List.length_singleton]
        rcases List.mem_append.mp member with old | new
        · have bound := consistent.bounded index old
          omega
        · rw [List.mem_singleton.mp new]
          omega
  | spun owner found tried =>
      refine consistent_lockIfReady consistent ?_ tried
      intro todo equal
      cases equal
  | queryEnded updated =>
      obtain ⟨_, rfl⟩ := updateHeld_eq_some updated
      exact consistent_modify consistent _ _
  | unlocked updated =>
      obtain ⟨_, rfl⟩ := updateHeld_eq_some updated
      exact consistent_modify consistent _ _
  | tested owner found =>
      refine ⟨?_, ?_, nofun⟩
      · dsimp only
        split_ifs
        · exact consistent.distinct.erase _
        · exact consistent.distinct
      · intro index member
        dsimp only at member
        split_ifs at member
        · exact consistent.bounded index (List.mem_of_mem_erase member)
        · exact consistent.bounded index member
  | _ => exact ⟨consistent.distinct, consistent.bounded, nofun⟩

theorem heldInPool_modify (held : HeldInPool state) (index : Nat)
    (change : Connection → Connection) (inPool : index ∈ state.pool) :
    HeldInPool { state with connections := state.connections.modify index change } := by
  intro other connection found locked
  by_cases same : other = index
  · rw [same]
    exact inPool
  · simp only [List.getElem?_modify, Ne.symm same, if_false, Option.map_eq_map,
      Option.map_id_fun', id_eq] at found
    exact held other connection found locked

theorem heldInPool_updateHeld {index : Nat} {change : Connection → Connection}
    (held : HeldInPool state) (moved : state.updateHeld index change = some next) :
    HeldInPool next := by
  obtain ⟨⟨connection, found, locked⟩, rfl⟩ := updateHeld_eq_some moved
  exact heldInPool_modify held index change (held index connection found locked)

theorem heldInPool_lockIfReady {index : Nat} {otherwise : CleanupMutex}
    (held : HeldInPool state) (inPool : index ∈ state.pool)
    (moved : state.lockIfReady index otherwise = some next) : HeldInPool next := by
  unfold State.lockIfReady at moved
  rw [Option.map_eq_some_iff] at moved
  obtain ⟨connection, _, rfl⟩ := moved
  split_ifs
  · exact held
  · exact heldInPool_modify held index Connection.lock inPool

/-- The test of a connection in use keeps it in the pool exactly if it was used
recently. -/
theorem heldInPool_testConnection {index : Nat} {todo : List Nat} {connection : Connection}
    (consistent : Consistent state) (held : HeldInPool state)
    (owner : state.cleanupMutex = .cleaning (index :: todo))
    (found : state.connections[index]? = some connection) :
    HeldInPool { state with
      pool := if connection.canRemoveConnection state.clock then
          state.pool.erase index
        else
          state.pool
      cleanupMutex := .cleaning todo } ↔
    UsedRecently state .testConnection := by
  have tested : UsedRecently state .testConnection ↔
      (connection.isDynamic = true → connection.locked = true →
        state.clock - connection.lastUseTime < dynamicConnectionTimeout) := by
    simp [UsedRecently, State.tested, owner, found]
  rw [tested]
  unfold Connection.canRemoveConnection MySQL.canRemoveConnection
  constructor
  · intro kept isDynamic locked
    by_contra overdue
    have removed := kept index connection found locked
    rw [isDynamic, Bool.true_and, decide_eq_true (by omega), if_pos rfl,
      consistent.distinct.mem_erase_iff] at removed
    exact removed.1 rfl
  · intro recent other used usedFound locked
    have member := held other used usedFound locked
    dsimp only
    split_ifs with removable
    · rw [Bool.and_eq_true, decide_eq_true_eq] at removable
      rw [consistent.distinct.mem_erase_iff]
      refine ⟨?_, member⟩
      rintro rfl
      rw [usedFound, Option.some.injEq] at found
      subst found
      have bound := recent removable.1 locked
      omega
    · exact member

theorem heldInPool_step (consistent : Consistent state) (held : HeldInPool state)
    (moved : step state label = some next) : HeldInPool next ↔ UsedRecently state label := by
  have untested : state.tested label = none → UsedRecently state label := by
    intro nothing index member
    rw [nothing] at member
    cases member
  cases poolStep_of_step moved with
  | scanned owner tried =>
      have inPool := consistent.scanned _ owner _ List.mem_cons_self
      exact iff_of_true (heldInPool_lockIfReady held inPool tried) (untested rfl)
  | opened owner room =>
      refine iff_of_true ?_ (untested rfl)
      intro index connection found locked
      rw [List.mem_append]
      by_cases old : index < state.connections.length
      · rw [List.getElem?_append_left old] at found
        exact .inl (held index connection found locked)
      · rw [List.getElem?_append_right (by omega)] at found
        rw [List.mem_singleton]
        have last : index - state.connections.length = 0 := by
          by_contra later
          simp [later] at found
        omega
  | spun owner found tried =>
      have inPool := List.mem_of_getElem? found
      exact iff_of_true (heldInPool_lockIfReady held inPool tried) (untested rfl)
  | queryEnded updated => exact iff_of_true (heldInPool_updateHeld held updated) (untested rfl)
  | unlocked updated => exact iff_of_true (heldInPool_updateHeld held updated) (untested rfl)
  | tested owner found => exact heldInPool_testConnection consistent held owner found
  | _ => exact iff_of_true held (untested rfl)

end Steps

theorem heldInPool_start : HeldInPool start := by
  intro index connection found locked
  cases index with
  | zero =>
      cases found
      cases locked
  | succ index => simp [start] at found

/-- Along a run, every connection in use stays in the pool if and only if every
test of a dynamic connection in use comes less than a second after its last
use. -/
theorem heldInPool_iff_usedRecently {labels : List Label} {state : State}
    (reached : exec step start labels = some state) :
    Always step HeldInPool start labels ↔ Meets step UsedRecently start labels :=
  always_iff_meets consistent_step heldInPool_step reached consistent_start heldInPool_start

/-- Two threads take a connection, the second one a dynamic connection; the
cleanup comes after the given time. -/
def cleanupDuringQuery (time : Int) : List Label :=
  [.getFreeConnection, .scan, .getFreeConnection, .scan, .openDynamicSyncConnect true, .spin,
    .setClock time, .cleanupConnections, .testConnection, .testConnection, .endCleanup]

theorem short_query_keeps_connection :
    Always step HeldInPool start (cleanupDuringQuery 999) := by
  have recent : Meets step UsedRecently start (cleanupDuringQuery 999) := by
    decide
  exact (heldInPool_iff_usedRecently rfl).mpr recent

/-- After a second the connection is removed while its query runs. -/
theorem long_query_loses_connection :
    ∃ state, exec step start (cleanupDuringQuery 1000) = some state ∧ ¬ HeldInPool state := by
  refine ⟨_, rfl, ?_⟩
  intro held
  have inPool : 1 ∈ [0] := held 1 ⟨true, true, 0⟩ rfl rfl
  simp at inPool

end SyncPool

end WarheadBot
