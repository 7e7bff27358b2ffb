import Mathlib.Data.List.Basic

/-!
# Prepared statements of a pool

A statement taken from the pool keeps the data of its parameters and notes for
each of them whether it has been set.  The data is not empty before that: the
constructor puts the first alternative of the variant in every place, so a
parameter that was never set has a value as well.
-/

namespace WarheadBot

namespace MySQL

/-- Floating-point numbers are given by their bits. -/
inductive PreparedStatementData
  | bool (value : Bool)
  | uint8 (value : UInt8)
  | uint16 (value : UInt16)
  | uint32 (value : UInt32)
  | uint64 (value : UInt64)
  | int8 (value : Int8)
  | int16 (value : Int16)
  | int32 (value : Int32)
  | int64 (value : Int64)
  | float (bits : UInt32)
  | double (bits : UInt64)
  | string (value : String)
  | binary (bytes : List UInt8)
  | null
  deriving DecidableEq, Repr

structure PreparedStatementBase where
  index : Nat
  paramsSet : List Bool
  statementData : List PreparedStatementData
  sameSize : paramsSet.length = statementData.length
  sizeLt : statementData.length < 256
  deriving DecidableEq, Repr

namespace PreparedStatementBase

def create (index : Nat) (capacity : UInt8) : PreparedStatementBase :=
  { index := index
    paramsSet := List.replicate capacity.toNat false
    statementData := List.replicate capacity.toNat (.bool false)
    sameSize := by simp
    sizeLt := by simpa using capacity.toNat_lt }

/-- A parameter that the statement does not have fails the assertion. -/
def setValidData (stmt : PreparedStatementBase) (position : UInt8)
    (value : PreparedStatementData) : Option PreparedStatementBase :=
  if position.toNat < stmt.statementData.length then
    some { stmt with
      paramsSet := stmt.paramsSet.set position.toNat true
      statementData := stmt.statementData.set position.toNat value
      sameSize := by simpa using stmt.sameSize
      sizeLt := by simpa using stmt.sizeLt }
  else
    none

/-- A sequence of calls of `SetData`. -/
def setAll : PreparedStatementBase → List (UInt8 × PreparedStatementData) →
    Option PreparedStatementBase
  | stmt, [] => some stmt
  | stmt, (position, value) :: calls =>
      (stmt.setValidData position value).bind fun changed => changed.setAll calls

/-- The loop of `IsAllParamsSet` from a position on. -/
def isAllParamsSetFrom : Nat → List Bool → Bool × UInt8
  | _, [] => (true, 0)
  | position, isSet :: rest =>
      if !isSet then (false, UInt8.ofNat position) else isAllParamsSetFrom (position + 1) rest

/-- Whether all parameters are set and, if not, the first that is not. -/
def isAllParamsSet (stmt : PreparedStatementBase) : Bool × UInt8 :=
  isAllParamsSetFrom 0 stmt.paramsSet

theorem isAllParamsSetFrom_fst (position : Nat) (paramsSet : List Bool) :
    (isAllParamsSetFrom position paramsSet).1 = true ↔ ∀ isSet ∈ paramsSet, isSet = true := by
  induction paramsSet generalizing position with
  | nil => simp [isAllParamsSetFrom]
  | cons isSet rest induction =>
      cases isSet with
      | false => simp [isAllParamsSetFrom]
      | true => simpa [isAllParamsSetFrom] using induction (position + 1)

theorem isAllParamsSetFrom_snd {position : Nat} {paramsSet : List Bool} {notSetIndex : UInt8}
    (bound : position + paramsSet.length ≤ 256)
    (incomplete : isAllParamsSetFrom position paramsSet = (false, notSetIndex)) :
    ∃ offset, notSetIndex.toNat = position + offset ∧ paramsSet[offset]? = some false ∧
      ∀ earlier < offset, paramsSet[earlier]? = some true := by
  induction paramsSet generalizing position with
  | nil => simp [isAllParamsSetFrom] at incomplete
  | cons isSet rest induction =>
      rw [List.length_cons] at bound
      cases isSet with
      | false =>
          have index : UInt8.ofNat position = notSetIndex := by
            simpa [isAllParamsSetFrom] using incomplete
          refine ⟨0, ?_, rfl, fun earlier before => absurd before (Nat.not_lt_zero earlier)⟩
          have small : position < 2 ^ 8 := by omega
          rw [← index]
          exact UInt8.toNat_ofNat_of_lt' small
      | true =>
          have later : isAllParamsSetFrom (position + 1) rest = (false, notSetIndex) := by
            simpa [isAllParamsSetFrom] using incomplete
          obtain ⟨offset, index, unset, before⟩ := induction (by omega) later
          refine ⟨offset + 1, by omega, by simpa using unset, ?_⟩
          intro earlier less
          cases earlier with
          | zero => rfl
          | succ earlier => simpa using before earlier (by omega)

/-- The reported index is that of the first parameter that is not set. -/
theorem isAllParamsSet_notSetIndex {stmt : PreparedStatementBase} {notSetIndex : UInt8}
    (incomplete : stmt.isAllParamsSet = (false, notSetIndex)) :
    stmt.paramsSet[notSetIndex.toNat]? = some false ∧
      ∀ earlier < notSetIndex.toNat, stmt.paramsSet[earlier]? = some true := by
  have bound : 0 + stmt.paramsSet.length ≤ 256 := by
    have := stmt.sameSize
    have := stmt.sizeLt
    omega
  obtain ⟨offset, index, unset, before⟩ := isAllParamsSetFrom_snd bound incomplete
  rw [Nat.zero_add] at index
  rw [index]
  exact ⟨unset, before⟩

/-- All that a call that passes the assertion can have done. -/
theorem setValidData_cases {stmt changed : PreparedStatementBase} {position : UInt8}
    {value : PreparedStatementData}
    (passed : stmt.setValidData position value = some changed) :
    position.toNat < stmt.paramsSet.length ∧ changed.index = stmt.index ∧
      changed.paramsSet = stmt.paramsSet.set position.toNat true ∧
      changed.statementData = stmt.statementData.set position.toNat value := by
  unfold setValidData at passed
  split_ifs at passed with valid
  cases passed
  exact ⟨stmt.sameSize ▸ valid, rfl, rfl, rfl⟩

/-- The index and the number of parameters stay, and exactly the parameters
named by a call become set. -/
theorem setAll_paramsSet {stmt filled : PreparedStatementBase}
    {calls : List (UInt8 × PreparedStatementData)} (built : stmt.setAll calls = some filled) :
    filled.index = stmt.index ∧ filled.statementData.length = stmt.statementData.length ∧
      ∀ position < stmt.statementData.length, filled.paramsSet[position]? = some true ↔
        stmt.paramsSet[position]? = some true ∨
          position ∈ calls.map fun call => call.1.toNat := by
  induction calls generalizing stmt with
  | nil =>
      cases built
      simp
  | cons call calls induction =>
      obtain ⟨changed, passed, rest⟩ := Option.bind_eq_some_iff.mp built
      obtain ⟨valid, sameIndex, params, data⟩ := setValidData_cases passed
      obtain ⟨index, size, set⟩ := induction rest
      have sameLength : changed.statementData.length = stmt.statementData.length := by
        simp [data]
      refine ⟨index.trans sameIndex, size.trans sameLength, ?_⟩
      intro position inside
      rw [set position (sameLength ▸ inside), params, List.map_cons, List.mem_cons]
      by_cases here : call.1.toNat = position
      · subst here
        simp [valid]
      · have other : position ≠ call.1.toNat := fun same => here same.symm
        rw [List.getElem?_set_ne here]
        tauto

end PreparedStatementBase

/-- `DatabaseWorkerPool::GetPreparedStatement`. -/
def getPreparedStatement (preparedStatementSize : List UInt8) (index : Nat) :
    Option PreparedStatementBase :=
  preparedStatementSize[index]?.map (PreparedStatementBase.create index)

/-- A statement taken from the pool, with the parameters set on it since. -/
structure PoolStatement (preparedStatementSize : List UInt8) where
  index : Nat
  calls : List (UInt8 × PreparedStatementData)
  stmt : PreparedStatementBase
  built : ((getPreparedStatement preparedStatementSize index).bind fun taken =>
    taken.setAll calls) = some stmt
  deriving DecidableEq

namespace PoolStatement

variable {preparedStatementSize : List UInt8}

/-- Every parameter has been set by one of the calls. -/
def Complete (statement : PoolStatement preparedStatementSize) : Prop :=
  ∀ position < statement.stmt.statementData.length,
    position ∈ statement.calls.map fun call => call.1.toNat

instance : DecidablePred (@Complete preparedStatementSize) :=
  fun statement => inferInstanceAs (Decidable (∀ position < statement.stmt.statementData.length, _))

theorem taken (statement : PoolStatement preparedStatementSize) :
    ∃ size, preparedStatementSize[statement.index]? = some size ∧
      (PreparedStatementBase.create statement.index size).setAll statement.calls =
        some statement.stmt := by
  obtain ⟨first, got, set⟩ := Option.bind_eq_some_iff.mp statement.built
  obtain ⟨size, found, rfl⟩ := Option.map_eq_some_iff.mp got
  exact ⟨size, found, set⟩

theorem stmt_size (statement : PoolStatement preparedStatementSize) :
    statement.stmt.index = statement.index ∧
      preparedStatementSize[statement.index]?.map UInt8.toNat =
        some statement.stmt.statementData.length := by
  obtain ⟨size, found, set⟩ := statement.taken
  obtain ⟨index, length, -⟩ := PreparedStatementBase.setAll_paramsSet set
  refine ⟨index, ?_⟩
  rw [found, length]
  simp [PreparedStatementBase.create]

/-- The check of the pool finds exactly the statements with all parameters
set. -/
theorem isAllParamsSet_iff (statement : PoolStatement preparedStatementSize) :
    statement.stmt.isAllParamsSet.1 = true ↔ statement.Complete := by
  obtain ⟨size, -, set⟩ := statement.taken
  obtain ⟨-, length, params⟩ := PreparedStatementBase.setAll_paramsSet set
  have created : ∀ position : Nat,
      (PreparedStatementBase.create statement.index size).paramsSet[position]? ≠ some true := by
    intro position
    simp [PreparedStatementBase.create, List.getElem?_replicate]
  rw [PreparedStatementBase.isAllParamsSet, PreparedStatementBase.isAllParamsSetFrom_fst,
    List.forall_mem_iff_getElem, Complete]
  have sameSize := statement.stmt.sameSize
  constructor
  · intro allSet position inside
    have isSet : statement.stmt.paramsSet[position]? = some true := by
      rw [List.getElem?_eq_getElem (sameSize ▸ inside), allSet position (sameSize ▸ inside)]
    exact ((params position (length ▸ inside)).mp isSet).resolve_left (created position)
  · intro complete position inside
    have isSet := (params position (length ▸ sameSize ▸ inside)).mpr
      (.inr (complete position (sameSize ▸ inside)))
    exact (List.getElem_of_getElem? isSet).2

end PoolStatement

end MySQL

end WarheadBot
