import WarheadBot.LittleEndian
import WarheadBot.OwnedMemory
import WarheadBot.PreparedStatement

/-!
# Binding the parameters of a prepared statement

A connection keeps one `MySQLPreparedStatement` for each statement, and each
call of `Execute` and `Query` binds its own data there.  The values are copied
into buffers that the client library reads through pointers, and they are given
back when the call returns.  A call that is repeated after a recovery binds over
what the attempt before it has left.

What the client library reads is a parameter; what is documented of it is a
hypothesis.
-/

namespace WarheadBot

namespace MySQL

namespace Binding

open OwnedMemory

/-- What `new char[len]` and `new unsigned long` allocate. -/
inductive Cell
  | chars (bytes : List UInt8)
  | long (value : Nat)
  deriving DecidableEq, Repr

def Cell.isChars : Cell → Bool
  | chars _ => true
  | long _ => false

def Cell.isLong : Cell → Bool
  | chars _ => false
  | long _ => true

/-- `enum_field_types`, of which zero is `MYSQL_TYPE_DECIMAL`. -/
inductive FieldType
  | decimal
  | tiny
  | short
  | long
  | float
  | double
  | null
  | longlong
  | varString
  | blob
  deriving DecidableEq, Repr

/-- The fields of `MYSQL_BIND` that are written. -/
structure Bind where
  bufferType : FieldType
  buffer : Option Nat
  bufferLength : Nat
  isNullValue : Bool
  length : Option Nat
  isUnsigned : Bool
  deriving DecidableEq, Repr

def Bind.zero : Bind := ⟨.decimal, none, 0, false, none, false⟩

/-- A parameter has no place in the statement, so that the assertion fails, or a
pointer is deleted that may not be. -/
inductive Fault
  | invalidIndex | badDelete
  deriving DecidableEq, Repr

/-- `_paramsSet` and `_bind` of the statement, with the memory and the positions
that were reported as already bound. -/
structure State where
  heap : Heap Cell
  paramsSet : List Bool
  bind : List Bind
  alreadyBound : List Nat

def State.create (heap : Heap Cell) (paramCount : Nat) : State :=
  ⟨heap, List.replicate paramCount false, List.replicate paramCount .zero, []⟩

/-- The overloads of `SetParameter`: a number with the type and the bytes of its
copy, a null pointer, and a text or a vector. -/
inductive Parameter
  | number (bufferType : FieldType) (isUnsigned : Bool) (bytes : List UInt8)
  | null
  | bytes (bufferType : FieldType) (value : List UInt8)
  deriving DecidableEq, Repr

/-- The overload that `std::visit` chooses. -/
def parameter : PreparedStatementData → Parameter
  | .bool value => .number .tiny true (LittleEndian.toBytes 1 (if value then 1 else 0))
  | .uint8 value => .number .tiny true (LittleEndian.toBytes 1 value.toNat)
  | .uint16 value => .number .short true (LittleEndian.toBytes 2 value.toNat)
  | .uint32 value => .number .long true (LittleEndian.toBytes 4 value.toNat)
  | .uint64 value => .number .longlong true (LittleEndian.toBytes 8 value.toNat)
  | .int8 value => .number .tiny false (LittleEndian.toBytes 1 value.toBitVec.toNat)
  | .int16 value => .number .short false (LittleEndian.toBytes 2 value.toBitVec.toNat)
  | .int32 value => .number .long false (LittleEndian.toBytes 4 value.toBitVec.toNat)
  | .int64 value => .number .longlong false (LittleEndian.toBytes 8 value.toBitVec.toNat)
  | .float bits => .number .float false (LittleEndian.toBytes 4 bits.toNat)
  | .double bits => .number .double false (LittleEndian.toBytes 8 bits.toNat)
  | .string value => .bytes .varString value.toUTF8.data.toList
  | .binary value => .bytes .blob value
  | .null => .null

section

variable (allocator : Allocator Cell)

/-- `delete` and `delete[]`. -/
def free (isKind : Cell → Bool) (heap : Heap Cell) (pointer : Option Nat) :
    Except Fault (Heap Cell) :=
  match delete isKind heap pointer with
  | none => .error .badDelete
  | some freed => .ok freed

/-- A bind after a number was set, with the memory after that. -/
def setNumber (heap : Heap Cell) (bind : Bind) (bufferType : FieldType) (isUnsigned : Bool)
    (bytes : List UInt8) : Except Fault (Bind × Heap Cell) := do
  let freed ← free Cell.isChars heap bind.buffer
  let (buffer, filled) := allocator.new freed (.chars bytes)
  -- The length is overwritten and not deleted.
  return ({ bind with
      bufferType := bufferType
      buffer := some buffer
      bufferLength := 0
      isNullValue := false
      length := none
      isUnsigned := isUnsigned }, filled)

def setNull (heap : Heap Cell) (bind : Bind) : Except Fault (Bind × Heap Cell) := do
  let freed ← free Cell.isChars heap bind.buffer
  let cleared ← free Cell.isLong freed bind.length
  return ({ bind with
      bufferType := .null
      buffer := none
      bufferLength := 0
      isNullValue := true
      length := none }, cleared)

/-- The length of the text or vector is taken modulo 2³². -/
def setBytes (heap : Heap Cell) (bind : Bind) (bufferType : FieldType) (value : List UInt8) :
    Except Fault (Bind × Heap Cell) := do
  let len := value.length % 2 ^ 32
  let freed ← free Cell.isChars heap bind.buffer
  let (buffer, filled) := allocator.new freed (.chars (value.take len))
  let released ← free Cell.isLong filled bind.length
  let (length, measured) := allocator.new released (.long len)
  return ({ bind with
      bufferType := bufferType
      buffer := some buffer
      bufferLength := len
      isNullValue := false
      length := some length }, measured)

def set (heap : Heap Cell) (bind : Bind) : Parameter → Except Fault (Bind × Heap Cell)
  | .number bufferType isUnsigned bytes =>
      setNumber allocator heap bind bufferType isUnsigned bytes
  | .null => setNull heap bind
  | .bytes bufferType value => setBytes allocator heap bind bufferType value

/-- `SetParameter` with the assertion of `AssertValidIndex`. -/
def State.setParameter (state : State) (index : UInt8) (value : Parameter) :
    Except Fault State :=
  match state.bind[index.toNat]? with
  | none => .error .invalidIndex
  | some bind => do
      let (changed, heap) ← set allocator state.heap bind value
      return {
        heap := heap
        paramsSet := state.paramsSet.set index.toNat true
        bind := state.bind.set index.toNat changed
        alreadyBound := state.alreadyBound ++
          if state.paramsSet[index.toNat]? = some true then [index.toNat] else [] }

/-- The loop of `BindParameters`. -/
def State.bindFrom : State → UInt8 → List PreparedStatementData → Except Fault State
  | state, _, [] => .ok state
  | state, pos, data :: rest => do
      let changed ← state.setParameter allocator pos (parameter data)
      changed.bindFrom (pos + 1) rest

def State.bindParameters (state : State) (stmt : PreparedStatementBase) : Except Fault State :=
  state.bindFrom allocator 0 stmt.statementData

end

def clearBinds : Heap Cell → List Bind → Except Fault (Heap Cell × List Bind)
  | heap, [] => .ok (heap, [])
  | heap, bind :: binds => do
      let released ← free Cell.isLong heap bind.length
      let freed ← free Cell.isChars released bind.buffer
      let (after, cleared) ← clearBinds freed binds
      return (after, { bind with length := none, buffer := none } :: cleared)

def State.clearParameters (state : State) : Except Fault State := do
  let (heap, binds) ← clearBinds state.heap state.bind
  return { state with
    heap := heap
    paramsSet := List.replicate state.bind.length false
    bind := binds }

/-- What a parameter is for the server. -/
inductive SqlValue
  | null
  | integer (value : Int)
  | float (bits : UInt32)
  | double (bits : UInt64)
  | text (bytes : List UInt8)
  | blob (bytes : List UInt8)
  deriving DecidableEq, Repr

/-- The value that was given to `SetData`. -/
def value : PreparedStatementData → SqlValue
  | .bool value => .integer (if value then 1 else 0)
  | .uint8 value => .integer value.toNat
  | .uint16 value => .integer value.toNat
  | .uint32 value => .integer value.toNat
  | .uint64 value => .integer value.toNat
  | .int8 value => .integer value.toInt
  | .int16 value => .integer value.toInt
  | .int32 value => .integer value.toInt
  | .int64 value => .integer value.toInt
  | .float bits => .float bits
  | .double bits => .double bits
  | .string value => .text value.toUTF8.data.toList
  | .binary value => .blob value
  | .null => .null

/-- Texts and vectors have a length of 32 bits. -/
def Sized : PreparedStatementData → Prop
  | .string value => value.toUTF8.data.toList.length < 2 ^ 32
  | .binary value => value.length < 2 ^ 32
  | _ => True

/-- The bytes that the library reads of an integer. -/
def FieldType.integerSize : FieldType → Option Nat
  | tiny => some 1
  | short => some 2
  | long => some 4
  | longlong => some 8
  | _ => none

/-- What the client library takes from a bind. -/
abbrev Read := Memory Cell → Bind → Option SqlValue

/-- What is documented of the client library: how the buffer is read for each type. -/
structure Documented (read : Read) : Prop where
  integer : ∀ memory bind size bytes, bind.bufferType.integerSize = some size →
    bind.buffer.bind memory.lookup = some (.chars bytes) → bytes.length = size →
      read memory bind = some (.integer (if bind.isUnsigned then LittleEndian.ofBytes bytes
        else (BitVec.ofNat (8 * size) (LittleEndian.ofBytes bytes)).toInt))
  float : ∀ memory bind bytes, bind.bufferType = .float →
    bind.buffer.bind memory.lookup = some (.chars bytes) → bytes.length = 4 →
      read memory bind = some (.float (UInt32.ofNat (LittleEndian.ofBytes bytes)))
  double : ∀ memory bind bytes, bind.bufferType = .double →
    bind.buffer.bind memory.lookup = some (.chars bytes) → bytes.length = 8 →
      read memory bind = some (.double (UInt64.ofNat (LittleEndian.ofBytes bytes)))
  null : ∀ memory bind, bind.bufferType = .null → read memory bind = some .null
  text : ∀ memory bind bytes, bind.bufferType = .varString →
    bind.buffer.bind memory.lookup = some (.chars bytes) →
    bind.length.bind memory.lookup = some (.long bytes.length) →
      read memory bind = some (.text bytes)
  blob : ∀ memory bind bytes, bind.bufferType = .blob →
    bind.buffer.bind memory.lookup = some (.chars bytes) →
    bind.length.bind memory.lookup = some (.long bytes.length) →
      read memory bind = some (.blob bytes)

/-- A call of `Execute` or `Query`, with the number of attempts that fail and
are followed by a recovery.  The last attempt succeeds or fails for good. -/
structure Call where
  stmt : PreparedStatementBase
  recoveries : Nat

/-- The state that a call leaves and what each attempt gives the client library
to read. -/
structure Outcome where
  state : State
  reads : List (List (Option SqlValue))

def State.reads (read : Read) (state : State) : List (Option SqlValue) :=
  state.bind.map (read state.heap.memory)

section

variable (allocator : Allocator Cell) (read : Read)

def execute (stmt : PreparedStatementBase) : Nat → State → Except Fault Outcome
  | 0, state => do
      let bound ← state.bindParameters allocator stmt
      let cleared ← bound.clearParameters
      return ⟨cleared, [bound.reads read]⟩
  | recoveries + 1, state => do
      let bound ← state.bindParameters allocator stmt
      let outcome ← execute stmt recoveries bound
      return ⟨outcome.state, bound.reads read :: outcome.reads⟩

/-- The calls of a connection that use the statement, one after the other. -/
def run : State → List Call → Except Fault Outcome
  | state, [] => .ok ⟨state, []⟩
  | state, call :: calls => do
      let outcome ← execute allocator read call.stmt call.recoveries state
      let rest ← run outcome.state calls
      return ⟨rest.state, outcome.reads ++ rest.reads⟩

end

section Owners

/-- The cells of a bind, which has been cleared or holds a parameter. -/
inductive Owns (bind : Bind) : Option Parameter → Cells Cell → Prop
  | cleared (noBuffer : bind.buffer = none) (noLength : bind.length = none) : Owns bind none 0
  | number {buffer : Nat} {bytes : List UInt8} (points : bind.buffer = some buffer)
      (noLength : bind.length = none) :
      Owns bind (some (.number bind.bufferType bind.isUnsigned bytes)) {⟨buffer, .chars bytes⟩}
  | null (isNull : bind.bufferType = .null) (noBuffer : bind.buffer = none)
      (noLength : bind.length = none) : Owns bind (some .null) 0
  | bytes {buffer length : Nat} {value : List UInt8} (points : bind.buffer = some buffer)
      (measures : bind.length = some length) :
      Owns bind (some (.bytes bind.bufferType value))
        ({⟨buffer, .chars (value.take (value.length % 2 ^ 32))⟩} +
          {⟨length, .long (value.length % 2 ^ 32)⟩})

variable {bind : Bind} {held : Option Parameter} {own rest : Cells Cell} {heap : Heap Cell}
  {memory : Memory Cell}

theorem free_points {isKind : Cell → Bool} {pointer : Option Nat}
    (points : Points isKind pointer own) (entries : heap.memory.entries = own + rest) :
    ∃ after, free isKind heap pointer = .ok after ∧ after.memory.entries = rest := by
  obtain ⟨after, deleted, afterEntries⟩ := delete_points points entries
  exact ⟨after, by rw [free, deleted], afterEntries⟩

/-- The cells are those of the two pointers. -/
theorem Owns.points (owns : Owns bind held own) :
    ∃ buffer length, own = buffer + length ∧ Points Cell.isChars bind.buffer buffer ∧
      Points Cell.isLong bind.length length := by
  cases owns with
  | cleared noBuffer noLength =>
      rw [noBuffer, noLength]
      exact ⟨0, 0, rfl, .null, .null⟩
  | number points noLength =>
      rw [points, noLength]
      exact ⟨_, 0, (add_zero _).symm, .cell rfl, .null⟩
  | null _ noBuffer noLength =>
      rw [noBuffer, noLength]
      exact ⟨0, 0, rfl, .null, .null⟩
  | bytes points measures =>
      rw [points, measures]
      exact ⟨_, _, rfl, .cell rfl, .cell rfl⟩

/-- Numbers have no length that could be lost. -/
theorem Owns.noLength {bufferType : FieldType} {isUnsigned : Bool} {bytes : List UInt8}
    (owns : Owns bind held own)
    (same : held = none ∨ held = some (.number bufferType isUnsigned bytes)) :
    bind.length = none := by
  rcases same with rfl | rfl
  · cases owns with
    | cleared _ noLength => exact noLength
  · cases owns with
    | number _ noLength => exact noLength

/-- A parameter is set on a bind that is cleared or holds the same parameter:
the old cells are given back, and the new ones are those of the parameter. -/
theorem set_owns (allocator : Allocator Cell) {value : Parameter} (owns : Owns bind held own)
    (same : held = none ∨ held = some value) (entries : heap.memory.entries = own + rest) :
    ∃ changed after new, set allocator heap bind value = .ok (changed, after) ∧
      Owns changed (some value) new ∧ after.memory.entries = new + rest := by
  cases value with
  | number bufferType isUnsigned bytes =>
      have noLength := owns.noLength same
      obtain ⟨buffer, length, rfl, pointsBuffer, pointsLength⟩ := owns.points
      rw [noLength] at pointsLength
      cases pointsLength
      rw [add_zero] at entries
      obtain ⟨freed, isFreed, freedEntries⟩ := free_points pointsBuffer entries
      let filled := allocator.new freed (.chars bytes)
      let changed : Bind := ⟨bufferType, some filled.1, 0, false, none, isUnsigned⟩
      have sets : setNumber allocator heap bind bufferType isUnsigned bytes =
          .ok (changed, filled.2) := by
        rw [setNumber, isFreed]
        rfl
      refine ⟨changed, filled.2, _, sets, .number rfl rfl, ?_⟩
      rw [new_entries, freedEntries, Multiset.singleton_add]
  | null =>
      obtain ⟨buffer, length, rfl, pointsBuffer, pointsLength⟩ := owns.points
      rw [add_assoc] at entries
      obtain ⟨freed, isFreed, freedEntries⟩ := free_points pointsBuffer entries
      obtain ⟨cleared, isCleared, clearedEntries⟩ := free_points pointsLength freedEntries
      have sets : setNull heap bind = .ok (⟨.null, none, 0, true, none, bind.isUnsigned⟩,
          cleared) := by
        rw [setNull, isFreed]
        exact congrArg (Except.map _) isCleared
      refine ⟨_, _, _, sets, .null rfl rfl rfl, ?_⟩
      rw [clearedEntries, zero_add]
  | bytes bufferType value =>
      obtain ⟨buffer, length, rfl, pointsBuffer, pointsLength⟩ := owns.points
      rw [add_assoc] at entries
      obtain ⟨freed, isFreed, freedEntries⟩ := free_points pointsBuffer entries
      let len := value.length % 2 ^ 32
      let filled := allocator.new freed (.chars (value.take len))
      have filledEntries : filled.2.memory.entries =
          length + ({⟨filled.1, .chars (value.take len)⟩} + rest) := by
        rw [new_entries, freedEntries, ← Multiset.singleton_add, add_left_comm]
      obtain ⟨released, isReleased, releasedEntries⟩ :=
        free_points pointsLength filledEntries
      let measured := allocator.new released (.long len)
      let changed : Bind :=
        ⟨bufferType, some filled.1, len, false, some measured.1, bind.isUnsigned⟩
      have sets : setBytes allocator heap bind bufferType value = .ok (changed, measured.2) := by
        rw [setBytes, isFreed]
        exact congrArg (Except.map _) isReleased
      refine ⟨changed, measured.2, _, sets, .bytes rfl rfl, ?_⟩
      rw [new_entries, releasedEntries, ← Multiset.singleton_add, ← add_assoc]
      exact congrArg (· + rest) (add_comm _ _)

section Reads

variable {bufferType : FieldType} {isUnsigned : Bool} {size number : Nat} {read : Read}

/-- The buffer of a number has its bytes. -/
theorem buffer_of_owns {bytes : List UInt8}
    (owns : Owns bind (some (.number bufferType isUnsigned bytes)) own)
    (entries : own ⊆ memory.entries) :
    bind.bufferType = bufferType ∧ bind.isUnsigned = isUnsigned ∧
      bind.buffer.bind memory.lookup = some (.chars bytes) := by
  cases owns with
  | number points noLength =>
      have found := lookup_of_mem_entries (entries (Multiset.mem_singleton_self _))
      exact ⟨rfl, rfl, by rw [points, Option.bind_some, found]⟩

theorem readUnsigned_of_owns (documented : Documented read)
    (owns : Owns bind (some (.number bufferType true (LittleEndian.toBytes size number))) own)
    (entries : own ⊆ memory.entries) (sized : bufferType.integerSize = some size)
    (fits : number < 256 ^ size) : read memory bind = some (.integer number) := by
  obtain ⟨type, sign, buffer⟩ := buffer_of_owns owns entries
  rw [documented.integer memory bind size _ (type ▸ sized) buffer
    (LittleEndian.length_toBytes size number), sign, LittleEndian.ofBytes_toBytes fits]
  rfl

theorem readSigned_of_owns (documented : Documented read) {bits : BitVec (8 * size)}
    (owns : Owns bind (some (.number bufferType false (LittleEndian.toBytes size bits.toNat))) own)
    (entries : own ⊆ memory.entries) (sized : bufferType.integerSize = some size) :
    read memory bind = some (.integer bits.toInt) := by
  have fits : bits.toNat < 256 ^ size := by
    have bound := bits.isLt
    rwa [pow_mul] at bound
  obtain ⟨type, sign, buffer⟩ := buffer_of_owns owns entries
  rw [documented.integer memory bind size _ (type ▸ sized) buffer
    (LittleEndian.length_toBytes size bits.toNat), sign, LittleEndian.ofBytes_toBytes fits,
    BitVec.ofNat_toNat, BitVec.setWidth_eq]
  rfl

/-- A text or vector is there with its length. -/
theorem bytes_of_owns {value : List UInt8}
    (owns : Owns bind (some (.bytes bufferType value)) own) (entries : own ⊆ memory.entries)
    (sized : value.length < 2 ^ 32) :
    bind.bufferType = bufferType ∧ bind.buffer.bind memory.lookup = some (.chars value) ∧
      bind.length.bind memory.lookup = some (.long value.length) := by
  cases owns with
  | bytes points measures =>
      rw [Nat.mod_eq_of_lt sized, List.take_length] at entries
      have found := lookup_of_mem_entries (entries (Multiset.mem_add.mpr
        (.inl (Multiset.mem_singleton_self _))))
      have measured := lookup_of_mem_entries (entries (Multiset.mem_add.mpr
        (.inr (Multiset.mem_singleton_self _))))
      exact ⟨rfl, by rw [points, Option.bind_some, found],
        by rw [measures, Option.bind_some, measured]⟩

/-- The client library reads the value that was given to `SetData`. -/
theorem read_of_owns (documented : Documented read) {data : PreparedStatementData}
    (owns : Owns bind (some (parameter data)) own) (entries : own ⊆ memory.entries)
    (sized : Sized data) : read memory bind = some (value data) := by
  cases data with
  | bool flag =>
      have small : (if flag then 1 else 0) < 256 ^ 1 := by cases flag <;> decide
      refine (readUnsigned_of_owns documented owns entries rfl small).trans ?_
      cases flag <;> rfl
  | uint8 number => exact readUnsigned_of_owns documented owns entries rfl number.toNat_lt
  | uint16 number => exact readUnsigned_of_owns documented owns entries rfl number.toNat_lt
  | uint32 number => exact readUnsigned_of_owns documented owns entries rfl number.toNat_lt
  | uint64 number => exact readUnsigned_of_owns documented owns entries rfl number.toNat_lt
  | int8 number =>
      exact @readSigned_of_owns _ _ _ _ 1 _ documented number.toBitVec owns entries rfl
  | int16 number =>
      exact @readSigned_of_owns _ _ _ _ 2 _ documented number.toBitVec owns entries rfl
  | int32 number =>
      exact @readSigned_of_owns _ _ _ _ 4 _ documented number.toBitVec owns entries rfl
  | int64 number =>
      exact @readSigned_of_owns _ _ _ _ 8 _ documented number.toBitVec owns entries rfl
  | float bits =>
      obtain ⟨type, -, buffer⟩ := buffer_of_owns owns entries
      rw [documented.float memory bind _ type buffer (LittleEndian.length_toBytes _ _),
        LittleEndian.ofBytes_toBytes bits.toNat_lt, UInt32.ofNat_toNat, value]
  | double bits =>
      obtain ⟨type, -, buffer⟩ := buffer_of_owns owns entries
      rw [documented.double memory bind _ type buffer (LittleEndian.length_toBytes _ _),
        LittleEndian.ofBytes_toBytes bits.toNat_lt, UInt64.ofNat_toNat, value]
  | string text =>
      obtain ⟨type, buffer, length⟩ := bytes_of_owns owns entries sized
      exact documented.text memory bind _ type buffer length
  | binary bytes =>
      obtain ⟨type, buffer, length⟩ := bytes_of_owns owns entries sized
      exact documented.blob memory bind _ type buffer length
  | null =>
      cases owns with
      | null isNull _ _ => exact documented.null memory bind isNull

end Reads

/-- The cells of a bind array, each bind with what it holds. -/
inductive OwnsAll : List Bind → List (Option Parameter) → Cells Cell → Prop
  | nil : OwnsAll [] [] 0
  | cons {bind : Bind} {binds : List Bind} {held : Option Parameter}
      {helds : List (Option Parameter)} {own rest : Cells Cell} (owns : Owns bind held own)
      (ownsRest : OwnsAll binds helds rest) :
      OwnsAll (bind :: binds) (held :: helds) (own + rest)

variable {binds : List Bind} {helds : List (Option Parameter)} {cells : Cells Cell}

theorem OwnsAll.length_eq (owns : OwnsAll binds helds cells) : binds.length = helds.length := by
  induction owns with
  | nil => rfl
  | cons _ _ ih => rw [List.length_cons, List.length_cons, ih]

theorem ownsAll_zero (paramCount : Nat) :
    OwnsAll (List.replicate paramCount .zero) (List.replicate paramCount none) 0 := by
  induction paramCount with
  | zero => exact .nil
  | succ paramCount ih => exact .cons (.cleared rfl rfl) ih

/-- One bind can be changed together with what it owns, and the others stay. -/
theorem OwnsAll.focus (owns : OwnsAll binds helds cells) {index : Nat}
    (holds : helds[index]? = some held) :
    ∃ bind own rest, binds[index]? = some bind ∧ cells = own + rest ∧ Owns bind held own ∧
      ∀ changed value new, Owns changed value new →
        OwnsAll (binds.set index changed) (helds.set index value) (new + rest) := by
  induction owns generalizing index with
  | nil => cases holds
  | cons owns ownsRest ih =>
      rename_i first binds _ helds firstOwn restOwn
      cases index with
      | zero =>
          cases holds
          exact ⟨first, firstOwn, restOwn, rfl, rfl, owns,
            fun _ _ _ changedOwns => .cons changedOwns ownsRest⟩
      | succ index =>
          obtain ⟨bind, own, rest, found, rfl, bindOwns, replace⟩ := ih holds
          refine ⟨bind, own, firstOwn + rest, found, add_left_comm _ _ _, bindOwns, ?_⟩
          intro changed value new changedOwns
          rw [add_left_comm]
          exact .cons owns (replace changed value new changedOwns)

theorem clearBinds_owns (owns : OwnsAll binds helds cells)
    (entries : heap.memory.entries = cells + rest) :
    ∃ after cleared, clearBinds heap binds = .ok (after, cleared) ∧
      after.memory.entries = rest ∧ OwnsAll cleared (List.replicate binds.length none) 0 := by
  induction owns generalizing heap with
  | nil => exact ⟨heap, [], rfl, by rw [entries, zero_add], .nil⟩
  | @cons first _ _ _ _ _ owns _ ih =>
      obtain ⟨buffer, length, rfl, pointsBuffer, pointsLength⟩ := owns.points
      rw [add_assoc, add_assoc, add_left_comm] at entries
      obtain ⟨released, isReleased, releasedEntries⟩ := free_points pointsLength entries
      obtain ⟨freed, isFreed, freedEntries⟩ := free_points pointsBuffer releasedEntries
      obtain ⟨after, cleared, clears, afterEntries, clearedOwns⟩ := ih freedEntries
      refine ⟨after, { first with length := none, buffer := none } :: cleared, ?_,
        afterEntries, ?_⟩
      · simp only [clearBinds, isReleased, isFreed, clears, Bind.bind, Except.bind]
        rfl
      · exact .cons (.cleared rfl rfl) clearedOwns

end Owners

section Runs

/-- What each bind holds, while the rest of the memory is that of the frame. -/
structure State.Holds (state : State) (frame : Memory Cell) (helds : List (Option Parameter)) :
    Prop where
  paramsSet : state.paramsSet = helds.map Option.isSome
  owned : ∃ cells, OwnsAll state.bind helds cells ∧
    state.heap.memory.entries = cells + frame.entries

variable {state : State} {frame : Memory Cell} {helds : List (Option Parameter)}

theorem create_holds (heap : Heap Cell) (paramCount : Nat) :
    (State.create heap paramCount).Holds heap.memory (List.replicate paramCount none) :=
  ⟨by simp [State.create], 0, ownsAll_zero paramCount, (zero_add _).symm⟩

theorem State.Holds.length_bind (holds : state.Holds frame helds) :
    state.bind.length = helds.length :=
  holds.owned.elim fun _ owned => owned.1.length_eq

theorem setParameter_eq_error (allocator : Allocator Cell) {index : UInt8} {value : Parameter}
    (beyond : state.bind.length ≤ index.toNat) :
    state.setParameter allocator index value = .error .invalidIndex := by
  rw [State.setParameter, List.getElem?_eq_none beyond]

theorem setParameter_holds (allocator : Allocator Cell) {index : UInt8} {value : Parameter}
    {held : Option Parameter} (holds : state.Holds frame helds)
    (found : helds[index.toNat]? = some held) (same : held = none ∨ held = some value) :
    ∃ changed, state.setParameter allocator index value = .ok changed ∧
      changed.Holds frame (helds.set index.toNat (some value)) ∧
      changed.alreadyBound =
        state.alreadyBound ++ if held.isSome then [index.toNat] else [] := by
  obtain ⟨cells, owns, entries⟩ := holds.owned
  obtain ⟨bind, own, rest, isBind, rfl, bindOwns, replace⟩ := owns.focus found
  rw [add_assoc] at entries
  obtain ⟨changed, after, new, sets, changedOwns, afterEntries⟩ :=
    set_owns allocator bindOwns same entries
  have isSet : state.paramsSet[index.toNat]? = some held.isSome := by
    rw [holds.paramsSet, List.getElem?_map, found, Option.map_some]
  refine ⟨_, by rw [State.setParameter, isBind]; exact congrArg (Except.map _) sets, ⟨?_, ?_⟩, ?_⟩
  · rw [holds.paramsSet, List.map_set, Option.isSome_some]
  · exact ⟨_, replace _ _ _ changedOwns, by rw [afterEntries, add_assoc]⟩
  · rw [isSet]
    simp only [Option.some.injEq]

/-- The positions from `pos` on that hold a parameter before it is bound. -/
def rebound : Nat → List (Option Parameter) → List PreparedStatementData → List Nat
  | pos, held :: helds, _ :: rest =>
      (if held.isSome then [pos] else []) ++ rebound (pos + 1) helds rest
  | _, _, _ => []

theorem rebound_none (pos size : Nat) (statementData : List PreparedStatementData) :
    rebound pos (List.replicate size none) statementData = [] := by
  induction size generalizing pos statementData with
  | zero => cases statementData <;> rfl
  | succ size ih =>
      cases statementData with
      | nil => rfl
      | cons data rest => exact ih (pos + 1) rest

theorem rebound_some (pos : Nat) (statementData : List PreparedStatementData)
    (others : List (Option Parameter)) :
    rebound pos (statementData.map (some ∘ parameter) ++ others) statementData =
      List.range' pos statementData.length := by
  induction statementData generalizing pos with
  | nil => cases others <;> rfl
  | cons data rest ih =>
      rw [List.length_cons, List.range'_succ, ← ih (pos + 1)]
      rfl

/-- Every place is empty or holds the parameter that is about to be bound. -/
def Repeats (helds : List (Option Parameter)) (statementData : List PreparedStatementData) :
    Prop :=
  ∀ place ∈ helds.zip statementData, place.1 = none ∨ place.1 = some (parameter place.2)

theorem repeats_none (size : Nat) (statementData : List PreparedStatementData) :
    Repeats (List.replicate size none) statementData := by
  intro place isPlace
  exact .inl (List.eq_of_mem_replicate (List.of_mem_zip isPlace).1)

theorem repeats_some (statementData : List PreparedStatementData)
    (others : List (Option Parameter)) :
    Repeats (statementData.map (some ∘ parameter) ++ others) statementData := by
  induction statementData with
  | nil => simp [Repeats]
  | cons data rest ih =>
      intro place isPlace
      rcases List.mem_cons.mp isPlace with rfl | later
      · exact .inr rfl
      · exact ih place later

/-- One round of the loop: the parameters that have been bound are in front of
those that have not. -/
theorem setParameter_next (allocator : Allocator Cell) {bound : List (Option Parameter)}
    {held : Option Parameter} {value : Parameter} {pos : UInt8}
    (holds : state.Holds frame (bound ++ held :: helds)) (place : pos.toNat = bound.length)
    (same : held = none ∨ held = some value) :
    ∃ changed, state.setParameter allocator pos value = .ok changed ∧
      changed.Holds frame ((bound ++ [some value]) ++ helds) ∧
      changed.alreadyBound =
        state.alreadyBound ++ if held.isSome then [bound.length] else [] := by
  have found : (bound ++ held :: helds)[pos.toNat]? = some held := by
    rw [place, List.getElem?_append_right (Nat.le_refl _), Nat.sub_self]
    rfl
  obtain ⟨changed, sets, changedHolds, reported⟩ := setParameter_holds allocator holds found same
  rw [place, List.set_append_right _ _ (Nat.le_refl _), Nat.sub_self] at changedHolds
  rw [place] at reported
  exact ⟨changed, sets, by rwa [List.append_assoc], reported⟩

theorem next_place {bound : List (Option Parameter)} {value : Parameter} {pos : UInt8}
    (place : pos.toNat = bound.length) (small : bound.length + 1 < 256) :
    (pos + 1).toNat = (bound ++ [some value]).length := by
  rw [UInt8.toNat_add, place, List.length_append]
  exact Nat.mod_eq_of_lt small

theorem bindFrom_holds (allocator : Allocator Cell) {bound : List (Option Parameter)}
    {statementData : List PreparedStatementData} {pos : UInt8}
    (holds : state.Holds frame (bound ++ helds)) (place : pos.toNat = bound.length)
    (small : bound.length + statementData.length < 256)
    (fits : statementData.length ≤ helds.length) (repeats : Repeats helds statementData) :
    ∃ after, state.bindFrom allocator pos statementData = .ok after ∧
      after.Holds frame (bound ++
        (statementData.map (some ∘ parameter) ++ helds.drop statementData.length)) ∧
      after.alreadyBound = state.alreadyBound ++ rebound bound.length helds statementData := by
  induction statementData generalizing state bound helds pos with
  | nil => exact ⟨state, rfl, holds, by cases helds <;> simp [rebound]⟩
  | cons data rest ih =>
      cases helds with
      | nil => exact absurd fits (Nat.not_succ_le_zero _)
      | cons held helds =>
          simp only [List.length_cons] at small fits
          obtain ⟨changed, sets, changedHolds, reported⟩ := setParameter_next allocator holds
            place (repeats (held, data) (List.mem_cons_self ..))
          have later : Repeats helds rest := fun place isPlace =>
            repeats place (List.mem_cons_of_mem _ isPlace)
          obtain ⟨after, binds, afterHolds, again⟩ := ih changedHolds
            (next_place place (by omega)) (by rw [List.length_append]; simp; omega) (by omega)
            later
          refine ⟨after, by rw [State.bindFrom, sets]; exact binds, ?_, ?_⟩
          · simpa [List.append_assoc] using afterHolds
          · rw [again, reported, List.append_assoc, List.length_append]
            rfl

/-- More parameters than the statement has placeholders fail the assertion. -/
theorem bindFrom_eq_error (allocator : Allocator Cell) {bound : List (Option Parameter)}
    {statementData : List PreparedStatementData} {pos : UInt8}
    (holds : state.Holds frame (bound ++ helds)) (place : pos.toNat = bound.length)
    (small : bound.length + statementData.length < 256)
    (tooMany : helds.length < statementData.length) (repeats : Repeats helds statementData) :
    state.bindFrom allocator pos statementData = .error .invalidIndex := by
  induction statementData generalizing state bound helds pos with
  | nil => exact absurd tooMany (Nat.not_lt_zero _)
  | cons data rest ih =>
      cases helds with
      | nil =>
          have beyond : state.bind.length ≤ pos.toNat := by
            rw [holds.length_bind, List.append_nil, place]
          rw [State.bindFrom, setParameter_eq_error allocator beyond]
          rfl
      | cons held helds =>
          simp only [List.length_cons] at small tooMany
          obtain ⟨changed, sets, changedHolds, _⟩ := setParameter_next allocator holds
            place (repeats (held, data) (List.mem_cons_self ..))
          have later : Repeats helds rest := fun place isPlace =>
            repeats place (List.mem_cons_of_mem _ isPlace)
          rw [State.bindFrom, sets]
          exact ih changedHolds (next_place place (by omega))
            (by rw [List.length_append]; simp; omega) (by omega) later

/-- The client library reads the values of what has been bound, in their order. -/
theorem OwnsAll.reads {read : Read} (documented : Documented read) {binds : List Bind}
    {cells : Cells Cell} {memory : Memory Cell} {statementData : List PreparedStatementData}
    (owns : OwnsAll binds (statementData.map (some ∘ parameter) ++ helds) cells)
    (entries : cells ⊆ memory.entries) (sized : ∀ data ∈ statementData, Sized data) :
    ∃ others, binds.map (read memory) = statementData.map (some ∘ value) ++ others := by
  induction statementData generalizing binds cells with
  | nil => exact ⟨_, rfl⟩
  | cons data rest ih =>
      cases owns with
      | cons owns ownsRest =>
          have own := Multiset.Subset.trans Multiset.subset_add_left entries
          have others := Multiset.Subset.trans Multiset.subset_add_right entries
          obtain ⟨behind, reads⟩ := ih ownsRest others fun later isLater =>
            sized later (List.mem_cons_of_mem _ isLater)
          refine ⟨behind, ?_⟩
          rw [List.map_cons, reads,
            read_of_owns documented owns own (sized data (List.mem_cons_self ..))]
          rfl

variable {paramCount : Nat} {stmt : PreparedStatementBase}

/-- What the binds hold when `BindParameters` is called for a statement: nothing,
or what the attempt before has bound. -/
structure Ready (paramCount : Nat) (stmt : PreparedStatementBase)
    (helds : List (Option Parameter)) : Prop where
  length_eq : helds.length = paramCount
  repeats : Repeats helds stmt.statementData
  behind : helds.drop stmt.statementData.length =
    List.replicate (paramCount - stmt.statementData.length) none

theorem ready_none (paramCount : Nat) (stmt : PreparedStatementBase) :
    Ready paramCount stmt (List.replicate paramCount none) :=
  ⟨List.length_replicate, repeats_none _ _, List.drop_replicate⟩

/-- The statement holds the parameters of its data, and nothing behind them. -/
def boundHelds (paramCount : Nat) (stmt : PreparedStatementBase) : List (Option Parameter) :=
  stmt.statementData.map (some ∘ parameter) ++
    List.replicate (paramCount - stmt.statementData.length) none

theorem ready_bound (fits : stmt.statementData.length ≤ paramCount) :
    Ready paramCount stmt (boundHelds paramCount stmt) where
  length_eq := by
    rw [boundHelds, List.length_append, List.length_map, List.length_replicate,
      Nat.add_sub_cancel' fits]
  repeats := repeats_some _ _
  behind := List.drop_left' (List.length_map _)

theorem bindParameters_holds (allocator : Allocator Cell) (holds : state.Holds frame helds)
    (ready : Ready paramCount stmt helds) (fits : stmt.statementData.length ≤ paramCount) :
    ∃ bound, state.bindParameters allocator stmt = .ok bound ∧
      bound.Holds frame (boundHelds paramCount stmt) ∧
      bound.alreadyBound = state.alreadyBound ++ rebound 0 helds stmt.statementData := by
  have small : ([] : List (Option Parameter)).length + stmt.statementData.length < 256 := by
    rw [List.length_nil, Nat.zero_add]
    exact stmt.sizeLt
  have room : stmt.statementData.length ≤ helds.length := by
    rwa [ready.length_eq]
  obtain ⟨bound, binds, boundHolds, reported⟩ :=
    @bindFrom_holds _ frame _ allocator [] _ 0 holds rfl small room ready.repeats
  rw [ready.behind] at boundHolds
  exact ⟨bound, binds, boundHolds, reported⟩

theorem bindParameters_eq_error (allocator : Allocator Cell) (holds : state.Holds frame helds)
    (ready : Ready paramCount stmt helds) (tooMany : paramCount < stmt.statementData.length) :
    state.bindParameters allocator stmt = .error .invalidIndex := by
  have small : ([] : List (Option Parameter)).length + stmt.statementData.length < 256 := by
    rw [List.length_nil, Nat.zero_add]
    exact stmt.sizeLt
  have crowded : helds.length < stmt.statementData.length := by
    rwa [ready.length_eq]
  exact @bindFrom_eq_error _ frame _ allocator [] _ 0 holds rfl small crowded ready.repeats

theorem clearParameters_holds (holds : state.Holds frame helds) :
    ∃ cleared, state.clearParameters = .ok cleared ∧
      cleared.Holds frame (List.replicate helds.length none) ∧
      cleared.alreadyBound = state.alreadyBound := by
  obtain ⟨cells, owns, entries⟩ := holds.owned
  obtain ⟨after, binds, clears, afterEntries, clearedOwns⟩ := clearBinds_owns owns entries
  rw [holds.length_bind] at clearedOwns
  let cleared : State :=
    ⟨after, List.replicate state.bind.length false, binds, state.alreadyBound⟩
  have isCleared : state.clearParameters = .ok cleared := by
    rw [State.clearParameters, clears]
    rfl
  refine ⟨cleared, isCleared, ⟨?_, 0, clearedOwns, ?_⟩, rfl⟩
  · rw [List.map_replicate, ← holds.length_bind]
    rfl
  · rw [zero_add]
    exact afterEntries

/-- Each of the placeholders is read, first those that the statement has data for. -/
def ReadsOf (paramCount : Nat) (statementData : List PreparedStatementData)
    (reads : List (Option SqlValue)) : Prop :=
  ∃ others, reads = statementData.map (some ∘ value) ++ others ∧
    statementData.length + others.length = paramCount

/-- A statement with data for all placeholders is read as it is. -/
theorem ReadsOf.eq_map {statementData : List PreparedStatementData}
    {reads : List (Option SqlValue)} (readsOf : ReadsOf paramCount statementData reads)
    (all : statementData.length = paramCount) :
    reads = statementData.map (some ∘ value) := by
  obtain ⟨others, rfl, count⟩ := readsOf
  have none : others = [] := List.eq_nil_of_length_eq_zero (by omega)
  rw [none, List.append_nil]

theorem State.Holds.reads_bound {read : Read} (documented : Documented read)
    (holds : state.Holds frame (boundHelds paramCount stmt))
    (fits : stmt.statementData.length ≤ paramCount)
    (sized : ∀ data ∈ stmt.statementData, Sized data) :
    ReadsOf paramCount stmt.statementData (state.reads read) := by
  have length := holds.length_bind.trans (ready_bound fits).length_eq
  obtain ⟨cells, owns, entries⟩ := holds.owned
  obtain ⟨others, reads⟩ :=
    owns.reads documented (entries ▸ Multiset.subset_add_left) sized
  refine ⟨others, reads, ?_⟩
  have lengths := congrArg List.length reads
  rw [List.length_map, List.length_append, List.length_map, length] at lengths
  exact lengths.symm

/-- What a call does: no memory is left behind, each attempt gives the values of
the statement, and only repeated attempts find parameters that are bound. -/
structure Serves (frame : Memory Cell) (paramCount : Nat) (before : State) (reported : List Nat)
    (expected : List (List PreparedStatementData)) (outcome : Outcome) : Prop where
  holds : outcome.state.Holds frame (List.replicate paramCount none)
  alreadyBound : outcome.state.alreadyBound = before.alreadyBound ++ reported
  reads : (∀ statementData ∈ expected, ∀ data ∈ statementData, Sized data) →
    List.Forall₂ (ReadsOf paramCount) expected outcome.reads

/-- The positions that a call finds bound already. -/
def Call.alreadyBound (call : Call) : List Nat :=
  (List.replicate call.recoveries (List.range call.stmt.statementData.length)).flatten

/-- The data that the attempts of a call send. -/
def Call.attempts (call : Call) : List (List PreparedStatementData) :=
  List.replicate (call.recoveries + 1) call.stmt.statementData

section Calls

variable {read : Read} (allocator : Allocator Cell)

theorem execute_serves (documented : Documented read) {recoveries : Nat}
    (holds : state.Holds frame helds) (ready : Ready paramCount stmt helds)
    (fits : stmt.statementData.length ≤ paramCount) :
    ∃ outcome, execute allocator read stmt recoveries state = .ok outcome ∧
      Serves frame paramCount state
        (rebound 0 helds stmt.statementData ++ (Call.mk stmt recoveries).alreadyBound)
        (Call.mk stmt recoveries).attempts outcome := by
  induction recoveries generalizing state helds with
  | zero =>
      obtain ⟨bound, binds, boundHolds, reported⟩ :=
        bindParameters_holds allocator holds ready fits
      obtain ⟨cleared, clears, clearedHolds, same⟩ := clearParameters_holds boundHolds
      rw [(ready_bound fits).length_eq] at clearedHolds
      refine ⟨⟨cleared, [bound.reads read]⟩, ?_, clearedHolds, ?_, ?_⟩
      · rw [execute, binds]
        exact congrArg (Except.map _) clears
      · rw [same, reported]
        exact congrArg (_ ++ ·) (List.append_nil _).symm
      · intro sized
        exact .cons (boundHolds.reads_bound documented fits (sized _ (List.mem_cons_self ..))) .nil
  | succ recoveries ih =>
      obtain ⟨bound, binds, boundHolds, reported⟩ :=
        bindParameters_holds allocator holds ready fits
      obtain ⟨outcome, executes, serves⟩ := ih boundHolds (ready_bound fits)
      refine ⟨⟨outcome.state, bound.reads read :: outcome.reads⟩, ?_, serves.holds, ?_, ?_⟩
      · rw [execute, binds]
        exact congrArg (Except.map _) executes
      · have again : rebound 0 (boundHelds paramCount stmt) stmt.statementData =
            List.range stmt.statementData.length := by
          rw [boundHelds, rebound_some, List.range_eq_range']
        rw [serves.alreadyBound, reported, again, List.append_assoc]
        rfl
      · intro sized
        exact .cons (boundHolds.reads_bound documented fits (sized _ (List.mem_cons_self ..)))
          (serves.reads fun later isLater => sized later (List.mem_cons_of_mem _ isLater))

theorem execute_eq_error {recoveries : Nat} (holds : state.Holds frame helds)
    (ready : Ready paramCount stmt helds) (tooMany : paramCount < stmt.statementData.length) :
    execute allocator read stmt recoveries state = .error .invalidIndex := by
  have fails := bindParameters_eq_error allocator holds ready tooMany
  cases recoveries with
  | zero =>
      rw [execute, fails]
      rfl
  | succ recoveries =>
      rw [execute, fails]
      rfl

theorem run_serves (documented : Documented read) {calls : List Call}
    (holds : state.Holds frame (List.replicate paramCount none))
    (fits : ∀ call ∈ calls, call.stmt.statementData.length ≤ paramCount) :
    ∃ outcome, run allocator read state calls = .ok outcome ∧
      Serves frame paramCount state (calls.flatMap Call.alreadyBound)
        (calls.flatMap Call.attempts) outcome := by
  induction calls generalizing state with
  | nil => exact ⟨⟨state, []⟩, rfl, holds, (List.append_nil _).symm, fun _ => .nil⟩
  | cons call calls ih =>
      obtain ⟨outcome, executes, serves⟩ := @execute_serves _ _ _ _ call.stmt read allocator
        documented call.recoveries holds (ready_none paramCount call.stmt)
        (fits call (List.mem_cons_self ..))
      obtain ⟨rest, runs, restServes⟩ := ih serves.holds fun later isLater =>
        fits later (List.mem_cons_of_mem _ isLater)
      refine ⟨⟨rest.state, outcome.reads ++ rest.reads⟩, ?_, restServes.holds, ?_, ?_⟩
      · rw [run, executes]
        exact congrArg (Except.map _) runs
      · rw [restServes.alreadyBound, serves.alreadyBound, rebound_none, List.nil_append,
          List.append_assoc]
        rfl
      · intro sized
        rw [List.flatMap_cons] at sized ⊢
        exact List.rel_append
          (serves.reads fun data isData => sized data (List.mem_append_left _ isData))
          (restServes.reads fun data isData => sized data (List.mem_append_right _ isData))

theorem run_eq_error (documented : Documented read) {calls : List Call}
    (holds : state.Holds frame (List.replicate paramCount none))
    (tooMany : ∃ call ∈ calls, paramCount < call.stmt.statementData.length) :
    run allocator read state calls = .error .invalidIndex := by
  induction calls generalizing state with
  | nil =>
      obtain ⟨_, isCall, _⟩ := tooMany
      exact absurd isCall List.not_mem_nil
  | cons call calls ih =>
      have ready := ready_none paramCount call.stmt
      by_cases fits : call.stmt.statementData.length ≤ paramCount
      · obtain ⟨outcome, executes, serves⟩ := @execute_serves _ _ _ _ call.stmt read allocator
          documented call.recoveries holds ready fits
        have later : ∃ call ∈ calls, paramCount < call.stmt.statementData.length := by
          obtain ⟨other, isCall, crowded⟩ := tooMany
          rcases List.mem_cons.mp isCall with rfl | isLater
          · exact absurd crowded (Nat.not_lt.mpr fits)
          · exact ⟨other, isLater, crowded⟩
        rw [run, executes]
        exact congrArg (Except.map _) (ih serves.holds later)
      · rw [run, execute_eq_error allocator holds ready (Nat.lt_of_not_le fits)]
        rfl

end Calls

theorem OwnsAll.of_replicate_none {size : Nat} {binds : List Bind} {cells : Cells Cell}
    (owns : OwnsAll binds (List.replicate size none) cells) :
    cells = 0 ∧ ∀ bind ∈ binds, bind.buffer = none ∧ bind.length = none := by
  induction size generalizing binds cells with
  | zero =>
      cases owns
      exact ⟨rfl, fun _ isBind => absurd isBind List.not_mem_nil⟩
  | succ size ih =>
      cases owns with
      | cons owns ownsRest =>
          obtain ⟨rfl, others⟩ := ih ownsRest
          cases owns with
          | cleared noBuffer noLength =>
              exact ⟨rfl, List.forall_mem_cons.mpr ⟨⟨noBuffer, noLength⟩, others⟩⟩

/-- A statement that has been cleared owns nothing. -/
theorem State.Holds.released (holds : state.Holds frame (List.replicate paramCount none)) :
    state.heap.memory = frame ∧ state.paramsSet = List.replicate paramCount false ∧
      ∀ bind ∈ state.bind, bind.buffer = none ∧ bind.length = none := by
  obtain ⟨cells, owns, entries⟩ := holds.owned
  obtain ⟨rfl, cleared⟩ := owns.of_replicate_none
  rw [zero_add] at entries
  exact ⟨Finmap.ext entries, by rw [holds.paramsSet, List.map_replicate]; rfl, cleared⟩

/-- The calls fail an assertion if and only if one of them binds more parameters than
the statement has placeholders, and they never delete what they must not.  Otherwise
they free what they allocate, each cell once and by the right operator, whatever
addresses the allocator gives out; every attempt lets the client library read the
values given to `SetData` at the first placeholders, and what an attempt finds bound
already is what the attempt before it has bound. -/
theorem run_borrows {read : Read} (documented : Documented read) (allocator : Allocator Cell)
    (heap : Heap Cell) (paramCount : Nat) (calls : List Call) :
    (run allocator read (State.create heap paramCount) calls = .error .invalidIndex ↔
      ∃ call ∈ calls, paramCount < call.stmt.statementData.length) ∧
    run allocator read (State.create heap paramCount) calls ≠ .error .badDelete ∧
    ∀ outcome, run allocator read (State.create heap paramCount) calls = .ok outcome →
      outcome.state.heap.memory = heap.memory ∧
      outcome.state.paramsSet = List.replicate paramCount false ∧
      (∀ bind ∈ outcome.state.bind, bind.buffer = none ∧ bind.length = none) ∧
      outcome.state.alreadyBound = calls.flatMap Call.alreadyBound ∧
      ((∀ call ∈ calls, ∀ data ∈ call.stmt.statementData, Sized data) →
        List.Forall₂ (ReadsOf paramCount) (calls.flatMap Call.attempts) outcome.reads) := by
  have created := create_holds heap paramCount
  by_cases tooMany : ∃ call ∈ calls, paramCount < call.stmt.statementData.length
  · rw [run_eq_error allocator documented created tooMany]
    exact ⟨iff_of_true rfl tooMany, nofun, nofun⟩
  · have fits : ∀ call ∈ calls, call.stmt.statementData.length ≤ paramCount :=
      fun call isCall => Nat.le_of_not_lt fun crowded => tooMany ⟨call, isCall, crowded⟩
    obtain ⟨outcome, runs, serves⟩ := run_serves allocator documented created fits
    rw [runs]
    refine ⟨iff_of_false nofun tooMany, nofun, ?_⟩
    intro other returned
    cases returned
    obtain ⟨sameMemory, noneSet, released⟩ := serves.holds.released
    refine ⟨sameMemory, noneSet, released, serves.alreadyBound, fun sized => serves.reads ?_⟩
    intro statementData isAttempt data isData
    obtain ⟨call, isCall, isOfCall⟩ := List.mem_flatMap.mp isAttempt
    rw [Call.attempts, List.mem_replicate] at isOfCall
    exact sized call isCall data (isOfCall.2 ▸ isData)

section Example

/-- The buffer as far as it is read for the type. -/
def exampleRead : Read := fun memory bind =>
  match bind.bufferType, bind.buffer.bind memory.lookup, bind.length.bind memory.lookup with
  | .null, _, _ => some .null
  | .float, some (.chars bytes), _ => some (.float (UInt32.ofNat (LittleEndian.ofBytes bytes)))
  | .double, some (.chars bytes), _ => some (.double (UInt64.ofNat (LittleEndian.ofBytes bytes)))
  | .varString, some (.chars bytes), some (.long length) => some (.text (bytes.take length))
  | .blob, some (.chars bytes), some (.long length) => some (.blob (bytes.take length))
  | type, some (.chars bytes), _ => type.integerSize.map fun size =>
      .integer (if bind.isUnsigned then LittleEndian.ofBytes bytes
        else (BitVec.ofNat (8 * size) (LittleEndian.ofBytes bytes)).toInt)
  | _, _, _ => none

theorem documented_exampleRead : Documented exampleRead where
  integer memory bind size bytes sized buffer _ := by
    rw [exampleRead, buffer]
    cases type : bind.bufferType <;> rw [type] at sized <;> cases sized <;> rfl
  float memory bind bytes type buffer _ := by
    rw [exampleRead, type, buffer]
  double memory bind bytes type buffer _ := by
    rw [exampleRead, type, buffer]
  null memory bind type := by
    rw [exampleRead, type]
  text memory bind bytes type buffer length := by
    simp only [exampleRead, type, buffer, length, List.take_length]
  blob memory bind bytes type buffer length := by
    simp only [exampleRead, type, buffer, length, List.take_length]

def textStatement : PreparedStatementBase := ⟨0, [true], [.string "bot"], rfl, by decide⟩

/-- A text is read by both attempts of a call and leaves no memory behind. -/
theorem run_borrows_text :
    ∃ outcome, run .next exampleRead (State.create ⟨∅, 0⟩ 1) [⟨textStatement, 1⟩] =
        .ok outcome ∧
      outcome.state.heap.memory = ∅ ∧ outcome.state.alreadyBound = [0] ∧
      outcome.reads = List.replicate 2 [some (value (.string "bot"))] := by
  obtain ⟨fails, deletes, borrows⟩ :=
    run_borrows documented_exampleRead .next ⟨∅, 0⟩ 1 [⟨textStatement, 1⟩]
  cases returned : run .next exampleRead (State.create ⟨∅, 0⟩ 1) [⟨textStatement, 1⟩] with
  | error fault =>
      cases fault with
      | badDelete => exact absurd returned deletes
      | invalidIndex =>
          obtain ⟨call, isCall, tooMany⟩ := fails.mp returned
          rw [List.mem_singleton.mp isCall] at tooMany
          exact absurd tooMany (by decide)
  | ok outcome =>
      obtain ⟨sameMemory, _, _, reported, reads⟩ := borrows outcome returned
      refine ⟨outcome, rfl, sameMemory, reported, ?_⟩
      have sized : ∀ call ∈ [Call.mk textStatement 1], ∀ data ∈ call.stmt.statementData,
          Sized data := by
        simp [textStatement, Sized]
        decide
      have each := reads sized
      have twice : [Call.mk textStatement 1].flatMap Call.attempts =
          List.replicate 2 textStatement.statementData := rfl
      rw [twice] at each
      generalize outcome.reads = all at each ⊢
      cases each with
      | cons first rest =>
          cases rest with
          | cons second rest =>
              cases rest
              rw [first.eq_map rfl, second.eq_map rfl]
              rfl

end Example

end Runs

end Binding

end MySQL

end WarheadBot
