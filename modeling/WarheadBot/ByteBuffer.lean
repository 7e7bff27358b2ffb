import Mathlib.Order.Monotone.Basic
import Mathlib.Tactic.Ring

/-!
# Slots in one buffer

A buffer has a fixed size, and what is written outside of it is an error.  Rows
of several columns can share a buffer: the slot of a row and a column begins
where the slots of the rows before it and of the columns before it end.
-/

namespace WarheadBot

namespace ByteBuffer

structure Buffer (Byte : Type*) where
  size : Nat
  content : Nat → Byte

variable {Byte : Type*}

/-- The bytes are written from an address on, if there is space for them. -/
def Buffer.write (buffer : Buffer Byte) (address : Nat) (bytes : List Byte) :
    Option (Buffer Byte) :=
  if address + bytes.length ≤ buffer.size then
    some { buffer with
      content := fun position =>
        if address ≤ position then (bytes[position - address]?).getD (buffer.content position)
        else buffer.content position }
  else none

def Buffer.read (buffer : Buffer Byte) (address length : Nat) : List Byte :=
  (List.range length).map fun position => buffer.content (address + position)

@[simp]
theorem Buffer.length_read (buffer : Buffer Byte) (address length : Nat) :
    (buffer.read address length).length = length := by
  simp [Buffer.read]

/-- Two parts of a buffer have no byte in common. -/
def Apart (first firstLength second secondLength : Nat) : Prop :=
  first + firstLength ≤ second ∨ second + secondLength ≤ first

theorem Apart.mono {first firstLength second secondLength firstShorter secondShorter : Nat}
    (apart : Apart first firstLength second secondLength) (firstLe : firstShorter ≤ firstLength)
    (secondLe : secondShorter ≤ secondLength) : Apart first firstShorter second secondShorter := by
  unfold Apart at apart ⊢
  omega

section Write

variable {buffer written : Buffer Byte} {address : Nat} {bytes : List Byte}

theorem exists_write (fits : address + bytes.length ≤ buffer.size) :
    ∃ written, buffer.write address bytes = some written :=
  ⟨_, if_pos fits⟩

theorem size_of_write (wrote : buffer.write address bytes = some written) :
    written.size = buffer.size := by
  unfold Buffer.write at wrote
  split_ifs at wrote
  rw [← Option.some.inj wrote]

theorem read_write (wrote : buffer.write address bytes = some written) :
    written.read address bytes.length = bytes := by
  unfold Buffer.write at wrote
  split_ifs at wrote
  obtain rfl := Option.some.inj wrote
  apply List.ext_getElem (by simp)
  intro position inRead inside
  simp [Buffer.read, inside]

/-- What is apart from the written bytes stays. -/
theorem read_write_of_apart (wrote : buffer.write address bytes = some written)
    {other length : Nat} (apart : Apart address bytes.length other length) :
    written.read other length = buffer.read other length := by
  unfold Buffer.write at wrote
  split_ifs at wrote
  obtain rfl := Option.some.inj wrote
  apply List.map_congr_left
  intro position inside
  have short := List.mem_range.mp inside
  dsimp only
  split_ifs with behind
  · rw [List.getElem?_eq_none, Option.getD_none]
    unfold Apart at apart
    omega
  · rfl

theorem le_of_write (wrote : buffer.write address bytes = some written) :
    address + bytes.length ≤ buffer.size := by
  unfold Buffer.write at wrote
  split_ifs at wrote with fits
  exact fits

theorem content_of_write (wrote : buffer.write address bytes = some written) {position : Nat}
    (inside : position < bytes.length) :
    written.content (address + position) = bytes[position] := by
  have element : (written.read address bytes.length)[position]? = bytes[position]? := by
    rw [read_write wrote]
  rw [List.getElem?_eq_getElem inside, Buffer.read, List.getElem?_map, List.getElem?_range inside,
    Option.map_some] at element
  exact Option.some.inj element

theorem write_nil (inside : address ≤ buffer.size) : buffer.write address [] = some buffer := by
  rw [Buffer.write, if_pos (by rwa [List.length_nil])]
  simp only [List.getElem?_nil, Option.getD_none, ite_self]

/-- What is written in two parts is written as a whole. -/
theorem write_append (buffer : Buffer Byte) (address : Nat) (first second : List Byte) :
    ((buffer.write address first).bind fun written =>
      written.write (address + first.length) second) = buffer.write address (first ++ second) := by
  unfold Buffer.write
  rw [List.length_append]
  by_cases fits : address + (first.length + second.length) ≤ buffer.size
  · have firstFits : address + first.length ≤ buffer.size := by omega
    have secondFits : address + first.length + second.length ≤ buffer.size := by omega
    rw [if_pos fits, if_pos firstFits, Option.bind_some, if_pos secondFits]
    congr 2
    funext position
    dsimp only
    by_cases inSecond : address + first.length ≤ position
    · have behindFirst : first.length ≤ position - address := by omega
      rw [if_pos inSecond, if_pos (by omega), if_pos (by omega),
        List.getElem?_append_right behindFirst, List.getElem?_eq_none behindFirst,
        Option.getD_none, Nat.sub_add_eq]
    · rw [if_neg inSecond]
      split_ifs with behind
      · rw [List.getElem?_append_left (by omega)]
      · rfl
  · rw [if_neg fits]
    split_ifs with firstFits
    · rw [Option.bind_some, if_neg]
      dsimp only
      omega
    · rfl

end Write

section Slots

variable (widths : Nat → Nat)

/-- The size of the first columns. -/
def sizeBefore : Nat → Nat
  | 0 => 0
  | column + 1 => sizeBefore column + widths column

/-- Where the slot of a row and a column begins. -/
def slot (rowSize row column : Nat) : Nat :=
  row * rowSize + sizeBefore widths column

variable {widths}

theorem sizeBefore_monotone : Monotone (sizeBefore widths) :=
  monotone_nat_of_le_succ fun _ => Nat.le_add_right _ _

theorem sizeBefore_add_le {first second : Nat} (before : first < second) :
    sizeBefore widths first + widths first ≤ sizeBefore widths second :=
  sizeBefore_monotone (Nat.succ_le_of_lt before)

section Rows

variable {columns rows row column : Nat}

/-- A slot ends where its row does. -/
theorem slot_add_le_row (early : column < columns) :
    slot widths (sizeBefore widths columns) row column + widths column ≤
      (row + 1) * sizeBefore widths columns := by
  have inside := @sizeBefore_add_le widths column columns early
  rw [slot, Nat.add_mul, Nat.one_mul]
  omega

/-- The slots of the rows fill a buffer of their size. -/
theorem slot_add_le (early : column < columns) (rowEarly : row < rows) :
    slot widths (sizeBefore widths columns) row column + widths column ≤
      sizeBefore widths columns * rows := by
  refine (slot_add_le_row early).trans ?_
  rw [Nat.mul_comm]
  exact Nat.mul_le_mul_left _ rowEarly

theorem slot_apart_of_row_lt {laterRow laterColumn : Nat} (early : column < columns)
    (before : row < laterRow) :
    slot widths (sizeBefore widths columns) row column + widths column ≤
      slot widths (sizeBefore widths columns) laterRow laterColumn := by
  refine (slot_add_le_row early).trans ?_
  exact (Nat.mul_le_mul_right _ before).trans (Nat.le_add_right _ _)

/-- Different slots are apart. -/
theorem slots_apart {otherRow otherColumn : Nat} (early : column < columns)
    (otherEarly : otherColumn < columns) (different : row ≠ otherRow ∨ column ≠ otherColumn) :
    Apart (slot widths (sizeBefore widths columns) row column) (widths column)
      (slot widths (sizeBefore widths columns) otherRow otherColumn) (widths otherColumn) := by
  rcases lt_trichotomy row otherRow with before | rfl | behind
  · exact Or.inl (slot_apart_of_row_lt early before)
  · have columnsDiffer := different.resolve_left (not_not.mpr rfl)
    rcases lt_or_gt_of_ne columnsDiffer with before | behind
    · have apart := @sizeBefore_add_le widths column otherColumn before
      left
      unfold slot
      omega
    · have apart := @sizeBefore_add_le widths otherColumn column behind
      right
      unfold slot
      omega
  · exact Or.inr (slot_apart_of_row_lt otherEarly behind)

end Rows

end Slots

end ByteBuffer

end WarheadBot
