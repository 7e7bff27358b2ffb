import Mathlib.Data.Finmap
import Mathlib.Order.Lattice.Nat

/-!
# Memory with owners

A memory holds a cell at each of finitely many addresses.  An allocator gives
out any address that is not in use, also one that was used before, and may choose
another one each time; only an address in use can be given back.

Who owns which cells is said by splitting the entries of a memory into parts:
a part that is not mentioned by a step is the same after it.
-/

namespace WarheadBot

namespace OwnedMemory

abbrev Memory (Cell : Type*) := Finmap fun _ : Nat => Cell

abbrev Cells (Cell : Type*) := Multiset (Σ _ : Nat, Cell)

/-- A memory, with the number of allocations that have been made in it. -/
structure Heap (Cell : Type*) where
  memory : Memory Cell
  allocations : Nat

/-- The address of each allocation. -/
structure Allocator (Cell : Type*) where
  place : Nat → Memory Cell → Nat
  unused : ∀ allocation memory, place allocation memory ∉ memory

variable {Cell : Type*}

/-- The address after all that are in use. -/
def Allocator.next : Allocator Cell where
  place _ memory := memory.keys.sup id + 1
  unused _ memory used := by
    have below : memory.keys.sup id + 1 ≤ memory.keys.sup id :=
      Finset.le_sup (f := id) (Finmap.mem_keys.mpr used)
    omega

def Allocator.new (allocator : Allocator Cell) (heap : Heap Cell) (cell : Cell) :
    Nat × Heap Cell :=
  let address := allocator.place heap.allocations heap.memory
  (address, ⟨heap.memory.insert address cell, heap.allocations + 1⟩)

/-- To delete a null pointer does nothing.  Any other has to point to a cell of
the right kind that is in use. -/
def delete (isKind : Cell → Bool) (heap : Heap Cell) : Option Nat → Option (Heap Cell)
  | none => some heap
  | some address => ((heap.memory.lookup address).filter isKind).map fun _ =>
      { heap with memory := heap.memory.erase address }

variable {memory : Memory Cell} {heap : Heap Cell} {address : Nat} {cell : Cell}
  {rest : Cells Cell}

theorem new_entries (allocator : Allocator Cell) (heap : Heap Cell) (cell : Cell) :
    (allocator.new heap cell).2.memory.entries =
      ⟨(allocator.new heap cell).1, cell⟩ ::ₘ heap.memory.entries :=
  Finmap.entries_insert_of_notMem (allocator.unused heap.allocations heap.memory)

theorem lookup_of_mem_entries (owned : ⟨address, cell⟩ ∈ memory.entries) :
    memory.lookup address = some cell :=
  Finmap.lookup_eq_some_iff.mpr owned

theorem erase_entries (owned : memory.entries = ⟨address, cell⟩ ::ₘ rest) :
    (memory.erase address).entries = rest := by
  have found : memory.lookup address = some cell :=
    lookup_of_mem_entries (owned ▸ Multiset.mem_cons_self _ rest)
  have restored : (memory.erase address).insert address cell = memory := by
    apply Finmap.ext_lookup
    intro other
    by_cases same : other = address
    · subst same
      rw [Finmap.lookup_insert, found]
    · rw [Finmap.lookup_insert_of_ne _ same, Finmap.lookup_erase_ne same]
  have entries := Finmap.entries_insert_of_notMem (b := cell)
    (@Finmap.notMem_erase_self _ _ _ address memory)
  rw [restored, owned] at entries
  exact ((Multiset.cons_inj_right _).mp entries).symm

theorem delete_entries {isKind : Cell → Bool} (kind : isKind cell = true)
    (owned : heap.memory.entries = ⟨address, cell⟩ ::ₘ rest) :
    ∃ after, delete isKind heap (some address) = some after ∧ after.memory.entries = rest := by
  have found : heap.memory.lookup address = some cell :=
    lookup_of_mem_entries (owned ▸ Multiset.mem_cons_self _ rest)
  exact ⟨{ heap with memory := heap.memory.erase address }, by simp [delete, found, kind],
    erase_entries owned⟩

/-- The cells that a pointer may be deleted with. -/
inductive Points (isKind : Cell → Bool) : Option Nat → Cells Cell → Prop
  | null : Points isKind none 0
  | cell {address : Nat} {cell : Cell} (kind : isKind cell = true) :
      Points isKind (some address) {⟨address, cell⟩}

theorem delete_points {isKind : Cell → Bool} {pointer : Option Nat} {owned : Cells Cell}
    (points : Points isKind pointer owned) (entries : heap.memory.entries = owned + rest) :
    ∃ after, delete isKind heap pointer = some after ∧ after.memory.entries = rest := by
  cases points with
  | null => exact ⟨heap, rfl, by rw [entries, zero_add]⟩
  | cell kind =>
      rw [Multiset.singleton_add] at entries
      exact delete_entries kind entries

end OwnedMemory

end WarheadBot
