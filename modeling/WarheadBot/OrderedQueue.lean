import Mathlib.Data.List.Sort

/-!
# Queues ordered by a key

A multiset container keeps its elements ordered by a key and inserts a new one
behind all elements with the same key.  The key of an element may live outside
the queue, so the lemmas also say when an order survives a change of keys.
-/

namespace WarheadBot

namespace OrderedQueue

variable {Item Key : Type*} [LinearOrder Key]

def push (key : Item → Key) (item : Item) (queue : List Item) : List Item :=
  queue.orderedInsert (fun first second => key first < key second) item

/-- Inserts the items one after the other. -/
def pushAll (key : Item → Key) (items queue : List Item) : List Item :=
  items.foldl (fun current item => push key item current) queue

def Ordered (key : Item → Key) (queue : List Item) : Prop :=
  queue.Pairwise fun first second => key first ≤ key second

variable {key newKey : Item → Key} {item : Item} {items queue : List Item}

theorem push_perm (key : Item → Key) (item : Item) (queue : List Item) :
    (push key item queue).Perm (item :: queue) :=
  List.perm_orderedInsert _ item queue

theorem mem_push {other : Item} : other ∈ push key item queue ↔ other = item ∨ other ∈ queue := by
  rw [(push_perm key item queue).mem_iff, List.mem_cons]

theorem ordered_push (ordered : Ordered key queue) : Ordered key (push key item queue) := by
  induction queue with
  | nil => exact List.pairwise_singleton _ _
  | cons first rest ih =>
      obtain ⟨smallest, orderedRest⟩ := List.pairwise_cons.mp ordered
      rw [push, List.orderedInsert_cons]
      split_ifs with before
      · refine List.pairwise_cons.mpr ⟨?_, ordered⟩
        intro other member
        rcases List.mem_cons.mp member with rfl | later
        · exact before.le
        · exact before.le.trans (smallest other later)
      · refine List.pairwise_cons.mpr ⟨?_, ih orderedRest⟩
        intro other member
        rcases mem_push.mp member with rfl | later
        · exact not_lt.mp before
        · exact smallest other later

theorem nodup_push (distinct : queue.Nodup) (fresh : item ∉ queue) :
    (push key item queue).Nodup := by
  rw [(push_perm key item queue).nodup_iff]
  exact List.nodup_cons.mpr ⟨fresh, distinct⟩

theorem pushAll_perm (key : Item → Key) (items queue : List Item) :
    (pushAll key items queue).Perm (items ++ queue) := by
  induction items generalizing queue with
  | nil => exact List.Perm.refl _
  | cons item items ih =>
      have rest := ih (push key item queue)
      have inserted := (push_perm key item queue).append_left items
      exact (rest.trans inserted).trans List.perm_middle

theorem ordered_pushAll (ordered : Ordered key queue) : Ordered key (pushAll key items queue) := by
  induction items generalizing queue with
  | nil => exact ordered
  | cons item items ih => exact ih (ordered_push ordered)

theorem ordered_of_keys_eq (ordered : Ordered key queue)
    (same : ∀ item ∈ queue, newKey item = key item) : Ordered newKey queue := by
  refine List.Pairwise.imp_of_mem ?_ ordered
  intro first second firstMember secondMember before
  rw [same first firstMember, same second secondMember]
  exact before

theorem ordered_sublist {shorter : List Item} (ordered : Ordered key queue)
    (sublist : shorter.Sublist queue) : Ordered key shorter :=
  List.Pairwise.sublist sublist ordered

end OrderedQueue

end WarheadBot
